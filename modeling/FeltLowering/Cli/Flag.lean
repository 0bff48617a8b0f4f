import FeltLowering.Codec.Number
import FeltLowering.Text.Quoted

/-
Flags of a command line.

A flag is spelled out behind two dashes or is a letter behind one.  Its value follows an
equals sign or, unless the flag is a switch, is the next argument.  Letters of switches
can be run together, and behind the letter of another flag the value may follow at once.
Two dashes alone end the flags; arguments that are no flags are kept in order.
-/
namespace FeltLowering
namespace Cli

inductive FlagKind where
  | switch
  | text
  | number
  deriving DecidableEq, Repr

structure Flag where
  name : Text
  letter : Option UInt8 := none
  kind : FlagKind
  /-- The value without the flag; a switch is off. -/
  default : Text := []
  usage : Text
  deriving DecidableEq, Repr

/-! ## Values -/

inductive ValueFault where
  | notBoolean
  | notInteger
  | outOfRange
  deriving DecidableEq, Repr

def ValueFault.text (value : Text) : ValueFault → Text
  | .notBoolean => "strconv.ParseBool: parsing " ++ value.quoted ++ ": invalid syntax"
  | .notInteger => "strconv.ParseInt: parsing " ++ value.quoted ++ ": invalid syntax"
  | .outOfRange => "strconv.ParseInt: parsing " ++ value.quoted ++ ": value out of range"

namespace Value

def yes : List Text := ["1", "t", "T", "true", "TRUE", "True"]

def no : List Text := ["0", "f", "F", "false", "FALSE", "False"]

def boolean (t : Text) : Except ValueFault Bool :=
  if yes.contains t then .ok true else if no.contains t then .ok false else .error .notBoolean

/-- Appends a digit to a number of 64 bits; an underscore changes nothing. -/
def appendDigit (base n : Nat) (d : UInt8) : Except ValueFault Nat :=
  if d = 0x5F then .ok n
  else
    match (Text.hexValue? d).filter (· < base) with
    | none => .error .notInteger
    | some v => if n * base + v < twoPow 64 then .ok (n * base + v) else .error .outOfRange

/-- Whether every underscore has a digit on both sides.  A mark of the base counts as a
digit. -/
def isSpaced : (before : Bool) → Text → Bool
  | before, [] => before
  | before, d :: ds => if d = 0x5F then before && isSpaced false ds else isSpaced true ds

/-- A number without a sign, in the base its start shows. -/
def magnitude (t : Text) : Except ValueFault Nat :=
  let (base, digits) := Number.baseAndDigits t
  if t.isEmpty then .error .notInteger
  else
    match digits.foldlM (appendDigit base) 0 with
    | .error e => .error e
    | .ok n => if isSpaced (base ≠ 10) digits then .ok n else .error .notInteger

def integer (t : Text) : Except ValueFault Int := do
  let negative := t.head? = some 0x2D
  let n ← magnitude (if negative || t.head? = some 0x2B then t.tail else t)
  let v : Int := if negative then -(n : Int) else n
  if Number.fitsInt64 v then .ok v else .error .outOfRange

end Value

def Flag.fault? (f : Flag) (value : Text) : Option ValueFault :=
  match f.kind with
  | .text => none
  | .switch =>
    match Value.boolean value with
    | .ok _ => none
    | .error e => some e
  | .number =>
    match Value.integer value with
    | .ok _ => none
    | .error e => some e

/-! ## Errors -/

inductive FlagError where
  | badForm (arg : Text)
  | unknown (name : Text)
  /-- A letter that is no flag, with the letters from there on. -/
  | unknownLetter (letter : UInt8) (letters : Text)
  | noValue (name : Text)
  | noLetterValue (letter : UInt8) (letters : Text)
  | badValue (flag : Flag) (value : Text) (fault : ValueFault)
  deriving DecidableEq, Repr

namespace FlagError

/-- A letter in quotes.  A byte beyond ASCII shows the byte that its code point starts
with in UTF-8, as a character. -/
def letterText (b : UInt8) : Text :=
  let code := if b < 0x80 then b.toNat else if b < 0xC0 then 0xC2 else 0xC3
  Text.quotedChar (Char.ofNat code)

def flagText (f : Flag) : Text :=
  match f.letter with
  | some b => "-" ++ [b] ++ ", --" ++ f.name
  | none => "--" ++ f.name

def message : FlagError → Text
  | .badForm arg => "bad flag syntax: " ++ arg
  | .unknown name => "unknown flag: --" ++ name
  | .unknownLetter b letters => "unknown shorthand flag: " ++ letterText b ++ " in -" ++ letters
  | .noValue name => "flag needs an argument: --" ++ name
  | .noLetterValue b letters => "flag needs an argument: " ++ letterText b ++ " in -" ++ letters
  | .badValue f value fault =>
    "invalid argument " ++ value.quoted ++ " for " ++ (flagText f).quoted ++ " flag: " ++
      fault.text value

end FlagError

/-! ## Reading -/

structure Arguments where
  flags : List Flag
  /-- The values given, in order. -/
  given : List (Text × Text) := []
  args : List Text := []
  deriving DecidableEq, Repr

namespace Arguments

def give (a : Arguments) (f : Flag) (value : Text) : Except FlagError Arguments :=
  match f.fault? value with
  | some fault => .error (.badValue f value fault)
  | none => .ok { a with given := a.given ++ [(f.name, value)] }

/-- What is left to do behind a flag. -/
inductive Next where
  | done (a : Arguments)
  /-- The next argument is the value; the error is for the end of the line. -/
  | value (a : Arguments) (f : Flag) (missing : FlagError)

def long (a : Arguments) (arg : Text) : Except FlagError Next :=
  let body := arg.drop 2
  let name := body.takeWhile (· != 0x3D)
  if body.head? = some 0x2D || body.head? = some 0x3D then .error (.badForm arg)
  else
    match a.flags.find? (·.name = name), body.drop name.length with
    | none, _ => .error (.unknown name)
    | some f, _ :: value => (a.give f value).map .done
    | some f, [] =>
      if f.kind = .switch then (a.give f "true").map .done else .ok (.value a f (.noValue name))

/-- Letters that start like this are for test programs and mean nothing. -/
def testMark : Text := "test."

def letters (a : Arguments) : Text → Except FlagError Next
  | [] => .ok (.done a)
  | b :: rest =>
    if Text.startsWith (b :: rest) testMark then .ok (.done a)
    else
      match a.flags.find? (·.letter = some b), rest with
      | none, _ => .error (.unknownLetter b (b :: rest))
      | some f, 0x3D :: c :: value => (a.give f (c :: value)).map .done
      | some f, rest =>
        if f.kind = .switch then do
          let a ← a.give f "true"
          a.letters rest
        else if rest.isEmpty then .ok (.value a f (.noLetterValue b [b]))
        else (a.give f rest).map .done

/-- Whether an argument is a flag; a dash alone is none. -/
def isFlag (arg : Text) : Bool := arg.head? = some 0x2D && arg.length ≠ 1

def endMark : Text := "--"

def next (a : Arguments) (arg : Text) : Except FlagError Next :=
  if Text.startsWith arg endMark then a.long arg else a.letters (arg.drop 1)

def read (a : Arguments) : List Text → Except FlagError Arguments
  | [] => .ok a
  | arg :: rest =>
    if !isFlag arg then { a with args := a.args ++ [arg] }.read rest
    else if arg = endMark then .ok { a with args := a.args ++ rest }
    else
      match a.next arg, rest with
      | .error e, _ => .error e
      | .ok (.done a), rest => a.read rest
      | .ok (.value _ _ missing), [] => .error missing
      | .ok (.value a f _), value :: rest =>
        match a.give f value with
        | .error e => .error e
        | .ok a => a.read rest

/-- The value given last, if any. -/
def given? (a : Arguments) (name : Text) : Option Text := a.given.reverse.lookup name

def text (a : Arguments) (name : Text) : Text :=
  (a.given? name).getD (((a.flags.find? (·.name = name)).map (·.default)).getD [])

def isOn (a : Arguments) (name : Text) : Bool := Value.yes.contains (a.text name)

def number (a : Arguments) (name : Text) : Int := (Value.integer (a.text name)).toOption.getD 0

end Arguments
end Cli
end FeltLowering
