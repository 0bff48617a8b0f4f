import FeltLowering.Lowering.Compiler
import FeltLowering.Text.Blank

/-
Declarations.

Types must arrive in program order, since a declaration may only refer to earlier ones.
A libfunc becomes one function, named after its debug name.
-/
namespace FeltLowering
namespace Lowering

open Ir

def typeLabel (d : Declaration) : Text := "type " ++ d.id.label

def libfuncLabel (d : Declaration) : Text := "libfunc " ++ d.id.label

namespace Compiler

/-! ## Types -/

def checkType (c : Compiler) (d : Declaration) : Except LowerError Unit :=
  if c.registry.has d.id.key then .error (.fatal (typeLabel d) (.typeTwice d.id.key))
  else if c.debugInfo && !d.id.hasName then .error (.fatal (typeLabel d) .typeWithoutName)
  else .ok ()

def wrappedType (d : Declaration) : Except LowerError Ident :=
  let fail (cause : FatalCause) : Except LowerError Ident := .error (.fatal (typeLabel d) cause)
  match d.argList with
  | [arg] =>
    match arg.kind, arg.type with
    | .type, some inner => .ok inner
    | .userType, _ => fail .userTypeArg
    | kind, _ => fail (.wrapperArgKind kind)
  | args => fail (.wrapperArgs d.genericId args.length)

/-- Enters the builtin a key stands for, if it is the first of its name. -/
def nameType (c : Compiler) (builtin key : Text) : Compiler :=
  { c with registry := c.registry.addName builtin key }

/-- The type the helper reads, entered if it is not there. -/
def wideSlot (c : Compiler) : Compiler × Slot :=
  match c.registry.lookup? wideKey with
  | some slot => (c, slot)
  | none =>
    let type := c.registry.fresh (.int Felt.wideWidth)
    (c.insertType wideKey "felt_wide" type, ⟨wideKey, type⟩)

/-! ## Libfuncs -/

def libfuncName (d : Declaration) : Except LowerError Text :=
  if d.id.hasName then .ok d.id.name else .error (.fatal (libfuncLabel d) .libfuncWithoutName)

/-- The value of a constant: a decimal literal between the negated modulus and the
modulus, blanks around it aside, reduced into the field. -/
def constValue (d : Declaration) : Except LowerError Felt :=
  let fail (cause : FatalCause) : Except LowerError Felt := .error (.fatal (libfuncLabel d) cause)
  match d.argList with
  | [arg] =>
    match arg.kind, arg.value with
    | .value, some t =>
      match Decimal.parse? t.trim with
      | none => fail (.constLiteral t.trim)
      | some v => if Felt.prime ≤ v.natAbs then fail (.constRange t.trim) else .ok (Felt.ofInt v)
    | _, _ => fail .constWithoutValue
  | args => fail (.constArgs args.length)

def builtinSlot (c : Compiler) (d : Declaration) (builtin : Text) : Except LowerError Slot :=
  match c.registry.lookupName? builtin with
  | some slot => .ok slot
  | none => .error (.fatal (libfuncLabel d) (.notDeclared builtin))

def helperFor (c : Compiler) (d : Declaration) : Except LowerError Helper :=
  match c.helper with
  | some h => .ok h
  | none => .error (.fatal (libfuncLabel d) .noHelper)

inductive Libfunc where
  | feltConst
  | feltBinary (op : FieldOp)
  | wrappingAdd (builtin : Text)
  deriving DecidableEq, Repr

def Libfunc.ofGeneric? (generic : Text) : Option Libfunc :=
  let fieldNamed (name : Text) : Bool := generic = "felt_" ++ name || generic = "felt252_" ++ name
  let suffix : Text := "_wrapping_add"
  if fieldNamed "const" then some .feltConst
  else if fieldNamed "sub" then some (.feltBinary .sub)
  else if fieldNamed "add" then some (.feltBinary .add)
  else if fieldNamed "mul" then some (.feltBinary .mul)
  else if generic.endsWith suffix then
    let builtin := generic.take (generic.length - suffix.length)
    (intWidth? builtin).map fun _ => .wrappingAdd builtin
  else none

end Compiler

namespace Call

open Compiler

/-! ## Types -/

def addBuiltin (d : Declaration) (builtin : Text) (type : Handle) : Call Unit := do
  modify fun c => c.insertType d.id.key d.id.name type
  modify fun c => c.nameType builtin d.id.key

/-- Enters a wrapper if its inner type is there, and tells whether it is. -/
def addAlias (key name inner : Text) : Call Bool := do
  match (← get).registry.lookup? inner with
  | none => return false
  | some slot =>
    modify fun c => c.aliasType key name slot
    return true

def addWrapper (d : Declaration) : Call Unit := do
  let inner ← check fun _ => wrappedType d
  if ← addAlias d.id.key d.id.name inner.key then return ()
  else throw (.fatal (typeLabel d) (.innerUndeclared inner.label))

def addType (d : Declaration) : Call Unit := do
  if d.genericId = Text.ofString "felt" || d.genericId = Text.ofString "felt252" then
    addBuiltin d "felt" ((← get).registry.fresh (.int Felt.width))
  else if d.genericId = Text.ofString "NonZero" then addWrapper d
  else
    match intWidth? d.genericId with
    | some w => addBuiltin d d.genericId ⟨.int w, 0⟩
    | none => throw (.fatal (typeLabel d) (.unsupportedType d.genericId))

/-! ## The reduction helper -/

/-- Lowers the helper, which folds a signed wide value into the range of canonical
elements.  A helper that exists already is returned.  The wide type stays behind when
the name of the helper is taken. -/
def declareHelper : Call (Helper × Option Summary) := do
  let c ← get
  match c.helper, c.registry.lookupName? "felt" with
  | some h, _ => return (h, none)
  | none, none => throw (.fatal helperName .helperBeforeFelt)
  | none, some felt =>
    let wide ← modifyGet fun c => c.wideSlot.swap
    let h : Helper := ⟨(← get).module.functions.length⟩
    let done ← lower helperName felt [wide] .reduce
    modify fun c => { c with helper := some h }
    return (h, some done)

/-! ## Libfuncs -/

def feltConst (d : Declaration) : Call Summary := do
  let felt ← check fun c => c.builtinSlot d "felt"
  let v ← check fun _ => constValue d
  let name ← check fun _ => libfuncName d
  lower name felt [] (.const (some (felt.type.ty.size, v.toInt)))

def feltBinary (op : FieldOp) (d : Declaration) : Call Summary := do
  let felt ← check fun c => c.builtinSlot d "felt"
  let helper ← check fun c => c.helperFor d
  let name ← check fun _ => libfuncName d
  lower name felt [felt, felt] (.field op (some helper))

def intWrappingAdd (d : Declaration) (builtin : Text) : Call Summary := do
  let slot ← check fun c => c.builtinSlot d builtin
  let name ← check fun _ => libfuncName d
  lower name slot [slot, slot] .intAdd

def libfunc (d : Declaration) : Libfunc → Call Summary
  | .feltConst => feltConst d
  | .feltBinary op => feltBinary op d
  | .wrappingAdd builtin => intWrappingAdd d builtin

def addLibfunc (d : Declaration) : Call Summary :=
  match Libfunc.ofGeneric? d.genericId with
  | some kind => libfunc d kind
  | none => throw (.fatal (libfuncLabel d) (.unsupportedLibfunc d.genericId))

end Call
end Lowering
end FeltLowering
