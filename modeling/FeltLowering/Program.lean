import FeltLowering.Text.Normal

/-
Programs as lists of declarations.

A program declares concrete types and then library functions, in program order.
Each declaration names a generic id and the generic arguments it is taken at.  A list
that a file leaves out is kept apart from an empty one, because the written forms
differ.
-/
namespace FeltLowering

/-- The identity of a declaration: a number and an optional debug name.  An empty name
is no name. -/
structure Ident where
  id : UInt64
  debugName : Text := []
  deriving DecidableEq, Repr

namespace Ident

/-- The number in decimal, under which registries keep the declaration. -/
def key (i : Ident) : Text := Text.ofNat i.id.toNat

def hasName (i : Ident) : Bool := !i.debugName.isEmpty

def name (i : Ident) : Text := i.debugName.normalize

/-- The debug name, or the number in brackets where there is none. -/
def label (i : Ident) : Text :=
  if i.hasName then i.name else "[" ++ i.key ++ "]"

end Ident

/-- A generic argument.  A well-formed one carries exactly one payload, and a file can
carry any number of them. -/
structure GenericArg where
  value : Option Text := none
  type : Option Ident := none
  userType : Option Text := none
  libfunc : Option Ident := none
  deriving DecidableEq, Repr

inductive ArgKind where
  | invalid
  | value
  | type
  | userType
  | libfunc
  deriving DecidableEq, Repr

namespace ArgKind

def text : ArgKind → Text
  | .invalid => "invalid"
  | .value => "value"
  | .type => "type"
  | .userType => "user type"
  | .libfunc => "libfunc"

end ArgKind

namespace GenericArg

def payloads (a : GenericArg) : Nat :=
  a.value.isSome.toNat + a.type.isSome.toNat + a.userType.isSome.toNat + a.libfunc.isSome.toNat

/-- The kind of the only payload; no payload and several are invalid. -/
def kind (a : GenericArg) : ArgKind :=
  match a.value, a.type, a.userType, a.libfunc with
  | some _, none, none, none => .value
  | none, some _, none, none => .type
  | none, none, some _, none => .userType
  | none, none, none, some _ => .libfunc
  | _, _, _, _ => .invalid

end GenericArg

structure Declaration where
  id : Ident
  genericId : Text
  args : Option (List GenericArg) := none
  deriving DecidableEq, Repr

namespace Declaration

def argList (d : Declaration) : List GenericArg := d.args.getD []

end Declaration

structure Program where
  types : Option (List Declaration) := none
  libfuncs : Option (List Declaration) := none
  deriving DecidableEq, Repr

namespace Program

def typeList (p : Program) : List Declaration := p.types.getD []

def libfuncList (p : Program) : List Declaration := p.libfuncs.getD []

end Program
end FeltLowering
