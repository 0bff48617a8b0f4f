import FeltLowering.Ir.Type

/-
The type registry.

Entries are only ever appended.  Two entries may share one handle: a wrapper shares that
of the type it wraps, and all declarations of an integer width share one.
-/
namespace FeltLowering
namespace Lowering

open Ir

/-- A type and the number that tells it from others of the same width. -/
structure Handle where
  ty : Ty
  serial : Nat := 0
  deriving DecidableEq, Repr

structure Slot where
  key : Text
  type : Handle
  deriving DecidableEq, Repr

structure Registry where
  entries : List Slot := []
  /-- The key of the first declaration of each builtin. -/
  names : List (Text × Text) := []
  deriving DecidableEq, Repr

/-- Keys that start with this byte do not come from a declaration. -/
def internalMark : UInt8 := 0x24

def wideKey : Text := "$felt.wide"

namespace Registry

def lookup? (r : Registry) (key : Text) : Option Slot := r.entries.find? (·.key = key)

def has (r : Registry) (key : Text) : Bool := (r.lookup? key).isSome

def lookupName? (r : Registry) (generic : Text) : Option Slot :=
  (r.names.find? (·.1 = generic)).bind fun n => r.lookup? n.2

/-- A handle no entry has yet. -/
def fresh (r : Registry) (ty : Ty) : Handle := ⟨ty, r.entries.length + 1⟩

def add (r : Registry) (key : Text) (type : Handle) : Registry :=
  { r with entries := r.entries ++ [⟨key, type⟩] }

/-- Records the key of a builtin, unless it has one. -/
def addName (r : Registry) (generic key : Text) : Registry :=
  if r.names.any (·.1 = generic) then r else { r with names := r.names ++ [(generic, key)] }

def keys (r : Registry) : List Text :=
  (r.entries.map Slot.key).filter fun k => k.head? ≠ some internalMark

end Registry

def intWidth? (generic : Text) : Option Nat :=
  [8, 16, 32, 64, 128].find? fun w => generic = "u" ++ Text.ofNat w

end Lowering
end FeltLowering
