import FeltLowering.Text.Lower
import FeltLowering.Text.Quoted

/-
Verbosity of a trace.

An event has a scope, coarser scopes having lower ranks, and a level lets the scopes up
to some rank pass.  Failure reports pass at every level but `off`.
-/
namespace FeltLowering
namespace Trace

/-- The granularity of an event.  Ranks outside the named ones have no name. -/
inductive Scope where
  | driver
  | pass
  | decl
  | instr
  | error
  | unnamed (rank : Nat)
  deriving DecidableEq, Repr

namespace Scope

def rank : Scope → Nat
  | .driver => 1
  | .pass => 2
  | .decl => 3
  | .instr => 4
  | .error => 5
  | .unnamed r => r

def ofRank : Nat → Scope
  | 1 => .driver
  | 2 => .pass
  | 3 => .decl
  | 4 => .instr
  | 5 => .error
  | r => .unnamed r

def text : Scope → Text
  | .driver => "driver"
  | .pass => "pass"
  | .decl => "decl"
  | .instr => "instr"
  | .error => "error"
  | .unnamed _ => "unknown"

end Scope

inductive Level where
  | off
  | error
  | phase
  | detail
  | debug
  deriving DecidableEq, Repr

namespace Level

def text : Level → Text
  | .off => "off"
  | .error => "error"
  | .phase => "phase"
  | .detail => "detail"
  | .debug => "debug"

def code : Level → Nat
  | .off => 0
  | .error => 1
  | .phase => 2
  | .detail => 3
  | .debug => 4

def all : List Level := [.off, .error, .phase, .detail, .debug]

def ofCode? (n : Nat) : Option Level := all.find? (·.code = n)

def nameOfCode (n : Nat) : Text := ((ofCode? n).map text).getD "unknown"

/-- Whether events of a scope are recorded at the level. -/
def passes (l : Level) (s : Scope) : Bool :=
  match l with
  | .off => false
  | .error => s.rank = Scope.error.rank
  | .phase => s.rank ≤ Scope.pass.rank || s.rank = Scope.error.rank
  | .detail => s.rank ≤ Scope.decl.rank || s.rank = Scope.error.rank
  | .debug => true

def enabled (l : Level) : Bool := l ≠ .off

/-- Reads a level in any case; an empty text is `off`. -/
def parse? (t : Text) : Option Level :=
  if t.isEmpty then some .off else all.find? (·.text = t.lower)

def parseMessage (t : Text) : Text :=
  "invalid trace level: " ++ t.quoted ++ " (expected: off|error|phase|detail|debug)"

end Level
end Trace
end FeltLowering
