import FeltLowering.Lowering.Body
import FeltLowering.Program

/-
Why a lowering stops.
-/
namespace FeltLowering
namespace Lowering

inductive FatalKind where
  | missingDebugName
  | undeclaredType
  | badConstant
  | unsupportedArg
  | unimplemented
  | missingHelper
  | unsupportedDecl
  | duplicate
  deriving DecidableEq, Repr

namespace FatalKind

def text : FatalKind → Text
  | .missingDebugName => "missing debug name"
  | .undeclaredType => "undeclared type"
  | .badConstant => "bad constant"
  | .unsupportedArg => "unsupported generic argument"
  | .unimplemented => "not implemented"
  | .missingHelper => "missing helper"
  | .unsupportedDecl => "unsupported declaration"
  | .duplicate => "duplicate declaration"

def code : FatalKind → Nat
  | .missingDebugName => 1
  | .undeclaredType => 2
  | .badConstant => 3
  | .unsupportedArg => 4
  | .unimplemented => 5
  | .missingHelper => 6
  | .unsupportedDecl => 7
  | .duplicate => 8

def all : List FatalKind :=
  [.missingDebugName, .undeclaredType, .badConstant, .unsupportedArg, .unimplemented,
    .missingHelper, .unsupportedDecl, .duplicate]

def nameOfCode (n : Nat) : Text := ((all.find? (·.code = n)).map text).getD "fatal"

end FatalKind

inductive FatalCause where
  | typeTwice (key : Text)
  | typeWithoutName
  | unsupportedType (generic : Text)
  | wrapperArgs (generic : Text) (count : Nat)
  | innerUndeclared (label : Text)
  | userTypeArg
  | wrapperArgKind (kind : ArgKind)
  | libfuncWithoutName
  | unsupportedLibfunc (generic : Text)
  | notDeclared (generic : Text)
  | constArgs (count : Nat)
  | constWithoutValue
  | constLiteral (literal : Text)
  | constRange (literal : Text)
  | noHelper
  | bodyNeedsHelper (op : FieldOp)
  | noDebugType (key : Text)
  | helperBeforeFelt
  deriving DecidableEq, Repr

def helperName : Text := "modulo"

namespace FatalCause

def kind : FatalCause → FatalKind
  | .typeTwice _ => .duplicate
  | .typeWithoutName | .libfuncWithoutName => .missingDebugName
  | .unsupportedType _ | .unsupportedLibfunc _ => .unsupportedDecl
  | .wrapperArgs .. | .wrapperArgKind _ => .unsupportedArg
  | .userTypeArg => .unimplemented
  | .innerUndeclared _ | .notDeclared _ | .noDebugType _ | .helperBeforeFelt => .undeclaredType
  | .constArgs _ | .constWithoutValue | .constLiteral _ | .constRange _ => .badConstant
  | .noHelper | .bodyNeedsHelper _ => .missingHelper

def text : FatalCause → Text
  | .typeTwice key => "type id " ++ key ++ " declared twice"
  | .typeWithoutName => "debug info needs a debug name for every type"
  | .unsupportedType generic => "unsupported type " ++ generic.quoted
  | .wrapperArgs generic count =>
    generic ++ " takes exactly one generic argument, got " ++ Text.ofNat count
  | .innerUndeclared label => "inner type " ++ label ++ " is not declared yet"
  | .userTypeArg => "user type arguments are not supported yet"
  | .wrapperArgKind kind =>
    "wrapper types are constructed only from a type argument, got " ++ kind.text
  | .libfuncWithoutName => "libfuncs are lowered to functions named after their debug name"
  | .unsupportedLibfunc generic => "unsupported libfunc " ++ generic.quoted
  | .notDeclared generic => generic ++ " is not declared"
  | .constArgs count =>
    "felt constant takes exactly one value, got " ++ Text.ofNat count ++ " arguments"
  | .constWithoutValue => "no value for felt constant"
  | .constLiteral literal => "felt constant " ++ literal.quoted ++ " is not a decimal value"
  | .constRange literal => "felt constant " ++ literal ++ " is outside (-prime, prime)"
  | .noHelper => helperName ++ " must be declared before field operations"
  | .bodyNeedsHelper op => (BodyKind.field op).text ++ " requires the modulo helper"
  | .noDebugType key => "no debug type for " ++ key
  | .helperBeforeFelt => "felt must be declared before the modulo helper"

end FatalCause

inductive LowerError where
  /-- A violated precondition and the declaration that violates it. -/
  | fatal (decl : Text) (cause : FatalCause)
  | arity (func : Text) (want got : Nat)
  | emptyName (kind : BodyKind)
  | defined (kind : BodyKind) (name : Text)
  | invalidBody (name : Text)
  | constMissing (name : Text)
  | body (name : Text) (fault : BodyFault)
  | noProgram
  | canceled
  deriving DecidableEq, Repr

namespace LowerError

def message : LowerError → Text
  | .fatal decl cause => decl ++ ": " ++ cause.kind.text ++ ": " ++ cause.text
  | .arity func want got =>
    func ++ ": body takes " ++ Text.ofNat want ++ " parameters, got " ++ Text.ofNat got
  | .emptyName kind => "lower " ++ kind.text ++ ": empty function name"
  | .defined kind name => "lower " ++ kind.text ++ ": function " ++ name.quoted ++ " already defined"
  | .invalidBody name => "lower " ++ name ++ ": invalid body"
  | .constMissing name => "lower " ++ name ++ ": const body without a value"
  | .body name fault => "lower " ++ name ++ ": " ++ fault.text
  | .noProgram => "lower: nil program"
  | .canceled => "context canceled"

end LowerError
end Lowering
end FeltLowering
