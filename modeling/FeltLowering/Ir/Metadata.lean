import FeltLowering.Ir.Name

/-
Debug metadata.

Nodes refer to one another by reference, and a module holds the definitions in the
order they were made.  A reference is either to a node the module numbers itself or to
a loose node, which carries a number of its own and describes nothing.
-/
namespace FeltLowering
namespace Ir

inductive NodeRef where
  | node (id : Nat)
  | loose (id : Nat)
  deriving DecidableEq, Repr

namespace NodeRef

def number : NodeRef → Nat
  | .node id => id
  | .loose id => id

def text (r : NodeRef) : Text := "!" ++ Text.ofNat r.number

end NodeRef

inductive Node where
  | file (filename directory : Text)
  | unit (inFile : NodeRef) (producer : Text)
  /-- A module flag of the behaviour "warning". -/
  | flag (name : Text) (value : Nat)
  | basicType (name : Text) (size : Nat)
  | tuple (fields : List NodeRef)
  | subroutine (types : Option NodeRef)
  | subprogram (name : Text) (inUnit inFile : NodeRef) (line : Int) (type : Option NodeRef)
  | location (line : Int) (scope : NodeRef)
  deriving DecidableEq, Repr

structure Definition where
  ref : NodeRef
  node : Node
  deriving DecidableEq, Repr

structure Attachment where
  name : Text
  ref : NodeRef
  deriving DecidableEq, Repr

namespace Attachment

def text (a : Attachment) : Text := "!" ++ a.name ++ " " ++ a.ref.text

end Attachment

namespace Node

/-- A field, left out when its value is absent. -/
def field (label : Text) (value : Option Text) : List Text :=
  match value with
  | some v => [label ++ ": " ++ v]
  | none => []

def nonempty (t : Text) : Option Text := if t.isEmpty then none else some (Name.quote t)

def nonzero (n : Int) : Option Text := if n = 0 then none else some (Text.ofInt n)

def special (kind : Text) (fields : List (List Text)) : Text :=
  "!" ++ kind ++ "(" ++ Text.join ", " fields.flatten ++ ")"

def braced (fields : List Text) : Text := "!\x7b" ++ Text.join ", " fields ++ "\x7d"

def text : Node → Text
  | .file filename directory =>
    special "DIFile"
      [field "filename" (some (Name.quote filename)),
        field "directory" (some (Name.quote directory))]
  | .unit inFile producer =>
    "distinct " ++ special "DICompileUnit"
      [field "language" (some "DW_LANG_C"), field "file" (some inFile.text),
        field "producer" (nonempty producer), field "emissionKind" (some "FullDebug")]
  | .flag name value =>
    braced ["i32 2", "!" ++ Name.quote name, "i32 " ++ Text.ofNat value]
  | .basicType name size =>
    special "DIBasicType"
      [field "name" (nonempty name), field "size" (nonzero size),
        field "encoding" (some "DW_ATE_unsigned"), field "flags" (some "DIFlagPublic")]
  | .tuple fields => braced (fields.map NodeRef.text)
  | .subroutine types =>
    special "DISubroutineType"
      [field "flags" (some "DIFlagPublic"), field "types" (types.map NodeRef.text)]
  | .subprogram name inUnit inFile line type =>
    "distinct " ++ special "DISubprogram"
      [field "name" (nonempty name), field "scope" (some inUnit.text),
        field "file" (some inFile.text), field "line" (nonzero line),
        field "type" (type.map NodeRef.text), field "scopeLine" (nonzero line),
        field "flags" (some "DIFlagPublic"), field "spFlags" (some "DISPFlagDefinition"),
        field "unit" (some inUnit.text)]
  | .location line scope =>
    special "DILocation" [field "line" (nonzero line), field "scope" (some scope.text)]

end Node

namespace Definition

def text (d : Definition) : Text := d.ref.text ++ " = " ++ d.node.text

end Definition
end Ir
end FeltLowering
