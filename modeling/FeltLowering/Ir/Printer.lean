import FeltLowering.Ir.Function
import FeltLowering.Ir.Literal

/-
The text of a module.

The parts follow one another with a blank line between them: the header, one part a
function, the named metadata, the definitions.
-/
namespace FeltLowering
namespace Ir

namespace Function

def operandText (f : Function) : Operand → Text
  | .const w v => Literal.text w v
  | x => f.operandIdent x

def typedText (f : Function) (arg : Ty × Operand) : Text :=
  arg.1.text ++ " " ++ f.operandText arg.2

def calleeIdent (m : Module) (callee : Option Nat) : Text :=
  match callee.bind (m.functions[·]?) with
  | some g => g.ident
  | none => "null"

def instText (m : Module) (f : Function) (i : Inst) : Text :=
  Name.ofValue i.name ++ " = " ++
    match i with
    | .binary _ op ty x y =>
      op.text ++ " " ++ ty.text ++ " " ++ f.operandText x ++ ", " ++ f.operandText y
    | .convert _ op source x target =>
      op.text ++ " " ++ f.typedText (source, x) ++ " to " ++ target.text
    | .call _ result callee args attachments =>
      "call " ++ result.text ++ " " ++ calleeIdent m callee ++
        "(" ++ Text.join ", " (args.map f.typedText) ++ ")" ++
        (attachments.flatMap fun a => (", " ++ a.text : Text))
    | .foreign _ op _ => op.tag

def termText (f : Function) : Terminator → Text
  | .missing => []
  | .ret none => "ret void"
  | .ret (some v) => "ret " ++ f.typedText v
  | .br block => "br label " ++ Name.ofValue ((f.blocks[block]?.map Block.name).getD [])
  | .unreachable => "unreachable"

def blockText (m : Module) (f : Function) (b : Block) : Text :=
  Name.written b.name ++ ":\n" ++
    (b.insts.flatMap fun i => ("\t" ++ f.instText m i ++ "\n" : Text)) ++
    "\t" ++ f.termText b.term ++ "\n"

def headerText (f : Function) : Text :=
  f.result.text ++ " " ++ f.ident ++ "(" ++
    Text.join ", " (f.params.map fun p => (p.ty.text ++ " " ++ Name.ofValue p.name : Text)) ++ ")"

def attachmentsText (f : Function) : Text := f.attachments.flatMap fun a => (" " ++ a.text : Text)

def text (m : Module) (f : Function) : Text :=
  if f.blocks.isEmpty then "declare" ++ f.attachmentsText ++ " " ++ f.headerText ++ "\n"
  else
    "define " ++ f.headerText ++ f.attachmentsText ++ " \x7b\n" ++
      Text.join "\n" (f.blocks.map (f.blockText m)) ++ "\x7d\n"

end Function

namespace Module

def headerLine (label value : Text) : Text :=
  if value.isEmpty then [] else label ++ " = " ++ Name.quote value ++ "\n"

def header (m : Module) : Text :=
  headerLine "source_filename" m.sourceFilename ++ headerLine "target triple" m.targetTriple

def namedText (entry : Text × List NodeRef) : Text :=
  "!" ++ entry.1 ++ " = " ++ Node.braced (entry.2.map NodeRef.text) ++ "\n"

/-- The parts of the text in order; an empty part is left out. -/
def parts (m : Module) : List Text :=
  ([m.header] ++ m.listed.map (Function.text m) ++
    [m.named.flatMap namedText, m.definitions.flatMap fun d => (d.text ++ "\n" : Text)]).filter
      fun part => !part.isEmpty

def text (m : Module) : Text := Text.join "\n" m.parts

end Module
end Ir
end FeltLowering
