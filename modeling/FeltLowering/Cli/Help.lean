import FeltLowering.Cli.Command

/-
Help texts.
-/
namespace FeltLowering
namespace Cli

/-! ## Flags -/

namespace Flag

def heading (f : Flag) : Text :=
  let start : Text :=
    match f.letter with
    | some b => "  -" ++ [b] ++ ", --" ++ f.name
    | none => "      --" ++ f.name
  match f.kind with
  | .switch => start
  | .text => start ++ " string"
  | .number => start ++ " int"

/-- The default of a flag where it is worth telling. -/
def defaultText (f : Flag) : Text :=
  match f.kind with
  | .switch => []
  | .text => Text.when (!f.default.isEmpty) (" (default " ++ f.default.quoted ++ ")")
  | .number => Text.when (f.default ≠ Text.ofString "0") (" (default " ++ f.default ++ ")")

/-- Flags one a line, in the order of their names and with their texts aligned. -/
def table (flags : List Flag) : Text :=
  let sorted := flags.mergeSort fun a b => !decide (b.name < a.name)
  let width := sorted.foldl (fun w f => max w f.heading.length) 0
  Text.join "\n" (sorted.map fun f =>
    (Text.padRight (width + 3) f.heading ++ f.usage ++ f.defaultText : Text))

end Flag

/-! ## Commands -/

namespace Command

def summary : Command → Text
  | .root => "Lower Sierra programs into LLVM IR"
  | .build => "Lower Sierra programs into .ll files"
  | .run => "Lower a program and evaluate one of its functions"
  | .version => "Show build information"
  | .help => "Help about any command"
  | .completion => "Generate the autocompletion script for the specified shell"

def description : Command → Text
  | .build =>
    "Lower each input program (.yaml, .json or .msgpack) into one LLVM IR module.\n" ++
      "Without arguments the inputs come from [build].inputs of sierra2llvm.toml."
  | .run =>
    "Lower the input program and evaluate the named function on decimal\n" ++
      "arguments. Negative arguments are passed in two's complement."
  | .help =>
    "Help provides help for any command in the application.\nSimply type " ++ toolName ++
      " help [path to command] for full details."
  | .completion =>
    "Generate the autocompletion script for " ++ toolName ++ " for the specified shell.\n" ++
      "See each sub-command's help for details on how to use the generated script."
  | c => c.summary

/-- What a command line for the command looks like; a group of commands has none. -/
def useLine? : Command → Option Text
  | .build => some (toolName ++ " build [flags] [inputs...]")
  | .run => some (toolName ++ " run <input> <function> [args...] [flags]")
  | .version => some (toolName ++ " version [flags]")
  | .help => some (toolName ++ " help [command] [flags]")
  | _ => none

def members? : Command → Option (Text × List (Text × Text))
  | .root =>
    some (toolName,
      [Command.build, .completion, .help, .run, .version].map fun c => (c.name, c.summary))
  | .completion =>
    some (toolName ++ " completion",
      (["bash", "fish", "powershell", "zsh"] : List Text).map fun shell =>
        (shell, "Generate the autocompletion script for " ++ shell))
  | _ => none

def nameWidth : Nat := 11

/-- How a command is used, with `localFlags` as the flags of its own. -/
def usageWith (c : Command) (localFlags : List Flag) : Text :=
  let members : Text :=
    match c.members? with
    | none => []
    | some (_, ms) =>
      "\n\nAvailable Commands:" ++ ms.flatMap fun (n, short) =>
        ("\n  " ++ Text.padRight nameWidth n ++ " " ++ short : Text)
  "Usage:" ++ (c.useLine?.map fun l => ("\n  " ++ l : Text)).getD [] ++
    (c.members?.map fun m => ("\n  " ++ m.1 ++ " [command]" : Text)).getD [] ++ members ++
    "\n\nFlags:\n" ++ Flag.table localFlags ++
    Text.when (c ≠ .root) ("\n\nGlobal Flags:\n" ++ Flag.table sharedFlags) ++
    (c.members?.map fun m =>
      ("\n\nUse \"" ++ m.1 ++ " [command] --help\" for more information about a command." : Text)).getD [] ++
    "\n"

def localFlags (processors : Nat) (c : Command) : List Flag :=
  c.ownFlags processors ++ (if c = .root then sharedFlags else []) ++ c.aboutFlags

def helpText (processors : Nat) (c : Command) : Text :=
  c.description ++ "\n\n" ++ c.usageWith (c.localFlags processors)

def unknownTopicMessage (words : List Text) : Text :=
  "Unknown help topic [" ++ Text.join " " (words.map Text.rawQuoted) ++ "]\n" ++
    Command.root.usageWith sharedFlags

end Command
end Cli
end FeltLowering
