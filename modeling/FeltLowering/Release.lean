import FeltLowering.Codec.Json
import FeltLowering.Felt
import FeltLowering.Text.Blank

/-
The release of the tool, as it is shown to its users.
-/
namespace FeltLowering

def toolName : Text := "sierra2llvm"

structure Release where
  version : Text := "0.1.0-dev"
  commit : Text := []
  date : Text := []
  deriving DecidableEq, Repr

structure ReleaseView where
  commit : Bool := false
  date : Bool := false
  deriving DecidableEq, Repr

namespace Release

def orUnknown (t : Text) : Text := if t.isBlankText then "unknown" else t.trim

def painted (colored : Bool) (color : Nat) (t : Text) : Text :=
  if colored then "\x1b[" ++ Text.ofNat color ++ ";1m" ++ t ++ "\x1b[0;22m" else t

def yellow : Nat := 33

def green : Nat := 32

def blue : Nat := 34

/-- The version with its three numbers in colours of their own.  What is not of that
form is left as it is. -/
def pretty (r : Release) (colored : Bool) : Text :=
  let v := r.version.trim
  let core := v.takeWhile (· != 0x2D)
  match Text.splitOn 0x2E core with
  | major :: minor :: patch :: more =>
    painted colored yellow major ++ "." ++ painted colored green minor ++ "." ++
      painted colored blue (Text.join "." (patch :: more)) ++ v.drop core.length
  | _ => if v.isEmpty then "dev" else v

def lines (r : Release) (colored : Bool) (view : ReleaseView) : Text :=
  toolName ++ " " ++ r.pretty colored ++ " (felt i" ++ Text.ofNat Felt.width ++ ")\n" ++
    Text.when view.commit ("commit: " ++ orUnknown r.commit ++ "\n") ++
    Text.when view.date ("built:  " ++ orUnknown r.date ++ "\n")

def toJson (r : Release) (view : ReleaseView) : Json :=
  let shown (b : Bool) (key value : Text) : List (Text × Json) :=
    if b then [(key, .string (orUnknown value))] else []
  .object
    ([(Text.ofString "tool", Json.string toolName),
        (Text.ofString "version", .string r.version.trim),
        (Text.ofString "felt_width", .ofNat Felt.width)] ++
      shown view.commit "git_commit" r.commit ++ shown view.date "build_date" r.date)

def jsonLines (r : Release) (view : ReleaseView) : Text := (r.toJson view).pretty ++ "\n"

end Release
end FeltLowering
