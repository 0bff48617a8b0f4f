import FeltLowering.Text.Cluster.Classes
import FeltLowering.Text.Utf8

/-
Clusters: the characters of a text, grouped into what a reader takes for one character.
-/
namespace FeltLowering
namespace Text

/-- How far the characters read last go towards a sequence of pictographs. -/
inductive PictureState where
  | none
  /-- A pictograph and marks behind it. -/
  | marked
  /-- A pictograph, marks, and a joiner. -/
  | joined
  deriving DecidableEq, Repr

/-- What is known of the text in front of a character. -/
structure ClusterState where
  last : ClusterClass
  /-- Whether the last character is a regional indicator without a partner. -/
  single : Bool
  picture : PictureState
  deriving DecidableEq, Repr

namespace ClusterState

def step (s : ClusterState) (c : ClusterClass) : ClusterState where
  last := c
  single := c = .regional && !s.single
  picture :=
    match c, s.picture with
    | .pictograph, _ => .marked
    | .extend, .marked => .marked
    | .joiner, .marked => .joined
    | _, _ => .none

def start (c : ClusterClass) : ClusterState := step ⟨.control, false, .none⟩ c

def joins (s : ClusterState) (c : ClusterClass) : Bool :=
  match s.last, c with
  | .carriageReturn, .lineFeed => true
  | .carriageReturn, _ | .lineFeed, _ | .control, _ => false
  | _, .carriageReturn | _, .lineFeed | _, .control => false
  | .leading, .leading | .leading, .vowel | .leading, .syllable | .leading, .closedSyllable => true
  | .syllable, .vowel | .syllable, .trailing | .vowel, .vowel | .vowel, .trailing => true
  | .closedSyllable, .trailing | .trailing, .trailing => true
  | _, .extend | _, .joiner | _, .spacing => true
  | .prepended, _ => true
  | _, .pictograph => s.picture = .joined
  | _, .regional => s.single
  | _, _ => false

end ClusterState

/-- The clusters behind a character; the first of them goes on with its cluster. -/
def clustersAfter (s : ClusterState) : List Char → List Char × List (List Char)
  | [] => ([], [])
  | c :: cs =>
    let kind := clusterClass c.toNat
    let (current, rest) := clustersAfter (s.step kind) cs
    if s.joins kind then (c :: current, rest) else ([], (c :: current) :: rest)

def clusters : List Char → List (List Char)
  | [] => []
  | c :: cs =>
    let (current, rest) := clustersAfter (.start (clusterClass c.toNat)) cs
    (c :: current) :: rest

end Text
end FeltLowering
