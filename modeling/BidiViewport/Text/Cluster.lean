import BidiViewport.Text.ClusterBreak

/-!
# Grapheme clusters

Text is cut into extended grapheme clusters.  Whether a character joins the
cluster before it depends on the break class of the character before and on
three bounded memories of the cluster so far (`Cluster.Reading`), so one pass
from left to right decides every boundary.  `flatten_clusters` says that cutting
loses nothing.
-/

namespace BidiViewport

namespace Cluster

/-- How far the cluster so far matches a pattern that the next character can
complete. -/
inductive Progress
  | none
  | begun
  | ready
deriving DecidableEq, Inhabited

/-- What the rest of the text can see of the cluster read so far. -/
structure Reading where
  last : ClusterBreak
  /-- `begun`: a pictograph and characters extending it; `ready`: a joiner after them. -/
  pictograph : Progress
  /-- `begun`: a consonant with marks; `ready`: a linker is among them. -/
  conjunct : Progress
  /-- The cluster ends in an odd number of regional indicators. -/
  oddRegional : Bool

namespace Reading

/-- The reading of a cluster that begins with a character of class `b`. -/
def start (b : ClusterBreak) : Reading where
  last := b
  pictograph := if b = .pictographic then .begun else .none
  conjunct := if b = .consonant then .begun else .none
  oddRegional := b = .regionalIndicator

/-- A character of class `b` belongs to the cluster. -/
def joins (r : Reading) (b : ClusterBreak) : Bool :=
  if r.last = .carriageReturn ∧ b = .lineFeed then true
  else if r.last.isControl || b.isControl then false
  else r.last.continuesSyllable b || b.attaches || r.last = .prepend
    || (b = .consonant && r.conjunct = .ready)
    || (b = .pictographic && r.pictograph = .ready)
    || (b = .regionalIndicator && r.oddRegional)

/-- The reading after a character of class `b` has joined. -/
def push (r : Reading) (b : ClusterBreak) : Reading where
  last := b
  pictograph :=
    if b = .pictographic then .begun
    else if r.pictograph = .begun then
      if b.isExtending then .begun else if b = .zeroWidthJoiner then .ready else .none
    else .none
  conjunct :=
    if b = .consonant then .begun
    else if b = .linker then if r.conjunct = .none then .none else .ready
    else if b = .extend ∨ b = .zeroWidthJoiner then r.conjunct
    else .none
  oddRegional := b = .regionalIndicator && !r.oddRegional

end Reading

/-- The clusters of the rest of a text, after a cluster whose characters so far
are `cluster`, the last one first. -/
def clustersFrom (r : Reading) (cluster : List Char) : List Char → List (List Char)
  | [] => [cluster.reverse]
  | c :: rest =>
    if r.joins (.of c) then clustersFrom (r.push (.of c)) (c :: cluster) rest
    else cluster.reverse :: clustersFrom (.start (.of c)) [c] rest

end Cluster

/-- The extended grapheme clusters of a text, in order. -/
def clusters : List Char → List (List Char)
  | [] => []
  | c :: rest => Cluster.clustersFrom (.start (.of c)) [c] rest

namespace Cluster

theorem flatten_clustersFrom (r : Reading) (cluster rest : List Char) :
    (clustersFrom r cluster rest).flatten = cluster.reverse ++ rest := by
  induction rest generalizing r cluster with
  | nil => simp [clustersFrom]
  | cons c rest ih =>
    unfold clustersFrom
    split <;> simp [ih]

theorem ne_nil_of_mem_clustersFrom {r : Reading} {cluster rest g : List Char}
    (hne : cluster ≠ []) (h : g ∈ clustersFrom r cluster rest) : g ≠ [] := by
  induction rest generalizing r cluster with
  | nil => simp_all [clustersFrom]
  | cons c rest ih =>
    unfold clustersFrom at h
    split at h
    · exact ih (by simp) h
    · rcases List.mem_cons.1 h with rfl | h
      · simpa using hne
      · exact ih (by simp) h

end Cluster

/-- Cutting a text into clusters keeps every character in its place. -/
@[simp] theorem flatten_clusters (text : List Char) : (clusters text).flatten = text := by
  cases text with
  | nil => rfl
  | cons c rest => simp [clusters, Cluster.flatten_clustersFrom]

/-- No cluster is empty. -/
theorem ne_nil_of_mem_clusters {text g : List Char} (h : g ∈ clusters text) : g ≠ [] := by
  cases text with
  | nil => simp [clusters] at h
  | cons c rest => exact Cluster.ne_nil_of_mem_clustersFrom (by simp) h

end BidiViewport
