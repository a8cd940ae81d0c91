import ValidatorForge.Text.Case
import ValidatorForge.Text.Unicode.ClusterTable

/-!
# Grapheme clusters

A letter with its combining marks counts as one unit of text.  `clusters` cuts a text into such
units by the extended grapheme cluster rules.  The rule for Indic conjuncts is left out: those
letters have no case, so no word break depends on it.
-/

namespace ValidatorForge.Text

/-- What the cluster rules know about a character. -/
inductive ClusterClass where
  | carriageReturn | lineFeed | control | extend | joiner | spacingMark | prepend
  | regional | leading | vowel | trailing | openSyllable | closedSyllable | pictograph | other
deriving DecidableEq, Repr

private def ClusterClass.ofAscii (n : Nat) : ClusterClass :=
  if n = 0x0D then .carriageReturn
  else if n = 0x0A then .lineFeed
  else if n < 0x20 || n = 0x7F then .control
  else .other

private def ClusterClass.hangul? (n : Nat) : Option ClusterClass :=
  if (0x1100 ≤ n && n ≤ 0x115F) || (0xA960 ≤ n && n ≤ 0xA97C) then some .leading
  else if (0x1160 ≤ n && n ≤ 0x11A7) || (0xD7B0 ≤ n && n ≤ 0xD7C6) then some .vowel
  else if (0x11A8 ≤ n && n ≤ 0x11FF) || (0xD7CB ≤ n && n ≤ 0xD7FB) then some .trailing
  else if 0xAC00 ≤ n && n ≤ 0xD7A3 then
    some (if (n - 0xAC00) % 28 = 0 then .openSyllable else .closedSyllable)
  else none

/-- The class of a character. -/
def ClusterClass.of (c : Char) : ClusterClass :=
  let n := c.toNat
  if n < 0x80 then ofAscii n
  else if n = 0x200D then .joiner
  else if covers Unicode.clusterControl n then .control
  else if covers Unicode.clusterExtend n then .extend
  else if covers Unicode.clusterSpacingMark n then .spacingMark
  else if covers Unicode.clusterPrepend n then .prepend
  else if 0x1F1E6 ≤ n && n ≤ 0x1F1FF then .regional
  else if covers Unicode.pictographic n then .pictograph
  else (hangul? n).getD .other

/-- What has been read of the cluster that is still open. -/
structure ClusterState where
  /-- Class of its last character. -/
  last : ClusterClass
  /-- A pictograph followed by extending marks only. -/
  pictographRun : Bool
  /-- Such a run followed by a joiner, as the last character. -/
  joinedRun : Bool
  /-- An odd number of regional indicators at its end. -/
  oddRegional : Bool

/-- The state after a cluster begins with a character of class `k`. -/
def ClusterState.start (k : ClusterClass) : ClusterState :=
  ⟨k, k = .pictograph, false, k = .regional⟩

/-- The state after the open cluster takes a character of class `k`. -/
def ClusterState.step (s : ClusterState) (k : ClusterClass) : ClusterState :=
  { last := k
    pictographRun := k = .pictograph || (k = .extend && s.pictographRun)
    joinedRun := k = .joiner && s.pictographRun
    oddRegional := k = .regional && !s.oddRegional }

private def isBarrier (k : ClusterClass) : Bool :=
  k = .control || k = .carriageReturn || k = .lineFeed

/-- Whether a character of class `k` stays in the open cluster. -/
def ClusterState.takes (s : ClusterState) (k : ClusterClass) : Bool :=
  if s.last = .carriageReturn && k = .lineFeed then true
  else if isBarrier s.last || isBarrier k then false
  else if k = .extend || k = .joiner || k = .spacingMark then true
  else if s.last = .prepend then true
  else match s.last, k with
    | .leading, .leading | .leading, .vowel | .leading, .openSyllable
    | .leading, .closedSyllable => true
    | .openSyllable, .vowel | .openSyllable, .trailing | .vowel, .vowel
    | .vowel, .trailing => true
    | .closedSyllable, .trailing | .trailing, .trailing => true
    | _, .pictograph => s.joinedRun
    | .regional, .regional => s.oddRegional
    | _, _ => false

/-- Clusters of the rest of a text; the open cluster is given last character first. -/
private def clustersFrom (s : ClusterState) (cluster : List Char) : List Char → List (List Char)
  | [] => [cluster.reverse]
  | c :: rest =>
    let k := ClusterClass.of c
    if s.takes k then clustersFrom (s.step k) (c :: cluster) rest
    else cluster.reverse :: clustersFrom (.start k) [c] rest

/-- The grapheme clusters of a text, in order. -/
def clusters : List Char → List (List Char)
  | [] => []
  | c :: rest => clustersFrom (.start (.of c)) [c] rest

private theorem flatten_clustersFrom (s : ClusterState) (cluster cs : List Char) :
    (clustersFrom s cluster cs).flatten = cluster.reverse ++ cs := by
  induction cs generalizing s cluster with
  | nil => simp [clustersFrom]
  | cons c rest ih =>
    simp only [clustersFrom]
    split <;> simp [ih]

/-- The clusters hold the whole text and nothing else. -/
theorem flatten_clusters (cs : List Char) : (clusters cs).flatten = cs := by
  cases cs with
  | nil => rfl
  | cons c rest => simp [clusters, flatten_clustersFrom]

private theorem exists_clustersFrom (s : ClusterState) (cluster cs : List Char) :
    ∃ more others, clustersFrom s cluster cs = (cluster.reverse ++ more) :: others := by
  induction cs generalizing s cluster with
  | nil => exact ⟨[], [], by rw [clustersFrom, List.append_nil]⟩
  | cons c rest ih =>
    rw [clustersFrom]
    split
    · obtain ⟨more, others, hopen⟩ := ih (s.step (.of c)) (c :: cluster)
      exact ⟨c :: more, others, by rw [hopen, List.reverse_cons, List.append_assoc]; rfl⟩
    · exact ⟨[], _, by rw [List.append_nil]⟩

/-- The first cluster begins with the first character. -/
theorem exists_clusters_cons (c : Char) (rest : List Char) :
    ∃ more others, clusters (c :: rest) = (c :: more) :: others :=
  exists_clustersFrom _ [c] rest

private theorem clustersFrom_of_other {s : ClusterState} (hs : s.last = .other)
    (cluster : List Char) {cs : List Char} (h : ∀ c ∈ cs, ClusterClass.of c = .other) :
    clustersFrom s cluster cs = cluster.reverse :: cs.map fun c => [c] := by
  induction cs generalizing s cluster with
  | nil => rfl
  | cons c rest ih =>
    obtain ⟨hc, hrest⟩ := List.forall_mem_cons.1 h
    have htakes : s.takes .other = false := by simp [ClusterState.takes, isBarrier, hs]
    rw [clustersFrom, hc]
    simp only [htakes, Bool.false_eq_true, if_false]
    rw [ih rfl _ hrest]
    rfl

/-- In a text without marks and joiners each character is a cluster. -/
theorem clusters_of_other {cs : List Char} (h : ∀ c ∈ cs, ClusterClass.of c = .other) :
    clusters cs = cs.map fun c => [c] := by
  cases cs with
  | nil => rfl
  | cons c rest =>
    obtain ⟨hc, hrest⟩ := List.forall_mem_cons.1 h
    exact clustersFrom_of_other hc [c] hrest

end ValidatorForge.Text
