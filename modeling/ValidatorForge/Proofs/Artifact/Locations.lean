import Mathlib.Data.List.Basic
import ValidatorForge.Artifact.Directory

/-!
# The file of an artifact

The directory of an artifact is spelled by its package, whose dotted segments are pushed below the
root one by one.  A segment may hold slashes, and then it is several directories, or absolute, and
then it replaces all that was there before.

* `pieces` are the directories that a package spells, and `IsRelative` says that no segment is
  absolute.  `parts_pathFor` is the file of an artifact with such a package.
* `isRelative_iff`: these are the packages that keep an artifact below the root, whatever the root.
* `resolve_pathFor_eq_iff`: below one root, two artifacts have one file exactly if their names and
  the pieces of their packages agree.  The pieces do not determine the package.
-/

namespace ValidatorForge

namespace Artifact

open Text (fields)

namespace Location

/-- The named parts of a path text. -/
def partsOf (cs : List Char) : List String :=
  ((fields '/' cs).map String.ofList).filter fun p => p != "" && p != "."

theorem parts_eq (l : Location) : l.parts = partsOf l.text.toList := rfl

theorem partsOf_append (before after : List Char) :
    partsOf (before ++ '/' :: after) = partsOf before ++ partsOf after := by
  rw [partsOf, fields, Text.fieldsBy_append_cons (by decide), List.map_append, List.filter_append]
  rfl

/-- A text without slashes is one part, unless it is empty or a dot. -/
theorem partsOf_eq_singleton {cs : List Char} (hslash : '/' ∉ cs) (hname : cs ≠ [] ∧ cs ≠ ['.']) :
    partsOf cs = [String.ofList cs] := by
  have hsep : ∀ c ∈ cs, (c == '/') = false := by
    intro c hc
    rw [beq_eq_false_iff_ne]
    rintro rfl
    exact hslash hc
  have hempty : String.ofList cs ≠ "" := fun heq => hname.1 (String.ofList_inj.1 heq)
  have hdot : String.ofList cs ≠ "." := fun heq => hname.2 (String.ofList_inj.1 heq)
  simp [partsOf, fields, Text.fieldsBy_eq_singleton hsep, hempty, hdot]

/-- A path that starts at the top. -/
def IsAbsolute (l : Location) : Prop := l.text.toList.head? = some '/'

variable {l root : Location} {part : String}

/-- A part that is not absolute goes below. -/
theorem parts_push (h : part.toList.head? ≠ some '/') :
    (l.push part).parts = l.parts ++ partsOf part.toList := by
  rw [push, if_neg h]
  split
  · next hend =>
    rw [Bool.or_eq_true, String.isEmpty_iff, decide_eq_true_eq] at hend
    rw [parts_eq, parts_eq, String.toList_append]
    rcases hend with hempty | hslash
    · rw [hempty]
      rfl
    · obtain ⟨before, hbefore⟩ := List.getLast?_eq_some_iff.1 hslash
      rw [hbefore, List.append_assoc, List.singleton_append, partsOf_append, partsOf_append]
      exact congrArg (· ++ _) (List.append_nil _).symm
  · rw [parts_eq, parts_eq, String.toList_append, String.toList_append, List.append_assoc]
    exact partsOf_append _ _

theorem isAbsolute_push (h : part.toList.head? ≠ some '/') :
    (l.push part).IsAbsolute ↔ l.IsAbsolute := by
  rw [push, if_neg h, IsAbsolute, IsAbsolute]
  cases hl : l.text.toList with
  | nil =>
    have hempty : l.text = "" := String.toList_inj.1 hl
    simp [hempty, h]
  | cons c rest => split <;> simp [String.toList_append, hl]

/-- An absolute part replaces what was there. -/
theorem push_of_absolute (h : part.toList.head? = some '/') : l.push part = ⟨part⟩ := if_pos h

/-- A location below another one: further down, and without going up in between. -/
structure IsBelow (l root : Location) : Prop where
  absolute : l.IsAbsolute ↔ root.IsAbsolute
  parts : ∃ below ≠ [], ".." ∉ below ∧ l.parts = root.parts ++ below

/-- No location is below itself. -/
theorem not_isBelow_self (l : Location) : ¬ l.IsBelow l := by
  rintro ⟨_, below, hbelow, _, hparts⟩
  exact hbelow (List.append_cancel_left (hparts.symm.trans (List.append_nil _).symm))

end Location

/-- Parts without `..` stay as they are when a path is resolved. -/
theorem FileTree.resolve_append {above below : List String} (h : ".." ∉ below) :
    resolve (above ++ below) = resolve above ++ below := by
  rw [resolve, resolve, List.foldl_append]
  generalize List.foldl _ [] above = start
  induction below generalizing start with
  | nil => exact (List.append_nil _).symm
  | cons part rest ih =>
    obtain ⟨hpart, hrest⟩ := not_or.1 (mt List.mem_cons.2 h)
    rw [List.foldl_cons, if_neg (Ne.symm hpart), ih hrest, List.append_assoc]
    rfl

theorem FileTree.resolve_of_plain {parts : List String} (h : ".." ∉ parts) :
    resolve parts = parts := by
  have happend : resolve ([] ++ parts) = resolve [] ++ parts := resolve_append h
  exact happend

end Artifact

/-! ## Packages -/

namespace DirArtifacts

open Artifact Text

/-- The dotted segments of a package, empty ones left out. -/
def segments (package : String) : List (List Char) :=
  (fields '.' package.toList).filter (!·.isEmpty)

/-- A package without a segment that is an absolute path. -/
def IsRelative (package : String) : Prop := ∀ s ∈ segments package, s.head? ≠ some '/'

instance : DecidablePred IsRelative := fun package =>
  inferInstanceAs (Decidable (∀ s ∈ segments package, s.head? ≠ some '/'))

/-- The directories that a package spells. -/
def pieces (package : String) : List String := (segments package).flatMap Location.partsOf

/-- The name of the file of an artifact. -/
def fileName (name : String) : String := name ++ ".rs"

variable {root : Location} {package name : String}

theorem pathFor_eq (root : Location) (package name : String) :
    pathFor root package name =
      ((segments package).foldl (fun l s => l.push (String.ofList s)) root).push
        (fileName name) := rfl

/-- What a package spells has no dots. -/
theorem dot_not_mem_of_mem_pieces {piece : String} (h : piece ∈ pieces package) :
    '.' ∉ piece.toList := by
  obtain ⟨s, hs, hpiece⟩ := List.mem_flatMap.1 h
  obtain ⟨f, hf, rfl⟩ := List.mem_map.1 (List.mem_filter.1 hpiece).1
  rw [String.toList_ofList]
  intro hdot
  have hsegment := not_sep_of_mem_fieldsBy (List.mem_filter.1 hs).1 '.'
    (mem_of_mem_fieldsBy hf _ hdot)
  exact absurd hsegment (by decide)

theorem up_not_mem_pieces : ".." ∉ pieces package :=
  fun h => dot_not_mem_of_mem_pieces h (by decide)

theorem parts_foldl_push {segs : List (List Char)} (h : ∀ s ∈ segs, s.head? ≠ some '/') :
    (segs.foldl (fun l s => l.push (String.ofList s)) root).parts =
      root.parts ++ segs.flatMap Location.partsOf := by
  induction segs generalizing root with
  | nil => exact (List.append_nil _).symm
  | cons s rest ih =>
    obtain ⟨hs, hrest⟩ := List.forall_mem_cons.1 h
    have hpush : (root.push (String.ofList s)).parts = root.parts ++ Location.partsOf s := by
      rw [Location.parts_push (by rwa [String.toList_ofList]), String.toList_ofList]
    rw [List.foldl_cons, ih hrest, hpush, List.flatMap_cons, List.append_assoc]

theorem isAbsolute_foldl_push {segs : List (List Char)} (h : ∀ s ∈ segs, s.head? ≠ some '/') :
    (segs.foldl (fun l s => l.push (String.ofList s)) root).IsAbsolute ↔ root.IsAbsolute := by
  induction segs generalizing root with
  | nil => rfl
  | cons s rest ih =>
    obtain ⟨hs, hrest⟩ := List.forall_mem_cons.1 h
    rw [List.foldl_cons, ih hrest, Location.isAbsolute_push (by rwa [String.toList_ofList])]

/-- After an absolute segment it does not matter where the path began. -/
theorem foldl_push_congr {segs : List (List Char)} (h : ∃ s ∈ segs, s.head? = some '/')
    (root root' : Location) :
    segs.foldl (fun l s => l.push (String.ofList s)) root =
      segs.foldl (fun l s => l.push (String.ofList s)) root' := by
  induction segs generalizing root root' with
  | nil =>
    obtain ⟨_, hs, _⟩ := h
    exact absurd hs List.not_mem_nil
  | cons s rest ih =>
    rw [List.foldl_cons, List.foldl_cons]
    rcases (List.exists_mem_cons_iff ..).1 h with hs | hrest
    · have habsolute : (String.ofList s).toList.head? = some '/' := by rwa [String.toList_ofList]
      rw [Location.push_of_absolute habsolute, Location.push_of_absolute habsolute]
    · exact ih hrest _ _

/-! ## Files -/

theorem head?_fileName (hname : '/' ∉ name.toList) : (fileName name).toList.head? ≠ some '/' := by
  rw [fileName, String.toList_append]
  cases hn : name.toList with
  | nil => decide
  | cons c rest =>
    rintro heq
    rw [hn, Option.some.inj heq] at hname
    exact hname List.mem_cons_self

theorem partsOf_fileName (hname : '/' ∉ name.toList) :
    Location.partsOf (fileName name).toList = [fileName name] := by
  have hslash : '/' ∉ (fileName name).toList := by
    rw [fileName, String.toList_append, List.mem_append, not_or]
    exact ⟨hname, by decide⟩
  have hlength : 3 ≤ (fileName name).toList.length := by
    rw [fileName, String.toList_append, List.length_append]
    exact Nat.le_add_left 3 _
  rw [Location.partsOf_eq_singleton hslash ⟨?_, ?_⟩, String.ofList_toList]
  · intro heq
    rw [heq] at hlength
    exact absurd hlength (by decide)
  · intro heq
    rw [heq] at hlength
    exact absurd hlength (by decide)

theorem up_ne_fileName : ".." ≠ fileName name := by
  intro heq
  have hlast := congrArg (fun s : String => s.toList.getLast?) heq
  simp [fileName] at hlast

/-- The file of an artifact with a relative package. -/
theorem parts_pathFor (hpackage : IsRelative package) (hname : '/' ∉ name.toList) :
    (pathFor root package name).parts = root.parts ++ (pieces package ++ [fileName name]) := by
  rw [pathFor_eq, Location.parts_push (head?_fileName hname), parts_foldl_push hpackage,
    partsOf_fileName hname, List.append_assoc]
  rfl

theorem up_not_mem_below : ".." ∉ pieces package ++ [fileName name] := by
  rw [List.mem_append, not_or, List.mem_singleton]
  exact ⟨up_not_mem_pieces, up_ne_fileName⟩

/-- A relative package keeps its artifacts below the root. -/
theorem isBelow_pathFor (hpackage : IsRelative package) (hname : '/' ∉ name.toList) :
    (pathFor root package name).IsBelow root where
  absolute := by
    rw [pathFor_eq, Location.isAbsolute_push (head?_fileName hname),
      isAbsolute_foldl_push hpackage]
  parts := ⟨_, List.append_ne_nil_of_right_ne_nil _ (List.cons_ne_nil _ _), up_not_mem_below,
    parts_pathFor hpackage hname⟩

/-- The packages that keep their artifacts below any root are the relative ones. -/
theorem isRelative_iff (hname : '/' ∉ name.toList) :
    IsRelative package ↔ ∀ root, (pathFor root package name).IsBelow root := by
  constructor
  · exact fun hpackage root => isBelow_pathFor hpackage hname
  · intro h
    by_contra hpackage
    have habsolute : ∃ s ∈ segments package, s.head? = some '/' := by
      simpa [IsRelative] using hpackage
    -- one file for all roots, so also for the root that is this file
    have hsame : ∀ root root', pathFor root package name = pathFor root' package name := by
      intro root root'
      rw [pathFor_eq, pathFor_eq, foldl_push_congr habsolute root root']
    have hbelow := h (pathFor ⟨""⟩ package name)
    rw [hsame _ ⟨""⟩] at hbelow
    exact Location.not_isBelow_self _ hbelow

example : pathFor ⟨"out"⟩ "/tmp/x" "MachineValidator" = ⟨"/tmp/x/MachineValidator.rs"⟩ := by
  decide +kernel

/-- Below one root, the pieces of the package and the name determine the file, and the file
determines them. -/
theorem resolve_pathFor_eq_iff {package' name' : String} (hpackage : IsRelative package)
    (hpackage' : IsRelative package') (hname : '/' ∉ name.toList) (hname' : '/' ∉ name'.toList) :
    FileTree.resolve (pathFor root package name).parts =
        FileTree.resolve (pathFor root package' name').parts ↔
      pieces package = pieces package' ∧ name = name' := by
  rw [parts_pathFor hpackage hname, parts_pathFor hpackage' hname',
    FileTree.resolve_append up_not_mem_below, FileTree.resolve_append up_not_mem_below,
    List.append_cancel_left_eq, List.append_singleton_inj, fileName, fileName]
  refine and_congr_right' ⟨fun h => ?_, fun h => h ▸ rfl⟩
  have hchars := congrArg String.toList h
  rw [String.toList_append, String.toList_append, List.append_left_inj] at hchars
  exact String.toList_inj.1 hchars

end DirArtifacts

end ValidatorForge
