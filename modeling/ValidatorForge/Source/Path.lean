import ValidatorForge.Source.Token

/-!
# Paths of the emitted language

A path is a list of segments, absolute when it begins with `::`.  A segment may carry generic
arguments, which are kept as tokens.
-/

namespace ValidatorForge.Source

structure PathSegment where
  name : Ident
  arguments : List Token := []
deriving Repr

/-- A path such as `crate::com::acme::Manager` or `::std::vec::Vec`. -/
structure ModPath where
  absolute : Bool := false
  segments : List PathSegment
deriving Repr

namespace ModPath

/-- The path of one name. -/
def ofIdent (name : Ident) : ModPath := { segments := [⟨name, []⟩] }

/-- A relative path of plain names. -/
def relative (names : List Ident) : ModPath := { segments := names.map fun n => ⟨n, []⟩ }

/-- An absolute path of plain names. -/
def global (names : List Ident) : ModPath := { (relative names) with absolute := true }

instance : Inhabited ModPath := ⟨ofIdent default⟩

/-- The path of `name` below a path. -/
def child (p : ModPath) (name : Ident) : ModPath := { p with segments := p.segments ++ [⟨name, []⟩] }

/-- The path below a path that runs through `names`. -/
def descend (p : ModPath) (names : List Ident) : ModPath := names.foldl child p

/-- The names of the segments. -/
def names (p : ModPath) : List Ident := p.segments.map (·.name)

/-- The only name of a path of one segment. -/
def single? (p : ModPath) : Option Ident :=
  match p.absolute, p.segments with
  | false, [⟨name, []⟩] => some name
  | _, _ => none

private def separator : List Token := operator [':', ':']

private def segmentTokens : List PathSegment → List Token
  | [] => []
  | [s] => .ident s.name :: s.arguments
  | s :: rest => .ident s.name :: (s.arguments ++ separator ++ segmentTokens rest)

def tokens (p : ModPath) : List Token :=
  (if p.absolute then separator else []) ++ segmentTokens p.segments

/-- The path as it is printed. -/
def text (p : ModPath) : String := Source.text p.tokens

@[simp] theorem names_relative (names : List Ident) : (relative names).names = names := by
  simp [ModPath.names, relative, Function.comp_def]

/-! ## Lines -/

/-- A path whose generic arguments are on one line.  Its names always are. -/
def OneLine (p : ModPath) : Prop := ∀ s ∈ p.segments, Source.OneLine s.arguments

private theorem oneLine_segmentTokens {segments : List PathSegment} :
    Source.OneLine (segmentTokens segments) ↔ ∀ s ∈ segments, Source.OneLine s.arguments := by
  have hseparator : Source.OneLine separator := by decide
  fun_induction segmentTokens segments with
  | case1 => simp
  | case2 s => simp
  | case3 s rest _ ih => simp [ih, hseparator]

@[simp] theorem oneLine_tokens {p : ModPath} : Source.OneLine p.tokens ↔ p.OneLine := by
  have hmark : Source.OneLine (if p.absolute then separator else []) := by
    split <;> decide
  rw [tokens, oneLine_append, oneLine_segmentTokens, and_iff_right hmark, OneLine]

@[simp] theorem oneLine_child {p : ModPath} {name : Ident} :
    (p.child name).OneLine ↔ p.OneLine := by
  rw [OneLine, child, List.forall_mem_append, List.forall_mem_singleton, OneLine]
  exact and_iff_left oneLine_nil

@[simp] theorem oneLine_descend {p : ModPath} {names : List Ident} :
    (p.descend names).OneLine ↔ p.OneLine := by
  induction names generalizing p with
  | nil => rfl
  | cons n rest ih => exact ih.trans oneLine_child

@[simp] theorem oneLine_relative (names : List Ident) : (relative names).OneLine := by
  simp [OneLine, relative]

@[simp] theorem oneLine_global (names : List Ident) : (global names).OneLine := by
  simp [OneLine, global, relative]

end ModPath

end ValidatorForge.Source
