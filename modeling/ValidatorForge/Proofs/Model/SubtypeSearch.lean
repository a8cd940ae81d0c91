import Mathlib.Data.List.Nodup
import ValidatorForge.Proofs.Model.Subtyping

/-!
# Searching for one supertype

`isSubtype` is defined by the whole ancestry of a type.  To answer it, a search need not visit all
of that: `SubtypeSearch` takes one name after the other off a stack, passes over those that it has
visited, and stops as soon as it finds what it looks for.  Names on the stack may be repeated, and
may be undeclared.

* The end of a search.  A turn takes one name off the stack, and a declaration puts its supertypes
  there only once.  So the names on the stack and the supertypes that unvisited declarations list
  become fewer by exactly one in each turn (`work_turn`), whatever loops there are.
* Its answer.  `Follows` is kept by each turn (`Follows.turn`), and an answer that a search gives
  while it holds is right (`Follows.answer_iff`).
* `subtype_search_follows_declarations` puts the two together.
-/

namespace ValidatorForge

open Relation

/-! ## What the declarations link -/

namespace TypeUniverse

variable {u : TypeUniverse} {sub sup : TypeName}

/-- A declared type names another one as its superclass or as one of its interfaces. -/
inductive Declares (u : TypeUniverse) (sub sup : TypeName) : Prop
  | superclass {d : ClassDecl} (hdecl : u.find? sub = some d) (hsuper : d.superclass = some sup)
  | interface {d : ClassDecl} (hdecl : u.find? sub = some d) (hinterface : sup ∈ d.interfaces)

theorem declares_iff_extends : u.Declares sub sup ↔ u.Extends sub sup := by
  constructor
  · intro h
    cases h with
    | superclass hdecl hsuper =>
      rw [Extends, directSupertypes_of_find? hdecl, ClassDecl.supertypes, hsuper]
      exact List.mem_append_left _ (List.mem_singleton.2 rfl)
    | interface hdecl hinterface =>
      rw [Extends, directSupertypes_of_find? hdecl]
      exact List.mem_append_right _ hinterface
  · intro h
    cases hdecl : u.find? sub with
    | none =>
      rw [Extends, directSupertypes_of_undeclared hdecl] at h
      exact absurd h List.not_mem_nil
    | some d =>
      rw [Extends, directSupertypes_of_find? hdecl] at h
      rcases List.mem_append.1 h with hsuper | hinterface
      · exact .superclass hdecl (Option.mem_toList.1 hsuper)
      · exact .interface hdecl hinterface

/-- How many supertypes the declarations list, without those of the visited types. -/
def linksOutside (u : TypeUniverse) (visited : List TypeName) : Nat :=
  ((u.names.filter fun n => n ∉ visited).flatMap u.directSupertypes).length

/-- Visiting a type takes away the supertypes that it lists; an undeclared type lists none. -/
theorem linksOutside_cons (u : TypeUniverse) {visited : List TypeName} {name : TypeName}
    (hnew : name ∉ visited) :
    u.linksOutside visited =
      (u.directSupertypes name).length + u.linksOutside (name :: visited) := by
  have hnames : u.names.Nodup := u.classes.nodup
  have hfilter : (u.names.filter fun n => n ∉ name :: visited) =
      (u.names.filter fun n => n ∉ visited).erase name := by
    rw [(hnames.filter _).erase_eq_filter, List.filter_filter]
    refine List.filter_congr fun n _ => ?_
    by_cases hn : n = name <;> simp [hn]
  rw [linksOutside, linksOutside, hfilter]
  by_cases hdecl : name ∈ u.names
  · have hmem : name ∈ u.names.filter fun n => n ∉ visited := by simp [hdecl, hnew]
    rw [((List.perm_cons_erase hmem).flatMap_right _).length_eq, List.flatMap_cons,
      List.length_append]
  · have hnone : u.find? name = none := by
      by_contra hsome
      obtain ⟨d, hd⟩ := Option.ne_none_iff_exists'.1 hsome
      exact hdecl (mem_names_of_find? hd)
    have hmem : name ∉ u.names.filter fun n => n ∉ visited := by simp [hdecl]
    rw [List.erase_of_not_mem hmem, directSupertypes_of_undeclared hnone, List.length_nil,
      Nat.zero_add]

end TypeUniverse

/-! ## The search -/

/-- A search under way: the visited names, and the stack of pending ones with its top first. -/
structure SubtypeSearch where
  visited : List TypeName
  pending : List TypeName
deriving DecidableEq, Repr

namespace SubtypeSearch

variable {u : TypeUniverse} {sub sup : TypeName} {s s' : SubtypeSearch}

/-- The search above a type, before its first turn. -/
def start (sub : TypeName) : SubtypeSearch := ⟨[], [sub]⟩

/-- One turn of the search for `sup`: an answer, or the search that goes on.  The supertypes of a
name that is visited for the first time are pushed in their order, the superclass first. -/
def turn (u : TypeUniverse) (sup : TypeName) : SubtypeSearch → Bool ⊕ SubtypeSearch
  | ⟨_, []⟩ => .inl false
  | ⟨visited, name :: pending⟩ =>
    if name = sup then .inl true
    else if name ∈ visited then .inr ⟨visited, pending⟩
    else .inr ⟨name :: visited, (u.directSupertypes name).reverse ++ pending⟩

/-- The answer of the search, if it comes within so many turns. -/
def answer? (u : TypeUniverse) (sup : TypeName) : Nat → SubtypeSearch → Option Bool
  | 0, _ => none
  | turns + 1, s =>
    match s.turn u sup with
    | .inl answer => some answer
    | .inr rest => rest.answer? u sup turns

/-- How a search goes on: the top of the stack was visited before, or it is visited now. -/
theorem turn_cases (h : s.turn u sup = .inr s') :
    ∃ name pending, s.pending = name :: pending ∧ name ≠ sup ∧
      (name ∈ s.visited ∧ s' = ⟨s.visited, pending⟩ ∨
        name ∉ s.visited ∧
          s' = ⟨name :: s.visited, (u.directSupertypes name).reverse ++ pending⟩) := by
  obtain ⟨visited, pending⟩ := s
  cases pending with
  | nil => cases h
  | cons name pending =>
    refine ⟨name, pending, rfl, ?_⟩
    rw [turn] at h
    split at h
    · cases h
    · next hne =>
      split at h
      · next hseen => exact ⟨hne, Or.inl ⟨hseen, (Sum.inr.inj h).symm⟩⟩
      · next hnew => exact ⟨hne, Or.inr ⟨hnew, (Sum.inr.inj h).symm⟩⟩

/-- How a search answers: nothing is left on the stack, or `sup` is on top of it. -/
theorem answer_cases {answer : Bool} (h : s.turn u sup = .inl answer) :
    answer = false ∧ s.pending = [] ∨ answer = true ∧ sup ∈ s.pending := by
  obtain ⟨visited, pending⟩ := s
  cases pending with
  | nil => exact Or.inl ⟨(Sum.inl.inj h).symm, rfl⟩
  | cons name pending =>
    rw [turn] at h
    split at h
    · next heq => exact Or.inr ⟨(Sum.inl.inj h).symm, heq ▸ List.mem_cons_self⟩
    · split at h <;> cases h

/-! ## Its end -/

/-- How many names a search has still to take off its stack. -/
def work (u : TypeUniverse) (s : SubtypeSearch) : Nat := s.pending.length + u.linksOutside s.visited

/-- Each turn that goes on leaves one name less to be taken off the stack. -/
theorem work_turn (h : s.turn u sup = .inr s') : s.work u = s'.work u + 1 := by
  obtain ⟨name, pending, hpending, _, ⟨_, rfl⟩ | ⟨hnew, rfl⟩⟩ := turn_cases h
  · simp only [work, hpending, List.length_cons]
    omega
  · have hlinks := u.linksOutside_cons hnew
    simp only [work, hpending, List.length_cons, List.length_append, List.length_reverse]
    omega

/-- A search answers as soon as it has nothing left to do. -/
theorem exists_answer_of_work_lt (sup : TypeName) {turns : Nat} (h : s.work u < turns) :
    ∃ answer, s.answer? u sup turns = some answer := by
  induction turns generalizing s with
  | zero => exact absurd h (Nat.not_lt_zero _)
  | succ turns ih =>
    rw [answer?]
    cases hturn : s.turn u sup with
    | inl answer => exact ⟨answer, rfl⟩
    | inr rest =>
      have hless := work_turn hturn
      exact ih (by omega)

/-! ## Its answer -/

/-- What a search from `sub` for `sup` keeps: it has to visit ancestors of `sub` only, it loses none
of them, and it has not passed `sup`. -/
structure Follows (u : TypeUniverse) (sub sup : TypeName) (s : SubtypeSearch) : Prop where
  inherits : ∀ n ∈ s.pending, u.Inherits sub n
  begun : sub ∈ s.visited ∨ sub ∈ s.pending
  closed : ∀ n ∈ s.visited, ∀ m, u.Extends n m → m ∈ s.visited ∨ m ∈ s.pending
  missed : sup ∉ s.visited

theorem follows_start (u : TypeUniverse) (sub sup : TypeName) : Follows u sub sup (start sub) where
  inherits n hn := by
    rw [List.mem_singleton.1 hn]
    exact ReflTransGen.refl
  begun := Or.inr (List.mem_singleton.2 rfl)
  closed _ hn := absurd hn List.not_mem_nil
  missed := List.not_mem_nil

/-- What was visited or pending still is so after a turn. -/
theorem mem_turn (h : s.turn u sup = .inr s') {n : TypeName} (hn : n ∈ s.visited ∨ n ∈ s.pending) :
    n ∈ s'.visited ∨ n ∈ s'.pending := by
  obtain ⟨name, pending, hpending, _, ⟨hseen, rfl⟩ | ⟨_, rfl⟩⟩ := turn_cases h
  · rw [hpending, List.mem_cons] at hn
    rcases hn with hvisited | rfl | hrest
    · exact Or.inl hvisited
    · exact Or.inl hseen
    · exact Or.inr hrest
  · rw [hpending, List.mem_cons] at hn
    rcases hn with hvisited | rfl | hrest
    · exact Or.inl (List.mem_cons_of_mem _ hvisited)
    · exact Or.inl List.mem_cons_self
    · exact Or.inr (List.mem_append_right _ hrest)

theorem Follows.turn (hs : Follows u sub sup s) (h : s.turn u sup = .inr s') :
    Follows u sub sup s' := by
  have hmem : ∀ n, n ∈ s.visited ∨ n ∈ s.pending → n ∈ s'.visited ∨ n ∈ s'.pending :=
    fun n hn => mem_turn h hn
  obtain ⟨name, pending, hpending, hne, ⟨_, rfl⟩ | ⟨_, rfl⟩⟩ := turn_cases h
  · refine ⟨fun n hn => hs.inherits n ?_, hmem sub hs.begun, fun n hn m hnm => ?_, hs.missed⟩
    · exact hpending ▸ List.mem_cons_of_mem _ hn
    · exact hmem m (hs.closed n hn m hnm)
  · have hname : u.Inherits sub name := hs.inherits name (hpending ▸ List.mem_cons_self)
    refine ⟨fun n hn => ?_, hmem sub hs.begun, fun n hn m hnm => ?_, ?_⟩
    · rcases List.mem_append.1 hn with hsuper | hrest
      · exact hname.tail (List.mem_reverse.1 hsuper)
      · exact hs.inherits n (hpending ▸ List.mem_cons_of_mem _ hrest)
    · rcases List.mem_cons.1 hn with rfl | hold
      · exact Or.inr (List.mem_append_left _ (List.mem_reverse.2 hnm))
      · exact hmem m (hs.closed n hold m hnm)
    · rw [List.mem_cons, not_or]
      exact ⟨Ne.symm hne, hs.missed⟩

/-- A search with nothing pending has visited all ancestors. -/
theorem Follows.mem_visited (hs : Follows u sub sup s) (hpending : s.pending = []) {n : TypeName}
    (hn : u.Inherits sub n) : n ∈ s.visited := by
  have hvisited : ∀ m, m ∈ s.visited ∨ m ∈ s.pending → m ∈ s.visited := by
    intro m hm
    rw [hpending] at hm
    exact hm.resolve_right List.not_mem_nil
  induction hn with
  | refl => exact hvisited sub hs.begun
  | tail _ hext ih => exact hvisited _ (hs.closed _ ih _ hext)

/-- The answer of a turn is whether `sub` inherits from `sup`. -/
theorem Follows.answer_iff (hs : Follows u sub sup s) {answer : Bool}
    (h : s.turn u sup = .inl answer) : answer = true ↔ u.Inherits sub sup := by
  rcases answer_cases h with ⟨rfl, hpending⟩ | ⟨rfl, hfound⟩
  · refine ⟨fun hfalse => ?_, fun hinherits => ?_⟩
    · cases hfalse
    · exact absurd (hs.mem_visited hpending hinherits) hs.missed
  · exact iff_of_true rfl (hs.inherits sup hfound)

/-- So is the answer of the whole search. -/
theorem Follows.answer?_iff {turns : Nat} (hs : Follows u sub sup s) {answer : Bool}
    (h : s.answer? u sup turns = some answer) : answer = true ↔ u.Inherits sub sup := by
  induction turns generalizing s with
  | zero => cases h
  | succ turns ih =>
    rw [answer?] at h
    cases hturn : s.turn u sup with
    | inl found =>
      rw [hturn] at h
      obtain rfl := Option.some.inj h
      exact hs.answer_iff hturn
    | inr rest =>
      rw [hturn] at h
      exact ih (hs.turn hturn) h

end SubtypeSearch

namespace TypeUniverse

/-- A search for a supertype ends after at most two turns more than the declarations list
supertypes, and answers what `isSubtype` does: whether declarations lead from the one type to the
other, each naming the next type as its superclass or as one of its interfaces.  So each type is a
subtype of itself, and of what its supertypes are subtypes of. -/
theorem subtype_search_follows_declarations (u : TypeUniverse) :
    (∀ sub sup turns, u.linksOutside [] + 2 ≤ turns →
      (SubtypeSearch.start sub).answer? u sup turns = some (u.isSubtype sub sup)) ∧
    (∀ sub sup, u.isSubtype sub sup = true ↔ ReflTransGen u.Declares sub sup) ∧
    (∀ ty, u.isSubtype ty ty = true) ∧
    ∀ a b c, u.isSubtype a b = true → u.isSubtype b c = true → u.isSubtype a c = true := by
  have hdeclares : u.Declares = u.Extends :=
    funext fun sub => funext fun sup => propext declares_iff_extends
  refine ⟨fun sub sup turns hturns => ?_, fun sub sup => ?_, fun ty => ?_, fun a b c hab hbc => ?_⟩
  · have hwork : (SubtypeSearch.start sub).work u < turns := by
      show 1 + u.linksOutside [] < turns
      omega
    obtain ⟨answer, hanswer⟩ := SubtypeSearch.exists_answer_of_work_lt sup hwork
    have hright := (SubtypeSearch.follows_start u sub sup).answer?_iff hanswer
    rw [hanswer, Bool.eq_iff_iff.2 (hright.trans isSubtype_iff.symm)]
  · rw [isSubtype_iff, Inherits, hdeclares]
  · exact isSubtype_iff.2 ReflTransGen.refl
  · exact isSubtype_iff.2 ((isSubtype_iff.1 hab).trans (isSubtype_iff.1 hbc))

/-- Hens and eggs extend each other, and eggs are food, which is not declared.  A search that finds
nothing takes all the turns that the bound leaves to it. -/
example :
    let u := TypeUniverse.empty.insertAll
      [(ClassDecl.ofClass ⟨"acme.Hen"⟩).withSuperclass ⟨"acme.Egg"⟩,
       ((ClassDecl.ofClass ⟨"acme.Egg"⟩).withSuperclass ⟨"acme.Hen"⟩).withInterface ⟨"acme.Food"⟩]
    u.linksOutside [] = 3 ∧
      (SubtypeSearch.start ⟨"acme.Hen"⟩).answer? u ⟨"acme.Food"⟩ 5 = some true ∧
      (SubtypeSearch.start ⟨"acme.Hen"⟩).answer? u ⟨"acme.Robot"⟩ 4 = none ∧
      (SubtypeSearch.start ⟨"acme.Hen"⟩).answer? u ⟨"acme.Robot"⟩ 5 = some false := by
  decide

end TypeUniverse

end ValidatorForge
