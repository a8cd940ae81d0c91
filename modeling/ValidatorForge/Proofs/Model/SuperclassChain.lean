import Mathlib.Data.List.Chain
import ValidatorForge.Proofs.Model.Subtyping

/-!
# The chain of superclasses

`IsSuperclassPath` describes a list of classes that goes from a name up the superclasses and names
no class twice.  There is at most one way to go on from each class, so all these lists are prefixes
of one longest list, and that is `superclassChain`.

* `isSuperclassPath_chainFrom` and `IsSuperclassPath.prefix_chainFrom`: a chain is such a list, and
  all others are prefixes of it.
* `SuperclassWalk` takes one class after the other.  A turn keeps `Leads`, and passes a declared
  class that was not passed before; so a walk ends, and it ends with the chain (`Leads.chain?_eq`).
* `chainFrom_of_return`: a chain that comes back to the class below it ends there.
-/

namespace ValidatorForge

namespace TypeUniverse

variable {u : TypeUniverse} {seen : List TypeName} {name parent : TypeName} {d e : ClassDecl}

/-! ## The first class of a chain -/

/-- A chain begins with the declaration of its first class, unless that was seen. -/
theorem chainFrom_of_find? (hfind : u.find? name = some d) (hnew : name ∉ seen) :
    u.chainFrom seen name = d :: match d.superclass with
      | some parent => u.chainFrom (name :: seen) parent
      | none => [] := by
  obtain rfl := name_of_find? hfind
  rw [chainFrom]
  split
  · next hnone => simp [hnone] at hfind
  · next d' hfind' =>
    obtain rfl := Option.some.inj (hfind.symm.trans hfind')
    rw [dif_neg hnew]
    cases d.superclass <;> rfl

theorem chainFrom_of_seen (hseen : name ∈ seen) : u.chainFrom seen name = [] := by
  rw [chainFrom]
  split
  · rfl
  · next d hfind => rw [dif_pos (name_of_find? hfind ▸ hseen)]

theorem chainFrom_of_undeclared (hnone : u.find? name = none) : u.chainFrom seen name = [] := by
  rw [chainFrom]
  split
  · rfl
  · next hfind => simp [hnone] at hfind

theorem mem_superclassChain_self (hfind : u.find? name = some d) :
    d ∈ u.superclassChain name := by
  rw [superclassChain, chainFrom_of_find? hfind List.not_mem_nil]
  exact List.mem_cons_self

/-! ## Paths up the superclasses -/

/-- The superclass of a class is declared, as the other class. -/
def HasSuperclass (u : TypeUniverse) (d e : ClassDecl) : Prop :=
  ∃ parent, d.superclass = some parent ∧ u.find? parent = some e

/-- A list of classes begins with the one that is declared under a name, each class in it is
followed by its superclass, and no name is repeated. -/
structure IsSuperclassPath (u : TypeUniverse) (name : TypeName) (ds : List ClassDecl) : Prop where
  starts : ∀ d ∈ ds.head?, u.find? name = some d
  linked : ds.IsChain u.HasSuperclass
  distinct : (ds.map (·.name)).Nodup

theorem isSuperclassPath_nil : u.IsSuperclassPath name [] where
  starts := by simp
  linked := List.isChain_nil
  distinct := List.nodup_nil

/-- A path goes on from its first class as one from the superclass, which keeps away from that
class. -/
theorem isSuperclassPath_cons_iff {ds : List ClassDecl} (hfind : u.find? name = some d) :
    u.IsSuperclassPath name (d :: ds) ↔
      ds = [] ∨ ∃ parent, d.superclass = some parent ∧ u.IsSuperclassPath parent ds ∧
        ∀ e ∈ ds, e.name ≠ name := by
  have hname : d.name = name := name_of_find? hfind
  constructor
  · intro h
    cases ds with
    | nil => exact Or.inl rfl
    | cons e rest =>
      obtain ⟨hlink, hlinked⟩ := List.isChain_cons_cons.1 h.linked
      obtain ⟨parent, hparent, he⟩ := hlink
      obtain ⟨hfresh, hdistinct⟩ := List.nodup_cons.1 h.distinct
      refine Or.inr ⟨parent, hparent, ⟨?_, hlinked, hdistinct⟩, fun e' he' heq => hfresh ?_⟩
      · intro first hfirst
        rw [List.head?_cons, Option.mem_some_iff] at hfirst
        rw [← hfirst, he]
      · exact List.mem_map.2 ⟨e', he', heq.trans hname.symm⟩
  · intro h
    have hstarts : ∀ d' ∈ (d :: ds).head?, u.find? name = some d' := by
      intro d' hd'
      rw [List.head?_cons, Option.mem_some_iff] at hd'
      rw [← hd', hfind]
    rcases h with rfl | ⟨parent, hparent, hpath, haway⟩
    · exact ⟨hstarts, List.isChain_singleton d, List.pairwise_singleton _ _⟩
    · refine ⟨hstarts, List.isChain_cons.2 ⟨?_, hpath.linked⟩, List.nodup_cons.2 ⟨?_, ?_⟩⟩
      · exact fun e he => ⟨parent, hparent, hpath.starts e he⟩
      · intro hmem
        obtain ⟨e, he, heq⟩ := List.mem_map.1 hmem
        exact haway e he (heq.trans hname)
      · exact hpath.distinct

/-- A chain is a path that keeps away from what was seen. -/
theorem isSuperclassPath_chainFrom (u : TypeUniverse) (seen : List TypeName) (name : TypeName) :
    u.IsSuperclassPath name (u.chainFrom seen name) ∧
      ∀ d ∈ u.chainFrom seen name, d.name ∉ seen := by
  fun_induction chainFrom u seen name with
  | case1 => exact ⟨isSuperclassPath_nil, List.forall_mem_nil _⟩
  | case2 => exact ⟨isSuperclassPath_nil, List.forall_mem_nil _⟩
  | case3 seen name d hfind hnew hnone =>
    exact ⟨(isSuperclassPath_cons_iff hfind).2 (Or.inl rfl), List.forall_mem_singleton.2 hnew⟩
  | case4 seen name d hfind hnew parent hparent ih =>
    obtain ⟨hpath, haway⟩ := ih
    have hbelow : ∀ e ∈ u.chainFrom (d.name :: seen) parent, e.name ≠ d.name ∧ e.name ∉ seen :=
      fun e he => not_or.1 (mt List.mem_cons.2 (haway e he))
    constructor
    · refine (isSuperclassPath_cons_iff hfind).2 (Or.inr ⟨parent, hparent, hpath, ?_⟩)
      exact fun e he => name_of_find? hfind ▸ (hbelow e he).1
    · exact List.forall_mem_cons.2 ⟨hnew, fun e he => (hbelow e he).2⟩

namespace IsSuperclassPath

variable {ds : List ClassDecl}

/-- A path that keeps away from what was seen is the beginning of the chain. -/
theorem prefix_chainFrom (h : u.IsSuperclassPath name ds) (haway : ∀ d ∈ ds, d.name ∉ seen) :
    ds <+: u.chainFrom seen name := by
  induction ds generalizing seen name with
  | nil => exact List.nil_prefix
  | cons d rest ih =>
    have hfind : u.find? name = some d := h.starts d rfl
    obtain ⟨hnew, hrest⟩ := List.forall_mem_cons.1 haway
    rw [chainFrom_of_find? hfind (name_of_find? hfind ▸ hnew), List.cons_prefix_cons]
    refine ⟨rfl, ?_⟩
    rcases (isSuperclassPath_cons_iff hfind).1 h with rfl | ⟨parent, hparent, hpath, hbelow⟩
    · exact List.nil_prefix
    · rw [hparent]
      refine ih hpath fun e he => ?_
      rw [List.mem_cons, not_or]
      exact ⟨hbelow e he, hrest e he⟩

/-- The classes of a path are supertypes of the first one. -/
theorem inherits (h : u.IsSuperclassPath name ds) (hd : d ∈ ds) : u.Inherits name d.name := by
  induction ds generalizing name with
  | nil => exact absurd hd List.not_mem_nil
  | cons first rest ih =>
    have hfind : u.find? name = some first := h.starts first rfl
    rcases List.mem_cons.1 hd with rfl | hrest
    · rw [name_of_find? hfind]
      exact Relation.ReflTransGen.refl
    · rcases (isSuperclassPath_cons_iff hfind).1 h with rfl | ⟨parent, hparent, hpath, _⟩
      · exact absurd hrest List.not_mem_nil
      · refine Relation.ReflTransGen.head ?_ (ih hpath hrest)
        rw [Extends, directSupertypes_of_find? hfind, ClassDecl.supertypes, hparent]
        exact List.mem_append_left _ (List.mem_singleton.2 rfl)

end IsSuperclassPath

/-! ## Chains that return -/

/-- A chain above a class is the same whether that class was seen or not, except that it may come
back to the class.  The superclass was passed by then, so the chain ends there. -/
theorem chainFrom_of_return (hd : u.find? d.name = some d) (hparent : d.superclass = some parent)
    (seen : List TypeName) (name : TypeName) (hname : name = parent ∨ parent ∈ seen)
    {seen' : List TypeName} (hseen' : ∀ n, n ∈ seen' ↔ n = d.name ∨ n ∈ seen) :
    u.chainFrom seen name = u.chainFrom seen' name ∨
      u.chainFrom seen name = u.chainFrom seen' name ++ [d] := by
  by_cases hold : name ∈ seen
  · rw [chainFrom_of_seen hold, chainFrom_of_seen ((hseen' name).2 (Or.inr hold))]
    exact Or.inl rfl
  by_cases hself : name = d.name
  · have hback : parent ∈ d.name :: seen := by
      rcases hname with rfl | hparent'
      · exact hself ▸ List.mem_cons_self
      · exact List.mem_cons_of_mem _ hparent'
    rw [hself, chainFrom_of_seen ((hseen' d.name).2 (Or.inl rfl)),
      chainFrom_of_find? hd (hself ▸ hold), hparent]
    refine Or.inr ?_
    show d :: u.chainFrom (d.name :: seen) parent = [d]
    rw [chainFrom_of_seen hback]
  cases hfind : u.find? name with
  | none =>
    rw [chainFrom_of_undeclared hfind, chainFrom_of_undeclared hfind]
    exact Or.inl rfl
  | some e =>
    have hnew' : name ∉ seen' := fun h => (hseen' name).1 h |>.elim hself hold
    rw [chainFrom_of_find? hfind hold, chainFrom_of_find? hfind hnew']
    cases hnext : e.superclass with
    | none => exact Or.inl rfl
    | some next =>
      have hseenParent : parent ∈ name :: seen := by
        rcases hname with rfl | hparent'
        · exact List.mem_cons_self
        · exact List.mem_cons_of_mem _ hparent'
      have hmem : ∀ n, n ∈ name :: seen' ↔ n = d.name ∨ n ∈ name :: seen := by
        intro n
        rw [List.mem_cons, List.mem_cons, hseen']
        exact or_left_comm
      have hrest := chainFrom_of_return hd hparent (name :: seen) next (Or.inr hseenParent) hmem
      exact hrest.imp (congrArg (e :: ·)) (congrArg (e :: ·))
termination_by u.unvisited seen
decreasing_by exact unvisited_cons_lt (mem_names_of_find? hfind) hold

theorem unvisited_nil (u : TypeUniverse) : u.unvisited [] = u.size := by
  have hall : (u.names.filter fun n => n ∉ ([] : List TypeName)) = u.names :=
    List.filter_eq_self.2 fun n _ => by simp
  rw [unvisited, hall]
  exact List.length_map _

end TypeUniverse

/-! ## Walking up the superclasses -/

/-- A walk up the superclasses: the classes that it has passed, and the one that it has come to. -/
structure SuperclassWalk where
  passed : List ClassDecl
  next : Option ClassDecl

namespace SuperclassWalk

variable {u : TypeUniverse} {name : TypeName} {w w' : SuperclassWalk}

/-- The walk from a name, before its first turn. -/
def start (u : TypeUniverse) (name : TypeName) : SuperclassWalk := ⟨[], u.find? name⟩

/-- One turn of the walk: the classes that it has passed, if it ends, or the walk that goes on.  It
ends where there is no superclass, or none that is declared, and at a name that it has passed. -/
def turn (u : TypeUniverse) : SuperclassWalk → List ClassDecl ⊕ SuperclassWalk
  | ⟨passed, none⟩ => .inl passed
  | ⟨passed, some d⟩ =>
    if passed.any (·.name == d.name) then .inl passed
    else .inr ⟨passed ++ [d], d.superclass.bind u.find?⟩

/-- What the walk has passed at its end, if it ends within so many turns. -/
def chain? (u : TypeUniverse) : Nat → SuperclassWalk → Option (List ClassDecl)
  | 0, _ => none
  | turns + 1, w =>
    match w.turn u with
    | .inl chain => some chain
    | .inr rest => rest.chain? u turns

/-- The names that the walk has passed, the last one first. -/
def seen (w : SuperclassWalk) : List TypeName := (w.passed.map (·.name)).reverse

/-- The chain that is still ahead. -/
def ahead (u : TypeUniverse) (w : SuperclassWalk) : List ClassDecl :=
  match w.next with
  | some d => u.chainFrom w.seen d.name
  | none => []

theorem seen_pass (w : SuperclassWalk) (d : ClassDecl) (next : Option ClassDecl) :
    seen ⟨w.passed ++ [d], next⟩ = d.name :: w.seen := by
  simp [seen]

theorem any_passed_iff {n : TypeName} : w.passed.any (·.name == n) = true ↔ n ∈ w.seen := by
  simp [seen, List.any_eq_true]

/-- How a walk goes on: it passes a class with a new name. -/
theorem turn_cases (h : w.turn u = .inr w') :
    ∃ d, w.next = some d ∧ d.name ∉ w.seen ∧ w' = ⟨w.passed ++ [d], d.superclass.bind u.find?⟩ := by
  obtain ⟨passed, next⟩ := w
  cases next with
  | none => cases h
  | some d =>
    rw [turn] at h
    split at h
    · cases h
    · next hnew => exact ⟨d, rfl, fun hseen => hnew (any_passed_iff.2 hseen), (Sum.inr.inj h).symm⟩

/-- How a walk ends: there is no class to pass, or its name is among the passed ones. -/
theorem end_cases {chain : List ClassDecl} (h : w.turn u = .inl chain) :
    chain = w.passed ∧ ∀ d ∈ w.next, d.name ∈ w.seen := by
  obtain ⟨passed, next⟩ := w
  cases next with
  | none => exact ⟨(Sum.inl.inj h).symm, by simp⟩
  | some d =>
    rw [turn] at h
    split at h
    · next hold =>
      refine ⟨(Sum.inl.inj h).symm, fun d' hd' => ?_⟩
      rw [← Option.some.inj hd']
      exact any_passed_iff.1 hold
    · cases h

/-- What a walk from a name keeps: what it has passed and what is ahead make up the chain. -/
structure Leads (u : TypeUniverse) (name : TypeName) (w : SuperclassWalk) : Prop where
  declared : ∀ d ∈ w.next, u.find? d.name = some d
  chain : u.superclassChain name = w.passed ++ w.ahead u

theorem leads_start (u : TypeUniverse) (name : TypeName) : Leads u name (start u name) where
  declared d hd := by
    rw [TypeUniverse.name_of_find? hd]
    exact hd
  chain := by
    cases hfind : u.find? name with
    | none => simp [ahead, start, hfind, TypeUniverse.superclassChain,
        TypeUniverse.chainFrom_of_undeclared hfind]
    | some d =>
      obtain rfl := TypeUniverse.name_of_find? hfind
      simp [ahead, start, hfind, seen, TypeUniverse.superclassChain]

theorem Leads.turn (hw : Leads u name w) (h : w.turn u = .inr w') : Leads u name w' := by
  obtain ⟨d, hnext, hnew, rfl⟩ := turn_cases h
  have hfind := hw.declared d hnext
  constructor
  · intro e he
    obtain ⟨parent, _, hparent⟩ := Option.bind_eq_some_iff.1 he
    rw [TypeUniverse.name_of_find? hparent]
    exact hparent
  · rw [hw.chain, ahead, ahead, hnext, seen_pass]
    show w.passed ++ u.chainFrom w.seen d.name = _
    rw [TypeUniverse.chainFrom_of_find? hfind hnew, List.append_assoc, List.singleton_append]
    cases hsuper : d.superclass with
    | none => rfl
    | some parent =>
      cases hparent : u.find? parent with
      | none =>
        simp only [Option.bind_some, hparent]
        rw [TypeUniverse.chainFrom_of_undeclared hparent]
      | some e =>
        obtain rfl := TypeUniverse.name_of_find? hparent
        simp only [Option.bind_some, hparent]

/-- A walk ends with the chain. -/
theorem Leads.eq_of_end (hw : Leads u name w) {chain : List ClassDecl} (h : w.turn u = .inl chain) :
    chain = u.superclassChain name := by
  obtain ⟨rfl, hseen⟩ := end_cases h
  rw [hw.chain, ahead]
  cases hnext : w.next with
  | none => exact (List.append_nil _).symm
  | some d =>
    show w.passed = w.passed ++ u.chainFrom w.seen d.name
    rw [TypeUniverse.chainFrom_of_seen (hseen d hnext), List.append_nil]

/-- Each turn that goes on passes a declared class that was not passed before. -/
theorem unvisited_turn_lt (hw : Leads u name w) (h : w.turn u = .inr w') :
    u.unvisited w'.seen < u.unvisited w.seen := by
  obtain ⟨d, hnext, hnew, rfl⟩ := turn_cases h
  rw [seen_pass]
  exact TypeUniverse.unvisited_cons_lt (TypeUniverse.mem_names_of_find? (hw.declared d hnext)) hnew

/-- A walk ends once it has passed all declared classes, and it ends with the chain. -/
theorem Leads.chain?_eq (hw : Leads u name w) {turns : Nat} (h : u.unvisited w.seen < turns) :
    w.chain? u turns = some (u.superclassChain name) := by
  induction turns generalizing w with
  | zero => exact absurd h (Nat.not_lt_zero _)
  | succ turns ih =>
    rw [chain?]
    cases hturn : w.turn u with
    | inl chain => exact congrArg some (hw.eq_of_end hturn)
    | inr rest =>
      have hless := unvisited_turn_lt hw hturn
      exact ih (hw.turn hturn) (by omega)

/-- From its start, a walk needs one turn more than there are declared classes. -/
theorem chain?_start (u : TypeUniverse) (name : TypeName) {turns : Nat} (h : u.size < turns) :
    (start u name).chain? u turns = some (u.superclassChain name) := by
  refine (leads_start u name).chain?_eq ?_
  show u.unvisited [] < turns
  rwa [TypeUniverse.unvisited_nil]

end SuperclassWalk

end ValidatorForge
