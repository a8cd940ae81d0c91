import ValidatorForge.Proofs.Model.OrderStability
import ValidatorForge.Sample.Fleet

/-!
# Which items change places

Ordering moves an item to the front of the first of its supertypes that was placed before it.  What
stands between that supertype and the end is then behind the item, whether it is related to it or
not.  Of two distinct items, `[a, b].Sublist l` says that `a` stands before `b` in `l`.

* One insertion.  The new item stands before an old one exactly if a supertype of the new item is
  the old one or stands before it (`pair_sublist_insertBefore_iff`).
* The whole order.  Later items change nothing among the earlier ones
  (`filter_orderBySpecificity_append`), so a pair is decided when its second item is placed
  (`pair_sublist_orderBySpecificity_iff`).
* Types that do not inherit from each other.  They keep their order unless the second is carried
  over the first with one of its supertypes (`unrelated_order_kept_iff`).  That does happen
  (`unrelated_types_change_places`), and no order with subtypes first could avoid it
  (`no_order_keeps_unrelated_pairs`).
-/

namespace ValidatorForge

open Relation

/-! ## Pairs -/

section Pairs

variable {α : Type} {a b c x : α} {l : List α}

theorem pair_sublist_cons_iff : [a, b].Sublist (x :: l) ↔ [a, b].Sublist l ∨ a = x ∧ b ∈ l := by
  rw [List.cons_sublist_cons', List.singleton_sublist]

/-- Two distinct elements stand in one order or the other. -/
theorem pair_sublist_or (ha : a ∈ l) (hb : b ∈ l) (hne : a ≠ b) :
    [a, b].Sublist l ∨ [b, a].Sublist l := by
  induction l with
  | nil => exact absurd ha List.not_mem_nil
  | cons x rest ih =>
    rw [pair_sublist_cons_iff, pair_sublist_cons_iff]
    rcases List.mem_cons.1 ha with hax | ha
    · have hb : b ∈ rest := (List.mem_cons.1 hb).resolve_left fun hbx => hne (hax.trans hbx.symm)
      exact Or.inl (Or.inr ⟨hax, hb⟩)
    · rcases List.mem_cons.1 hb with hbx | hb
      · exact Or.inr (Or.inr ⟨hbx, ha⟩)
      · exact (ih ha hb).imp Or.inl Or.inl

/-- Without repeats, the elements before another one are those of the list up to it. -/
theorem pair_sublist_append_cons_iff {before after : List α}
    (hnodup : (before ++ b :: after).Nodup) :
    [a, b].Sublist (before ++ b :: after) ↔ a ∈ before := by
  induction before with
  | nil =>
    have hlast : b ∉ after := (List.nodup_cons.1 hnodup).1
    rw [List.nil_append, pair_sublist_cons_iff]
    refine ⟨fun h => ?_, fun h => absurd h List.not_mem_nil⟩
    rcases h with h | ⟨_, hb⟩
    · exact absurd (h.subset (by simp)) hlast
    · exact absurd hb hlast
  | cons x rest ih =>
    rw [List.cons_append, pair_sublist_cons_iff, ih (List.nodup_cons.1 hnodup).2, List.mem_cons]
    simp [or_comm]

/-- An element that stands before another one is in the list up to it. -/
theorem exists_append_of_pair_sublist (h : [a, b].Sublist l) :
    ∃ before after, l = before ++ b :: after ∧ a ∈ before := by
  obtain ⟨front, back, rfl, ha, hback⟩ := List.cons_sublist_iff.1 h
  obtain ⟨between, after, rfl⟩ := List.append_of_mem (List.singleton_sublist.1 hback)
  exact ⟨front ++ between, after, (List.append_assoc _ _ _).symm, List.mem_append_left _ ha⟩

theorem pair_sublist_trans (hnodup : l.Nodup) (hab : [a, b].Sublist l) (hbc : [b, c].Sublist l) :
    [a, c].Sublist l := by
  obtain ⟨before, after, rfl, hb⟩ := exists_append_of_pair_sublist hbc
  rw [pair_sublist_append_cons_iff hnodup]
  obtain ⟨front, between, rfl⟩ := List.append_of_mem hb
  have ha : a ∈ front := by
    rw [List.append_assoc, List.cons_append] at hab hnodup
    exact (pair_sublist_append_cons_iff hnodup).1 hab
  exact List.mem_append_left _ ha

/-- Without repeats, no two elements stand before each other. -/
theorem pair_sublist_asymm (hnodup : l.Nodup) (hab : [a, b].Sublist l) : ¬ [b, a].Sublist l := by
  intro hba
  exact List.pairwise_iff_forall_sublist.1 hnodup (pair_sublist_trans hnodup hab hba) rfl

/-- A new item that is inserted stands before an old one exactly if it was put before that one, or
before another in front of it. -/
theorem pair_sublist_insertBefore_iff {p : α → Bool} (hnew : x ∉ l) :
    [x, a].Sublist (insertBefore p x l) ↔
      ∃ y ∈ l, p y = true ∧ (y = a ∨ [y, a].Sublist l) := by
  induction l with
  | nil =>
    refine ⟨fun h => ?_, fun hex => ?_⟩
    · exact absurd h.length_le (by simp [insertBefore])
    · obtain ⟨y, hy, _⟩ := hex
      exact absurd hy List.not_mem_nil
  | cons z rest ih =>
    rw [List.mem_cons, not_or] at hnew
    obtain ⟨hxz, hnew⟩ := hnew
    rw [insertBefore]
    split
    · next hpz =>
      -- the new item stands before all others, and `z` before all but itself
      rw [pair_sublist_cons_iff]
      constructor
      · intro h
        rcases h with h | ⟨_, ha⟩
        · exact absurd (h.subset List.mem_cons_self) (by simp [hxz, hnew])
        · refine ⟨z, List.mem_cons_self, hpz, ?_⟩
          rcases List.mem_cons.1 ha with rfl | ha
          · exact Or.inl rfl
          · exact Or.inr (pair_sublist_cons_iff.2 (Or.inr ⟨rfl, ha⟩))
      · intro hex
        obtain ⟨y, hy, _, rfl | hya⟩ := hex
        · exact Or.inr ⟨rfl, hy⟩
        · exact Or.inr ⟨rfl, hya.subset (by simp)⟩
    · next hpz =>
      rw [pair_sublist_cons_iff, ih hnew]
      constructor
      · intro h
        rcases h with ⟨y, hy, hpy, hya⟩ | ⟨rfl, _⟩
        · exact ⟨y, List.mem_cons_of_mem _ hy, hpy, hya.imp_right fun h => h.cons z⟩
        · exact absurd rfl hxz
      · intro hex
        obtain ⟨y, hy, hpy, hya⟩ := hex
        have hyz : y ≠ z := fun heq => hpz (heq ▸ hpy)
        refine Or.inl ⟨y, (List.mem_cons.1 hy).resolve_left hyz, hpy, hya.imp_right fun h => ?_⟩
        exact (pair_sublist_cons_iff.1 h).resolve_right fun heq => hyz heq.1

end Pairs

namespace TypeUniverse

variable {u : TypeUniverse} {α : Type} {name : α → TypeName} {a b : α}

/-! ## The whole order -/

/-- The last item is inserted into the order of the others. -/
theorem orderBySpecificity_concat (u : TypeUniverse) (name : α → TypeName) (items : List α)
    (x : α) : u.orderBySpecificity name (items ++ [x]) =
      insertBefore (fun y => u.isProperSubtype (name x) (name y)) x
        (u.orderBySpecificity name items) := by
  rw [orderBySpecificity, List.foldl_append]
  rfl

theorem nodup_orderBySpecificity {items : List α} (h : items.Nodup) :
    (u.orderBySpecificity name items).Nodup :=
  (orderBySpecificity_perm u name items).nodup_iff.2 h

private theorem filter_foldl_insertBefore {q : α → Bool} {items placed : List α}
    (h : ∀ x ∈ items, q x = false) :
    (items.foldl
      (fun placed x => insertBefore (fun y => u.isProperSubtype (name x) (name y)) x placed)
      placed).filter q = placed.filter q := by
  induction items generalizing placed with
  | nil => rfl
  | cons x rest ih =>
    obtain ⟨hx, hrest⟩ := List.forall_mem_cons.1 h
    rw [List.foldl_cons, ih hrest, filter_insertBefore hx]

/-- Among themselves, the first items are ordered as if nothing came after them. -/
theorem filter_orderBySpecificity_append [DecidableEq α] {before after : List α}
    (hnodup : (before ++ after).Nodup) :
    (u.orderBySpecificity name (before ++ after)).filter (fun x => x ∈ before) =
      u.orderBySpecificity name before := by
  obtain ⟨_, _, hacross⟩ := List.nodup_append.1 hnodup
  have hlater : ∀ x ∈ after, decide (x ∈ before) = false :=
    fun x hx => decide_eq_false fun hbefore => hacross x hbefore x hx rfl
  rw [orderBySpecificity, List.foldl_append, filter_foldl_insertBefore hlater]
  refine List.filter_eq_self.2 fun x hx => decide_eq_true ?_
  exact (orderBySpecificity_perm u name before).mem_iff.1 hx

theorem pair_sublist_orderBySpecificity_append_iff {before after : List α}
    (hnodup : (before ++ after).Nodup) (ha : a ∈ before) (hb : b ∈ before) :
    [a, b].Sublist (u.orderBySpecificity name (before ++ after)) ↔
      [a, b].Sublist (u.orderBySpecificity name before) := by
  classical
  have hfilter : (u.orderBySpecificity name (before ++ after)).filter (fun x => x ∈ before) =
      u.orderBySpecificity name before := filter_orderBySpecificity_append hnodup
  constructor
  · intro h
    have hpair : [a, b].filter (fun x => x ∈ before) = [a, b] := by simp [ha, hb]
    rw [← hpair, ← hfilter]
    exact h.filter _
  · intro h
    rw [← hfilter] at h
    exact h.trans List.filter_sublist

/-- A later item stands before an earlier one exactly if it was put before that one, or before
another supertype of it in front of that one. -/
theorem pair_sublist_orderBySpecificity_iff {items : List α} (hnodup : items.Nodup)
    (hab : [a, b].Sublist items) :
    [b, a].Sublist (u.orderBySpecificity name items) ↔
      ∃ y, [y, b].Sublist items ∧ u.isProperSubtype (name b) (name y) = true ∧
        (y = a ∨ [y, a].Sublist (u.orderBySpecificity name items)) := by
  obtain ⟨before, after, rfl, ha⟩ := exists_append_of_pair_sublist hab
  have hnew : b ∉ u.orderBySpecificity name before := by
    rw [(orderBySpecificity_perm u name before).mem_iff]
    exact fun hb => (List.nodup_append.1 hnodup).2.2 b hb b List.mem_cons_self rfl
  have hplaced : ∀ y ∈ before, [y, a].Sublist (u.orderBySpecificity name (before ++ b :: after)) ↔
      [y, a].Sublist (u.orderBySpecificity name before) :=
    fun y hy => pair_sublist_orderBySpecificity_append_iff hnodup hy ha
  calc
    [b, a].Sublist (u.orderBySpecificity name (before ++ b :: after))
      ↔ [b, a].Sublist (u.orderBySpecificity name (before ++ [b])) := by
        rw [List.append_cons] at hnodup ⊢
        exact pair_sublist_orderBySpecificity_append_iff hnodup (by simp) (by simp [ha])
    _ ↔ ∃ y ∈ u.orderBySpecificity name before, u.isProperSubtype (name b) (name y) = true ∧
          (y = a ∨ [y, a].Sublist (u.orderBySpecificity name before)) := by
        rw [orderBySpecificity_concat, pair_sublist_insertBefore_iff hnew]
    _ ↔ ∃ y, [y, b].Sublist (before ++ b :: after) ∧
          u.isProperSubtype (name b) (name y) = true ∧
          (y = a ∨ [y, a].Sublist (u.orderBySpecificity name (before ++ b :: after))) := by
        refine exists_congr fun y => ?_
        rw [(orderBySpecificity_perm u name before).mem_iff, pair_sublist_append_cons_iff hnodup]
        exact and_congr_right fun hy => by rw [hplaced y hy]

/-- In an order in which no item stands after one of its strict supertypes, it stands before all of
them. -/
theorem SpecificFirst.pair_sublist {items : List α} (h : u.SpecificFirst name items)
    (ha : a ∈ items) (hb : b ∈ items) (hab : u.StrictlyInherits (name a) (name b)) :
    [a, b].Sublist items := by
  have hne : a ≠ b := by
    rintro rfl
    exact not_strictlyInherits_self _ hab
  refine (pair_sublist_or ha hb hne).resolve_right fun hba => ?_
  exact List.pairwise_iff_forall_sublist.1 h hba hab

/-! ## Unrelated types -/

/-- The item `b` is carried over `a`: a supertype that stands before `b` in the input stands before
`a` in the output. -/
def CarriedOver (u : TypeUniverse) (name : α → TypeName) (items : List α) (b a : α) : Prop :=
  ∃ y, [y, b].Sublist items ∧ u.isProperSubtype (name b) (name y) = true ∧
    [y, a].Sublist (u.orderBySpecificity name items)

section Unrelated

variable {items : List α} (hnodup : items.Nodup) (hab : [a, b].Sublist items)
  (hunrelated : ¬ u.Inherits (name b) (name a))

include hnodup hab

/-- The two items stand in one order exactly if they do not stand in the other. -/
theorem pair_sublist_orderBySpecificity_iff_not :
    [a, b].Sublist (u.orderBySpecificity name items) ↔
      ¬ [b, a].Sublist (u.orderBySpecificity name items) := by
  have hplaced : ∀ x ∈ [a, b], x ∈ u.orderBySpecificity name items :=
    fun x hx => (orderBySpecificity_perm u name items).mem_iff.2 (hab.subset hx)
  have hne : a ≠ b := List.pairwise_iff_forall_sublist.1 hnodup hab
  refine ⟨pair_sublist_asymm (nodup_orderBySpecificity hnodup), fun hnot => ?_⟩
  exact (pair_sublist_or (hplaced a (by simp)) (hplaced b (by simp)) hne).resolve_right hnot

include hunrelated

theorem pair_sublist_iff_carriedOver :
    [b, a].Sublist (u.orderBySpecificity name items) ↔ u.CarriedOver name items b a := by
  rw [pair_sublist_orderBySpecificity_iff hnodup hab]
  refine exists_congr fun y => and_congr_right fun _ => and_congr_right fun hproper => ?_
  refine or_iff_right ?_
  rintro rfl
  exact hunrelated (isProperSubtype_iff.1 hproper).2

/-- Supertypes that the two items share stand behind both. -/
theorem not_carriedOver_of_shared
    (hshared : ∀ y, [y, b].Sublist items → u.isProperSubtype (name b) (name y) = true →
      u.Inherits (name a) (name y)) : ¬ u.CarriedOver name items b a := by
  intro hcarried
  obtain ⟨y, hyb, hproper, hya⟩ := hcarried
  have hplaced : ∀ x ∈ items, x ∈ u.orderBySpecificity name items :=
    fun x hx => (orderBySpecificity_perm u name items).mem_iff.2 hx
  have hbelow : u.StrictlyInherits (name a) (name y) := by
    refine ⟨hshared y hyb hproper, fun hback => ?_⟩
    exact hunrelated ((isProperSubtype_iff.1 hproper).2.trans hback)
  have hay : [a, y].Sublist (u.orderBySpecificity name items) :=
    (specificFirst_orderBySpecificity u name items).pair_sublist (hplaced a (hab.subset (by simp)))
      (hplaced y (hyb.subset (by simp))) hbelow
  exact pair_sublist_asymm (nodup_orderBySpecificity hnodup) hay hya

end Unrelated

/-- Of two items, the second of which does not inherit from the first, the second gets to stand
before the first exactly if it is carried over it with one of its supertypes.  In particular they
keep their order if all supertypes before the second one are supertypes of the first one too. -/
theorem unrelated_order_kept_iff (u : TypeUniverse) (name : α → TypeName) {items : List α}
    (hnodup : items.Nodup) {a b : α} (hab : [a, b].Sublist items)
    (hunrelated : u.isSubtype (name b) (name a) = false) :
    ([a, b].Sublist (u.orderBySpecificity name items) ↔ ¬ u.CarriedOver name items b a) ∧
    ([b, a].Sublist (u.orderBySpecificity name items) ↔ u.CarriedOver name items b a) ∧
    ((∀ y, [y, b].Sublist items → u.isProperSubtype (name b) (name y) = true →
        u.isSubtype (name a) (name y) = true) →
      [a, b].Sublist (u.orderBySpecificity name items)) := by
  have hnot : ¬ u.Inherits (name b) (name a) := by
    rw [← isSubtype_iff, hunrelated]
    exact Bool.false_ne_true
  have hcarried := pair_sublist_iff_carriedOver hnodup hab hnot
  have hkept : [a, b].Sublist (u.orderBySpecificity name items) ↔ ¬ u.CarriedOver name items b a :=
    (pair_sublist_orderBySpecificity_iff_not hnodup hab).trans (not_congr hcarried)
  refine ⟨hkept, hcarried, fun hshared => hkept.2 ?_⟩
  exact not_carriedOver_of_shared hnodup hab hnot
    fun y hyb hproper => isSubtype_iff.1 (hshared y hyb hproper)

end TypeUniverse

namespace Sample

/-- A type of the fleet, resolved without constraints. -/
def fleetItem (ty : TypeName) : ResolvedType :=
  ⟨(fleetDeclarations.find? ty).getD (.ofClass ty), .mk ty [] []⟩

/-- A machine, a fleet and a robot. -/
def fleetItems : List ResolvedType :=
  [fleetItem machineType, fleetItem fleetType, fleetItem robotType]

end Sample

namespace TypeUniverse

open Sample

private theorem robot_isProperSubtype_machine :
    fleetDeclarations.isProperSubtype robotType machineType = true :=
  isProperSubtype_iff.2 ⟨by decide, ReflTransGen.single (by decide)⟩

/-- Machines and fleets inherit from nothing else. -/
private theorem isSubtype_eq_false {sub sup : TypeName} (hsub : sub ∈ [machineType, fleetType])
    (hne : sup ≠ sub) : fleetDeclarations.isSubtype sub sup = false := by
  have hnone : ∀ ty ∈ [machineType, fleetType], fleetDeclarations.directSupertypes ty = [] := by
    decide
  rw [← Bool.not_eq_true, isSubtype_iff]
  exact fun h => hne (eq_of_inherits_of_nil (hnone sub hsub) h)

private theorem fleet_isProperSubtype (ty : TypeName) :
    fleetDeclarations.isProperSubtype fleetType ty = false := by
  by_cases hty : ty = fleetType
  · simp [isProperSubtype, hty]
  · rw [isProperSubtype, isSubtype_eq_false (by decide) hty, Bool.and_false]

private theorem robot_isSubtype_fleet :
    fleetDeclarations.isSubtype robotType fleetType = false := by
  rw [← Bool.not_eq_true, isSubtype_iff]
  intro h
  have hclosed : ∀ a ∈ [robotType, machineType], ∀ b ∈ fleetDeclarations.directSupertypes a,
      b ∈ [robotType, machineType] := by decide
  have hmem := mem_of_inherits_of_closed hclosed List.mem_cons_self h
  exact absurd hmem (by decide)

/-- A fleet stays behind a machine, but a robot that comes after both is carried over the fleet,
since it has to stand before the machine. -/
theorem robot_is_carried_over_fleet :
    fleetItems.Nodup ∧
    [fleetItem machineType, fleetItem fleetType].Sublist fleetItems ∧
    [fleetItem fleetType, fleetItem robotType].Sublist fleetItems ∧
    fleetDeclarations.isSubtype fleetType machineType = false ∧
    fleetDeclarations.isSubtype robotType fleetType = false ∧
    [fleetItem machineType, fleetItem fleetType].Sublist
      (fleetDeclarations.orderBySpecificity ResolvedType.name fleetItems) ∧
    [fleetItem robotType, fleetItem fleetType].Sublist
      (fleetDeclarations.orderBySpecificity ResolvedType.name fleetItems) := by
  have hnodup : fleetItems.Nodup := List.Nodup.of_map (·.name) (by decide)
  have hmachine : [fleetItem machineType, fleetItem fleetType].Sublist fleetItems :=
    List.sublist_append_left _ [fleetItem robotType]
  have hrobot : [fleetItem fleetType, fleetItem robotType].Sublist fleetItems :=
    List.sublist_cons_self _ _
  have hunrelated : fleetDeclarations.isSubtype fleetType machineType = false :=
    isSubtype_eq_false (by decide) (by decide)
  have hstays : [fleetItem machineType, fleetItem fleetType].Sublist
      (fleetDeclarations.orderBySpecificity ResolvedType.name fleetItems) := by
    obtain ⟨_, _, hkept⟩ :=
      unrelated_order_kept_iff fleetDeclarations ResolvedType.name hnodup hmachine hunrelated
    refine hkept fun y _ hproper => ?_
    exact absurd (hproper.symm.trans (fleet_isProperSubtype y.name)) (by decide)
  obtain ⟨_, hcarried, _⟩ := unrelated_order_kept_iff fleetDeclarations ResolvedType.name hnodup
    hrobot robot_isSubtype_fleet
  refine ⟨hnodup, hmachine, hrobot, hunrelated, robot_isSubtype_fleet, hstays, hcarried.2 ?_⟩
  exact ⟨fleetItem machineType, by simp [fleetItems], robot_isProperSubtype_machine, hstays⟩

/-- Types that do not inherit from each other may change places. -/
theorem unrelated_types_change_places :
    (fleetItems.map (·.name)).Nodup ∧
    [fleetItem fleetType, fleetItem robotType].Sublist fleetItems ∧
    fleetDeclarations.isSubtype fleetType robotType = false ∧
    fleetDeclarations.isSubtype robotType fleetType = false ∧
    ¬ [fleetItem fleetType, fleetItem robotType].Sublist
        (fleetDeclarations.orderBySpecificity ResolvedType.name fleetItems) := by
  have hfleet : fleetDeclarations.isProperSubtype (fleetItem fleetType).name
      (fleetItem machineType).name = false := fleet_isProperSubtype machineType
  have hrobot : fleetDeclarations.isProperSubtype (fleetItem robotType).name
      (fleetItem machineType).name = true := robot_isProperSubtype_machine
  have hordered : fleetDeclarations.orderBySpecificity ResolvedType.name fleetItems =
      [fleetItem robotType, fleetItem machineType, fleetItem fleetType] := by
    simp [orderBySpecificity, fleetItems, insertBefore, hfleet, hrobot]
  refine ⟨by decide, List.sublist_cons_self _ _, ?_, robot_isSubtype_fleet, fun hkept => ?_⟩
  · exact isSubtype_eq_false (by decide) (by decide)
  · rw [hordered] at hkept
    have hnames := hkept.map (·.name)
    exact absurd hnames (by decide)

/-- No order that puts strict subtypes before their supertypes keeps the order of all types that do
not inherit from each other. -/
theorem no_order_keeps_unrelated_pairs
    (order : TypeUniverse → List ResolvedType → List ResolvedType)
    (hperm : ∀ u items, (order u items).Perm items)
    (hfirst : ∀ (u : TypeUniverse) items, u.SpecificFirst ResolvedType.name (order u items)) :
    ∃ (u : TypeUniverse) (items : List ResolvedType) (a b : ResolvedType),
      (items.map (·.name)).Nodup ∧ [a, b].Sublist items ∧ u.isSubtype a.name b.name = false ∧
      u.isSubtype b.name a.name = false ∧ ¬ [a, b].Sublist (order u items) := by
  have hdistinct : (fleetItems.map (·.name)).Nodup := by decide
  have hnodup : (order fleetDeclarations fleetItems).Nodup :=
    (hperm _ _).nodup_iff.2 (List.Nodup.of_map _ hdistinct)
  have hplaced : ∀ t ∈ fleetItems, t ∈ order fleetDeclarations fleetItems :=
    fun t ht => (hperm _ _).mem_iff.2 ht
  have hstrict : fleetDeclarations.StrictlyInherits robotType machineType := by
    refine ⟨(isProperSubtype_iff.1 robot_isProperSubtype_machine).2, fun hback => ?_⟩
    have hfalse : fleetDeclarations.isSubtype machineType robotType = false :=
      isSubtype_eq_false (by decide) (by decide)
    rw [isSubtype_iff.2 hback] at hfalse
    cases hfalse
  have hrobot : [fleetItem robotType, fleetItem machineType].Sublist
      (order fleetDeclarations fleetItems) :=
    (hfirst _ _).pair_sublist (hplaced _ (by simp [fleetItems])) (hplaced _ (by simp [fleetItems]))
      hstrict
  by_cases hmachine : [fleetItem machineType, fleetItem fleetType].Sublist
      (order fleetDeclarations fleetItems)
  · -- the robot stands before the machine, and so before the fleet
    refine ⟨_, fleetItems, fleetItem fleetType, fleetItem robotType, hdistinct,
      List.sublist_cons_self _ _, ?_, robot_isSubtype_fleet, ?_⟩
    · exact isSubtype_eq_false (by decide) (by decide)
    · exact pair_sublist_asymm hnodup (pair_sublist_trans hnodup hrobot hmachine)
  · refine ⟨_, fleetItems, fleetItem machineType, fleetItem fleetType, hdistinct,
      List.sublist_append_left _ [fleetItem robotType], ?_, ?_, hmachine⟩
    · exact isSubtype_eq_false (by decide) (by decide)
    · exact isSubtype_eq_false (by decide) (by decide)

end TypeUniverse

end ValidatorForge
