/-!
# Maps that remember insertion order

An `OrderedMap` holds each key once.  Its entries stand in the order in which their keys were first
inserted: replacing a value keeps the place of its key.  `get?_insert` and `keys_insert` say what
an insertion does to the two views; the entry of a new key goes to the end
(`entries_insert_of_not_mem`).
-/

namespace ValidatorForge

universe u v

/-- Association list with distinct keys, in order of first insertion. -/
structure OrderedMap (κ : Type u) (ν : Type v) where
  entries : List (κ × ν)
  nodup : (entries.map Prod.fst).Nodup

namespace OrderedMap

variable {κ : Type u} {ν : Type v}

/-- The map without entries. -/
def empty : OrderedMap κ ν := ⟨[], List.nodup_nil⟩

instance : Inhabited (OrderedMap κ ν) := ⟨empty⟩

/-- The keys, oldest first. -/
def keys (m : OrderedMap κ ν) : List κ := m.entries.map Prod.fst

/-- The values, in the order of their keys. -/
def values (m : OrderedMap κ ν) : List ν := m.entries.map Prod.snd

/-- The number of entries. -/
def size (m : OrderedMap κ ν) : Nat := m.entries.length

def isEmpty (m : OrderedMap κ ν) : Bool := m.entries.isEmpty

@[simp] theorem keys_empty : (empty : OrderedMap κ ν).keys = [] := rfl

variable [DecidableEq κ]

/-- The value stored under `k`. -/
def get? (m : OrderedMap κ ν) (k : κ) : Option ν := m.entries.lookup k

def contains (m : OrderedMap κ ν) (k : κ) : Bool := m.keys.contains k

theorem contains_iff {m : OrderedMap κ ν} {k : κ} : m.contains k = true ↔ k ∈ m.keys := by
  rw [contains, List.contains_iff_mem]

/-- Replaces the value of `k` in place, or appends a new entry. -/
def put (k : κ) (x : ν) : List (κ × ν) → List (κ × ν)
  | [] => [(k, x)]
  | e :: rest => if e.1 = k then (k, x) :: rest else e :: put k x rest

/-- The keys after `put`: unchanged if `k` was there, else with `k` at the end. -/
theorem map_fst_put (k : κ) (x : ν) (es : List (κ × ν)) :
    (put k x es).map Prod.fst =
      if k ∈ es.map Prod.fst then es.map Prod.fst else es.map Prod.fst ++ [k] := by
  induction es with
  | nil => simp [put]
  | cons e rest ih =>
    by_cases he : e.1 = k
    · simp [put, he]
    · have hne : ¬ k = e.1 := fun h => he h.symm
      simp only [put, he, if_false, List.map_cons, ih, List.mem_cons, hne, false_or]
      split <;> simp

theorem nodup_put (k : κ) (x : ν) {es : List (κ × ν)} (hes : (es.map Prod.fst).Nodup) :
    ((put k x es).map Prod.fst).Nodup := by
  rw [map_fst_put]
  split
  · exact hes
  · next hk =>
    rw [List.nodup_append]
    refine ⟨hes, by simp, fun a ha b hb => ?_⟩
    rw [List.mem_singleton] at hb
    exact fun hab => hk (hb ▸ hab ▸ ha)

/-- What holds of the entries before and of the new one holds of the entries after `put`. -/
theorem forall_mem_put {P : κ × ν → Prop} {k : κ} {x : ν} {es : List (κ × ν)} (hnew : P (k, x))
    (hes : ∀ e ∈ es, P e) : ∀ e ∈ put k x es, P e := by
  induction es with
  | nil => simpa [put] using hnew
  | cons e rest ih =>
    have hrest := ih fun a ha => hes a (List.mem_cons_of_mem _ ha)
    unfold put
    split
    · exact List.forall_mem_cons.2 ⟨hnew, fun a ha => hes a (List.mem_cons_of_mem _ ha)⟩
    · exact List.forall_mem_cons.2 ⟨hes e List.mem_cons_self, hrest⟩

/-- Stores `x` under `k`. -/
def insert (m : OrderedMap κ ν) (k : κ) (x : ν) : OrderedMap κ ν :=
  ⟨put k x m.entries, nodup_put k x m.nodup⟩

/-- The map that inserts the pairs from left to right. -/
def ofList (es : List (κ × ν)) : OrderedMap κ ν :=
  es.foldl (fun m e => m.insert e.1 e.2) empty

/-! ## What an insertion does -/

@[simp] theorem get?_empty (k : κ) : (empty : OrderedMap κ ν).get? k = none := rfl

theorem keys_insert (m : OrderedMap κ ν) (k : κ) (x : ν) :
    (m.insert k x).keys = if k ∈ m.keys then m.keys else m.keys ++ [k] :=
  map_fst_put k x m.entries

theorem put_of_not_mem {k : κ} (x : ν) {es : List (κ × ν)} (h : k ∉ es.map Prod.fst) :
    put k x es = es ++ [(k, x)] := by
  induction es with
  | nil => rfl
  | cons e rest ih =>
    rw [List.map_cons, List.mem_cons, not_or] at h
    rw [put, if_neg fun heq => h.1 heq.symm, ih h.2, List.cons_append]

theorem entries_insert_of_not_mem {m : OrderedMap κ ν} {k : κ} (x : ν) (h : k ∉ m.keys) :
    (m.insert k x).entries = m.entries ++ [(k, x)] :=
  put_of_not_mem x h

theorem lookup_put (k j : κ) (x : ν) (es : List (κ × ν)) :
    (put k x es).lookup j = if j = k then some x else es.lookup j := by
  have hbeq {a b : κ} (h : a ≠ b) : (a == b) = false := beq_eq_false_iff_ne.2 h
  induction es with
  | nil => by_cases h : j = k <;> simp [put, List.lookup_cons, h, hbeq]
  | cons e rest ih =>
    obtain ⟨i, y⟩ := e
    by_cases hi : i = k
    · subst hi
      by_cases hj : j = i <;> simp [put, List.lookup_cons, hj, hbeq]
    · by_cases hj : j = i
      · subst hj
        simp [put, hi]
      · simp [put, List.lookup_cons, hi, hj, hbeq, ih]

theorem get?_insert (m : OrderedMap κ ν) (k j : κ) (x : ν) :
    (m.insert k x).get? j = if j = k then some x else m.get? j :=
  lookup_put k j x m.entries

/-! ## Many insertions -/

section

variable {α : Type v} (key : α → κ)

/-- The last of the inserted values stands under a key, or else what stood there before. -/
theorem get?_foldl_insert (xs : List α) (m : OrderedMap κ α) (k : κ) :
    (xs.foldl (fun m x => m.insert (key x) x) m).get? k =
      (xs.reverse.find? fun x => key x = k).or (m.get? k) := by
  induction xs generalizing m with
  | nil => rfl
  | cons x rest ih =>
    rw [List.foldl_cons, ih, get?_insert, List.reverse_cons, List.find?_append, Option.or_assoc]
    congr 1
    by_cases hk : k = key x
    · simp [hk]
    · have hne : key x ≠ k := fun h => hk h.symm
      simp [hk, hne]

theorem eraseDups_eq_self_of_nodup {l : List κ} (h : l.Nodup) : l.eraseDups = l := by
  induction l with
  | nil => rfl
  | cons a rest ih =>
    obtain ⟨ha, hrest⟩ := List.nodup_cons.1 h
    have hfilter : rest.filter (fun b => !b == a) = rest := by
      refine List.filter_eq_self.2 fun b hb => ?_
      have hne : b ≠ a := fun heq => ha (heq ▸ hb)
      simp [hne]
    rw [List.eraseDups_cons, hfilter, ih hrest]

/-- Each key is listed once, where it was first inserted. -/
theorem keys_foldl_insert (xs : List α) (m : OrderedMap κ α) :
    (xs.foldl (fun m x => m.insert (key x) x) m).keys = (m.keys ++ xs.map key).eraseDups := by
  induction xs generalizing m with
  | nil =>
    rw [List.map_nil, List.append_nil]
    exact (eraseDups_eq_self_of_nodup m.nodup).symm
  | cons x rest ih =>
    rw [List.foldl_cons, ih, keys_insert, List.map_cons]
    split
    · next hk =>
      -- a repeated key is erased
      have hrepeat : (key x :: rest.map key).removeAll m.keys = (rest.map key).removeAll m.keys := by
        simp [List.removeAll, hk]
      rw [List.eraseDups_append, List.eraseDups_append, hrepeat]
    · rw [List.append_assoc, List.singleton_append]

end

/-! ## Reading an entry -/

/-- What is read under a key is stored under it. -/
theorem mem_entries_of_get? {m : OrderedMap κ ν} {k : κ} {x : ν} (h : m.get? k = some x) :
    (k, x) ∈ m.entries := by
  obtain ⟨before, after, heq, _⟩ := List.lookup_eq_some_iff.1 h
  simp [heq]

theorem mem_keys_of_get? {m : OrderedMap κ ν} {k : κ} {x : ν} (h : m.get? k = some x) :
    k ∈ m.keys :=
  List.mem_map_of_mem (f := Prod.fst) (mem_entries_of_get? h)

/-- Every key has a value. -/
theorem exists_get?_of_mem_keys {m : OrderedMap κ ν} {k : κ} (h : k ∈ m.keys) :
    ∃ x, m.get? k = some x := by
  obtain ⟨e, he, rfl⟩ := List.mem_map.1 h
  exact Option.isSome_iff_exists.1 (List.lookup_isSome_iff.2 ⟨e, he, beq_self_eq_true _⟩)

end OrderedMap

end ValidatorForge
