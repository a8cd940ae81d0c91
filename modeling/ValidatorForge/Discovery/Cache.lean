import ValidatorForge.Discovery.ResolvedType

/-!
# The cache of resolved types

A cache holds one entry for each resolved type, in the order of discovery, under the name of the
type.  Entries carry serial numbers that are never used again, so that an entry made after the cache
was cleared can be told from the one before.
-/

namespace ValidatorForge

/-- A resolved type with the serial number of its entry. -/
structure CacheEntry where
  serial : Nat
  resolved : ResolvedType
deriving Inhabited

/-- In a map without entries, all of them stand under the names of their types. -/
theorem CacheEntry.named_empty :
    ∀ e ∈ (OrderedMap.empty : OrderedMap TypeName CacheEntry).entries, e.2.resolved.name = e.1 :=
  List.forall_mem_nil _

structure TypeCache where
  entries : OrderedMap TypeName CacheEntry := .empty
  nextSerial : Nat := 0
  named : ∀ e ∈ entries.entries, e.2.resolved.name = e.1 := by exact CacheEntry.named_empty

namespace TypeCache

instance : Inhabited TypeCache := ⟨{}⟩

def get? (c : TypeCache) (ty : TypeName) : Option CacheEntry := c.entries.get? ty

def contains (c : TypeCache) (ty : TypeName) : Bool := c.entries.contains ty

/-- The cached types, in the order of discovery. -/
def names (c : TypeCache) : List TypeName := c.entries.keys

/-- The resolved types, in the order of discovery. -/
def values (c : TypeCache) : List ResolvedType := c.entries.values.map (·.resolved)

def size (c : TypeCache) : Nat := c.entries.size

def isEmpty (c : TypeCache) : Bool := c.entries.isEmpty

/-- The entry that the next insertion makes. -/
def newEntry (c : TypeCache) (resolved : ResolvedType) : CacheEntry := ⟨c.nextSerial, resolved⟩

/-- Stores a new entry under the name of its type. -/
def insert (c : TypeCache) (resolved : ResolvedType) : TypeCache where
  entries := c.entries.insert resolved.name (c.newEntry resolved)
  nextSerial := c.nextSerial + 1
  named := OrderedMap.forall_mem_put rfl c.named

/-- Forgets all entries. -/
def clear (c : TypeCache) : TypeCache where
  entries := .empty
  nextSerial := c.nextSerial

theorem mem_names_insert (c : TypeCache) (n : TypeName) (resolved : ResolvedType) :
    n ∈ (c.insert resolved).names ↔ n = resolved.name ∨ n ∈ c.names := by
  show n ∈ (c.entries.insert _ _).keys ↔ n = resolved.name ∨ n ∈ c.entries.keys
  rw [OrderedMap.keys_insert]
  split
  · next h =>
    refine ⟨.inr, ?_⟩
    intro hor
    rcases hor with rfl | hn
    · exact h
    · exact hn
  · simp [or_comm]

/-- An entry is found under the name of its type. -/
theorem name_of_get? {c : TypeCache} {ty : TypeName} {e : CacheEntry} (h : c.get? ty = some e) :
    e.resolved.name = ty :=
  c.named (ty, e) (OrderedMap.mem_entries_of_get? h)

/-- Each entry stands under the name of its type. -/
theorem names_eq_map_name (c : TypeCache) : c.names = c.values.map (·.name) := by
  show c.entries.entries.map Prod.fst = ((c.entries.entries.map Prod.snd).map _).map _
  rw [List.map_map, List.map_map]
  exact List.map_congr_left fun e he => (c.named e he).symm

theorem mem_names_of_get? {c : TypeCache} {ty : TypeName} {e : CacheEntry}
    (h : c.get? ty = some e) : ty ∈ c.names :=
  OrderedMap.mem_keys_of_get? h

/-- What is read from a cache is one of its values. -/
theorem mem_values_of_get? {c : TypeCache} {ty : TypeName} {e : CacheEntry}
    (h : c.get? ty = some e) : e.resolved ∈ c.values :=
  List.mem_map_of_mem (List.mem_map_of_mem (f := Prod.snd) (OrderedMap.mem_entries_of_get? h))

theorem exists_get?_of_mem_names {c : TypeCache} {ty : TypeName} (h : ty ∈ c.names) :
    ∃ e, c.get? ty = some e :=
  OrderedMap.exists_get?_of_mem_keys h

theorem get?_insert (c : TypeCache) (n : TypeName) (resolved : ResolvedType) :
    (c.insert resolved).get? n =
      if n = resolved.name then some (c.newEntry resolved) else c.get? n :=
  OrderedMap.get?_insert _ _ _ _

/-- The entry of a new type goes to the end. -/
theorem values_insert {c : TypeCache} {resolved : ResolvedType} (h : resolved.name ∉ c.names) :
    (c.insert resolved).values = c.values ++ [resolved] := by
  show ((c.entries.insert _ _).entries.map Prod.snd).map _ = _
  rw [OrderedMap.entries_insert_of_not_mem _ h]
  simp [values, OrderedMap.values, newEntry]

end TypeCache

end ValidatorForge
