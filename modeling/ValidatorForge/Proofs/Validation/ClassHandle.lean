import ValidatorForge.Proofs.Model.Specificity
import ValidatorForge.Validation.ClassHandle

/-!
# Class handles that mirror the declared hierarchy

At run time a class is found by walking the links of a handle.  `reaches_iff` says that the walk
finds exactly the names of the linked handles.

A handle mirrors a universe if it and all handles below it have the superclass and the interfaces
that the universe declares (`Mirrors`).  Handles are finite, so a mirrored hierarchy has no circle
(`Mirrors.eq_of_inherits`), and for such a handle the run-time walk decides the same relation as
subtyping in the universe (`Mirrors.reaches_iff_inherits`).
-/

namespace ValidatorForge.Validation.ClassHandle

open Relation

/-! ## Links -/

/-- The direct supertypes of a handle: its superclass, then its interfaces. -/
def links (c : ClassHandle) : List ClassHandle := c.superclass.toList ++ c.interfaces

/-- A handle links to itself, and to all handles that a chain of links leads to. -/
def LinksTo : ClassHandle → ClassHandle → Prop := ReflTransGen fun c d => d ∈ c.links

theorem sizeOf_lt_of_mem_links {c d : ClassHandle} (h : d ∈ c.links) : sizeOf d < sizeOf c := by
  obtain ⟨name, superclass, interfaces⟩ := c
  rcases List.mem_append.1 h with hsuper | hinterface
  · have heq : superclass = some d := Option.mem_toList.1 hsuper
    simp only [heq, make.sizeOf_spec, Option.some.sizeOf_spec]
    omega
  · have hlt : sizeOf d < sizeOf interfaces := List.sizeOf_lt_of_mem hinterface
    simp only [make.sizeOf_spec]
    omega

/-! ## What a walk over the links finds -/

private theorem reachesAny_eq_any (target : String) (cs : List ClassHandle) :
    reachesAny target cs = cs.any (reaches target) := by
  induction cs with
  | nil => rfl
  | cons c rest ih => rw [reachesAny, ih, List.any_cons]

theorem reaches_eq_or (target : String) (c : ClassHandle) :
    c.reaches target = (c.name == target || c.links.any (reaches target)) := by
  obtain ⟨name, superclass, interfaces⟩ := c
  rw [reaches, reachesAny_eq_any, links, List.any_append, Bool.or_assoc]
  cases superclass <;> simp [reachesOption, ClassHandle.superclass, ClassHandle.interfaces,
    ClassHandle.name]

/-- A walk finds exactly the names of the linked handles. -/
theorem reaches_iff (target : String) (c : ClassHandle) :
    c.reaches target = true ↔ ∃ d, c.LinksTo d ∧ d.name = target := by
  constructor
  · intro h
    induction hn : sizeOf c using Nat.strongRecOn generalizing c with
    | ind n ih =>
      rw [reaches_eq_or, Bool.or_eq_true, beq_iff_eq, List.any_eq_true] at h
      rcases h with hname | ⟨d, hd, hreach⟩
      · exact ⟨c, ReflTransGen.refl, hname⟩
      · have hlt := sizeOf_lt_of_mem_links hd
        obtain ⟨e, hlink, hname⟩ := ih (sizeOf d) (by omega) d hreach rfl
        exact ⟨e, ReflTransGen.head hd hlink, hname⟩
  · intro hex
    obtain ⟨d, hlink, hname⟩ := hex
    induction hlink using ReflTransGen.head_induction_on with
    | refl =>
      rw [reaches_eq_or, hname]
      simp
    | @head c e hce _ ih =>
      rw [reaches_eq_or, Bool.or_eq_true, List.any_eq_true]
      exact Or.inr ⟨e, hce, ih⟩

/-! ## Handles and declarations -/

/-- The host type of a handle: the type of its name. -/
def type (c : ClassHandle) : TypeName := ⟨c.name⟩

/-- The links of a handle are the declared superclass and the declared interfaces of its type.  The
handle of an undeclared type has none. -/
structure MirrorsDecl (u : TypeUniverse) (c : ClassHandle) : Prop where
  superclass : c.superclass.map name = ((u.find? c.type).bind (·.superclass)).map (·.text)
  interfaces :
    c.interfaces.map name = (((u.find? c.type).map (·.interfaces)).getD []).map (·.text)

/-- A handle mirrors the hierarchy: the links of every handle that it leads to are as declared. -/
def Mirrors (u : TypeUniverse) (c : ClassHandle) : Prop := ∀ d, c.LinksTo d → d.MirrorsDecl u

variable {u : TypeUniverse} {c : ClassHandle}

theorem MirrorsDecl.links_map_name (h : c.MirrorsDecl u) :
    c.links.map name = (u.directSupertypes c.type).map (·.text) := by
  have hsuper := congrArg Option.toList h.superclass
  rw [Option.toList_map, Option.toList_map] at hsuper
  rw [links, List.map_append, hsuper, h.interfaces]
  cases hfind : u.find? c.type with
  | none => simp [TypeUniverse.directSupertypes_of_undeclared hfind]
  | some d => simp [TypeUniverse.directSupertypes_of_find? hfind, ClassDecl.supertypes]

/-- The links of a mirroring handle are the declared steps of its type. -/
theorem MirrorsDecl.extends_iff (h : c.MirrorsDecl u) {t : TypeName} :
    u.Extends c.type t ↔ ∃ d ∈ c.links, d.type = t := by
  have hmem : t.text ∈ (u.directSupertypes c.type).map (·.text) ↔ u.Extends c.type t := by
    rw [TypeUniverse.Extends, List.mem_map]
    constructor
    · intro hex
      obtain ⟨s, hs, heq⟩ := hex
      obtain rfl : s = t := congrArg TypeName.mk heq
      exact hs
    · exact fun hs => ⟨t, hs, rfl⟩
  rw [← hmem, ← h.links_map_name, List.mem_map]
  constructor
  · intro hex
    obtain ⟨d, hd, heq⟩ := hex
    exact ⟨d, hd, by rw [type, heq]⟩
  · intro hex
    obtain ⟨d, hd, rfl⟩ := hex
    exact ⟨d, hd, rfl⟩

namespace Mirrors

theorem self (h : c.Mirrors u) : c.MirrorsDecl u := h c ReflTransGen.refl

/-- A handle mirrors the hierarchy if its own links are as declared and the linked handles do. -/
theorem of_links (h : c.MirrorsDecl u) (hlinks : ∀ d ∈ c.links, d.Mirrors u) : c.Mirrors u := by
  intro d hcd
  rcases ReflTransGen.cases_head hcd with rfl | ⟨e, he, hed⟩
  · exact h
  · exact hlinks e he d hed

theorem of_linksTo (h : c.Mirrors u) {d : ClassHandle} (hcd : c.LinksTo d) : d.Mirrors u :=
  fun _ hde => h _ (hcd.trans hde)

theorem of_mem_links (h : c.Mirrors u) {d : ClassHandle} (hd : d ∈ c.links) : d.Mirrors u :=
  h.of_linksTo (ReflTransGen.single hd)

/-- Links lead to inherited types only. -/
theorem inherits_of_linksTo (h : c.Mirrors u) {d : ClassHandle} (hcd : c.LinksTo d) :
    u.Inherits c.type d.type := by
  induction hcd with
  | refl => exact ReflTransGen.refl
  | tail hcd hde ih => exact ReflTransGen.tail ih ((h _ hcd).extends_iff.2 ⟨_, hde, rfl⟩)

/-- Links lead to every inherited type. -/
theorem exists_linksTo_of_inherits (h : c.Mirrors u) {t : TypeName} (hct : u.Inherits c.type t) :
    ∃ d, c.LinksTo d ∧ d.type = t := by
  induction hct with
  | refl => exact ⟨c, ReflTransGen.refl, rfl⟩
  | tail _ hext ih =>
    obtain ⟨d, hcd, rfl⟩ := ih
    obtain ⟨e, he, heq⟩ := (h d hcd).extends_iff.1 hext
    exact ⟨e, hcd.tail he, heq⟩

/-- The walk over the links of a mirroring handle decides inheritance. -/
theorem reaches_iff_inherits (h : c.Mirrors u) (t : TypeName) :
    c.reaches t.text = true ↔ u.Inherits c.type t := by
  rw [reaches_iff]
  constructor
  · intro hex
    obtain ⟨d, hlink, hname⟩ := hex
    have ht : d.type = t := by rw [type, hname]
    exact ht ▸ h.inherits_of_linksTo hlink
  · intro hinh
    obtain ⟨d, hcd, rfl⟩ := h.exists_linksTo_of_inherits hinh
    exact ⟨d, hcd, rfl⟩

/-- A handle that mirrors the hierarchy decides subtyping by its links. -/
theorem isAssignableFrom_iff (h : c.Mirrors u) (target : ClassHandle) :
    target.isAssignableFrom c = true ↔ u.Inherits c.type target.type :=
  h.reaches_iff_inherits target.type

/-- Above a mirroring handle no two types inherit from each other: the handles of a circle would
get smaller forever. -/
theorem eq_of_inherits (h : c.Mirrors u) {t : TypeName} (hct : u.Inherits c.type t)
    (htc : u.Inherits t c.type) : t = c.type := by
  induction hn : sizeOf c using Nat.strongRecOn generalizing c t with
  | ind n ih =>
    rcases ReflTransGen.cases_head hct with heq | ⟨m, hext, hmt⟩
    · exact heq.symm
    · obtain ⟨d, hd, rfl⟩ := h.self.extends_iff.1 hext
      have hlt := sizeOf_lt_of_mem_links hd
      have hext' : u.Inherits c.type d.type := ReflTransGen.single hext
      have ht : t = d.type := ih _ (by omega) (h.of_mem_links hd) hmt (htc.trans hext') rfl
      have hc : c.type = d.type :=
        ih _ (by omega) (h.of_mem_links hd) (hmt.trans htc) hext' rfl
      rw [ht, hc]

/-- Of two types above a mirroring handle, one that inherits from the other and differs from it is
strictly below it. -/
theorem strictlyInherits (h : c.Mirrors u) {s t : TypeName} (hcs : u.Inherits c.type s)
    (hst : u.Inherits s t) (hne : s ≠ t) : u.StrictlyInherits s t := by
  refine ⟨hst, fun hts => hne ?_⟩
  obtain ⟨d, hcd, rfl⟩ := h.exists_linksTo_of_inherits hcs
  exact ((h.of_linksTo hcd).eq_of_inherits hst hts).symm

end Mirrors

end ValidatorForge.Validation.ClassHandle
