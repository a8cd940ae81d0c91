import ValidatorForge.Proofs.Discovery.Markers
import ValidatorForge.Proofs.Dispatch.Plan

/-!
# Which host types share their emitted names

A host name is spelled in three ways: as the path of its class, as the path of its validator, and as
the qualified name of its marker.  All three forget something.  A nested type `Outer$Inner` becomes
`Outer_Inner`, and a path passes over the empty parts of a package.

| Host name              | Path of the class         | Marker                         |
|------------------------|---------------------------|--------------------------------|
| `acme.Outer$Inner`     | `root::acme::Outer_Inner` | `acme._Outer_InnerValidator`   |
| `acme.Outer_Inner`     | `root::acme::Outer_Inner` | `acme._Outer_InnerValidator`   |
| `acme..Outer_Inner`    | `root::acme::Outer_Inner` | `acme.._Outer_InnerValidator`  |

`SharesPath` and `SharesMarker` say on the characters of two names what is forgotten, and nothing
else is: `typePath_eq_iff`, `markerPath_eq_iff` and `qualifiedOutputName_eq_iff`.  Names without
empty parts share nothing if none of them has a dollar sign, or none an underscore
(`TypeName.SharesPath.eq`).
-/

namespace ValidatorForge

/-! ## What names share -/

/-- The character that a nested type is flattened with. -/
def flattened (c : Char) : Char := if c = '$' then '_' else c

namespace TypeName

/-- The parts of a name between its dots: those of the package, then the local name. -/
def parts (n : TypeName) : List (List Char) := Text.fields '.' n.text.toList

/-- The local names differ at most in dollar signs and underscores. -/
def SharesLocal (a b : TypeName) : Prop := a.localName.map flattened = b.localName.map flattened

/-- The local names are flattened alike, and the packages have the same parts besides empty ones. -/
structure SharesPath (a b : TypeName) : Prop where
  package : a.parts.dropLast.filter (!·.isEmpty) = b.parts.dropLast.filter (!·.isEmpty)
  localName : a.SharesLocal b

/-- The local names are flattened alike, and the packages are the same. -/
structure SharesMarker (a b : TypeName) : Prop where
  package : a.package = b.package
  localName : a.SharesLocal b

variable {a b : TypeName}

theorem parts_ne_nil (n : TypeName) : n.parts ≠ [] := Text.fieldsBy_ne_nil _ _

/-- The local name is the last part. -/
theorem parts_eq_append (n : TypeName) : n.parts = n.parts.dropLast ++ [n.localName] := by
  have hlast : n.localName = n.parts.getLast n.parts_ne_nil := by
    show n.parts.getLast?.getD [] = _
    rw [List.getLast?_eq_some_getLast n.parts_ne_nil]
    rfl
  rw [hlast, List.dropLast_append_getLast]

theorem dot_not_mem_of_mem_parts {n : TypeName} {part : List Char} (h : part ∈ n.parts) :
    '.' ∉ part := fun hdot => absurd (Text.not_sep_of_mem_fieldsBy h '.' hdot) (by decide)

theorem dot_not_mem_localName (n : TypeName) : '.' ∉ n.localName := by
  refine dot_not_mem_of_mem_parts (n := n) ?_
  rw [parts_eq_append]
  exact List.mem_append_right _ List.mem_cons_self

/-- A name is the text of its parts. -/
theorem eq_of_parts_eq (h : a.parts = b.parts) : a = b := by
  have htext : a.text.toList = b.text.toList := by
    rw [← Text.join_fields '.' a.text.toList, ← Text.join_fields '.' b.text.toList]
    exact congrArg (Text.join ['.']) h
  exact congrArg TypeName.mk (String.toList_inj.1 htext)

/-- Where a character that is made an underscore, or the underscore, does not occur, flattening is
injective. -/
theorem SharesLocal.eq (h : a.SharesLocal b) {c : Char} (hc : c = '$' ∨ c = '_')
    (ha : c ∉ a.localName) (hb : c ∉ b.localName) : a.localName = b.localName := by
  obtain ⟨unflatten, hread⟩ : ∃ unflatten : Char → Char, ∀ x ≠ c, unflatten (flattened x) = x := by
    rcases hc with rfl | rfl
    · exact ⟨id, fun x hx => by simp [flattened, hx]⟩
    · exact ⟨fun x => if x = '_' then '$' else x, fun x hx => by unfold flattened; grind⟩
  have hlocal : ∀ n : TypeName, c ∉ n.localName →
      (n.localName.map flattened).map unflatten = n.localName := by
    intro n hn
    rw [List.map_map]
    refine (List.map_congr_left fun x hx => ?_).trans (List.map_id _)
    exact hread x fun heq => hn (heq ▸ hx)
  rw [← hlocal a ha, h, hlocal b hb]

/-- Two names without empty parts share no path if neither has a dollar sign in its local name, or
neither an underscore. -/
theorem SharesPath.eq (h : a.SharesPath b) {c : Char} (hc : c = '$' ∨ c = '_')
    (ha : ∀ part ∈ a.parts, part ≠ []) (hb : ∀ part ∈ b.parts, part ≠ [])
    (hca : c ∉ a.localName) (hcb : c ∉ b.localName) : a = b := by
  have hkept : ∀ n : TypeName, (∀ part ∈ n.parts, part ≠ []) →
      n.parts.dropLast.filter (!·.isEmpty) = n.parts.dropLast := by
    intro n hn
    refine List.filter_eq_self.2 fun part hpart => ?_
    simpa using hn part (List.dropLast_subset _ hpart)
  refine eq_of_parts_eq ?_
  rw [a.parts_eq_append, b.parts_eq_append, h.localName.eq hc hca hcb, ← hkept a ha,
    ← hkept b hb, h.package]

end TypeName

/-! ## Paths -/

namespace Source.ModPath

theorem segments_descend (p : ModPath) (names : List Ident) :
    (p.descend names).segments = p.segments ++ names.map fun n => ⟨n, []⟩ := by
  induction names generalizing p with
  | nil => exact (List.append_nil _).symm
  | cons n rest ih =>
    have hchild : (p.child n).segments = p.segments ++ [⟨n, []⟩] := rfl
    have hstep : p.descend (n :: rest) = (p.child n).descend rest := rfl
    rw [hstep, ih, hchild, List.map_cons, List.append_assoc]
    rfl

/-- Items below one path have the same path only if they have the same modules and the same name. -/
theorem child_descend_inj {p : ModPath} {modules modules' : List Ident} {item item' : Ident}
    (h : (p.descend modules).child item = (p.descend modules').child item') :
    modules = modules' ∧ item = item' := by
  have hsegments : (p.segments ++ modules.map fun n => (⟨n, []⟩ : PathSegment)) ++ [⟨item, []⟩] =
      (p.segments ++ modules'.map fun n => ⟨n, []⟩) ++ [⟨item', []⟩] := by
    rw [← segments_descend, ← segments_descend]
    exact congrArg segments h
  obtain ⟨hmodules, hitem⟩ := List.append_inj' hsegments rfl
  have hinjective : Function.Injective fun n : Ident => (⟨n, []⟩ : PathSegment) :=
    fun _ _ heq => congrArg PathSegment.name heq
  refine ⟨?_, hinjective (List.cons.inj hitem).1⟩
  exact List.map_injective_iff.2 hinjective (List.append_cancel_left hmodules)

end Source.ModPath

/-! ## What is emitted for a name -/

namespace Naming

open Source (Ident ModPath)

/-- An identifier comes from one name only. -/
theorem ident_inj {a b : String} {i : Ident} (ha : ident a = .ok i) (hb : ident b = .ok i) :
    a = b := by
  have hname : ∀ {n : String}, ident n = .ok i → i.name = n := by
    intro n h
    unfold ident at h
    split at h
    · next hi =>
      rw [← Except.ok.inj h]
      exact Ident.name_of_ofName? hi
    · cases h
  rw [← hname ha, ← hname hb]

/-- Modules come from one list of names only. -/
theorem mapM_ident_inj {names names' : List String} {modules : List Ident}
    (h : names.mapM ident = .ok modules) (h' : names'.mapM ident = .ok modules) :
    names = names' := by
  have hall := Dispatcher.forall₂_of_mapM h
  have hall' := Dispatcher.forall₂_of_mapM h'
  clear h h'
  induction hall generalizing names' with
  | nil =>
    cases hall'
    rfl
  | cons hn _ ih =>
    cases hall' with
    | cons hn' hrest' => rw [ident_inj hn hn', ih hrest']

/-- The flat name of a type is its local name, flattened. -/
theorem toList_flatName (n : TypeName) : (flatName n).toList = n.localName.map flattened := by
  simp only [flatName, TypeName.sourceName, Text.replaceChar, String.toList_ofList, List.map_map]
  refine List.map_congr_left fun c hc => ?_
  have hdot : c ≠ '.' := fun h => n.dot_not_mem_localName (h ▸ hc)
  by_cases hdollar : c = '$' <;> simp [flattened, hdollar, hdot]

theorem flatName_eq_iff {a b : TypeName} : flatName a = flatName b ↔ a.SharesLocal b := by
  rw [TypeName.SharesLocal, ← toList_flatName, ← toList_flatName, String.toList_inj]

/-- The segments of a package are the parts of the name, empty ones left out. -/
theorem packageSegments_package (n : TypeName) :
    packageSegments n.package =
      (n.parts.dropLast.filter (!·.isEmpty)).map String.ofList := by
  have hfields : (Text.fields '.' n.package.toList).filter (!·.isEmpty) =
      n.parts.dropLast.filter (!·.isEmpty) := by
    have hpackage : n.package.toList = Text.join ['.'] n.parts.dropLast :=
      String.toList_ofList
    rw [hpackage]
    by_cases hempty : n.parts.dropLast = []
    · rw [hempty]
      rfl
    · rw [Text.fields_join hempty]
      exact fun part hpart => TypeName.dot_not_mem_of_mem_parts (List.dropLast_subset _ hpart)
  rw [packageSegments, hfields]

theorem packageSegments_eq_iff {a b : TypeName} :
    packageSegments a.package = packageSegments b.package ↔
      a.parts.dropLast.filter (!·.isEmpty) = b.parts.dropLast.filter (!·.isEmpty) := by
  have hinjective : Function.Injective (List.map String.ofList) :=
    List.map_injective_iff.2 fun _ _ h => String.ofList_inj.1 h
  rw [packageSegments_package, packageSegments_package, hinjective.eq_iff]

/-- The path of an item is spelled segment by segment. -/
theorem itemPath_eq_ok_iff {root path : ModPath} {package name : String} :
    itemPath root package name = .ok path ↔
      ∃ modules item, (packageSegments package).mapM ident = .ok modules ∧
        ident name = .ok item ∧ path = (root.descend modules).child item := by
  constructor
  · intro h
    obtain ⟨modules, hmodules, h⟩ := Dispatcher.bind_ok h
    obtain ⟨item, hitem, h⟩ := Dispatcher.bind_ok h
    exact ⟨modules, item, hmodules, hitem, (Except.ok.inj h).symm⟩
  · intro hex
    obtain ⟨modules, item, hmodules, hitem, rfl⟩ := hex
    rw [itemPath, hmodules]
    show (ident name >>= _) = _
    rw [hitem]
    rfl

/-- Two items have one path only if their packages have the same segments and their names agree. -/
theorem itemPath_inj {root path : ModPath} {package package' name name' : String}
    (h : itemPath root package name = .ok path) (h' : itemPath root package' name' = .ok path) :
    packageSegments package = packageSegments package' ∧ name = name' := by
  obtain ⟨modules, item, hmodules, hitem, rfl⟩ := itemPath_eq_ok_iff.1 h
  obtain ⟨modules', item', hmodules', hitem', hpath⟩ := itemPath_eq_ok_iff.1 h'
  obtain ⟨rfl, rfl⟩ := ModPath.child_descend_inj hpath
  exact ⟨mapM_ident_inj hmodules hmodules', ident_inj hitem hitem'⟩

/-- Two types have one path below a root exactly if their names share it. -/
theorem typePath_eq_iff {root path : ModPath} {a b : TypeName} (h : typePath root a = .ok path) :
    typePath root b = .ok path ↔ a.SharesPath b := by
  constructor
  · intro h'
    obtain ⟨hpackage, hflat⟩ := itemPath_inj h h'
    exact ⟨packageSegments_eq_iff.1 hpackage, flatName_eq_iff.1 hflat⟩
  · intro hshared
    rw [← h, typePath, typePath, itemPath, itemPath,
      packageSegments_eq_iff.2 hshared.package, flatName_eq_iff.2 hshared.localName]

end Naming

/-! ## Validators -/

/-- The package can be read back from a qualified name if the name is known. -/
theorem qualify_left_inj {package package' name : String}
    (h : qualify package name = qualify package' name) : package = package' := by
  have htext : ∀ p : String, (qualify p name).toList =
      (if p.isEmpty then [] else p.toList ++ ['.']) ++ name.toList := by
    intro p
    unfold qualify
    split <;> simp [toString]
  have hqualifier : (if package.isEmpty then [] else package.toList ++ ['.']) =
      if package'.isEmpty then [] else package'.toList ++ ['.'] :=
    List.append_cancel_right ((htext package).symm.trans (h ▸ htext package'))
  by_cases hempty : package.isEmpty <;> by_cases hempty' : package'.isEmpty
  · rw [String.isEmpty_iff.1 hempty, String.isEmpty_iff.1 hempty']
  · simp [hempty, hempty'] at hqualifier
  · simp [hempty, hempty'] at hqualifier
  · rw [if_neg hempty, if_neg hempty'] at hqualifier
    exact String.toList_inj.1 (List.append_cancel_right hqualifier)

namespace ResolvedType

variable {t t' : ResolvedType}

theorem outputName_eq_iff : t.outputName = t'.outputName ↔ t.name.SharesLocal t'.name := by
  have htext : ∀ t : ResolvedType, t.outputName.toList =
      '_' :: (Naming.flatName t.name).toList ++ "Validator".toList := by
    intro t
    simp [outputName, toString]
  rw [← Naming.flatName_eq_iff, ← String.toList_inj, htext, htext, List.append_cancel_right_eq,
    List.cons.injEq, String.toList_inj]
  exact and_iff_right rfl

/-- Two validators have one path below a root exactly if the names of their types share it. -/
theorem markerPath_eq_iff {root path : Source.ModPath}
    (h : Naming.itemPath root t.outputPackage t.outputName = .ok path) :
    Naming.itemPath root t'.outputPackage t'.outputName = .ok path ↔ t.name.SharesPath t'.name := by
  constructor
  · intro h'
    obtain ⟨hpackage, hname⟩ := Naming.itemPath_inj h h'
    exact ⟨Naming.packageSegments_eq_iff.1 hpackage, outputName_eq_iff.1 hname⟩
  · intro hshared
    have hpackage : Naming.packageSegments t.outputPackage =
        Naming.packageSegments t'.outputPackage :=
      Naming.packageSegments_eq_iff.2 hshared.package
    rw [← h, Naming.itemPath, Naming.itemPath, hpackage, outputName_eq_iff.2 hshared.localName]

/-- Two types ask for one marker exactly if their names share it. -/
theorem qualifiedOutputName_eq_iff :
    t.qualifiedOutputName = t'.qualifiedOutputName ↔ t.name.SharesMarker t'.name := by
  constructor
  · intro h
    have hname := outputName_eq_of_qualifiedOutputName_eq h
    have hqualified : qualify t.outputPackage t.outputName =
        qualify t'.outputPackage t.outputName := by
      calc
        qualify t.outputPackage t.outputName = qualify t'.outputPackage t'.outputName := h
        _ = qualify t'.outputPackage t.outputName := by rw [hname]
    exact ⟨qualify_left_inj hqualified, outputName_eq_iff.1 hname⟩
  · intro hshared
    have hpackage : t.outputPackage = t'.outputPackage := hshared.package
    rw [qualifiedOutputName, qualifiedOutputName, hpackage, outputName_eq_iff.2 hshared.localName]

end ResolvedType

end ValidatorForge
