import ValidatorForge.Dispatch.Generate
import ValidatorForge.Proofs.Source.Lexing
import ValidatorForge.Proofs.Spec.MarkerReading

/-!
# Markers and built specs

A spec is built in code from a name, targets and settings, or written as a marker.  `spelledMarker`
is the marker of a name, targets and settings, with its fields in any order: a public unit struct of
that name, whose lists name host types by paths and whose other fields are string literals.
`marker_builds_spec` says that the two are the same spec, and so are the runs on them.

* The marker is legible, and each of its items is read back to the value that it was spelled from
  (`spelledMarker_ok`).
* `MarkerFields.Hold` is what the fields hold after some items, whatever their order.  One more item
  keeps it (`Hold.add`), and so does a field that is left out (`Hold.skip`).
-/

namespace ValidatorForge

open Source

/-! ## Spelling a marker -/

/-- The path by which a marker names a host type. -/
def Naming.spelledPath (n : TypeName) : Except GenerateError ModPath := do
  return .relative (← n.parts.mapM fun part => ident (String.ofList part))

/-- What a marker gives a field. -/
inductive MarkerValue where
  | types (names : List TypeName)
  | text (value : String)

/-- The item of a field. -/
def MarkerValue.spell (field : MarkerField) : MarkerValue → Except GenerateError Fragment
  | types names => do
    let paths ← names.mapM Naming.spelledPath
    return [.ident field.word, parens (commaSeparated (paths.map ModPath.tokens))]
  | text value => return [.ident field.word, equals, textLiteral value]

namespace GenerationSpec

/-- What the marker of targets and settings gives a field, if anything. -/
def Settings.markerValue (targets : List TypeName) (settings : Settings) :
    MarkerField → Option MarkerValue
  | .targets => some (.types targets)
  | .groups => settings.groups.map .types
  | .reflect => settings.reflect.map .types
  | .containers => settings.containers.map .types
  | .package => settings.package.map .text
  | .runtime => settings.runtime.map .text
  | .root => settings.root.map .text

/-- The types that targets and settings list. -/
def Settings.listed (targets : List TypeName) (settings : Settings) : List TypeName :=
  targets ++ settings.groups.getD [] ++ settings.reflect.getD [] ++ settings.containers.getD []

/-- The paths that settings give as texts can be read. -/
def Settings.PathsReadable (settings : Settings) : Prop :=
  ∀ text, settings.runtime = some text ∨ settings.root = some text →
    ∃ p, ModPath.ofText? text = some p

/-- The fields of a marker with their values, in an order of all fields. -/
def Settings.markerEntries (targets : List TypeName) (settings : Settings)
    (order : List MarkerField) : List (MarkerField × MarkerValue) :=
  order.filterMap fun field => (settings.markerValue targets field).map (field, ·)

/-- The marker of a name, targets and settings. -/
def spelledMarker (name : String) (targets : List TypeName) (settings : Settings)
    (order : List MarkerField) : Except GenerateError Fragment := do
  let name ← Naming.ident name
  let items ← (settings.markerEntries targets order).mapM fun e => e.2.spell e.1
  return unitStruct [word "validator", parens (commaSeparated items)] name

end GenerationSpec

/-! ## Names -/

namespace Naming

open Ident

/-- The identifiers of host names. -/
def IsHostIdent (i : Ident) : Prop := ∃ name, ofName? name = some i

theorem spelledPath_total {n : TypeName} (h : ∀ part ∈ n.parts, Accepts (String.ofList part)) :
    ∃ p, spelledPath n = .ok p := by
  obtain ⟨names, hnames⟩ := Dispatcher.mapM_total h
  exact ⟨.relative names, by rw [spelledPath, hnames]; rfl⟩

/-- The identifiers of a path have the names of its parts. -/
theorem map_name_of_spelled {parts : List (List Char)} {names : List Ident}
    (h : List.Forall₂ (fun part i => ident (String.ofList part) = .ok i) parts names) :
    names.map (·.name.toList) = parts := by
  induction h with
  | nil => rfl
  | cons hi _ ih =>
    rw [List.map_cons, ih, name_of_ofName? (ident_eq_ok_iff.1 hi), String.toList_ofList]

/-- The path of a host type is made of identifiers of host names, and names the type. -/
theorem spelledPath_ok {n : TypeName} {p : ModPath} (h : spelledPath n = .ok p) :
    (∃ names, p = .relative names ∧ names ≠ [] ∧ ∀ i ∈ names, IsHostIdent i) ∧
      TypeName.ofPath p = n := by
  obtain ⟨names, hnames, hp⟩ := Dispatcher.bind_ok h
  obtain rfl : ModPath.relative names = p := Except.ok.inj hp
  have hall := Dispatcher.forall₂_of_mapM hnames
  have hparts := map_name_of_spelled hall
  refine ⟨⟨names, rfl, ?_, fun i hi => ?_⟩, ?_⟩
  · rintro rfl
    exact n.parts_ne_nil hparts.symm
  · obtain ⟨part, _, hpart⟩ := exists_mem_of_forall₂ hall.flip i hi
    exact ⟨_, ident_eq_ok_iff.1 hpart⟩
  · rw [TypeName.ofPath, ModPath.names_relative, hparts, TypeName.parts, Text.join_fields,
      String.ofList_toList]

/-- Keywords, and nothing else, are spelled raw. -/
theorem raw_of_ofName? {name : String} {i : Ident} (h : ofName? name = some i) :
    i.raw = keywords.contains i.name := by
  unfold ofName? at h
  split at h
  · split at h
    · rw [← Option.some.inj h]
    · cases h
  · cases h

variable {i : Ident}

theorem IsHostIdent.isPlain_keyword (h : IsHostIdent i) {w : String} (hw : w ∈ keywords) :
    i.isPlain w = false := by
  obtain ⟨name, hname⟩ := h
  by_cases heq : i.name = w
  · have hraw : i.raw = true := by rw [raw_of_ofName? hname, heq, List.contains_iff_mem.2 hw]
    simp [isPlain, hraw]
  · simp [isPlain, heq]

/-- The identifier of a host name may name an item. -/
theorem IsHostIdent.namesItem (h : IsHostIdent i) : i.namesItem = true := by
  obtain ⟨name, hname⟩ := h
  obtain ⟨_, hunderscore, hpath⟩ := accepts_iff.1 ⟨i, ident_eq_ok_iff.2 hname⟩
  rw [← name_of_ofName? hname] at hunderscore hpath
  rw [Ident.namesItem, raw_of_ofName? hname, isReserved]
  cases keywords.contains i.name <;> simp [hunderscore, hpath]

theorem IsHostIdent.legible (h : IsHostIdent i) : i.Legible := by
  obtain ⟨name, hname⟩ := h
  exact legible_of_ofName? hname

end Naming

namespace Source

/-- A path of legible words is legible. -/
theorem legible_relative {names : List Ident} (h : ∀ i ∈ names, i.Legible) :
    Legible (ModPath.relative names).tokens := by
  induction names with
  | nil => exact .nil
  | cons i rest ih =>
    obtain ⟨hi, hrest⟩ := List.forall_mem_cons.1 h
    cases rest with
    | nil => exact .ident hi .nil
    | cons j others =>
      exact .ident hi (.joint (by decide) (by decide) (.punct (by decide) (ih hrest)))

end Source

/-! ## Items -/

namespace MarkerItem

/-- An item gives a field a value. -/
inductive Gives (field : MarkerField) : MarkerItem → MarkerValue → Prop
  | types {body : List Token} {names : List TypeName}
    (h : readTypeList field (.list (.ofIdent field.word) body) = .ok names) :
    Gives field (.list (.ofIdent field.word) body) (.types names)
  | text (value : String) :
    Gives field (.value (.ofIdent field.word) (.literal (.string value))) (.text value)

end MarkerItem

/-- The path of a host type is legible, and is an item of a list. -/
theorem reads_spelledPath {n : TypeName} {p : ModPath} (h : Naming.spelledPath n = .ok p) :
    Legible p.tokens ∧ MarkerItem.Reads p.tokens (.word p) := by
  obtain ⟨⟨names, rfl, hne, hhost⟩, _⟩ := Naming.spelledPath_ok h
  refine ⟨legible_relative fun i hi => (hhost i hi).legible,
    MarkerItem.reads_relative hne fun i hi => ?_⟩
  exact ⟨(hhost i hi).isPlain_keyword (by decide), (hhost i hi).isPlain_keyword (by decide)⟩

/-- Values whose types have a path can be spelled. -/
theorem MarkerValue.spell_total {v : MarkerValue} (field : MarkerField)
    (h : ∀ names, v = .types names → ∀ n ∈ names, ∃ p, Naming.spelledPath n = .ok p) :
    ∃ piece, v.spell field = .ok piece := by
  cases v with
  | types names =>
    obtain ⟨paths, hpaths⟩ := Dispatcher.mapM_total (h names rfl)
    exact ⟨_, by rw [spell, hpaths]; rfl⟩
  | text value => exact ⟨_, rfl⟩

/-- The item of a field is legible, and is read back to what it gives the field. -/
theorem MarkerValue.spell_ok {v : MarkerValue} {field : MarkerField} {piece : Fragment}
    (h : v.spell field = .ok piece) :
    Legible piece ∧ ∃ item, MarkerItem.Reads piece item ∧ item.Gives field v := by
  have hword : field.word.Legible := by cases field <;> decide
  cases v with
  | text value =>
    cases h
    refine ⟨.ident hword (.punct (by decide) (.literal value .nil)), _,
      MarkerItem.reads_text field value, .text value⟩
  | types names =>
    obtain ⟨paths, hpaths, hpiece⟩ := Dispatcher.bind_ok h
    obtain rfl : [.ident field.word, parens (commaSeparated (paths.map ModPath.tokens))] = piece :=
      Except.ok.inj hpiece
    have hall := Dispatcher.forall₂_of_mapM hpaths
    have hnames : paths.map TypeName.ofPath = names := by
      refine List.forall₂_eq_eq_eq ▸ List.forall₂_map_left_iff.2 ?_
      exact hall.flip.imp fun p n hp => (Naming.spelledPath_ok hp).2
    have hpath : ∀ p ∈ paths, Legible p.tokens ∧ MarkerItem.Reads p.tokens (.word p) := by
      intro p hp
      obtain ⟨n, _, hn⟩ := exists_mem_of_forall₂ hall.flip p hp
      exact reads_spelledPath hn
    have hlegible : Legible (commaSeparated (paths.map ModPath.tokens)) :=
      Legible.commaSeparated (List.forall_mem_map.2 fun p hp => (hpath p hp).1)
    have hreads : List.Forall₂ MarkerItem.Reads (paths.map ModPath.tokens)
        (paths.map MarkerItem.word) := by
      rw [List.forall₂_map_left_iff, List.forall₂_map_right_iff, List.forall₂_same]
      exact fun p hp => (hpath p hp).2
    refine ⟨.ident hword (.group .parenthesis hlegible .nil), _, MarkerItem.reads_list field _,
      .types ?_⟩
    rw [readTypeList, MarkerItem.ofTokens_commaSeparated hreads]
    exact (MarkerItem.typesOfItems_words field paths).trans (congrArg _ hnames)

/-- The items of spelled entries, one for each. -/
theorem MarkerValue.exists_items {entries : List (MarkerField × MarkerValue)}
    {pieces : List Fragment}
    (h : List.Forall₂ (fun e piece => e.2.spell e.1 = .ok piece) entries pieces) :
    ∃ items, List.Forall₂ MarkerItem.Reads pieces items ∧
      List.Forall₂ (fun e (item : MarkerItem) => item.Gives e.1 e.2) entries items := by
  induction h with
  | nil => exact ⟨[], .nil, .nil⟩
  | cons hspell _ ih =>
    obtain ⟨_, item, hread, hgives⟩ := spell_ok hspell
    obtain ⟨items, hreads, hall⟩ := ih
    exact ⟨item :: items, .cons hread hreads, .cons hgives hall⟩

/-! ## Fields -/

namespace MarkerFields

open GenerationSpec

/-- What the fields of a marker hold when those in `read` are read.  A field that the marker leaves
out counts as read. -/
structure Hold (targets : List TypeName) (settings : Settings) (read : List MarkerField)
    (f : MarkerFields) : Prop where
  written : ∀ field ∈ f.written, field ∈ read
  targets : f.targets = if .targets ∈ read then targets else []
  groups : f.groups = if .groups ∈ read then settings.groups.getD [] else []
  reflect : f.reflect = if .reflect ∈ read then settings.reflect.getD [] else []
  containers : f.containers = if .containers ∈ read then settings.containers.getD [] else []
  package : f.package = if .package ∈ read then settings.package else none
  runtime : f.runtime = if .runtime ∈ read then settings.runtime.bind ModPath.ofText? else none
  root : f.root = if .root ∈ read then settings.root.bind ModPath.ofText? else none

variable {targets : List TypeName} {settings : Settings} {read : List MarkerField}
  {field : MarkerField} {f f' : MarkerFields}

theorem hold_nil (targets : List TypeName) (settings : Settings) : Hold targets settings [] {} := by
  constructor <;> simp

/-- A field that is left out changes nothing. -/
theorem Hold.skip (h : Hold targets settings read f)
    (hvalue : settings.markerValue targets field = none) :
    Hold targets settings (field :: read) f := by
  have hwritten : ∀ x ∈ f.written, x ∈ field :: read :=
    fun x hx => List.mem_cons_of_mem _ (h.written x hx)
  obtain ⟨_, htargets, hgroups, hreflect, hcontainers, hpackage, hruntime, hroot⟩ := h
  cases field with
  | targets => cases hvalue
  | _ =>
    simp only [Settings.markerValue, Option.map_eq_none_iff] at hvalue
    constructor <;> simp_all

/-- An item is added if its field is free and its value can be read. -/
theorem add_of_gives {item : MarkerItem} {v : MarkerValue}
    (h : item.Gives field v) (hfree : field ∉ f.written)
    (hfill : ({ f with written := field :: f.written } : MarkerFields).fill field item = .ok f') :
    f.add item = (f', []) := by
  have hpath : item.path? = some (.ofIdent field.word) := by cases h <;> rfl
  have hfield : MarkerField.ofText? (fieldName (.ofIdent field.word)) = some field := by
    cases field <;> decide
  rw [add, hpath]
  simp only [hfield, if_neg hfree, hfill]

/-- An item that gives a field its value is added. -/
theorem Hold.add (h : Hold targets settings read f) (hpaths : settings.PathsReadable)
    (hnew : field ∉ read) {v : MarkerValue}
    (hvalue : settings.markerValue targets field = some v) {item : MarkerItem}
    (hitem : item.Gives field v) :
    ∃ f', f.add item = (f', []) ∧ Hold targets settings (field :: read) f' := by
  have hfree : field ∉ f.written := fun hmem => hnew (h.written field hmem)
  have hwritten : ∀ x ∈ field :: f.written, x ∈ field :: read :=
    List.forall_mem_cons.2 ⟨List.mem_cons_self, fun x hx => List.mem_cons_of_mem _ (h.written x hx)⟩
  obtain ⟨_, htargets, hgroups, hreflect, hcontainers, hpackage, hruntime, hroot⟩ := h
  cases hitem with
  | types hnames =>
    cases field with
    | targets | groups | reflect | containers =>
      refine ⟨_, add_of_gives (.types hnames) hfree (by rw [fill, hnames]; rfl), ?_⟩
      simp only [Settings.markerValue, Option.map_eq_some_iff, Option.some.injEq,
        MarkerValue.types.injEq, exists_eq_right] at hvalue
      constructor <;> simp_all
    | package | runtime | root => simp [Settings.markerValue] at hvalue
  | text value =>
    cases field with
    | package =>
      refine ⟨_, add_of_gives (.text value) hfree rfl, ?_⟩
      simp only [Settings.markerValue, Option.map_eq_some_iff, MarkerValue.text.injEq,
        exists_eq_right] at hvalue
      constructor <;> simp_all
    | runtime | root =>
      simp only [Settings.markerValue, Option.map_eq_some_iff, MarkerValue.text.injEq,
        exists_eq_right] at hvalue
      obtain ⟨p, hp⟩ := hpaths value (by simp [hvalue])
      refine ⟨_, add_of_gives (.text value) hfree (by rw [fill, readPathField, hp]; rfl), ?_⟩
      constructor <;> simp_all
    | targets | groups | reflect | containers => simp [Settings.markerValue] at hvalue

/-- The items of a marker are added one after the other, in whatever order. -/
theorem Hold.addAll (h : Hold targets settings read f) (hpaths : settings.PathsReadable)
    {order : List MarkerField} (hnodup : order.Nodup) (hnew : ∀ field ∈ order, field ∉ read)
    {items : List MarkerItem}
    (hitems : List.Forall₂ (fun e (item : MarkerItem) => item.Gives e.1 e.2)
      (settings.markerEntries targets order) items) :
    ∃ f', f.addAll items = (f', []) ∧ Hold targets settings (order.reverse ++ read) f' := by
  induction order generalizing read f items with
  | nil =>
    cases hitems
    exact ⟨f, rfl, h⟩
  | cons field rest ih =>
    obtain ⟨hfield, hrest⟩ := List.nodup_cons.1 hnodup
    obtain ⟨hfresh, hothers⟩ := List.forall_mem_cons.1 hnew
    have hnext : ∀ x ∈ rest, x ∉ field :: read := by
      intro x hx hmem
      rcases List.mem_cons.1 hmem with rfl | hmem
      · exact hfield hx
      · exact hothers x hx hmem
    have hreverse : (field :: rest).reverse ++ read = rest.reverse ++ field :: read := by simp
    rw [hreverse]
    cases hvalue : settings.markerValue targets field with
    | none =>
      rw [Settings.markerEntries, List.filterMap_cons_none (by rw [hvalue]; rfl)] at hitems
      exact ih (h.skip hvalue) hrest hnext hitems
    | some v =>
      rw [Settings.markerEntries, List.filterMap_cons_some (by rw [hvalue]; rfl)] at hitems
      cases hitems with
      | cons hitem hmore =>
        obtain ⟨f₁, hadd, hhold⟩ := h.add hpaths hfresh hvalue hitem
        obtain ⟨f', haddAll, hhold'⟩ := ih hhold hrest hnext hmore
        exact ⟨f', by rw [MarkerFields.addAll, hadd]; simp [haddAll], hhold'⟩

/-- One marker attribute without problems fills the fields with its items. -/
theorem addAttributes_marker {body : List Token} {items : List MarkerItem}
    (hitems : MarkerItem.ofTokens body = .ok items) (hadd : f.addAll items = (f', [])) :
    f.addAttributes [⟨.ofIdent (.plain "validator"), .list body⟩] = (f', []) := by
  have hmarks : ((ModPath.ofIdent (.plain "validator")).single?.map
      (·.isPlain "validator")).getD false = true := by decide
  simp only [addAttributes, hmarks, if_true, addContent, hitems, hadd, List.append_nil]

end MarkerFields

/-! ## Specs -/

namespace GenerationSpec

variable {name : String} {i : Ident} {first : TypeName} {more : List TypeName}
  {settings : Settings}

/-- The spec of a name, targets and settings. -/
def ofSettings (name : Ident) (first : TypeName) (more : List TypeName) (settings : Settings) :
    GenerationSpec where
  name := name
  visibility := .everywhere
  package := settings.package.getD first.package
  targets := first :: more
  groups := orDefaultGroup (settings.groups.getD [])
  reflect := settings.reflect.getD []
  config :=
    { runtime := (settings.runtime.bind ModPath.ofText?).getD GeneratorConfig.defaultRuntime
      root := (settings.root.bind ModPath.ofText?).getD GeneratorConfig.defaultRoot
      containers := settings.containers.getD GeneratorConfig.defaultContainers }

theorem pathOr_ok (standard : ModPath) {text : Option String}
    (h : ∀ t, text = some t → ∃ p, ModPath.ofText? t = some p) :
    pathOr standard text = .ok ((text.bind ModPath.ofText?).getD standard) := by
  cases text with
  | none => rfl
  | some t =>
    obtain ⟨p, hp⟩ := h t rfl
    simp only [pathOr, readPath, hp, Option.bind_some, Option.getD_some]

/-- What a spec built in code holds. -/
theorem build_eq_ofSettings (hname : Naming.ident name = .ok i) (hpaths : settings.PathsReadable) :
    build name (first :: more) settings = .ok (ofSettings i first more settings) := by
  have hruntime := pathOr_ok GeneratorConfig.defaultRuntime fun t ht => hpaths t (.inl ht)
  have hroot := pathOr_ok GeneratorConfig.defaultRoot fun t ht => hpaths t (.inr ht)
  have hgroups : ∀ s : GenerationSpec, s.groups = [defaultGroup] →
      (settings.groups.map s.withGroups).getD s = s.withGroups (settings.groups.getD []) := by
    intro s hs
    cases settings.groups with
    | none => cases s; subst hs; rfl
    | some groups => rfl
  have hreflect : ∀ s : GenerationSpec, (settings.reflect.map s.withReflect).getD s =
      s.withReflect (settings.reflect.getD s.reflect) := by
    intro s
    cases settings.reflect <;> rfl
  have hpackage : ∀ s : GenerationSpec, (settings.package.map s.withPackage).getD s =
      s.withPackage (settings.package.getD s.package) := by
    intro s
    cases settings.package <;> rfl
  have hcreate : create name (first :: more) = .ok (ofTargets i first more) := by
    rw [create, hname]
    rfl
  rw [build, hcreate]
  dsimp only [bind, Except.bind]
  rw [hgroups _ rfl, hreflect, hpackage]
  simp only [withGroups, withReflect, withPackage, ofTargets, GeneratorConfig.standard, hruntime,
    hroot]
  rfl

/-- A declaration whose fields hold what targets and settings give declares their spec. -/
theorem ofDeclaration_eq_ofSettings {d : TypeDeclaration} {f : MarkerFields}
    {read : List MarkerField} (hvisibility : d.visibility = .everywhere) (hshape : d.shape = .unit)
    (hfields : MarkerFields.addAttributes {} d.attributes = (f, []))
    (hhold : MarkerFields.Hold (first :: more) settings read f) (hall : ∀ field, field ∈ read)
    (hcontainers : settings.containers ≠ some []) :
    ofDeclaration d = .ok (ofSettings d.name first more settings) := by
  have htargets : f.targets = first :: more := by rw [hhold.targets, if_pos (hall _)]
  have hlist : (if f.containers.isEmpty then GeneratorConfig.defaultContainers else f.containers) =
      settings.containers.getD GeneratorConfig.defaultContainers := by
    rw [hhold.containers, if_pos (hall _)]
    cases hgiven : settings.containers with
    | none => rfl
    | some cs =>
      cases cs with
      | nil => exact absurd hgiven hcontainers
      | cons c rest => rfl
  rw [ofDeclaration, hfields]
  simp only [hshape, shapeProblems, List.append_nil, htargets, hlist, hvisibility, ofSettings,
    hhold.groups, hhold.reflect, hhold.package, hhold.runtime, hhold.root, hall, if_true]

/-- The types that a field is given are listed. -/
theorem mem_listed {targets names : List TypeName} {field : MarkerField} {n : TypeName}
    (h : settings.markerValue targets field = some (.types names)) (hn : n ∈ names) :
    n ∈ settings.listed targets := by
  cases field <;> simp [Settings.markerValue] at h <;> simp [Settings.listed, h, hn]

/-- The marker of targets and settings with readable names can be spelled. -/
theorem spelledMarker_total (hname : Naming.ident name = .ok i) {targets : List TypeName}
    (hnames : ∀ n ∈ settings.listed targets, ∀ part ∈ n.parts,
      Naming.Accepts (String.ofList part)) (order : List MarkerField) :
    ∃ marker, spelledMarker name targets settings order = .ok marker := by
  have hitems : ∀ e ∈ settings.markerEntries targets order, ∃ piece, e.2.spell e.1 = .ok piece := by
    intro e he
    obtain ⟨field, _, hfield⟩ := List.mem_filterMap.1 he
    obtain ⟨v, hv, rfl⟩ := Option.map_eq_some_iff.1 hfield
    refine MarkerValue.spell_total field fun names hvalue n hn => ?_
    subst hvalue
    exact Naming.spelledPath_total (hnames n (mem_listed hv hn))
  obtain ⟨pieces, hpieces⟩ := Dispatcher.mapM_total hitems
  exact ⟨_, by rw [spelledMarker, hname, hpieces]; rfl⟩

/-- A marker is legible, and each of its items gives its field what the marker is spelled from. -/
theorem spelledMarker_ok (hname : Naming.ident name = .ok i) {targets : List TypeName}
    {order : List MarkerField} {marker : Fragment}
    (h : spelledMarker name targets settings order = .ok marker) :
    Legible marker ∧ ∃ body items, marker = unitStruct [word "validator", parens body] i ∧
      MarkerItem.ofTokens body = .ok items ∧
      List.Forall₂ (fun e (item : MarkerItem) => item.Gives e.1 e.2)
        (settings.markerEntries targets order) items := by
  obtain ⟨j, hj, hrest⟩ := Dispatcher.bind_ok h
  obtain rfl : i = j := Except.ok.inj (hname.symm.trans hj)
  obtain ⟨pieces, hpieces, hmarker⟩ := Dispatcher.bind_ok hrest
  obtain rfl : unitStruct [word "validator", parens (commaSeparated pieces)] i = marker :=
    Except.ok.inj hmarker
  have hall := Dispatcher.forall₂_of_mapM hpieces
  obtain ⟨items, hreads, hgives⟩ := MarkerValue.exists_items hall
  have hbody : Legible (commaSeparated pieces) := by
    refine Legible.commaSeparated fun piece hpiece => ?_
    obtain ⟨e, _, hspell⟩ := exists_mem_of_forall₂ hall.flip piece hpiece
    exact (MarkerValue.spell_ok hspell).1
  refine ⟨?_, _, items, rfl, MarkerItem.ofTokens_commaSeparated hreads, hgives⟩
  have hident : i.Legible := Ident.legible_of_ofName? (Naming.ident_eq_ok_iff.1 hname)
  have hmark : Legible [word "validator", parens (commaSeparated pieces)] :=
    .ident (by decide) (.group .parenthesis hbody .nil)
  exact .punct (by decide) (.group .bracket hmark
    (.ident (by decide) (.ident (by decide) (.ident hident (.punct (by decide) .nil)))))

/-- The marker that a name, targets and settings are spelled as has its tokens again when it is
printed, and any text with these tokens declares the spec that is built from them.  So a run on the
text and one on the spec answer the same and leave the same output. -/
theorem marker_builds_spec {name : String} {targets : List TypeName} {settings : Settings}
    {order : List MarkerField} (horder : order.Perm MarkerField.all)
    (hname : Naming.Accepts name) (htargets : targets ≠ [])
    (hcontainers : settings.containers ≠ some [])
    (hnames : ∀ n ∈ settings.listed targets, ∀ part ∈ n.parts,
      Naming.Accepts (String.ofList part))
    (hpaths : settings.PathsReadable) :
    ∃ s marker, build name targets settings = .ok s ∧
      spelledMarker name targets settings order = .ok marker ∧
      tokenize (text marker) = some marker ∧
      ∀ source, tokenize source = some marker →
        ofMarker source = .ok s ∧
        ∀ {σ : Type} [ArtifactSink σ] (types : TypeUniverse) (engine : ConstraintEngine)
          (output : Output σ),
          generateFromMarker source types engine output = generate s types engine output := by
  obtain ⟨i, hi⟩ := hname
  obtain ⟨first, more, rfl⟩ := List.exists_cons_of_ne_nil htargets
  obtain ⟨marker, hmarker⟩ := spelledMarker_total hi hnames order
  obtain ⟨hlegible, body, items, rfl, hitems, hgives⟩ := spelledMarker_ok hi hmarker
  have hmem : ∀ field, field ∈ order := fun field => horder.mem_iff.2 (by cases field <;> decide)
  have hnodup : order.Nodup := horder.nodup_iff.2 (by decide)
  obtain ⟨f, hadd, hhold⟩ := (MarkerFields.hold_nil _ _).addAll hpaths hnodup
    (fun _ _ => List.not_mem_nil) hgives
  have hread := TypeDeclaration.reader_unitStruct body
    (Naming.IsHostIdent.namesItem ⟨name, Naming.ident_eq_ok_iff.1 hi⟩)
  have hspec : ∀ source, tokenize source = some (unitStruct [word "validator", parens body] i) →
      ofMarker source = .ok (ofSettings i first more settings) := by
    intro source hsource
    rw [ofMarker, TypeDeclaration.ofText?, hsource, Option.bind_some, hread]
    exact ofDeclaration_eq_ofSettings rfl rfl (MarkerFields.addAttributes_marker hitems hadd) hhold
      (fun field => by simp [hmem field]) hcontainers
  refine ⟨ofSettings i first more settings, _, build_eq_ofSettings hi hpaths, hmarker,
    tokenize_text hlegible, fun source hsource => ⟨hspec source hsource, ?_⟩⟩
  intro σ _ types engine output
  rw [generateFromMarker, hspec source hsource]

/-- Settings with keywords in their names, a package that is spelled with escapes, and a list
without types. -/
def benchSettings : Settings where
  groups := some [defaultGroup, ⟨"acme.match.Strict"⟩]
  reflect := some []
  package := some "acme.\"type\"\n"
  runtime := some "::bean_core"
  containers := some [⟨"acme.fn.Crate"⟩]

def benchTargets : List TypeName := [⟨"acme.type.Bench"⟩, ⟨"Stool"⟩]

theorem bench_marker_builds_spec :
    ∃ s marker, build "type" benchTargets benchSettings = .ok s ∧
      spelledMarker "type" benchTargets benchSettings MarkerField.all.reverse = .ok marker ∧
      ofMarker (text marker) = .ok s := by
  have hname : Naming.Accepts "type" := by decide
  have htargets : benchTargets ≠ [] := List.cons_ne_nil _ _
  have hcontainers : benchSettings.containers ≠ some [] := by decide
  have hnames : ∀ n ∈ benchSettings.listed benchTargets, ∀ part ∈ n.parts,
      Naming.Accepts (String.ofList part) := by decide
  have hpaths : benchSettings.PathsReadable := by
    rintro path (hruntime | hroot)
    · cases hruntime
      exact Option.isSome_iff_exists.1 (by decide +kernel)
    · cases hroot
  obtain ⟨s, marker, hbuild, hmarker, htokens, hread⟩ :=
    marker_builds_spec (List.reverse_perm _) hname htargets hcontainers hnames hpaths
  exact ⟨s, marker, hbuild, hmarker, (hread _ htokens).1⟩

end GenerationSpec

end ValidatorForge
