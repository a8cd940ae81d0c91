import Mathlib.Data.List.Perm.Basic
import ValidatorForge.Proofs.Snapshot.Scanning
import ValidatorForge.Snapshot.Decoder
import ValidatorForge.Snapshot.Encoder

/-!
# Written forms

A value may be written in more ways than the encoder chooses: the fields of a record stand in any
order, a field that holds its default may be left out, and fields that nobody asks for may be added.
A `Form` is the set of documents that a value may be written as.  Every document of a form is sound,
so it is scanned back from its text.

`ReadBack form written decode x` says that `decode` reads `x` from every document of the form if it
has room for the arrays and objects that lie inside each other in `written`, the encoder's document.
Each way to build a form has its lemma: `ReadBack.list`, `ReadBack.option`, `ReadBack.variant` and
`ReadBack.record`.  The last one rests on the run of `readMembers` over members in any order
(`readMembers_of_roles`): a step lemma `ReadsFields` for each record type says what one member adds
to the fields that have been read.
-/

namespace ValidatorForge.Snapshot

/-! ## Nesting -/

mutual

/-- How many arrays and objects lie inside each other. -/
def Document.nesting : Document → Nat
  | .array items _ => nestingOfItems items + 1
  | .object members _ => nestingOfMembers members + 1
  | _ => 0

def nestingOfItems : List Document → Nat
  | [] => 0
  | d :: rest => max d.nesting (nestingOfItems rest)

def nestingOfMembers : List (StringToken × Document) → Nat
  | [] => 0
  | (_, d) :: rest => max d.nesting (nestingOfMembers rest)

end

namespace Document

theorem nestingOfItems_le {items : List Document} {n : Nat} :
    nestingOfItems items ≤ n ↔ ∀ d ∈ items, d.nesting ≤ n := by
  induction items with
  | nil => simp [nestingOfItems]
  | cons d rest ih => rw [nestingOfItems, Nat.max_le, List.forall_mem_cons, ih]

theorem nestingOfMembers_le {members : List (StringToken × Document)} {n : Nat} :
    nestingOfMembers members ≤ n ↔ ∀ m ∈ members, m.2.nesting ≤ n := by
  induction members with
  | nil => simp [nestingOfMembers]
  | cons m rest ih => rw [nestingOfMembers, Nat.max_le, List.forall_mem_cons, ih]

/-- A list takes one place of the room and leaves the rest to its items. -/
theorem nesting_ofList_le {items : List Document} {room : Nat}
    (h : (ofList items).nesting ≤ room) :
    ∃ inside, room = inside + 1 ∧ ∀ d ∈ items, d.nesting ≤ inside := by
  rw [ofList, nesting] at h
  exact ⟨room - 1, by omega, nestingOfItems_le.1 (by omega)⟩

/-- A record takes one place of the room and leaves the rest to its fields. -/
theorem nesting_ofFields_le {fields : List (String × Document)} {room : Nat}
    (h : (ofFields fields).nesting ≤ room) :
    ∃ inside, room = inside + 1 ∧ ∀ p ∈ fields, p.2.nesting ≤ inside := by
  rw [ofFields, nesting] at h
  refine ⟨room - 1, by omega, fun p hp => ?_⟩
  exact nestingOfMembers_le.1 (Nat.le_sub_of_add_le h) _ (List.mem_map_of_mem hp)

end Document

theorem skip_of_sound {d : Document} (h : d.Sound) : skip d = .ok () := by
  rw [skip, skipFault_of_sound h]

/-! ## Forms -/

/-- A string that stands for a text, in any spelling. -/
structure StringToken.Spells (t : StringToken) (s : String) : Prop where
  sound : t.Sound
  text : t.text = .ok s

theorem StringToken.spells_ofChars (s : String) : (ofChars s.toList).Spells s where
  sound := sound_ofChars _
  text := text_ofChars s

theorem StringToken.Spells.decodeText {t : StringToken} {s : String} (h : t.Spells s) :
    t.decodeText = .ok s := by
  rw [StringToken.decodeText, h.text]

/-- What a value may be written as. -/
structure Form where
  Holds : Document → Prop
  sound : ∀ {d : Document}, Holds d → d.Sound

/-- A field of a record, with what its value may be written as and when it may be left out. -/
structure Field where
  name : String
  form : Form
  MayOmit : Prop

namespace Field

/-- A field that has to be there. -/
def required (name : String) (form : Form) : Field := ⟨name, form, False⟩

/-- A field that may be left out if it holds its default. -/
def optional {α : Type} (name : String) (form : Form) (x default : α) : Field :=
  ⟨name, form, x = default⟩

variable {α : Type} {name : String} {form : Form} {x default : α}

@[simp] theorem name_required : (required name form).name = name := rfl

@[simp] theorem name_optional : (optional name form x default).name = name := rfl

@[simp] theorem mayOmit_required : (required name form).MayOmit = False := rfl

@[simp] theorem mayOmit_optional : (optional name form x default).MayOmit = (x = default) := rfl

end Field

/-- The members of a record in declared order, some of those that may be left out left out. -/
inductive Kept : List Field → List (StringToken × Document) → Prop
  | nil : Kept [] []
  | keep {f : Field} {key : StringToken} {d : Document} {fields : List Field}
      {members : List (StringToken × Document)} (hkey : key.Spells f.name)
      (hvalue : f.form.Holds d) (hrest : Kept fields members) :
      Kept (f :: fields) ((key, d) :: members)
  | leaveOut {f : Field} {fields : List Field} {members : List (StringToken × Document)}
      (hdefault : f.MayOmit) (hrest : Kept fields members) : Kept (f :: fields) members

/-- A member that is no field of the record. -/
structure Unknown (fields : List Field) (m : StringToken × Document) : Prop where
  key : ∃ name, m.1.Spells name ∧ ∀ f ∈ fields, name ≠ f.name
  value : m.2.Sound

/-- The role of a member: a field, or none. -/
def Plays (fields : List Field) (m : StringToken × Document) : Option Field → Prop
  | some f => f ∈ fields ∧ m.1.Spells f.name ∧ f.form.Holds m.2
  | none => Unknown fields m

theorem Unknown.sound {fields : List Field} {m : StringToken × Document} (h : Unknown fields m) :
    m.1.Sound ∧ m.2.Sound := by
  obtain ⟨name, hname, _⟩ := h.key
  exact ⟨hname.sound, h.value⟩

theorem Kept.sound {fields : List Field} {members : List (StringToken × Document)}
    (h : Kept fields members) : ∀ m ∈ members, m.1.Sound ∧ m.2.Sound := by
  induction h with
  | nil => exact List.forall_mem_nil _
  | @keep f key d _ _ hkey hvalue _ ih =>
    exact List.forall_mem_cons.2 ⟨⟨hkey.sound, f.form.sound hvalue⟩, ih⟩
  | leaveOut _ _ ih => exact ih

/-- The fields that are kept are some of the fields, and the others may be left out. -/
theorem Kept.exists_sublist {all fields : List Field} {members : List (StringToken × Document)}
    (h : Kept fields members) (hall : ∀ f ∈ fields, f ∈ all) :
    ∃ kept : List Field, kept.Sublist fields ∧ List.Forall₂ (Plays all) members (kept.map some) ∧
      ∀ f ∈ fields, f ∈ kept ∨ f.MayOmit := by
  induction h with
  | nil => exact ⟨[], List.Sublist.refl _, .nil, List.forall_mem_nil _⟩
  | @keep f key d fields members hkey hvalue _ ih =>
    obtain ⟨hf, hfields⟩ := List.forall_mem_cons.1 hall
    obtain ⟨kept, hsub, hkept, homit⟩ := ih hfields
    refine ⟨f :: kept, hsub.cons_cons f, .cons ⟨hf, hkey, hvalue⟩ hkept, ?_⟩
    exact List.forall_mem_cons.2 ⟨Or.inl List.mem_cons_self,
      fun g hg => (homit g hg).imp_left (List.mem_cons_of_mem f)⟩
  | @leaveOut f fields members hdefault _ ih =>
    obtain ⟨_, hfields⟩ := List.forall_mem_cons.1 hall
    obtain ⟨kept, hsub, hkept, homit⟩ := ih hfields
    exact ⟨kept, hsub.cons f, hkept, List.forall_mem_cons.2 ⟨Or.inr hdefault, homit⟩⟩

/-- The names of the fields among the roles. -/
def namesOfRoles (roles : List (Option Field)) : List String :=
  roles.filterMap fun role => role.map Field.name

/-- The members of a record play distinct roles, whatever their order is. -/
theorem exists_roles {fields : List Field} {members kept extra : List (StringToken × Document)}
    (hnames : (fields.map Field.name).Nodup) (hperm : members.Perm (kept ++ extra))
    (hkept : Kept fields kept) (hextra : ∀ m ∈ extra, Unknown fields m) :
    ∃ roles, List.Forall₂ (Plays fields) members roles ∧ (namesOfRoles roles).Nodup ∧
      ∀ f ∈ fields, f.name ∈ namesOfRoles roles ∨ f.MayOmit := by
  obtain ⟨named, hsub, hnamed, hall⟩ := hkept.exists_sublist fun _ hf => hf
  -- first the fields that are kept, then the members that are none
  let inOrder : List (Option Field) := named.map some ++ extra.map fun _ => none
  have hunnamed : List.Forall₂ (Plays fields) extra (extra.map fun _ => none) :=
    List.forall₂_map_right_iff.2 (List.forall₂_same.2 hextra)
  have hplays : List.Forall₂ (Plays fields) (kept ++ extra) inOrder :=
    List.rel_append hnamed hunnamed
  have hinOrder : namesOfRoles inOrder = named.map Field.name := by
    simp [inOrder, namesOfRoles]
  obtain ⟨roles, hroles, hrolesPerm⟩ := List.perm_comp_forall₂ hperm hplays
  have hperm' : (namesOfRoles roles).Perm (named.map Field.name) := by
    rw [← hinOrder]
    exact hrolesPerm.filterMap _
  refine ⟨roles, hroles, ?_, fun f hf => (hall f hf).imp_left fun hmem => ?_⟩
  · exact hperm'.nodup_iff.2 (hnames.sublist (hsub.map _))
  · exact hperm'.mem_iff.2 (List.mem_map_of_mem hmem)

namespace Form

/-- Any spelling of a text. -/
def text (s : String) : Form where
  Holds d := ∃ t : StringToken, d = .string t ∧ t.Spells s
  sound := by
    rintro _ ⟨t, rfl, ht⟩
    exact ht.sound

def bool (b : Bool) : Form where
  Holds d := d = .bool b
  sound := by
    rintro _ rfl
    trivial

/-- A list of one document for each item. -/
def list (items : List Form) : Form where
  Holds d := ∃ ds, d = .array ds .closed ∧ List.Forall₂ Form.Holds items ds
  sound := by
    rintro _ ⟨ds, rfl, hds⟩
    show SoundItems ds
    induction hds with
    | nil => trivial
    | @cons item d _ _ hd _ ih => exact ⟨item.sound hd, ih⟩

/-- A value, or `null` for none. -/
def option {α : Type} (form : α → Form) : Option α → Form
  | none => ⟨fun d => d = .null, by rintro _ rfl; trivial⟩
  | some x => form x

/-- A variant with its payload, as the one member of an object. -/
def variant (name : String) (payload : Form) : Form where
  Holds d := ∃ key value, d = .object [(key, value)] .closed ∧ key.Spells name ∧ payload.Holds value
  sound := by
    rintro _ ⟨key, value, rfl, hkey, hvalue⟩
    exact ⟨hkey.sound, payload.sound hvalue, trivial⟩

/-- An object of the fields in any order.  Fields that hold their default may be left out, and
members that are no fields may stand anywhere. -/
def record (fields : List Field) : Form where
  Holds d := ∃ members kept extra, d = .object members .closed ∧ members.Perm (kept ++ extra) ∧
    Kept fields kept ∧ ∀ m ∈ extra, Unknown fields m
  sound := by
    rintro _ ⟨members, kept, extra, rfl, hperm, hkept, hextra⟩
    show SoundMembers members
    rw [soundMembers_iff]
    intro m hm
    rcases List.mem_append.1 (hperm.mem_iff.1 hm) with hmem | hmem
    · exact hkept.sound m hmem
    · exact (hextra m hmem).sound

/-- The encoder's record keeps all fields in declared order. -/
theorem record_ofFields {fields : List Field} {written : List (String × Document)}
    (h : List.Forall₂ (fun f p => f.name = p.1 ∧ f.form.Holds p.2) fields written) :
    (record fields).Holds (Document.ofFields written) := by
  have hkept : Kept fields (written.map fun p => (.ofChars p.1.toList, p.2)) := by
    induction h with
    | nil => exact .nil
    | @cons f p _ _ hp _ ih => exact .keep (hp.1 ▸ StringToken.spells_ofChars p.1) hp.2 ih
  exact ⟨_, _, [], rfl, by rw [List.append_nil], hkept, List.forall_mem_nil _⟩

end Form

/-! ## Reading members -/

/-- What one member does to the fields that have been read: `slots` holds the values of the fields
in a list of names. -/
structure ReadsFields {σ : Type} (fields : List Field) (step : σ → String → Document → Decoded σ)
    (slots : List String → σ) : Prop where
  field : ∀ f ∈ fields, ∀ (seen : List String) (d : Document), f.name ∉ seen →
    f.form.Holds d → step (slots seen) f.name d = .ok (slots (f.name :: seen))
  other : ∀ {name : String} {seen : List String} {d : Document}, (∀ f ∈ fields, name ≠ f.name) →
    d.Sound → step (slots seen) name d = .ok (slots seen)

section

variable {σ : Type} {fields : List Field} {step : σ → String → Document → Decoded σ}
  {slots : List String → σ}

theorem readMembers_cons {key : StringToken} {name : String} {d : Document} {r r' : σ}
    (hname : key.Spells name) (hstep : step r name d = .ok r')
    (members : List (StringToken × Document)) (close : Close) :
    readMembers step r ((key, d) :: members) close = readMembers step r' members close := by
  simp only [readMembers, List.foldlM_cons, hname.decodeText]
  show (step r name d >>= fun r => members.foldlM _ r) >>= _ = _
  rw [hstep]
  rfl

/-- Members of distinct roles fill the slots of the fields among them. -/
theorem readMembers_of_roles (h : ReadsFields fields step slots)
    {members : List (StringToken × Document)} {roles : List (Option Field)}
    (hroles : List.Forall₂ (Plays fields) members roles) (seen : List String)
    (hdistinct : (namesOfRoles roles ++ seen).Nodup) :
    ∃ seen', readMembers step (slots seen) members .closed = .ok (slots seen') ∧
      ∀ name, name ∈ namesOfRoles roles ++ seen → name ∈ seen' := by
  induction hroles generalizing seen with
  | nil => exact ⟨seen, rfl, fun _ hname => hname⟩
  | @cons m role members roles hm _ ih =>
    obtain ⟨key, d⟩ := m
    cases role with
    | none =>
      obtain ⟨name, hname, hother⟩ := hm.key
      obtain ⟨seen', hrun, hseen'⟩ := ih seen hdistinct
      refine ⟨seen', ?_, hseen'⟩
      rw [readMembers_cons hname (h.other hother hm.value)]
      exact hrun
    | some f =>
      obtain ⟨hf, hname, hvalue⟩ := hm
      have hmiddle : (f.name :: (namesOfRoles roles ++ seen)).Perm
          (namesOfRoles roles ++ f.name :: seen) := List.perm_middle.symm
      have hfresh : f.name ∉ seen := fun hmem =>
        (List.nodup_cons.1 hdistinct).1 (List.mem_append_right _ hmem)
      obtain ⟨seen', hrun, hseen'⟩ := ih (f.name :: seen) (hmiddle.nodup_iff.1 hdistinct)
      refine ⟨seen', ?_, fun name hmem => hseen' name (hmiddle.mem_iff.1 hmem)⟩
      rw [readMembers_cons hname (h.field f hf seen d hfresh hvalue)]
      exact hrun

/-- The members of a record fill the slots of all fields but some that hold their default. -/
theorem readMembers_of_record (h : ReadsFields fields step slots)
    (hnames : (fields.map Field.name).Nodup) {d : Document} (hd : (Form.record fields).Holds d) :
    ∃ members seen, d = .object members .closed ∧
      readMembers step (slots []) members .closed = .ok (slots seen) ∧
      ∀ f ∈ fields, f.name ∈ seen ∨ f.MayOmit := by
  obtain ⟨members, kept, extra, rfl, hperm, hkept, hextra⟩ := hd
  obtain ⟨roles, hroles, hdistinct, hall⟩ := exists_roles hnames hperm hkept hextra
  obtain ⟨seen, hrun, hseen⟩ := readMembers_of_roles h hroles [] (by rwa [List.append_nil])
  refine ⟨members, seen, rfl, hrun, fun f hf => (hall f hf).imp_left fun hmem => ?_⟩
  exact hseen _ (List.mem_append_left _ hmem)

end

@[simp] theorem Decoded.ok_bind {α β : Type} (x : α) (f : α → Decoded β) :
    (Except.ok x : Decoded α) >>= f = f x := rfl

@[simp] theorem Decoded.pure_eq_ok {α : Type} (x : α) : (pure x : Decoded α) = .ok x := rfl

/-! ## Slots -/

/-- The slot of a field, filled if the field has been read. -/
def slot {α : Type} (seen : List String) (name : String) (x : α) : Option α :=
  if name ∈ seen then some x else none

section

variable {α : Type} {seen : List String} {name : String} {x : α}

@[simp] theorem slot_nil : slot [] name x = none := rfl

@[simp] theorem slot_cons_self : slot (name :: seen) name x = some x := by simp [slot]

theorem slot_cons_of_ne {other : String} (h : name ≠ other) :
    slot (other :: seen) name x = slot seen name x := by
  simp [slot, h]

/-- A field is filled once. -/
theorem fill_slot (h : name ∉ seen) {value : Decoded α} (hvalue : value = .ok x) :
    fill name (slot seen name x) value = .ok (slot (name :: seen) name x) := by
  rw [slot, if_neg h, slot_cons_self, hvalue]
  rfl

theorem demand_slot (h : name ∈ seen) : demand name (slot seen name x) = .ok x := by
  rw [slot, if_pos h]
  rfl

theorem getD_slot {default : α} (h : name ∈ seen ∨ x = default) :
    (slot seen name x).getD default = x := by
  unfold slot
  split
  · rfl
  · next hseen => exact (h.resolve_left hseen).symm

end

/-! ## Reading back -/

/-- The encoder writes `x` as a document of the form, and `decode` reads `x` from every document of
the form if there is room for what the encoder writes. -/
structure ReadBack {α : Type} (form : Form) (written : Document)
    (decode : Nat → Document → Decoded α) (x : α) : Prop where
  holds : form.Holds written
  reads : ∀ {room : Nat} {d : Document}, form.Holds d → written.nesting ≤ room →
    decode room d = .ok x

namespace ReadBack

open Document

theorem text (s : String) : ReadBack (.text s) (ofString s) (fun _ => decodeString) s where
  holds := ⟨_, rfl, StringToken.spells_ofChars s⟩
  reads := by
    rintro _ _ ⟨t, rfl, ht⟩ _
    exact ht.decodeText

theorem bool (b : Bool) : ReadBack (.bool b) (.bool b) (fun _ => decodeBool) b where
  holds := rfl
  reads := by
    rintro _ _ rfl _
    rfl

variable {α : Type} {form : α → Form} {encode : α → Document}
  {decode : Nat → Document → Decoded α}

/-- The value of a field fills the slot of the field. -/
theorem fill {form : Form} {written : Document} {x : α} (h : ReadBack form written decode x)
    (name : String) {room : Nat} (hroom : written.nesting ≤ room) {seen : List String}
    (hfresh : name ∉ seen) {d : Document} (hd : form.Holds d) :
    Snapshot.fill name (slot seen name x) (decode room d) = .ok (slot (name :: seen) name x) :=
  fill_slot hfresh (h.reads hd hroom)

theorem list {xs : List α} (h : ∀ x ∈ xs, ReadBack (form x) (encode x) decode x) :
    ReadBack (.list (xs.map form)) (ofList (xs.map encode)) (fun room => decodeList room decode)
      xs where
  holds := by
    refine ⟨_, rfl, ?_⟩
    rw [List.forall₂_map_left_iff, List.forall₂_map_right_iff]
    exact List.forall₂_same.2 fun x hx => (h x hx).holds
  reads := by
    rintro room _ ⟨ds, rfl, hds⟩ hroom
    obtain ⟨inside, rfl, hnesting⟩ := nesting_ofList_le hroom
    have hitems : ds.mapM (decode inside) = .ok xs := by
      clear hroom
      induction xs generalizing ds with
      | nil =>
        cases hds
        rfl
      | cons x xs ih =>
        obtain ⟨hx, hxs⟩ := List.forall_mem_cons.1 h
        obtain ⟨hinside, hnesting⟩ := List.forall_mem_cons.1 hnesting
        cases hds with
        | cons hd hds =>
          rw [List.mapM_cons, hx.reads hd hinside, ih hxs _ hds hnesting]
          rfl
    simp only [decodeList, hitems]
    rfl

theorem option {x : Option α} (h : ∀ y ∈ x, ReadBack (form y) (encode y) decode y)
    (hnull : ∀ y, ¬ (form y).Holds .null) :
    ReadBack (.option form x) (ofOption encode x) (fun room => decodeOption (decode room)) x := by
  cases x with
  | none =>
    refine ⟨rfl, ?_⟩
    rintro _ _ rfl _
    rfl
  | some x =>
    have hx := h x rfl
    refine ⟨hx.holds, fun {room d} hd hroom => ?_⟩
    have hdecode : decodeOption (decode room) d = some <$> decode room d := by
      cases d with
      | null => exact absurd hd (hnull x)
      | _ => rfl
    rw [hdecode, hx.reads hd hroom]
    rfl

/-- What is read back can be mapped. -/
theorem map {β : Type} {form : Form} {written : Document} {x : α}
    (h : ReadBack form written decode x) (f : α → β) :
    ReadBack form written (fun room d => f <$> decode room d) (f x) where
  holds := h.holds
  reads hd hroom := by
    rw [h.reads hd hroom]
    rfl

theorem variant {name : String} {payload : Form} {written : Document} {x : α}
    {bare : String → Decoded α} {payloads : Nat → String → Decoded (Document → Decoded α)}
    (h : ReadBack payload written decode x)
    (hpayload : ∀ inside, payloads inside name = .ok (decode inside)) :
    ReadBack (.variant name payload) (ofFields [(name, written)])
      (fun room => decodeVariant room bare payloads) x where
  holds := ⟨_, _, rfl, StringToken.spells_ofChars name, h.holds⟩
  reads := by
    rintro room _ ⟨key, d, rfl, hkey, hd⟩ hroom
    obtain ⟨inside, rfl, hnesting⟩ := nesting_ofFields_le hroom
    have hvalue := h.reads hd (hnesting _ (List.mem_singleton.2 rfl))
    show (key.decodeText >>= fun name => payloads inside name >>= fun decode =>
      decode d >>= fun value => pure value) = .ok x
    rw [hkey.decodeText]
    show (payloads inside name >>= fun decode => decode d >>= fun value => pure value) = _
    rw [hpayload]
    show (decode inside d >>= fun value => pure value) = _
    rw [hvalue]
    rfl

theorem record {σ : Type} {fields : List Field} {written : List (String × Document)}
    {step : Nat → σ → String → Document → Decoded σ} {start : σ} {finish : σ → Decoded α} {x : α}
    {label : String} {row : Nat → RowReader α} (slots : List String → σ) (hstart : slots [] = start)
    (hnames : (fields.map Field.name).Nodup)
    (hwritten : List.Forall₂ (fun f p => f.name = p.1 ∧ f.form.Holds p.2) fields written)
    (hreads : ∀ inside, (∀ p ∈ written, p.2.nesting ≤ inside) →
      ReadsFields fields (step inside) slots)
    (hfinish : ∀ seen, (∀ f ∈ fields, f.name ∈ seen ∨ f.MayOmit) → finish (slots seen) = .ok x) :
    ReadBack (.record fields) (ofFields written)
      (fun room => decodeRecord label room row fun room members close => do
        finish (← readMembers (step room) start members close)) x where
  holds := Form.record_ofFields hwritten
  reads := by
    intro room d hd hroom
    obtain ⟨inside, rfl, hnesting⟩ := nesting_ofFields_le hroom
    obtain ⟨members, seen, rfl, hrun, hall⟩ :=
      readMembers_of_record (hreads inside hnesting) hnames hd
    simp only [decodeRecord, ← hstart, hrun]
    exact hfinish seen hall

end ReadBack

end ValidatorForge.Snapshot
