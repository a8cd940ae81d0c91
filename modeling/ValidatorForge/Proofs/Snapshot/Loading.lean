import ValidatorForge.Proofs.Snapshot.Records
import ValidatorForge.Snapshot.Load

/-!
# Loading what was written

A snapshot gives back the declarations or descriptors that it was written from, whatever form their
document has, as long as its arrays and objects nest no deeper than a snapshot may
(`loadSnapshot_of_readBack`).  The universe and the table that are filled from it hold the last
declaration or descriptor of each name, and list each name where it first stands.
-/

namespace ValidatorForge

open Snapshot Document

/-- The text of any document of a form is read back. -/
theorem loadSnapshot_of_readBack {α : Type} {form : Form} {written : Document}
    {decode : Nat → Document → Decoded α} {x : α} (h : ReadBack form written decode x)
    (hnesting : written.nesting ≤ maxNesting) {d : Document} (hd : form.Holds d) :
    loadSnapshot decode d.text = .ok x := by
  have hscan := scan_text (form.sound hd)
  rw [loadSnapshot, decodeText, hscan]
  simp only [h.reads hd hnesting]
  rfl

namespace TypeUniverse

theorem classes_insertAll (u : TypeUniverse) (ds : List ClassDecl) :
    (u.insertAll ds).classes = ds.foldl (fun m d => m.insert d.name d) u.classes := by
  induction ds generalizing u with
  | nil => rfl
  | cons d rest ih => exact ih (u.insert d)

theorem find?_insertAll (u : TypeUniverse) (ds : List ClassDecl) (name : TypeName) :
    (u.insertAll ds).find? name = (ds.reverse.find? fun d => d.name = name).or (u.find? name) := by
  rw [find?, classes_insertAll]
  exact OrderedMap.get?_foldl_insert ClassDecl.name ds u.classes name

theorem names_insertAll (u : TypeUniverse) (ds : List ClassDecl) :
    (u.insertAll ds).names = (u.names ++ ds.map ClassDecl.name).eraseDups := by
  rw [names, classes_insertAll]
  exact OrderedMap.keys_foldl_insert ClassDecl.name ds u.classes

end TypeUniverse

namespace DescriptorTable

theorem descriptors_ofList (bs : List BeanDescriptor) :
    (ofList bs).descriptors = bs.foldl (fun m b => m.insert b.bean b) .empty := by
  have hfold (t : DescriptorTable) : (bs.foldl insert t).descriptors =
      bs.foldl (fun m b => m.insert b.bean b) t.descriptors := by
    induction bs generalizing t with
    | nil => rfl
    | cons b rest ih => exact ih (t.insert b)
  exact hfold empty

theorem describe_ofList (bs : List BeanDescriptor) (name : TypeName) :
    (ofList bs).describe name =
      match bs.reverse.find? fun b => b.bean = name with
      | some b => .ok b
      | none => .error (.missing name) := by
  have hget := OrderedMap.get?_foldl_insert BeanDescriptor.bean bs .empty name
  rw [OrderedMap.get?_empty, Option.or_none] at hget
  show (match (ofList bs).descriptors.get? name with
    | some b => Except.ok b
    | none => Except.error (EngineError.missing name)) = _
  rw [descriptors_ofList, hget]

theorem keys_ofList (bs : List BeanDescriptor) :
    (ofList bs).descriptors.keys = (bs.map BeanDescriptor.bean).eraseDups := by
  rw [descriptors_ofList]
  exact OrderedMap.keys_foldl_insert BeanDescriptor.bean bs .empty

end DescriptorTable

/-- Declarations and descriptors are read back from every text that they may be written as: with
fields in any order, without fields that hold their default, with fields that nobody asks for, and
also as the encoder writes them.  Of declarations or descriptors of one name the last one counts,
and the name stands where the first one stood. -/
theorem snapshot_loads_back :
    (∀ ds : List ClassDecl, (ofList (ds.map ClassDecl.toDocument)).nesting ≤ maxNesting →
      (Form.list (ds.map ClassDecl.form)).Holds (ofList (ds.map ClassDecl.toDocument)) ∧
      ∀ d, (Form.list (ds.map ClassDecl.form)).Holds d →
        loadSnapshot (fun room => decodeList room decodeClassDecl) d.text = .ok ds ∧
        ∃ u, TypeUniverse.ofSnapshot d.text = .ok u ∧
          (∀ name, u.find? name =
            (ds.reverse.find? fun c => c.name = name).or (TypeUniverse.platform.find? name)) ∧
          u.names = (TypeUniverse.platform.names ++ ds.map ClassDecl.name).eraseDups) ∧
    ∀ bs : List BeanDescriptor, (ofList (bs.map BeanDescriptor.toDocument)).nesting ≤ maxNesting →
      (Form.list (bs.map BeanDescriptor.form)).Holds (ofList (bs.map BeanDescriptor.toDocument)) ∧
      ∀ d, (Form.list (bs.map BeanDescriptor.form)).Holds d →
        loadSnapshot (fun room => decodeList room decodeBeanDescriptor) d.text = .ok bs ∧
        ∃ t, DescriptorTable.ofSnapshot d.text = .ok t ∧
          (∀ name, t.describe name =
            match bs.reverse.find? fun b => b.bean = name with
            | some b => .ok b
            | none => .error (.missing name)) ∧
          t.descriptors.keys = (bs.map BeanDescriptor.bean).eraseDups := by
  constructor
  · intro ds hnesting
    have hback := ReadBack.list fun c (_ : c ∈ ds) => c.readBack
    refine ⟨hback.holds, fun d hd => ?_⟩
    have hload := loadSnapshot_of_readBack hback hnesting hd
    refine ⟨hload, TypeUniverse.platform.insertAll ds, ?_, ?_, ?_⟩
    · rw [TypeUniverse.ofSnapshot, TypeUniverse.addSnapshot, hload]
      rfl
    · exact TypeUniverse.platform.find?_insertAll ds
    · exact TypeUniverse.platform.names_insertAll ds
  · intro bs hnesting
    have hback := ReadBack.list fun b (_ : b ∈ bs) => b.readBack
    refine ⟨hback.holds, fun d hd => ?_⟩
    have hload := loadSnapshot_of_readBack hback hnesting hd
    refine ⟨hload, DescriptorTable.ofList bs, ?_, ?_, ?_⟩
    · rw [DescriptorTable.ofSnapshot, hload]
      rfl
    · exact DescriptorTable.describe_ofList bs
    · exact DescriptorTable.keys_ofList bs

/-! ## A thing that is declared twice -/

/-- A declaration without a superclass. -/
def looseThing : ClassDecl := .ofClass ⟨"com.acme.Thing"⟩

/-- A declaration of the same type with a superclass. -/
def boundThing : ClassDecl := looseThing.withSuperclass ⟨"com.acme.Base"⟩

/-- The second declaration begins with its superclass and has a note, and all defaults are left
out. -/
def thingsDocument : Document :=
  ofList
    [ofFields [("name", ofString "com.acme.Thing")],
     ofFields
       [("superclass", ofString "com.acme.Base"), ("note", ofList [.null, .bool true]),
        ("name", ofString "com.acme.Thing")]]

theorem things_form :
    (Form.list ([looseThing, boundThing].map ClassDecl.form)).Holds thingsDocument := by
  have hspells := StringToken.spells_ofChars
  have hname := (TypeName.mk "com.acme.Thing").readBack.holds
  have hparent := (TypeName.mk "com.acme.Base").readBack.holds
  refine ⟨_, rfl, .cons ?loose (.cons ?bound .nil)⟩
  case loose =>
    refine ⟨_, [(.ofChars "name".toList, ofString "com.acme.Thing")], [], rfl, .refl _, ?_,
      List.forall_mem_nil _⟩
    exact .keep (hspells "name") hname (.leaveOut rfl (.leaveOut rfl (.leaveOut rfl (.leaveOut rfl
      (.leaveOut rfl (.leaveOut rfl (.leaveOut rfl .nil)))))))
  case bound =>
    refine ⟨_, [(.ofChars "name".toList, ofString "com.acme.Thing"),
      (.ofChars "superclass".toList, ofString "com.acme.Base")],
      [(.ofChars "note".toList, ofList [.null, .bool true])], rfl,
      List.perm_append_singleton _ [_, _], ?_, ?_⟩
    · exact .keep (hspells "name") hname (.leaveOut rfl (.keep (hspells "superclass") hparent
        (.leaveOut rfl (.leaveOut rfl (.leaveOut rfl (.leaveOut rfl (.leaveOut rfl .nil)))))))
    · rw [List.forall_mem_singleton]
      exact ⟨⟨"note", hspells "note", by simp [ClassDecl.fieldForms]⟩, trivial, trivial, trivial⟩

theorem things_load_back :
    ∃ u, TypeUniverse.ofSnapshot thingsDocument.text = .ok u ∧
      u.find? ⟨"com.acme.Thing"⟩ = some boundThing ∧
      u.names = TypeUniverse.platform.names ++ [⟨"com.acme.Thing"⟩] := by
  have hnesting : (ofList ([looseThing, boundThing].map ClassDecl.toDocument)).nesting ≤
      maxNesting := by decide
  obtain ⟨_, u, hload, hfind, hnames⟩ :=
    (snapshot_loads_back.1 [looseThing, boundThing] hnesting).2 thingsDocument things_form
  refine ⟨u, hload, ?_, ?_⟩
  · rw [hfind]
    rfl
  · rw [hnames]
    decide

end ValidatorForge
