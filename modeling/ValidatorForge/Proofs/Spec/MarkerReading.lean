import ValidatorForge.Proofs.Naming.Spelling
import ValidatorForge.Spec.Marker

/-!
# Reading the parts of a marker

What the readers of a marker return on the tokens that a marker is put together from: its
declaration (`reader_marker`), the items of its lists, each up to the comma behind it (`Reads`), and
comma-separated items as a whole (`ofTokens_commaSeparated`).  A list of paths of plain words names
the host types that the words are joined to (`typesOfItems_words`).
-/

namespace ValidatorForge

open Source

/-! ## Declarations -/

namespace Source

open Reader

theorem Reader.takeIdent_run {i : Ident} (hi : i.namesItem = true) (rest : List Token) :
    takeIdent.run (.ident i :: rest) = some (i, rest) := by
  simp [takeIdent, takeAnyIdent, hi]

/-- A public unit struct under one attribute. -/
def unitStruct (mark : Fragment) (name : Ident) : Fragment :=
  attributeOf mark ++ [word "pub", word "struct", .ident name, semicolon]

theorem TypeDeclaration.reader_unitStruct (body : List Token) {i : Ident}
    (hi : i.namesItem = true) :
    TypeDeclaration.reader.complete (unitStruct [word "validator", parens body] i) =
      some ⟨[⟨.ofIdent (.plain "validator"), .list body⟩], .everywhere, i, .unit⟩ := by
  have hattribute : OuterAttribute.reader.run (unitStruct [word "validator", parens body] i) =
      some ([⟨.ofIdent (.plain "validator"), .list body⟩],
        [word "pub", word "struct", .ident i, semicolon]) := rfl
  have hvisibility : Visibility.reader.run [word "pub", word "struct", .ident i, semicolon] =
      some (.everywhere, [word "struct", .ident i, semicolon]) := rfl
  have hstruct : (tryWord "struct").run [word "struct", .ident i, semicolon] =
      some (true, [.ident i, semicolon]) := rfl
  have hname := takeIdent_run hi [semicolon]
  rw [complete, TypeDeclaration.reader]
  simp only [StateT.run_bind, hattribute, hvisibility, hstruct, hname, Option.bind_eq_bind,
    Option.bind_some, if_true]
  rfl

end Source

/-! ## Items -/

/-- The word of a field. -/
def MarkerField.word (f : MarkerField) : Ident := .plain f.text (by cases f <;> rfl)

namespace MarkerItem

/-- What may stand behind an item of a list: nothing, or a comma. -/
def EndsItem (rest : List Token) : Prop := rest = [] ∨ ∃ more, rest = comma :: more

/-- An item is read off its tokens, and no more than these. -/
structure Reads (ts : List Token) (item : MarkerItem) : Prop where
  ne_nil : ts ≠ []
  read : ∀ rest, EndsItem rest → MarkerItem.read (ts ++ rest) = .ok (item, rest)

variable {pieces : List Fragment} {items : List MarkerItem}

/-- Items with commas between them are read one after the other. -/
theorem readAll_commaSeparated (h : List.Forall₂ Reads pieces items) (fuel : Nat)
    (hfuel : (commaSeparated pieces).length < fuel) :
    readAll fuel (commaSeparated pieces) = .ok items := by
  induction h generalizing fuel with
  | nil =>
    cases fuel with
    | zero => cases hfuel
    | succ fuel => rfl
  | @cons piece item pieces items hitem hitems ih =>
    obtain ⟨fuel, rfl⟩ : ∃ k, fuel = k + 1 := ⟨fuel - 1, by omega⟩
    cases pieces with
    | nil =>
      cases hitems
      have hread := hitem.read [] (.inl rfl)
      rw [List.append_nil] at hread
      have hne : piece.isEmpty = false := by simpa using hitem.ne_nil
      rw [commaSeparated, readAll, hne, hread]
      rfl
    | cons next others =>
      have hshape : commaSeparated (piece :: next :: others) =
          piece ++ comma :: commaSeparated (next :: others) := rfl
      rw [hshape, List.length_append, List.length_cons] at hfuel
      have hread := hitem.read (comma :: commaSeparated (next :: others)) (.inr ⟨_, rfl⟩)
      have hne : (piece ++ comma :: commaSeparated (next :: others)).isEmpty = false := by simp
      have hrest := ih fuel (by omega)
      rw [hshape, readAll, hne, hread]
      show (do return item :: (← readAll fuel (commaSeparated (next :: others)))) = _
      rw [hrest]
      rfl

theorem ofTokens_commaSeparated (h : List.Forall₂ Reads pieces items) :
    ofTokens (commaSeparated pieces) = .ok items :=
  readAll_commaSeparated h _ (Nat.lt_succ_self _)

/-! ## Paths -/

/-- A path of words is read segment by segment. -/
theorem readSegments_relative {names : List Ident} (hne : names ≠ []) {rest : List Token}
    (hrest : EndsItem rest) :
    readSegments ((ModPath.relative names).tokens ++ rest) =
      .ok ((ModPath.relative names).segments, rest) := by
  induction names with
  | nil => exact absurd rfl hne
  | cons i more ih =>
    cases more with
    | nil => obtain rfl | ⟨more, rfl⟩ := hrest <;> rfl
    | cons j others =>
      obtain ⟨after, htokens⟩ :
          ∃ after, (ModPath.relative (j :: others)).tokens ++ rest = .ident j :: after := by
        cases others <;> exact ⟨_, rfl⟩
      have hmore := ih (List.cons_ne_nil _ _)
      rw [htokens] at hmore
      have hshape : (ModPath.relative (i :: j :: others)).tokens ++ rest =
          .ident i :: .punct ':' true :: .punct ':' false ::
            ((ModPath.relative (j :: others)).tokens ++ rest) := rfl
      rw [hshape, htokens, readSegments, hmore]
      rfl

/-- A path of words that are no truth values is an item of a list. -/
theorem reads_relative {names : List Ident} (hne : names ≠ [])
    (hbool : ∀ i ∈ names, i.isPlain "true" = false ∧ i.isPlain "false" = false) :
    Reads (ModPath.relative names).tokens (.word (.relative names)) := by
  obtain ⟨i, more, rfl⟩ := List.exists_cons_of_ne_nil hne
  obtain ⟨after, htokens⟩ : ∃ after, (ModPath.relative (i :: more)).tokens = .ident i :: after := by
    cases more <;> exact ⟨_, rfl⟩
  refine ⟨by simp [htokens], fun rest hrest => ?_⟩
  have hliteral : afterLiteral? ((ModPath.relative (i :: more)).tokens ++ rest) = none := by
    obtain ⟨htrue, hfalse⟩ := hbool i List.mem_cons_self
    rw [htokens, List.cons_append, afterLiteral?]
    simp [htrue, hfalse]
  rw [read, hliteral, readSegments_relative hne hrest]
  obtain rfl | ⟨more, rfl⟩ := hrest <;> rfl

/-- The host types that paths of words name. -/
theorem typesOfItems_words (field : MarkerField) (paths : List ModPath) :
    typesOfItems field (paths.map .word) = .ok (paths.map TypeName.ofPath) := by
  induction paths with
  | nil => rfl
  | cons p rest ih =>
    rw [List.map_cons, typesOfItems, ih]
    rfl

/-! ## Fields -/

theorem reads_list (f : MarkerField) (body : List Token) :
    Reads [.ident f.word, parens body] (.list (.ofIdent f.word) body) where
  ne_nil := by simp
  read rest hrest := by cases f <;> rfl

theorem reads_text (f : MarkerField) (value : String) :
    Reads [.ident f.word, equals, textLiteral value]
      (.value (.ofIdent f.word) (.literal (.string value))) where
  ne_nil := by simp
  read rest hrest := by obtain rfl | ⟨more, rfl⟩ := hrest <;> cases f <;> rfl

end MarkerItem

end ValidatorForge
