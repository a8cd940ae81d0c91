import ValidatorForge.Snapshot.Printer

/-!
# Scanning printed documents

A document without faults is scanned back from its text.  `Document.Sound` says what such a document
is: its strings are spelled as a scan spells them, its numbers follow the grammar, and its arrays
and objects are closed.  The proof follows the document.  Each part that the printer puts down is
scanned in one piece, and what stands after it is left: `scan_piece` and `scan_print` for strings,
`Numeral.scan_print` for numbers, and the mutual `scanValue_print`, `scanItems_print` and
`scanMembers_print` for values.

The fuel that the text provides is four steps for each character.  A value needs two less, and the
items of an array or the members of an object need one more.
-/

namespace ValidatorForge.Snapshot

/-! ## Strings -/

theorem hexUnit?_digits {n : Nat} (hn : n < 0x10000) :
    StringToken.hexUnit? (Nat.digitChar (n / 0x1000 % 0x10)) (Nat.digitChar (n / 0x100 % 0x10))
      (Nat.digitChar (n / 0x10 % 0x10)) (Nat.digitChar (n % 0x10)) = some n := by
  have hdigit (m : Nat) : Text.hexValue? (Nat.digitChar (m % 0x10)) = some (m % 0x10) :=
    Text.hexValue?_digitChar (Nat.mod_lt m (by decide))
  simp only [StringToken.hexUnit?, hdigit]
  congr 1
  omega

/-- A piece as a scan gives it. -/
def Piece.Sound : Piece → Prop
  | .char c => 0x20 ≤ c.toNat ∨ (StringToken.escapeLetter? c).isSome
  | .unit n => n < 0x10000

namespace StringToken

/-- A string without fault, of pieces as a scan gives them. -/
structure Sound (t : StringToken) : Prop where
  fault : t.fault = none
  pieces : ∀ p ∈ t.pieces, p.Sound

theorem scan_piece {p : Piece} (hp : p.Sound) (cs : List Char) :
    scan (p.print ++ cs) = prepend p (scan cs) := by
  cases p with
  | unit n =>
    show scan ('\\' :: 'u' :: Nat.digitChar _ :: Nat.digitChar _ :: Nat.digitChar _ ::
      Nat.digitChar _ :: cs) = _
    rw [scan, hexUnit?_digits hp]
  | char c =>
    rw [Piece.print, printChar]
    split
    · next e he =>
      -- an escape of one letter; none of the letters is that of a unit
      unfold escapeLetter? at he
      split at he <;> cases he <;> rfl
    · next he =>
      have hplain : 0x20 ≤ c.toNat := by simpa [Piece.Sound, he] using hp
      have hquote : c ≠ '"' := by rintro rfl; cases he
      have hslash : c ≠ '\\' := by rintro rfl; cases he
      show scan (c :: cs) = _
      rw [scan]
      · exact if_neg (by omega)
      all_goals simp [hquote, hslash]

theorem scan_print {t : StringToken} (ht : t.Sound) (rest : List Char) :
    scan (t.pieces.flatMap Piece.print ++ '"' :: rest) = (t, rest) := by
  obtain ⟨pieces, fault⟩ := t
  obtain rfl : fault = none := ht.fault
  have hpieces : ∀ p ∈ pieces, p.Sound := ht.pieces
  clear ht
  induction pieces with
  | nil => rfl
  | cons p pieces ih =>
    obtain ⟨hp, hrest⟩ := List.forall_mem_cons.1 hpieces
    rw [List.flatMap_cons, List.append_assoc, scan_piece hp, ih hrest]
    rfl

theorem sound_pieceOf (c : Char) : (pieceOf c).Sound := by
  unfold pieceOf
  split
  · next hcontrol =>
    have hsmall : c.toNat < 0x20 := by simpa using (Bool.and_eq_true_iff.1 hcontrol).1
    show c.toNat < 0x10000
    omega
  · next hplain =>
    rw [Bool.and_eq_true_iff, not_and, decide_eq_true_iff] at hplain
    show 0x20 ≤ c.toNat ∨ _
    cases hletter : escapeLetter? c with
    | some e => exact Or.inr rfl
    | none => exact Or.inl (Nat.le_of_not_lt fun hsmall => hplain hsmall (by rw [hletter]; rfl))

theorem sound_ofChars (cs : List Char) : (ofChars cs).Sound where
  fault := rfl
  pieces p hp := by
    obtain ⟨c, _, rfl⟩ := List.mem_map.1 hp
    exact sound_pieceOf c

end StringToken

/-! ## Numbers -/

/-- At least one digit, and only digits. -/
structure Digits (cs : List Char) : Prop where
  ne_nil : cs ≠ []
  digits : ∀ c ∈ cs, c.isDigit = true

/-- No digit comes next. -/
def NoDigitNext (rest : List Char) : Prop := ∀ c ∈ rest.head?, c.isDigit = false

theorem NoDigitNext.getD_isDigit {rest : List Char} (h : NoDigitNext rest) :
    (rest.head?.map Char.isDigit).getD false = false := by
  cases rest with
  | nil => rfl
  | cons c rest => simp [h c rfl]

/-- What may follow a number without becoming part of it. -/
def EndsNumber (rest : List Char) : Prop :=
  ∀ c ∈ rest.head?, c.isDigit = false ∧ c ≠ '.' ∧ c ≠ 'e' ∧ c ≠ 'E'

theorem endsNumber_nil : EndsNumber [] := by
  intro c hc
  cases hc

theorem endsNumber_cons {c : Char} (rest : List Char)
    (hc : c.isDigit = false ∧ c ≠ '.' ∧ c ≠ 'e' ∧ c ≠ 'E') : EndsNumber (c :: rest) := by
  rintro _ ⟨⟩
  exact hc

theorem EndsNumber.noDigitNext {rest : List Char} (h : EndsNumber rest) : NoDigitNext rest :=
  fun c hc => (h c hc).1

namespace Digits

variable {cs rest : List Char}

theorem takeWhile_append (h : Digits cs) (hrest : NoDigitNext rest) :
    (cs ++ rest).takeWhile Char.isDigit = cs := by
  rw [List.takeWhile_append_of_pos h.digits]
  cases rest with
  | nil => simp
  | cons c rest => simp [hrest c rfl]

theorem dropWhile_append (h : Digits cs) (hrest : NoDigitNext rest) :
    (cs ++ rest).dropWhile Char.isDigit = rest := by
  rw [List.dropWhile_append_of_pos h.digits]
  cases rest with
  | nil => rfl
  | cons c rest => simp [hrest c rfl]

theorem isEmpty_eq (h : Digits cs) : cs.isEmpty = false := by
  rw [List.isEmpty_eq_false_iff]
  exact h.ne_nil

theorem exists_cons (h : Digits cs) : ∃ c rest, cs = c :: rest ∧ c.isDigit = true := by
  cases cs with
  | nil => exact absurd rfl h.ne_nil
  | cons c rest => exact ⟨c, rest, rfl, h.digits c List.mem_cons_self⟩

end Digits

theorem ne_of_isDigit {c d : Char} (hc : c.isDigit = true) (hd : d.isDigit = false) : c ≠ d := by
  rintro rfl
  rw [hc] at hd
  cases hd

namespace Numeral

/-- A number that follows the grammar. -/
structure Sound (n : Numeral) : Prop where
  whole : Digits n.whole
  /-- A leading zero stands alone. -/
  zero : n.whole.head? = some '0' → n.whole = ['0']
  fraction : ∀ digits ∈ n.fraction, Digits digits
  exponent : ∀ e ∈ n.exponent, Digits e.2

variable {n : Numeral} {rest : List Char}

theorem takeMinus_print (negative : Bool) {c : Char} (hc : c.isDigit = true) (cs : List Char) :
    takeMinus (printSign negative ++ c :: cs) = (negative, c :: cs) := by
  have hminus : c ≠ '-' := ne_of_isDigit hc (by decide)
  cases negative <;> simp [printSign, takeMinus, hminus]

theorem takeSign_print (negative : Bool) {c : Char} (hc : c.isDigit = true) (cs : List Char) :
    takeSign (printSign negative ++ c :: cs) = (negative, c :: cs) := by
  have hminus : c ≠ '-' := ne_of_isDigit hc (by decide)
  have hplus : c ≠ '+' := ne_of_isDigit hc (by decide)
  cases negative <;> simp [printSign, takeSign, hminus, hplus]

theorem noDigitNext_printExponent (e : Option (Bool × List Char)) (hrest : EndsNumber rest) :
    NoDigitNext (printExponent e ++ rest) := by
  cases e with
  | none => exact hrest.noDigitNext
  | some e =>
    rintro _ ⟨⟩
    decide

theorem noDigitNext_printFraction (f : Option (List Char)) (e : Option (Bool × List Char))
    (hrest : EndsNumber rest) : NoDigitNext (printFraction f ++ (printExponent e ++ rest)) := by
  cases f with
  | none => exact noDigitNext_printExponent e hrest
  | some digits =>
    rintro _ ⟨⟩
    decide

theorem scanExponent_print {e : Option (Bool × List Char)} (hn : n.exponent = none)
    (he : ∀ x ∈ e, Digits x.2) (hrest : EndsNumber rest) :
    scanExponent n (printExponent e ++ rest) = .ok ({ n with exponent := e }, rest) := by
  obtain ⟨negative, whole, fraction, exponent⟩ := n
  obtain rfl : exponent = none := hn
  cases e with
  | none =>
    cases rest with
    | nil => rfl
    | cons c rest =>
      obtain ⟨_, _, hlower, hupper⟩ := hrest c rfl
      simp [printExponent, scanExponent, hlower, hupper]
  | some e =>
    obtain ⟨minus, digits⟩ := e
    have hdigits : Digits digits := he _ rfl
    have htake := hdigits.takeWhile_append hrest.noDigitNext
    have hdrop := hdigits.dropWhile_append hrest.noDigitNext
    obtain ⟨c, digits, rfl, hc⟩ := hdigits.exists_cons
    rw [List.cons_append] at htake hdrop
    simp [printExponent, scanExponent, takeSign_print minus hc, htake, hdrop]

theorem scanFraction_print {f : Option (List Char)} {e : Option (Bool × List Char)}
    (hnf : n.fraction = none) (hn : n.exponent = none) (hf : ∀ digits ∈ f, Digits digits)
    (he : ∀ x ∈ e, Digits x.2) (hrest : EndsNumber rest) :
    scanFraction n (printFraction f ++ (printExponent e ++ rest)) =
      .ok ({ n with fraction := f, exponent := e }, rest) := by
  cases f with
  | none =>
    have hscan := scanExponent_print hn he hrest
    cases e with
    | none =>
      cases rest with
      | nil => simpa [printFraction, printExponent, scanFraction, hnf] using hscan
      | cons c rest =>
        have hdot := (hrest c rfl).2.1
        simpa [printFraction, printExponent, scanFraction, hdot, hnf] using hscan
    | some e => simpa [printFraction, printExponent, scanFraction, hnf] using hscan
  | some digits =>
    have hdigits : Digits digits := hf _ rfl
    have hnext := noDigitNext_printExponent e hrest
    have htake := hdigits.takeWhile_append hnext
    have hdrop := hdigits.dropWhile_append hnext
    have hscan := scanExponent_print (n := { n with fraction := some digits }) hn he hrest
    simpa [printFraction, scanFraction, htake, hdrop, hdigits.isEmpty_eq] using hscan

theorem scan_print (hn : n.Sound) (hrest : EndsNumber rest) :
    scan (n.print ++ rest) = .ok (n, rest) := by
  obtain ⟨negative, whole, fraction, exponent⟩ := n
  have hnext := noDigitNext_printFraction fraction exponent hrest
  have hscan := scanFraction_print (n := ⟨negative, whole, none, none⟩) rfl rfl
    hn.fraction hn.exponent hrest
  have htake := hn.whole.takeWhile_append hnext
  have hdrop := hn.whole.dropWhile_append hnext
  obtain ⟨c, digits, rfl, hc⟩ : ∃ c digits, whole = c :: digits ∧ c.isDigit = true :=
    hn.whole.exists_cons
  simp only [print, List.append_assoc, List.cons_append, scan, takeMinus_print _ hc]
  split
  · next tail heq =>
    -- a leading zero stands alone, so what comes next is no digit
    obtain ⟨rfl, rfl⟩ := List.cons.inj heq
    obtain rfl : digits = [] := (List.cons.inj (hn.zero rfl)).2
    rw [List.nil_append, hnext.getD_isDigit]
    exact hscan
  · rw [List.cons_append] at htake hdrop
    simpa [htake, hdrop] using hscan

end Numeral

/-! ## Values -/

mutual

/-- A document that is scanned from a text without faults. -/
def Document.Sound : Document → Prop
  | .null | .bool _ => True
  | .number n => n.Sound
  | .string t => t.Sound
  | .array items .closed => SoundItems items
  | .object members .closed => SoundMembers members
  | _ => False

def SoundItems : List Document → Prop
  | [] => True
  | d :: rest => d.Sound ∧ SoundItems rest

def SoundMembers : List (StringToken × Document) → Prop
  | [] => True
  | (key, d) :: rest => key.Sound ∧ d.Sound ∧ SoundMembers rest

end

theorem soundMembers_iff {members : List (StringToken × Document)} :
    SoundMembers members ↔ ∀ m ∈ members, m.1.Sound ∧ m.2.Sound := by
  induction members with
  | nil => simp [SoundMembers]
  | cons m rest ih => simp [SoundMembers, ih, and_assoc]

mutual

theorem skipFault_of_sound : ∀ {d : Document}, d.Sound → d.skipFault = none
  | .null, _ | .bool _, _ | .number _, _ => rfl
  | .string _, h => h.fault
  | .array _ .closed, h => by
    rw [Document.skipFault, skipFaultItems_of_sound h]
    rfl
  | .object _ .closed, h => by
    rw [Document.skipFault, skipFaultMembers_of_sound h]
    rfl

theorem skipFaultItems_of_sound : ∀ {items : List Document}, SoundItems items →
    skipFaultItems items = none
  | [], _ => rfl
  | d :: rest, ⟨hd, hrest⟩ => by
    rw [skipFaultItems, skipFault_of_sound hd, skipFaultItems_of_sound hrest]
    rfl

theorem skipFaultMembers_of_sound : ∀ {members : List (StringToken × Document)},
    SoundMembers members → skipFaultMembers members = none
  | [], _ => rfl
  | (key, d) :: rest, ⟨hkey, hd, hrest⟩ => by
    rw [skipFaultMembers, hkey.fault, skipFault_of_sound hd, skipFaultMembers_of_sound hrest]
    rfl

end

namespace Document

/-- A character that a value may begin with. -/
structure Starts (c : Char) : Prop where
  not_blank : isBlank c = false
  ne_bracket : c ≠ ']'
  ne_comma : c ≠ ','

theorem starts_of_isDigit {c : Char} (hc : c.isDigit = true) : Starts c where
  not_blank := by
    simp only [isBlank, Bool.or_eq_false_iff, decide_eq_false_iff_not]
    refine ⟨⟨⟨?_, ?_⟩, ?_⟩, ?_⟩ <;> exact ne_of_isDigit hc (by decide)
  ne_bracket := ne_of_isDigit hc (by decide)
  ne_comma := ne_of_isDigit hc (by decide)

theorem exists_print_number {n : Numeral} (hn : n.Sound) :
    ∃ c cs, n.print = c :: cs ∧ (c = '-' ∨ c.isDigit = true) := by
  obtain ⟨c, digits, hwhole, hc⟩ := hn.whole.exists_cons
  unfold Numeral.print
  cases n.negative with
  | true => exact ⟨'-', _, rfl, Or.inl rfl⟩
  | false =>
    rw [hwhole]
    exact ⟨c, _, rfl, Or.inr hc⟩

/-- A printed value begins with no blank, bracket or comma. -/
theorem exists_print_cons {d : Document} (hd : d.Sound) :
    ∃ c cs, d.print = c :: cs ∧ Starts c := by
  have hstarts {c : Char} (h : isBlank c = false ∧ c ≠ ']' ∧ c ≠ ',' := by decide) : Starts c :=
    ⟨h.1, h.2.1, h.2.2⟩
  cases d with
  | null => exact ⟨_, _, rfl, hstarts⟩
  | bool b => cases b <;> exact ⟨_, _, rfl, hstarts⟩
  | number n =>
    obtain ⟨c, cs, heq, rfl | hc⟩ := exists_print_number hd
    · exact ⟨_, _, heq, hstarts⟩
    · exact ⟨_, _, heq, starts_of_isDigit hc⟩
  | string t => exact ⟨_, _, rfl, hstarts⟩
  | array items close => exact ⟨_, _, rfl, hstarts⟩
  | object members close => exact ⟨_, _, rfl, hstarts⟩
  | badScalar => exact hd.elim
  | bad => exact hd.elim

theorem length_print_pos {d : Document} (hd : d.Sound) : 0 < d.print.length := by
  obtain ⟨c, cs, heq, _⟩ := exists_print_cons hd
  simp [heq]

theorem skipBlanks_print {d : Document} (hd : d.Sound) (rest : List Char) :
    skipBlanks (d.print ++ rest) = d.print ++ rest := by
  obtain ⟨c, cs, heq, hc⟩ := exists_print_cons hd
  simp [heq, skipBlanks, hc.not_blank]

theorem scanValue_number {n : Numeral} (hn : n.Sound) (fuel : Nat) {rest : List Char}
    (hrest : EndsNumber rest) :
    scanValue (fuel + 1) (n.print ++ rest) = (.number n, some rest) := by
  have hblanks := skipBlanks_print (d := .number n) hn rest
  have hscan := Numeral.scan_print hn hrest
  obtain ⟨c, cs, heq, hc⟩ := exists_print_number hn
  rw [Document.print, heq] at hblanks
  rw [heq] at hscan ⊢
  have hnumber : (c = '-' || c.isDigit) = true := by simpa using hc
  rw [List.cons_append] at hscan hblanks ⊢
  have hne {e : Char} (he : e ≠ '-' ∧ e.isDigit = false := by decide) : c ≠ e := by
    rcases hc with rfl | hc
    · exact he.1.symm
    · exact ne_of_isDigit hc he.2
  rw [scanValue, hblanks]
  simp [hne (e := 'n'), hne (e := 't'), hne (e := 'f'), hne (e := '"'), hne (e := '['),
    hne (e := '\x7b'), hnumber, hscan]

theorem scanValue_quote (fuel : Nat) (cs : List Char) :
    scanValue (fuel + 1) ('"' :: cs) =
      (.string (StringToken.scan cs).1,
        if (StringToken.scan cs).1.fault.isNone then some (StringToken.scan cs).2 else none) :=
  rfl

theorem scanValue_bracket (fuel : Nat) (cs : List Char) :
    scanValue (fuel + 1) ('[' :: cs) =
      (.array (scanItems fuel cs true).1.1 (scanItems fuel cs true).1.2,
        (scanItems fuel cs true).2) :=
  rfl

theorem scanValue_brace (fuel : Nat) (cs : List Char) :
    scanValue (fuel + 1) ('\x7b' :: cs) =
      (.object (scanMembers fuel cs true).1.1 (scanMembers fuel cs true).1.2,
        (scanMembers fuel cs true).2) :=
  rfl

theorem scanItems_close (fuel : Nat) (rest : List Char) (first : Bool) :
    scanItems (fuel + 1) (']' :: rest) first = (([], .closed), some rest) := by
  simp [scanItems, skipBlanks, isBlank]

theorem scanMembers_close (fuel : Nat) (rest : List Char) (first : Bool) :
    scanMembers (fuel + 1) ('\x7d' :: rest) first = (([], .closed), some rest) := by
  simp [scanMembers, skipBlanks, isBlank]

/-- Before an item the scan passes over the comma, if one is due. -/
theorem scanItems_cons {d : Document} (hd : d.Sound) (fuel : Nat) (first : Bool)
    (rest : List Char) :
    scanItems (fuel + 1) ((if first then [] else [',']) ++ (d.print ++ rest)) first =
      scanItem fuel (d.print ++ rest) := by
  have hblanks := skipBlanks_print hd rest
  obtain ⟨c, cs, heq, hc⟩ := exists_print_cons hd
  rw [heq, List.cons_append] at hblanks ⊢
  cases first with
  | true => simp [scanItems, hblanks, hc.ne_bracket]
  | false =>
    have hcomma : skipBlanks (',' :: c :: (cs ++ rest)) = ',' :: c :: (cs ++ rest) := rfl
    simp [scanItems, hcomma, hblanks, hc.ne_bracket]

theorem scanMembers_cons (fuel : Nat) (first : Bool) (cs : List Char) :
    scanMembers (fuel + 1) ((if first then [] else [',']) ++ '"' :: cs) first =
      scanMember fuel cs := by
  cases first with
  | true => simp [scanMembers, skipBlanks, isBlank]
  | false =>
    have hcomma : skipBlanks (',' :: '"' :: cs) = ',' :: '"' :: cs := rfl
    have hquote : skipBlanks ('"' :: cs) = '"' :: cs := rfl
    simp [scanMembers, hcomma, hquote]

theorem endsNumber_items (items : List Document) (rest : List Char) :
    EndsNumber (printItems false items ++ ']' :: rest) := by
  cases items <;> exact endsNumber_cons _ (by decide)

theorem endsNumber_members (members : List (StringToken × Document)) (rest : List Char) :
    EndsNumber (printMembers false members ++ '\x7d' :: rest) := by
  cases members <;> exact endsNumber_cons _ (by decide)

mutual

theorem scanValue_print : ∀ {d : Document}, d.Sound → ∀ (fuel : Nat) (rest : List Char),
    4 * d.print.length ≤ fuel + 2 → EndsNumber rest →
    scanValue fuel (d.print ++ rest) = (d, some rest)
  | .null, _, 0, _, hfuel, _ => by simp [Document.print] at hfuel
  | .null, _, _ + 1, _, _, _ => rfl
  | .bool true, _, fuel + 1, rest, _, _ => rfl
  | .bool false, _, fuel + 1, rest, _, _ => rfl
  | .number n, hn, fuel + 1, rest, _, hrest => scanValue_number hn fuel hrest
  | .string t, ht, fuel + 1, rest, _, _ => by
    have hscan := StringToken.scan_print ht rest
    have hfault : t.fault = none := ht.fault
    simp only [print, StringToken.print, List.cons_append, List.append_assoc, List.nil_append,
      scanValue_quote, hscan, hfault]
    rfl
  | .array items .closed, hitems, fuel + 1, rest, hfuel, _ => by
    have hlength : 4 * (printItems true items).length + 1 ≤ fuel := by
      simp only [print, List.length_cons, List.length_append, List.length_nil] at hfuel
      omega
    have hscan := scanItems_print hitems fuel true rest hlength
    simp only [print, List.cons_append, List.append_assoc, List.nil_append, scanValue_bracket,
      hscan]
  | .object members .closed, hmembers, fuel + 1, rest, hfuel, _ => by
    have hlength : 4 * (printMembers true members).length + 1 ≤ fuel := by
      simp only [print, List.length_cons, List.length_append, List.length_nil] at hfuel
      omega
    have hscan := scanMembers_print hmembers fuel true rest hlength
    simp only [print, List.cons_append, List.append_assoc, List.nil_append, scanValue_brace,
      hscan]
  | _, hd, 0, _, hfuel, _ => by
    have hpos := length_print_pos hd
    omega

theorem scanItems_print : ∀ {items : List Document}, SoundItems items →
    ∀ (fuel : Nat) (first : Bool) (rest : List Char),
    4 * (printItems first items).length + 1 ≤ fuel →
    scanItems fuel (printItems first items ++ ']' :: rest) first = ((items, .closed), some rest)
  | _, _, 0, _, _, hfuel => by omega
  | [], _, fuel + 1, first, rest, _ => scanItems_close fuel rest first
  | d :: items, ⟨hd, hitems⟩, fuel + 1, first, rest, hfuel => by
    have hpos := length_print_pos hd
    have hlengths : 4 * (d.print.length + (printItems false items).length) ≤ fuel := by
      simp only [printItems, List.length_append] at hfuel
      omega
    obtain ⟨fuel, rfl⟩ : ∃ less, fuel = less + 1 := ⟨fuel - 1, by omega⟩
    have hvalue := scanValue_print hd fuel _ (by omega) (endsNumber_items items rest)
    have hscan := scanItems_print hitems fuel false rest (by omega)
    rw [printItems, List.append_assoc, List.append_assoc, scanItems_cons hd, scanItem, hvalue]
    simp only [hscan]

theorem scanMembers_print : ∀ {members : List (StringToken × Document)}, SoundMembers members →
    ∀ (fuel : Nat) (first : Bool) (rest : List Char),
    4 * (printMembers first members).length + 1 ≤ fuel →
    scanMembers fuel (printMembers first members ++ '\x7d' :: rest) first =
      ((members, .closed), some rest)
  | _, _, 0, _, _, hfuel => by omega
  | [], _, fuel + 1, first, rest, _ => scanMembers_close fuel rest first
  | (key, d) :: members, ⟨hkey, hd, hmembers⟩, fuel + 1, first, rest, hfuel => by
    have hpos := length_print_pos hd
    have hlengths : 4 * (d.print.length + (printMembers false members).length) + 4 ≤ fuel := by
      simp only [printMembers, StringToken.print, List.length_append, List.length_cons] at hfuel
      omega
    obtain ⟨fuel, rfl⟩ : ∃ less, fuel = less + 1 := ⟨fuel - 1, by omega⟩
    have hvalue := scanValue_print hd fuel _ (by omega) (endsNumber_members members rest)
    have hscan := scanMembers_print hmembers fuel false rest (by omega)
    have hname := StringToken.scan_print hkey
      (':' :: (d.print ++ (printMembers false members ++ '\x7d' :: rest)))
    have hcolon (cs : List Char) : skipBlanks (':' :: cs) = ':' :: cs := rfl
    simp only [printMembers, StringToken.print, List.append_assoc, List.cons_append,
      List.nil_append, scanMembers_cons, scanMember, hname, hkey.fault, hcolon, hvalue, hscan]
    rfl

end

/-- A document without faults is scanned back from its text. -/
theorem scan_text {d : Document} (hd : d.Sound) : scan d.text = (d, none) := by
  have hvalue := scanValue_print hd (4 * d.print.length + 4) [] (by omega) endsNumber_nil
  rw [List.append_nil] at hvalue
  rw [scan, text, String.toList_ofList]
  simp [hvalue, skipBlanks]

end Document

end ValidatorForge.Snapshot
