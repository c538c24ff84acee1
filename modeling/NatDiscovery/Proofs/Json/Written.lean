import NatDiscovery.Json.Printer
import NatDiscovery.Json.Reader
import NatDiscovery.Proofs.Text.Numeral

/-!
# `Proofs.Json.Written` — a written value is read back

Printer and reader share nothing: the one escapes characters, the other takes a text for pieces and
joins them; the one prints digits, the other looks for sign, whole part, fraction and exponent. Here
each part of a value is read back with any text behind it that does not go on with it, and the value
by recursion over its parts. The reader's bound on the depth is never met, because it is the length
of the text, and every part is shorter than the whole.

Only the spelling of a number is free in a value, so it has to be one of a number (`Proper`).

## Contents
- `readPieces_flatMap_escapeChar`, `readText_writeText`: texts
- `NumberParts`, `readNumber_append`: numbers
- `Proper`, `toText_eq_cons`: values whose numbers are well spelled, and how a value starts
- `ValuesRead`, `ItemsRead`, `MembersRead`, `all_read`: values and their parts
- `ofText?_toText`: a whole text
-/

namespace NatDiscovery.Json

/-! ## Texts -/

/-- The text is read as one piece, and the piece makes one character. -/
def Spells (text : List Char) (c : Char) : Prop :=
  ∃ p : Piece,
    (∀ rest, readPieces (text ++ rest) = (readPieces rest).map fun r => (p :: r.1, r.2)) ∧
    ∀ ps, joinPieces (p :: ps) = (joinPieces ps).map (c :: ·)

theorem spells_letter {e c : Char} (h : escaped? e = some c) : Spells ['\\', e] c := by
  have hne : e ≠ 'u' := by
    rintro rfl
    injection h
  refine ⟨.char c, ?_, fun _ => rfl⟩
  intro rest
  show readPieces ('\\' :: e :: rest) = _
  rw [readPieces, h]
  · cases readPieces rest <;> rfl
  · intro _ _ _ _ _ he
    exact absurd he hne

theorem spells_self {c : Char} (hquote : c ≠ '"') (hslash : c ≠ '\\') (hcontrol : ¬c.toNat < 0x20) :
    Spells [c] c := by
  refine ⟨.char c, ?_, fun _ => rfl⟩
  intro rest
  show readPieces (c :: rest) = _
  have hplain : ¬(c.toNat < 0x20 || c = '\\') = true := by simp [hcontrol, hslash]
  rw [readPieces, if_neg hplain]
  · cases readPieces rest <;> rfl
  · exact hquote
  · intro _ _ _ _ _ hc
    exact absurd hc hslash
  · intro _ _ hc
    exact absurd hc hslash

theorem joinPieces_unit {u : Nat} (hhigh : isHighSurrogate u = false)
    (hlow : isLowSurrogate u = false) (ps : List Piece) :
    joinPieces (.unit u :: ps) = (joinPieces ps).map (Char.ofNat u :: ·) := by
  rw [joinPieces.eq_def]
  show (if isHighSurrogate u then _ else if isLowSurrogate u then _ else _) = _
  rw [hhigh, hlow]
  rfl

/-- A control has a number of two hexadecimal digits, which is half of no character. -/
theorem spells_control {c : Char} (h : c.toNat < 0x20) : Spells (escapeControl c) c := by
  have hunit : unit? '0' '0' (Nat.digitChar (c.toNat / 16)) (Nat.digitChar (c.toNat % 16)) =
      some c.toNat := by
    have hzero : Numeral.digit? 16 '0' = some 0 := rfl
    have hvalue : Numeral.ofDigits 16 [0, 0, c.toNat / 16, c.toNat % 16] = c.toNat := by
      show ((0 * 16 + 0) * 16 + c.toNat / 16) * 16 + c.toNat % 16 = c.toNat
      omega
    simp only [unit?, hzero, Numeral.digit?_digitChar (Nat.le_refl 16)
      (show c.toNat / 16 < 16 by omega), Numeral.digit?_digitChar (Nat.le_refl 16)
      (show c.toNat % 16 < 16 by omega), Option.bind_eq_bind, Option.bind_some, Option.pure_def,
      hvalue]
  refine ⟨.unit c.toNat, ?_, ?_⟩
  · intro rest
    show readPieces ('\\' :: 'u' :: '0' :: '0' :: Nat.digitChar (c.toNat / 16) ::
      Nat.digitChar (c.toNat % 16) :: rest) = _
    rw [readPieces, hunit]
    cases readPieces rest <;> rfl
  · intro ps
    have hhigh : isHighSurrogate c.toNat = false := by
      simp only [isHighSurrogate, Bool.and_eq_false_iff, decide_eq_false_iff_not]
      omega
    have hlow : isLowSurrogate c.toNat = false := by
      simp only [isLowSurrogate, Bool.and_eq_false_iff, decide_eq_false_iff_not]
      omega
    rw [joinPieces_unit hhigh hlow, Char.ofNat_toNat]

theorem spells_escapeChar (c : Char) : Spells (escapeChar c) c := by
  -- First the characters that have a letter, then the other controls, then all that stand for
  -- themselves.
  unfold escapeChar
  split
  · exact spells_letter rfl
  · exact spells_letter rfl
  · exact spells_letter rfl
  · exact spells_letter rfl
  · exact spells_letter rfl
  · exact spells_letter rfl
  · exact spells_letter rfl
  · rename_i hquote hslash _ _ _ _ _
    split
    · rename_i hcontrol
      exact spells_control hcontrol
    · rename_i hcontrol
      exact spells_self hquote hslash hcontrol

/-- Escaped characters are read back, up to the quotation mark. -/
theorem readPieces_flatMap_escapeChar (cs rest : List Char) :
    ∃ ps, readPieces (cs.flatMap escapeChar ++ '"' :: rest) = some (ps, rest) ∧
      joinPieces ps = some cs := by
  induction cs with
  | nil => exact ⟨[], rfl, rfl⟩
  | cons c cs ih =>
      obtain ⟨ps, hread, hjoin⟩ := ih
      obtain ⟨p, hpiece, hchar⟩ := spells_escapeChar c
      refine ⟨p :: ps, ?_, ?_⟩
      · rw [List.flatMap_cons, List.append_assoc, hpiece, hread]
        rfl
      · rw [hchar, hjoin]
        rfl

/-- A written text is read back, the one that names nothing too. -/
theorem readText_writeText (t : Option (List Char)) (rest : List Char) :
    ∃ body, writeText t ++ rest = '"' :: body ∧ readText body = some (t, rest) := by
  cases t with
  | none => exact ⟨_, rfl, rfl⟩
  | some cs =>
      obtain ⟨ps, hread, hjoin⟩ := readPieces_flatMap_escapeChar cs rest
      refine ⟨cs.flatMap escapeChar ++ '"' :: rest, ?_, ?_⟩
      · show '"' :: (cs.flatMap escapeChar ++ ['"'] ++ rest) = _
        rw [List.append_assoc]
        rfl
      · rw [readText, hread]
        show some (joinPieces ps, rest) = _
        rw [hjoin]

/-! ## Numbers -/

/-- One or more digits. -/
def IsDigits (ds : List Char) : Prop :=
  ds ≠ [] ∧ ∀ c ∈ ds, c.isDigit = true

/-- A whole part: a zero alone, or digits that do not start with one. -/
inductive IsWholePart : List Char → Prop where
  | zero : IsWholePart ['0']
  | digits {ds : List Char} (hds : IsDigits ds) (hhead : ds.head? ≠ some '0') : IsWholePart ds

/-- A fraction, or none. -/
inductive IsFraction : List Char → Prop where
  | none : IsFraction []
  | digits {ds : List Char} (hds : IsDigits ds) : IsFraction ('.' :: ds)

/-- An exponent, or none. -/
inductive IsExponent : List Char → Prop where
  | none : IsExponent []
  | digits {e : Char} {sign ds : List Char} (he : e = 'e' ∨ e = 'E')
      (hsign : sign = [] ∨ sign = ['+'] ∨ sign = ['-']) (hds : IsDigits ds) :
      IsExponent (e :: (sign ++ ds))

/-- The parts of a number. -/
structure NumberParts where
  sign : List Char
  whole : List Char
  fraction : List Char
  exponent : List Char
  sign_eq : sign = [] ∨ sign = ['-']
  isWhole : IsWholePart whole
  isFraction : IsFraction fraction
  isExponent : IsExponent exponent

namespace NumberParts

/-- The parts one behind the other. -/
def text (n : NumberParts) : List Char :=
  n.sign ++ n.whole ++ n.fraction ++ n.exponent

/-- The number is digits alone. -/
def isPlain (n : NumberParts) : Bool :=
  n.sign.isEmpty && n.fraction.isEmpty && n.exponent.isEmpty

end NumberParts

/-- A character that goes on a number. -/
def GoesOnNumber (c : Char) : Prop :=
  c.isDigit = true ∨ c = '.' ∨ c = 'e' ∨ c = 'E'

theorem readDigits_append {ds rest : List Char} (hds : IsDigits ds)
    (hrest : Stops (·.isDigit = true) rest) : readDigits (ds ++ rest) = some (ds, rest) := by
  have htake : rest.takeWhile Char.isDigit = [] := by
    cases rest with
    | nil => rfl
    | cons c rest => rw [List.takeWhile_cons_of_neg (stops_cons.mp hrest)]
  have hdrop : rest.dropWhile Char.isDigit = rest := by
    cases rest with
    | nil => rfl
    | cons c rest => rw [List.dropWhile_cons_of_neg (stops_cons.mp hrest)]
  have hempty : ds.isEmpty = false := List.isEmpty_eq_false_iff.mpr hds.1
  simp only [readDigits, List.takeWhile_append_of_pos hds.2, List.dropWhile_append_of_pos hds.2,
    htake, hdrop, List.append_nil, hempty, Bool.false_eq_true, if_false]

theorem readWholePart_append {ds rest : List Char} (hds : IsWholePart ds)
    (hrest : Stops (·.isDigit = true) rest) : readWholePart (ds ++ rest) = some (ds, rest) := by
  cases hds with
  | zero => rfl
  | digits hds hhead =>
      cases ds with
      | nil => exact absurd rfl hds.1
      | cons c ds =>
          show readWholePart (c :: (ds ++ rest)) = _
          rw [readWholePart]
          · exact readDigits_append hds hrest
          · intro _ hc
            exact absurd (congrArg some (List.cons.inj hc).1) hhead

theorem readFraction_append {fraction rest : List Char} (h : IsFraction fraction)
    (hrest : Stops (fun c => c.isDigit = true ∨ c = '.') rest) :
    readFraction (fraction ++ rest) = some (fraction, rest) := by
  cases h with
  | none =>
      show readFraction rest = some ([], rest)
      unfold readFraction
      split
      · exact absurd (Or.inr rfl) (stops_cons.mp hrest)
      · rfl
  | digits hds =>
      rename_i ds
      show (readDigits (ds ++ rest)).map (fun r => ('.' :: r.1, r.2)) = _
      rw [readDigits_append hds (hrest.mono fun _ hc => Or.inl hc)]
      rfl

theorem readSign_append {sign ds rest : List Char}
    (hsign : sign = [] ∨ sign = ['+'] ∨ sign = ['-']) (hds : IsDigits ds) :
    readSign (sign ++ (ds ++ rest)) = (sign, ds ++ rest) := by
  rcases hsign with rfl | rfl | rfl
  · cases ds with
    | nil => exact absurd rfl hds.1
    | cons c ds =>
        have hc := hds.2 c (List.mem_cons_self ..)
        show readSign (c :: (ds ++ rest)) = ([], c :: (ds ++ rest))
        unfold readSign
        split
        · rename_i heq
          obtain ⟨rfl, -⟩ := List.cons.inj heq
          exact absurd hc (by decide)
        · rename_i heq
          obtain ⟨rfl, -⟩ := List.cons.inj heq
          exact absurd hc (by decide)
        · rfl
  · rfl
  · rfl

theorem readExponent_append {exponent rest : List Char} (h : IsExponent exponent)
    (hrest : Stops GoesOnNumber rest) :
    readExponent (exponent ++ rest) = some (exponent, rest) := by
  cases h with
  | none =>
      cases rest with
      | nil => rfl
      | cons c rest =>
          have hc : ¬(c = 'e' ∨ c = 'E') := by
            intro hc
            exact stops_cons.mp hrest (Or.inr (Or.inr hc))
          show readExponent (c :: rest) = _
          rw [readExponent, if_neg (by simpa using hc)]
  | digits he hsign hds =>
      rename_i e sign ds
      have hdigits : Stops (·.isDigit = true) rest := hrest.mono fun _ hc => Or.inl hc
      show readExponent (e :: (sign ++ ds ++ rest)) = _
      rw [readExponent, if_pos (by simpa using he), List.append_assoc, readSign_append hsign hds,
        readDigits_append hds hdigits]
      rfl

theorem stops_exponent {exponent rest : List Char} (h : IsExponent exponent)
    (hrest : Stops GoesOnNumber rest) :
    Stops (fun c => c.isDigit = true ∨ c = '.') (exponent ++ rest) := by
  cases h with
  | none => exact hrest.mono fun _ hc => hc.imp id Or.inl
  | digits he _ _ =>
      apply stops_cons.mpr
      rcases he with rfl | rfl
      · decide
      · decide

theorem stops_fraction {fraction rest : List Char} (h : IsFraction fraction)
    (hrest : Stops (fun c => c.isDigit = true ∨ c = '.') rest) :
    Stops (·.isDigit = true) (fraction ++ rest) := by
  cases h with
  | none => exact hrest.mono fun _ hc => Or.inl hc
  | digits _ => exact stops_cons.mpr (by decide)

theorem IsWholePart.exists_cons {ds : List Char} (h : IsWholePart ds) :
    ∃ c rest, ds = c :: rest ∧ c.isDigit = true := by
  cases h with
  | zero => exact ⟨'0', [], rfl, rfl⟩
  | digits hds _ =>
      cases ds with
      | nil => exact absurd rfl hds.1
      | cons c ds => exact ⟨c, ds, rfl, hds.2 c (List.mem_cons_self ..)⟩

/-- A number is read back part by part. -/
theorem readNumber_append (n : NumberParts) {rest : List Char} (hrest : Stops GoesOnNumber rest) :
    readNumber (n.text ++ rest) =
      some (if n.isPlain then .natural (Nat.ofDigitChars 10 n.whole 0) else .number n.text,
        rest) := by
  obtain ⟨sign, whole, fraction, exponent, hsign, hwhole, hfraction, hexponent⟩ := n
  have hpoint := stops_exponent hexponent hrest
  have hdigits := stops_fraction hfraction hpoint
  have hparts := readWholePart_append hwhole hdigits
  simp only [NumberParts.text, NumberParts.isPlain, List.append_assoc]
  rcases hsign with rfl | rfl
  · -- Without a sign the text starts with a digit, which is no minus.
    obtain ⟨c, ds, rfl, hc⟩ := hwhole.exists_cons
    have hminus : c ≠ '-' := by
      rintro rfl
      exact absurd hc (by decide)
    simp only [List.nil_append, List.cons_append] at hparts ⊢
    rw [readNumber]
    · simp only [hparts, readFraction_append hfraction hpoint, readExponent_append hexponent hrest,
        Option.bind_eq_bind, Option.bind_some, Option.pure_def, List.nil_append, List.append_assoc,
        List.cons_append]
      split
      · rfl
      · rfl
    · intro _ hcons
      exact hminus (List.cons.inj hcons).1
  · rw [List.cons_append, List.nil_append, readNumber]
    simp only [hparts, readFraction_append hfraction hpoint, readExponent_append hexponent hrest,
      Option.bind_eq_bind, Option.bind_some, Option.pure_def, List.append_assoc]
    rfl

/-- The digits of a natural number. -/
def NumberParts.ofNat (n : Nat) : NumberParts where
  sign := []
  whole := Nat.toDigits 10 n
  fraction := []
  exponent := []
  sign_eq := Or.inl rfl
  isWhole := by
    by_cases hzero : n = 0
    · subst hzero
      exact .zero
    · have hdigits : IsDigits (Nat.toDigits 10 n) :=
        ⟨Nat.toDigits_ne_nil, fun _ hc => Nat.isDigit_of_mem_toDigits (by decide) (by decide) hc⟩
      apply IsWholePart.digits hdigits
      intro hhead
      -- Only zero is written with a zero in front.
      have hfirst : (Numeral.digitsOf 10 n).head? = some 0 := by
        obtain ⟨rest, hrest⟩ := List.head?_eq_some_iff.mp hhead
        rw [Numeral.digitsOf, Numeral.write, hrest]
        rfl
      exact hzero (Numeral.head?_digitsOf (by decide) (by decide) hfirst)
  isFraction := .none
  isExponent := .none

theorem readNumber_toDigits (n : Nat) {rest : List Char} (hrest : Stops GoesOnNumber rest) :
    readNumber (Nat.toDigits 10 n ++ rest) = some (.natural n, rest) := by
  have htext : (NumberParts.ofNat n).text = Nat.toDigits 10 n := by
    show [] ++ Nat.toDigits 10 n ++ [] ++ [] = _
    rw [List.append_nil, List.append_nil, List.nil_append]
  have hread := readNumber_append (.ofNat n) hrest
  rw [htext] at hread
  rw [hread]
  show some (Json.natural (Nat.ofDigitChars 10 (Nat.toDigits 10 n) 0), rest) = _
  rw [Nat.ofDigitChars_toDigits (by decide) (by decide)]

/-! ## Values -/

mutual

/-- Every number in the value that is not natural is spelled as one. -/
def Proper : Json → Prop
  | .number cs => ∃ n : NumberParts, n.text = cs ∧ n.isPlain = false
  | .array items => ItemsProper items
  | .object members => MembersProper members
  | _ => True

/-- So in all items. -/
def ItemsProper : List Json → Prop
  | [] => True
  | item :: items => Proper item ∧ ItemsProper items

/-- So in all members. -/
def MembersProper : List (Option (List Char) × Json) → Prop
  | [] => True
  | (_, value) :: members => Proper value ∧ MembersProper members

end

/-- A number starts with a digit or with a minus. -/
theorem NumberParts.exists_cons (n : NumberParts) :
    ∃ c cs, n.text = c :: cs ∧ (c.isDigit = true ∨ c = '-') := by
  obtain ⟨c, cs, hwhole, hc⟩ := n.isWhole.exists_cons
  rcases n.sign_eq with hsign | hsign
  · refine ⟨c, cs ++ n.fraction ++ n.exponent, ?_, Or.inl hc⟩
    rw [text, hsign, hwhole]
    rfl
  · refine ⟨'-', n.whole ++ n.fraction ++ n.exponent, ?_, Or.inr rfl⟩
    rw [text, hsign]
    rfl

/-- What starts neither with a letter of a word nor with a mark is read as a number. -/
theorem readValue_number {depth : Nat} {c : Char} {cs : List Char}
    (hc : c.isDigit = true ∨ c = '-') :
    readValue (depth + 1) (c :: cs) = readNumber (c :: cs) := by
  have hne {x : Char} (hx : x.isDigit = false ∧ x ≠ '-') : c ≠ x := by
    rintro rfl
    rcases hc with hdigit | hminus
    · rw [hx.1] at hdigit
      injection hdigit
    · exact hx.2 hminus
  rw [readValue]
  -- What is left is that the character begins none of the other values.
  all_goals
    intro _ hcons
    exact absurd (List.cons.inj hcons).1 (hne (by decide))

/-- A value starts with a character that is neither a blank nor the end of an array. -/
theorem toText_eq_cons {j : Json} (h : j.Proper) :
    ∃ c cs, j.toText = c :: cs ∧ isBlankChar c = false ∧ c ≠ ']' := by
  have hnumber {c : Char} (hc : c.isDigit = true ∨ c = '-') : isBlankChar c = false ∧ c ≠ ']' := by
    rcases hc with hdigit | rfl
    · have hne {x : Char} (hx : x.isDigit = false) : c ≠ x := by
        rintro rfl
        rw [hx] at hdigit
        injection hdigit
      refine ⟨?_, hne (by decide)⟩
      simp [isBlankChar, hne (show ' '.isDigit = false by decide),
        hne (show '\t'.isDigit = false by decide), hne (show '\n'.isDigit = false by decide),
        hne (show '\r'.isDigit = false by decide)]
    · decide
  cases j with
  | null => exact ⟨_, _, rfl, by decide, by decide⟩
  | bool b =>
      cases b with
      | true => exact ⟨_, _, rfl, by decide, by decide⟩
      | false => exact ⟨_, _, rfl, by decide, by decide⟩
  | natural n =>
      obtain ⟨c, cs, hcs, hc⟩ := (NumberParts.ofNat n).isWhole.exists_cons
      obtain ⟨hblank, hbracket⟩ := hnumber (Or.inl hc)
      exact ⟨c, cs, hcs, hblank, hbracket⟩
  | number cs =>
      obtain ⟨n, rfl, -⟩ := h
      obtain ⟨c, cs, hcs, hc⟩ := n.exists_cons
      obtain ⟨hblank, hbracket⟩ := hnumber hc
      exact ⟨c, cs, hcs, hblank, hbracket⟩
  | text t =>
      cases t with
      | none => exact ⟨_, _, rfl, by decide, by decide⟩
      | some cs => exact ⟨_, _, rfl, by decide, by decide⟩
  | array items => exact ⟨_, _, rfl, by decide, by decide⟩
  | object members => exact ⟨_, _, rfl, by decide, by decide⟩

theorem skipBlanks_cons {c : Char} {cs : List Char} (h : isBlankChar c = false) :
    skipBlanks (c :: cs) = c :: cs := by
  rw [skipBlanks, List.dropWhile_cons_of_neg (by rw [h]; exact Bool.false_ne_true)]

theorem skipBlanks_toText {j : Json} (h : j.Proper) (rest : List Char) :
    skipBlanks (j.toText ++ rest) = j.toText ++ rest := by
  obtain ⟨c, cs, hcs, hblank, -⟩ := toText_eq_cons h
  rw [hcs]
  exact skipBlanks_cons hblank

theorem length_toText_pos {j : Json} (h : j.Proper) : 0 < j.toText.length := by
  obtain ⟨c, cs, hcs, -, -⟩ := toText_eq_cons h
  rw [hcs]
  exact Nat.succ_pos _

/-! ## Values with room for their depth -/

/-- Values are read back when their text is no longer than the bound. -/
def ValuesRead (depth : Nat) : Prop :=
  ∀ (j : Json) (rest : List Char), j.Proper → j.toText.length ≤ depth → Stops GoesOnNumber rest →
    readValue depth (j.toText ++ rest) = some (j, rest)

/-- So are items up to the closing bracket. -/
def ItemsRead (depth : Nat) : Prop :=
  ∀ (items : List Json) (rest : List Char), items ≠ [] → ItemsProper items →
    (writeItems items).length < depth →
    readItems depth (writeItems items ++ ']' :: rest) = some (items, rest)

/-- So are members up to the closing brace. -/
def MembersRead (depth : Nat) : Prop :=
  ∀ (members : List (Option (List Char) × Json)) (rest : List Char), members ≠ [] →
    MembersProper members → (writeMembers members).length < depth →
    readMembers depth (writeMembers members ++ '}' :: rest) = some (members, rest)

section Step

variable {depth : Nat}

theorem stops_mark {c : Char} {cs : List Char} (hc : c = ',' ∨ c = ']' ∨ c = '}') :
    Stops GoesOnNumber (c :: cs) := by
  apply stops_cons.mpr
  unfold GoesOnNumber
  rcases hc with rfl | rfl | rfl
  · decide
  · decide
  · decide

theorem writeItems_cons_cons (item next : Json) (items : List Json) :
    writeItems (item :: next :: items) = item.toText ++ ',' :: writeItems (next :: items) := by
  rw [writeItems]
  exact List.cons_ne_nil _ _

theorem writeMembers_cons_cons (name : Option (List Char)) (value : Json)
    (next : Option (List Char) × Json) (members : List (Option (List Char) × Json)) :
    writeMembers ((name, value) :: next :: members) =
      writeText name ++ ':' :: (value.toText ++ ',' :: writeMembers (next :: members)) := by
  rw [writeMembers]
  exact List.cons_ne_nil _ _

/-- An array that does not end at once is read item by item. -/
theorem readValue_items {item : Json} (h : item.Proper) (cs : List Char) :
    readValue (depth + 1) ('[' :: (item.toText ++ cs)) =
      (readItems depth (item.toText ++ cs)).map fun r => (.array r.1, r.2) := by
  obtain ⟨c, tail, htext, hblank, hbracket⟩ := toText_eq_cons h
  rw [readValue, skipBlanks_toText h, htext]
  split
  · rename_i heq
    exact absurd (List.cons.inj heq).1 hbracket
  · rfl

/-- So is an object member by member. -/
theorem readValue_members (name : Option (List Char)) (cs : List Char) :
    readValue (depth + 1) ('{' :: (writeText name ++ cs)) =
      (readMembers depth (writeText name ++ cs)).map fun r => (.object r.1, r.2) := by
  obtain ⟨body, hbody, -⟩ := readText_writeText name cs
  rw [hbody, readValue, skipBlanks_cons (by decide)]
  rfl

/-- Items start with the first of them. -/
theorem exists_writeItems_eq (item : Json) (items : List Json) :
    ∃ after, writeItems (item :: items) = item.toText ++ after := by
  cases items with
  | nil => exact ⟨[], (List.append_nil _).symm⟩
  | cons next items => exact ⟨_, writeItems_cons_cons item next items⟩

theorem exists_writeMembers_eq (name : Option (List Char)) (value : Json)
    (members : List (Option (List Char) × Json)) :
    ∃ after, writeMembers ((name, value) :: members) = writeText name ++ after := by
  cases members with
  | nil => exact ⟨_, rfl⟩
  | cons next members => exact ⟨_, writeMembers_cons_cons name value next members⟩

theorem skipBlanks_writeItems {item : Json} (h : item.Proper) (items : List Json)
    (rest : List Char) :
    skipBlanks (writeItems (item :: items) ++ rest) = writeItems (item :: items) ++ rest := by
  obtain ⟨after, hafter⟩ := exists_writeItems_eq item items
  rw [hafter, List.append_assoc, skipBlanks_toText h]

theorem skipBlanks_writeMembers (member : Option (List Char) × Json)
    (members : List (Option (List Char) × Json)) (rest : List Char) :
    skipBlanks (writeMembers (member :: members) ++ rest) =
      writeMembers (member :: members) ++ rest := by
  obtain ⟨after, hafter⟩ := exists_writeMembers_eq member.1 member.2 members
  obtain ⟨body, hbody, -⟩ := readText_writeText member.1 (after ++ rest)
  rw [hafter, List.append_assoc, hbody, skipBlanks_cons (by decide)]

theorem ItemsRead.succ (hvalues : ValuesRead depth) (hitems : ItemsRead depth) :
    ItemsRead (depth + 1) := by
  intro items rest hne hproper hlength
  cases items with
  | nil => exact absurd rfl hne
  | cons item items =>
      obtain ⟨hitem, hrest⟩ := hproper
      cases items with
      | nil =>
          have hread := hvalues item (']' :: rest) hitem (Nat.le_of_lt_succ hlength)
            (stops_mark (Or.inr (Or.inl rfl)))
          show readItems (depth + 1) (item.toText ++ ']' :: rest) = _
          rw [readItems, hread, Option.bind_eq_bind, Option.bind_some]
          simp only [skipBlanks_cons (show isBlankChar ']' = false by decide)]
          rfl
      | cons next items =>
          rw [writeItems_cons_cons, List.length_append, List.length_cons] at hlength
          have hread := hvalues item (',' :: (writeItems (next :: items) ++ ']' :: rest)) hitem
            (by omega) (stops_mark (Or.inl rfl))
          have hmore := hitems (next :: items) rest (List.cons_ne_nil _ _) hrest (by omega)
          rw [writeItems_cons_cons, List.append_assoc, List.cons_append, readItems, hread,
            Option.bind_eq_bind, Option.bind_some]
          simp only [skipBlanks_cons (show isBlankChar ',' = false by decide),
            skipBlanks_writeItems hrest.1, hmore]
          rfl

/-- A member is read name by colon by value. -/
theorem readMembers_member (hvalues : ValuesRead depth) (name : Option (List Char)) {value : Json}
    {after : List Char} (hproper : value.Proper) (hlength : value.toText.length ≤ depth)
    (hafter : Stops GoesOnNumber after) :
    readMembers (depth + 1) (writeText name ++ ':' :: (value.toText ++ after)) =
      match skipBlanks after with
      | ',' :: cs =>
        (readMembers depth (skipBlanks cs)).bind fun r => some ((name, value) :: r.1, r.2)
      | '}' :: cs => some ([(name, value)], cs)
      | _ => none := by
  obtain ⟨body, hbody, htext⟩ := readText_writeText name (':' :: (value.toText ++ after))
  have hread := hvalues value after hproper hlength hafter
  rw [hbody, readMembers]
  simp only [expect_cons_self, htext, skipBlanks_cons (show isBlankChar ':' = false by decide),
    skipBlanks_toText hproper, Option.bind_eq_bind, Option.bind_some]
  rw [hread]
  rfl

theorem MembersRead.succ (hvalues : ValuesRead depth) (hmembers : MembersRead depth) :
    MembersRead (depth + 1) := by
  intro members rest hne hproper hlength
  cases members with
  | nil => exact absurd rfl hne
  | cons member members =>
      obtain ⟨name, value⟩ := member
      obtain ⟨hvalue, hrest⟩ := hproper
      cases members with
      | nil =>
          rw [writeMembers, List.length_append, List.length_cons] at hlength
          show readMembers (depth + 1) (writeText name ++ ':' :: value.toText ++ '}' :: rest) = _
          rw [List.append_assoc, List.cons_append,
            readMembers_member hvalues name hvalue (by omega) (stops_mark (Or.inr (Or.inr rfl))),
            skipBlanks_cons (by decide)]
          rfl
      | cons next members =>
          rw [writeMembers_cons_cons, List.length_append, List.length_cons, List.length_append,
            List.length_cons] at hlength
          have hmore := hmembers (next :: members) rest (List.cons_ne_nil _ _) hrest (by omega)
          rw [writeMembers_cons_cons, List.append_assoc, List.cons_append, List.append_assoc,
            List.cons_append,
            readMembers_member hvalues name hvalue (by omega) (stops_mark (Or.inl rfl)),
            skipBlanks_cons (by decide)]
          show (readMembers depth (skipBlanks _)).bind _ = _
          rw [skipBlanks_writeMembers, hmore]
          rfl

theorem ValuesRead.succ (hitems : ItemsRead depth) (hmembers : MembersRead depth) :
    ValuesRead (depth + 1) := by
  intro j rest hproper hlength hrest
  cases j with
  | null => rfl
  | bool b =>
      cases b with
      | true => rfl
      | false => rfl
  | natural n =>
      obtain ⟨c, cs, hcs, hc⟩ := (NumberParts.ofNat n).isWhole.exists_cons
      have htext : Nat.toDigits 10 n ++ rest = c :: (cs ++ rest) := congrArg (· ++ rest) hcs
      have hread := readNumber_toDigits n hrest
      show readValue (depth + 1) (Nat.toDigits 10 n ++ rest) = _
      rw [htext] at hread ⊢
      rw [readValue_number (Or.inl hc), hread]
  | number cs =>
      obtain ⟨n, rfl, hplain⟩ := hproper
      obtain ⟨c, cs, hcs, hc⟩ := n.exists_cons
      have hread := readNumber_append n hrest
      rw [hplain, hcs] at hread
      show readValue (depth + 1) (n.text ++ rest) = _
      rw [hcs]
      exact (readValue_number hc).trans hread
  | text t =>
      obtain ⟨body, hbody, hread⟩ := readText_writeText t rest
      show readValue (depth + 1) (writeText t ++ rest) = _
      rw [hbody, readValue, hread]
      rfl
  | array items =>
      show readValue (depth + 1) ('[' :: (writeItems items ++ [']'] ++ rest)) = _
      rw [List.append_assoc]
      cases items with
      | nil => rfl
      | cons item items =>
          rw [toText, List.length_cons, List.length_append] at hlength
          have hread := hitems (item :: items) rest (List.cons_ne_nil _ _) hproper
            (by simp only [List.length_cons, List.length_nil] at hlength; omega)
          obtain ⟨after, hafter⟩ := exists_writeItems_eq item items
          rw [hafter, List.append_assoc] at hread ⊢
          rw [readValue_items hproper.1]
          show (readItems depth (item.toText ++ (after ++ ']' :: rest))).map _ = _
          rw [hread]
          rfl
  | object members =>
      show readValue (depth + 1) ('{' :: (writeMembers members ++ ['}'] ++ rest)) = _
      rw [List.append_assoc]
      cases members with
      | nil => rfl
      | cons member members =>
          rw [toText, List.length_cons, List.length_append] at hlength
          have hread := hmembers (member :: members) rest (List.cons_ne_nil _ _) hproper
            (by simp only [List.length_cons, List.length_nil] at hlength; omega)
          obtain ⟨after, hafter⟩ := exists_writeMembers_eq member.1 member.2 members
          rw [hafter, List.append_assoc] at hread ⊢
          rw [readValue_members]
          show (readMembers depth (writeText member.1 ++ (after ++ '}' :: rest))).map _ = _
          rw [hread]
          rfl

end Step

/-- Whatever the bound, what fits is read back: a value, items, members. -/
theorem all_read (depth : Nat) : ValuesRead depth ∧ ItemsRead depth ∧ MembersRead depth := by
  induction depth with
  | zero =>
      refine ⟨?_, ?_, ?_⟩
      · intro j rest hproper hlength
        exact absurd hlength (Nat.not_le_of_gt (length_toText_pos hproper))
      · intro items rest _ _ hlength
        exact absurd hlength (Nat.not_lt_zero _)
      · intro members rest _ _ hlength
        exact absurd hlength (Nat.not_lt_zero _)
  | succ depth ih =>
      obtain ⟨hvalues, hitems, hmembers⟩ := ih
      exact ⟨.succ hitems hmembers, .succ hvalues hitems, .succ hvalues hmembers⟩

/-- **A value is read back from its text.** -/
theorem ofText?_toText {j : Json} (h : j.Proper) : ofText? j.toText = some j := by
  have hread := (all_read (j.toText.length + 1)).1 j [] h (Nat.le_succ _) (stops_nil _)
  have hskip := skipBlanks_toText h []
  rw [List.append_nil] at hread hskip
  rw [ofText?, hskip, hread]
  rfl

end NatDiscovery.Json
