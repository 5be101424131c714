import ResultCursor.Json.Printer
import ResultCursor.Json.Reader
import ResultCursor.Proofs.Writing.Numerals

/-! The words of JSON texts: strings with their escapes, and whole numbers. What is written is read
back, whatever follows it. -/

namespace ResultCursor.Json

/-! ### Strings -/

theorem scanString_short {c : Char} {n : Nat} (short : shortEscape? c = some n) (rest : List Char) :
    scanString ('\\' :: c :: rest) =
      (scanString rest).map fun (codes, rest) => (n :: codes, rest) := by
  rw [scanString.eq_def]
  split
  case h_4 d tail _ same =>
    obtain ⟨rfl, rfl⟩ : c = d ∧ rest = tail := by simpa using same
    rw [short]
    cases scanString rest <;> rfl
  case h_5 d tail _ unescaped same =>
    obtain ⟨rfl, rfl⟩ := List.cons_eq_cons.mp same
    exact absurd rfl (unescaped c rest rfl)
  all_goals simp_all [shortEscape?]

theorem scanString_plain {c : Char} (quote : c ≠ '"') (backslash : c ≠ '\\')
    (visible : ¬c.toNat < 0x20) (rest : List Char) :
    scanString (c :: rest) =
      (scanString rest).map fun (codes, rest) => (c.toNat :: codes, rest) := by
  rw [scanString.eq_def]
  split
  case h_5 d tail _ _ same =>
    obtain ⟨rfl, rfl⟩ := List.cons_eq_cons.mp same
    exact if_neg visible
  all_goals simp_all

/-- Each character is read back, whether it was escaped or not. -/
theorem scanString_escapedChar (c : Char) (rest : List Char) :
    scanString (escapedChar c ++ rest) =
      (scanString rest).map fun (codes, rest) => (c.toNat :: codes, rest) := by
  unfold escapedChar
  split
  case h_8 quote backslash _ _ _ _ _ =>
    by_cases low : c.toNat < 0x20
    · have zero : Text.hexValue? '0' = some 0 := by decide
      have high := Text.hexValue?_digitChar (c.toNat / 16) (by omega)
      have lower := Text.hexValue?_digitChar (c.toNat % 16) (by omega)
      have code : hexQuad? '0' '0' (Nat.digitChar (c.toNat / 16)) (Nat.digitChar (c.toNat % 16)) =
          some c.toNat := by
        simp [hexQuad?, zero, high, lower]
        omega
      simp only [if_pos low, List.cons_append, List.nil_append, scanString, code]
      cases scanString rest <;> rfl
    · rw [if_neg low]
      exact scanString_plain quote backslash low rest
  all_goals exact scanString_short rfl rest

theorem scanString_escaped (cs rest : List Char) :
    scanString (cs.flatMap escapedChar ++ '"' :: rest) = some (cs.map Char.toNat, rest) := by
  induction cs with
  | nil => simp [scanString]
  | cons c cs ih =>
    rw [List.flatMap_cons, List.append_assoc, scanString_escapedChar, ih]
    rfl

theorem not_isSurrogate_toNat (c : Char) :
    isHighSurrogate c.toNat = false ∧ isLowSurrogate c.toNat = false := by
  have valid : c.toNat.isValidChar := c.valid
  simp only [Nat.isValidChar] at valid
  simp only [isHighSurrogate, isLowSurrogate, Bool.and_eq_false_iff, decide_eq_false_iff_not]
  omega

theorem joinCodes_map_toNat (cs : List Char) : joinCodes (cs.map Char.toNat) = some cs := by
  induction cs with
  | nil => rfl
  | cons c cs ih =>
    obtain ⟨high, low⟩ := not_isSurrogate_toNat c
    cases cs with
    | nil => simp [joinCodes, high, low]
    | cons d cs =>
      rw [List.map_cons] at ih
      simp [joinCodes, high, low, ih]

theorem joinedString?_map_toNat (s : String) :
    joinedString? (s.toList.map Char.toNat) = some s := by
  simp [joinedString?, joinCodes_map_toNat]

/-! ### Numbers -/

/-- No part of a word follows: there is nothing more, or a blank or a mark comes next. -/
def EndsWord (rest : List Char) : Prop :=
  ∀ c ∈ rest.head?, isSpace c = true ∨ c = ',' ∨ c = ']' ∨ c = '}'

theorem EndsWord.head {rest : List Char} (ends : EndsWord rest) :
    ∀ c ∈ rest.head?, c.isDigit = false ∧ c ≠ '.' ∧ c ≠ 'e' ∧ c ≠ 'E' := by
  intro c next
  have mark := ends c next
  simp only [isSpace, Bool.or_eq_true, decide_eq_true_eq] at mark
  rcases mark with (((rfl | rfl) | rfl) | rfl) | rfl | rfl | rfl <;> decide

theorem wholePart?_toDigits (n : Nat) {rest : List Char} (ends : EndsWord rest) :
    wholePart? (Nat.toDigits 10 n ++ rest) = some (Nat.toDigits 10 n, rest) := by
  obtain ⟨taken, left⟩ := Text.takeWhile_append_of_ends
    (fun _ => Text.isDigit_of_mem_decimal (n := n)) (fun c next => (ends.head c next).1)
  unfold wholePart?
  rw [taken, left]
  split
  · next none => exact absurd none Nat.toDigits_ne_nil
  · next cs zero => exact absurd zero (Text.toDigits_ne_zero_cons n _ _)
  · rfl

theorem fractionPart?_of_ends {rest : List Char} (ends : EndsWord rest) :
    fractionPart? rest = some ([], rest) := by
  unfold fractionPart?
  split
  · exact absurd rfl (ends.head '.' rfl).2.1
  · rfl

theorem exponentPart?_of_ends {rest : List Char} (ends : EndsWord rest) :
    exponentPart? rest = some ([], rest) := by
  cases rest with
  | nil => rfl
  | cons c rest =>
    obtain ⟨-, -, small, capital⟩ := ends.head c rfl
    simp [exponentPart?, small, capital]

theorem readNumber_integer (n : Int) {rest : List Char} (ends : EndsWord rest) :
    readNumber ((toString n).toList ++ rest) = some (.integer n, rest) := by
  have whole := wholePart?_toDigits n.natAbs ends
  have value := Text.digitsValue?_toDigits n.natAbs
  rw [Text.toList_toString_int]
  by_cases negative : n < 0
  · obtain ⟨m, rfl⟩ : ∃ m : Nat, n = -(m : Int) := ⟨n.natAbs, by omega⟩
    rw [Int.natAbs_neg, Int.natAbs_natCast] at whole value ⊢
    have nonzero : m ≠ 0 := by omega
    rw [if_pos negative]
    simp [readNumber, whole, fractionPart?_of_ends ends, exponentPart?_of_ends ends, value, nonzero]
  · have magnitude : (n.natAbs : Int) = n := by omega
    have unsigned (cs : List Char) : Nat.toDigits 10 n.natAbs ++ rest ≠ '-' :: cs := by
      obtain ⟨c, cs, written, digit⟩ := Text.exists_digit_cons n.natAbs
      rw [written]
      rintro ⟨⟩
      cases digit
    rw [if_neg negative, List.nil_append]
    unfold readNumber
    split
    next found =>
    split at found
    · next written => exact absurd written (unsigned _)
    · cases found
      simp [whole, fractionPart?_of_ends ends, exponentPart?_of_ends ends, value, magnitude]

theorem isSpace_of_opens {c : Char} (opens : c = '-' ∨ c.isDigit = true) : isSpace c = false := by
  rcases opens with rfl | digit
  · decide
  · simp only [isSpace, Bool.or_eq_false_iff, decide_eq_false_iff_not]
    refine ⟨⟨⟨?_, ?_⟩, ?_⟩, ?_⟩ <;> rintro rfl <;> cases digit

end ResultCursor.Json
