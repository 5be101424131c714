import ResultCursor.Proofs.Writing.Numerals
import ResultCursor.Proofs.Writing.TomlQuotes

/-! Values at the end of a line. A text, a whole number or a switch is read back as it was written,
up to the end of its line. -/

namespace ResultCursor.Toml

open Nat (toDigits)
open Text (takeWhile_append_of_ends isDigit_of_mem_decimal toDigits_ne_zero_cons toList_toString_int
  exists_digit_cons)

/-! ### Whole numbers -/

theorem digits?_of_digits {cs : List Char} (some_ : cs ≠ []) (digits : ∀ c ∈ cs, c.isDigit = true) :
    digits? Char.isDigit cs = some cs := by
  induction cs with
  | nil => exact absurd rfl some_
  | cons c cs ih =>
    obtain ⟨digit, digits⟩ := List.forall_mem_cons.mp digits
    cases cs with
    | nil => simp [digits?, digit]
    | cons d cs =>
      have tail := ih (List.cons_ne_nil d cs) digits
      have other : d ≠ '_' := by
        rintro rfl
        exact absurd (digits '_' List.mem_cons_self) (by decide)
      rw [digits?.eq_4 _ _ _ _ (by simpa using other), if_pos digit, tail]
      rfl

theorem hexValue?_digit {c : Char} (digit : c.isDigit = true) :
    Text.hexValue? c = some (c.toNat - '0'.toNat) := by
  rw [Text.hexValue?, if_pos digit]

theorem valueOf_toDigits (n : Nat) : valueOf 10 (toDigits 10 n) = n := by
  have same (cs : List Char) (digits : ∀ c ∈ cs, c.isDigit = true) (start : Nat) :
      cs.foldl (fun n c => 10 * n + (Text.hexValue? c).getD 0) start =
        Nat.ofDigitChars 10 cs start := by
    induction cs generalizing start with
    | nil => rfl
    | cons c cs ih =>
      obtain ⟨digit, digits⟩ := List.forall_mem_cons.mp digits
      rw [List.foldl_cons, hexValue?_digit digit, ih digits]
      rfl
  rw [valueOf, same _ fun _ => isDigit_of_mem_decimal, Nat.ofDigitChars_ten_toDigits]

theorem decimal?_toDigits (n : Nat) : decimal? (toDigits 10 n) = some n := by
  have whole : wholeDigits? (toDigits 10 n) = some (toDigits 10 n) := by
    rw [wholeDigits?, digits?_of_digits Nat.toDigits_ne_nil fun _ => isDigit_of_mem_decimal]
    split
    · next d cs same => exact absurd (Option.some.inj same) (toDigits_ne_zero_cons n d cs)
    · rfl
  simp [decimal?, whole, valueOf_toDigits]

theorem integer?_toString (n : Int) : integer? (toString n).toList = some n := by
  rw [toList_toString_int]
  by_cases negative : n < 0
  · obtain ⟨m, rfl⟩ : ∃ m : Nat, n = -(m : Int) := ⟨n.natAbs, by omega⟩
    rw [if_pos negative, Int.natAbs_neg, Int.natAbs_natCast]
    simp [integer?, decimal?_toDigits]
  · rw [if_neg negative, List.nil_append]
    have magnitude : (n.natAbs : Int) = n := by omega
    obtain ⟨c, cs, written, digit⟩ := exists_digit_cons n.natAbs
    have zero := toDigits_ne_zero_cons n.natAbs
    have value := decimal?_toDigits n.natAbs
    rw [written] at zero value ⊢
    rw [integer?.eq_def]
    split <;> simp_all

/-! ### Words without quotes -/

theorem isPlainChar_of_digit {c : Char} (digit : c.isDigit = true) : isPlainChar c = true := by
  simp [isPlainChar, Char.isAlphanum, digit]

theorem readPlain_append {word : List Char} {v : Value} (plain : ∀ c ∈ word, isPlainChar c = true)
    (means : plainValue? word = some v) (rest : List Char) :
    readPlain (word ++ '\n' :: rest) = some (v, '\n' :: rest) := by
  obtain ⟨taken, left⟩ :=
    @takeWhile_append_of_ends isPlainChar word ('\n' :: rest) plain (by simp; decide)
  have stops : plainChars (word ++ '\n' :: rest) = (word, '\n' :: rest) := by
    simp [plainChars, taken, left]
  simp [readPlain, stops, means]

theorem plainValue?_integer (n : Int64) :
    plainValue? (toString n.toInt).toList = some (.integer n.toInt) := by
  obtain ⟨c, cs, written, front⟩ := Text.exists_cons_of_int n.toInt
  have narrow : isWide n.toInt = false := by
    have low := n.le_toInt
    have high := n.toInt_lt
    have wide : (2 : Int) ^ 63 ≤ (Nat.pow 2 127 : Nat) ∧
        (2 : Int) ^ 63 ≤ (Nat.pow 2 128 : Nat) := by decide
    simp only [isWide, Bool.or_eq_false_iff, decide_eq_false_iff_not]
    omega
  have apart : c ≠ 't' ∧ c ≠ 'f' := by
    constructor <;> rintro rfl <;> revert front <;> decide
  have value := integer?_toString n.toInt
  rw [written] at value ⊢
  simp [plainValue?, value, narrow, apart]

/-! ### Values -/

theorem quotedChars_head (cs : List Char) :
    ∃ c tail, quotedChars cs = c :: tail ∧ (c = '"' ∨ c = '\'') := by
  cases chosen : quoteStyle cs with
  | basic => exact ⟨'"', _, by simp [quotedChars, chosen]; rfl, .inl rfl⟩
  | literal => exact ⟨'\'', _, by simp [quotedChars, chosen]; rfl, .inr rfl⟩
  | longBasic => exact ⟨'"', _, by simp [quotedChars, chosen, List.replicate]; rfl, .inl rfl⟩
  | longLiteral => exact ⟨'\'', _, by simp [quotedChars, chosen, List.replicate]; rfl, .inr rfl⟩

/-- A word that begins neither a bracket nor a quote is read as it stands. -/
theorem readValue_word {word : List Char} {v : Value} (plain : ∀ c ∈ word, isPlainChar c = true)
    (means : plainValue? word = some v) (some_ : word ≠ []) (depth fuel : Nat) (rest : List Char) :
    readValue depth (fuel + 1) (word ++ '\n' :: rest) = some (v, '\n' :: rest) := by
  have read := readPlain_append plain means rest
  cases word with
  | nil => exact absurd rfl some_
  | cons c word =>
    have front := plain c List.mem_cons_self
    rw [readValue.eq_def]
    simp only [List.cons_append] at read ⊢
    split
    · next same => cases same; cases front
    · next same => cases same; cases front
    · split
      · next same => cases same; cases front
      · next same => cases same; cases front
      · exact read

theorem readValue_scalarChars (v : Scalar) (depth fuel : Nat) (rest : List Char) :
    readValue depth (fuel + 1) (scalarChars v ++ '\n' :: rest) =
      some (v.toValue, '\n' :: rest) := by
  cases v with
  | string s =>
    have read := readQuoted_quotedChars s.toList ('\n' :: rest) (by simp)
    obtain ⟨c, tail, written, quote⟩ := quotedChars_head s.toList
    rw [scalarChars]
    rw [written, List.cons_append] at read ⊢
    rcases quote with rfl | rfl <;> simp [readValue, read, Scalar.toValue]
  | integer n =>
    refine readValue_word (fun c member => ?_) (plainValue?_integer n) ?_ depth fuel rest
    · rw [toList_toString_int, List.mem_append] at member
      rcases member with sign | digit
      · split at sign <;> simp_all [isPlainChar]
      · exact isPlainChar_of_digit (isDigit_of_mem_decimal digit)
    · obtain ⟨c, cs, written, -⟩ := Text.exists_cons_of_int n.toInt
      exact written ▸ List.cons_ne_nil c cs
  | boolean b =>
    have plain (b : Bool) : (scalarChars (.boolean b)).all isPlainChar = true := by
      cases b <;> decide
    refine readValue_word (List.all_eq_true.mp (plain b)) ?_ ?_ depth fuel rest
    · cases b <;> rfl
    · cases b <;> decide

end ResultCursor.Toml
