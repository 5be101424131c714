import ResultCursor.Text.Decimal
import ResultCursor.Text.Hexadecimal

/-! Whole numbers as they are written in decimal notation: their digits have the number's value, and
none but zero begins with a zero. -/

namespace ResultCursor.Text

open Nat (toDigits)

/-- What is read up to the first character without a property is what was written with it. -/
theorem takeWhile_append_of_ends {p : Char → Bool} {cs rest : List Char}
    (all : ∀ c ∈ cs, p c = true) (ends : ∀ c ∈ rest.head?, p c = false) :
    (cs ++ rest).takeWhile p = cs ∧ (cs ++ rest).dropWhile p = rest := by
  have stops : rest.takeWhile p = [] ∧ rest.dropWhile p = rest := by
    cases rest with
    | nil => simp
    | cons c rest => simp [ends c (by simp)]
  rw [List.takeWhile_append_of_pos all, List.dropWhile_append_of_pos all, stops.1, stops.2]
  simp

theorem isDigit_of_mem_decimal {n : Nat} {c : Char} (h : c ∈ toDigits 10 n) : c.isDigit = true :=
  Nat.isDigit_of_mem_toDigits (by decide) (by decide) h

theorem digitsValue?_toDigits (n : Nat) : digitsValue? (toDigits 10 n) = some n := by
  have digits : (toDigits 10 n).all Char.isDigit = true :=
    List.all_eq_true.mpr fun _ => isDigit_of_mem_decimal
  rw [digitsValue?, if_neg (by simp [digits])]
  exact congrArg some Nat.ofDigitChars_ten_toDigits

/-- Only zero is written with a zero in front. -/
theorem toDigits_ne_zero_cons (n : Nat) (d : Char) (cs : List Char) :
    toDigits 10 n ≠ '0' :: d :: cs := by
  induction n using Nat.strongRecOn generalizing d cs with
  | ind n ih =>
    rw [Nat.toDigits_eq_if (by decide)]
    by_cases small : n < 10
    · simp [if_pos small]
    · rw [if_neg small]
      intro written
      cases front : toDigits 10 (n / 10) with
      | nil => exact Nat.toDigits_ne_nil front
      | cons e es =>
        rw [front, List.cons_append, List.cons.injEq] at written
        obtain ⟨rfl, -⟩ := written
        cases es with
        | nil =>
          have zero : n / 10 = 0 := by
            rw [← @Nat.ofDigitChars_ten_toDigits (n / 10), front]
            rfl
          omega
        | cons e es => exact ih (n / 10) (by omega) e es front

/-- A number is written with its sign, if it is negative, and the digits of its magnitude. -/
theorem toList_toString_int (n : Int) :
    (toString n).toList = (if n < 0 then ['-'] else []) ++ toDigits 10 n.natAbs := by
  cases n with
  | ofNat m =>
    change (Nat.repr m).toList = _
    simp
  | negSucc m =>
    change ("-" ++ Nat.repr (m + 1)).toList = _
    simp [Int.negSucc_lt_zero]

theorem exists_digit_cons (n : Nat) : ∃ c cs, toDigits 10 n = c :: cs ∧ c.isDigit = true := by
  cases written : toDigits 10 n with
  | nil => exact absurd written Nat.toDigits_ne_nil
  | cons c cs => exact ⟨c, cs, rfl, isDigit_of_mem_decimal (n := n) (by simp [written])⟩

/-- A number begins with its sign or with a digit. -/
theorem exists_cons_of_int (n : Int) :
    ∃ c cs, (toString n).toList = c :: cs ∧ (c = '-' ∨ c.isDigit = true) := by
  rw [toList_toString_int]
  by_cases negative : n < 0
  · exact ⟨'-', _, by rw [if_pos negative]; rfl, .inl rfl⟩
  · obtain ⟨c, cs, written, digit⟩ := exists_digit_cons n.natAbs
    exact ⟨c, cs, by rw [if_neg negative, written]; rfl, .inr digit⟩

theorem hexValue?_digitChar : ∀ d < 16, hexValue? (Nat.digitChar d) = some d := by decide

end ResultCursor.Text
