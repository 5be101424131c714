import Mathlib.Tactic.SplitIfs
import ResultCursor.Toml.Printer

/-! Texts in quotes. Whichever of the four quoted forms is chosen for a text, it is read back as
that text; the forms without escapes are chosen only for texts that they can hold. -/

namespace ResultCursor.Toml

theorem eq_of_isSpace {c : Char} (space : isSpace c = true) : c = ' ' ∨ c = '\t' := by
  simpa [isSpace] using space

/-! ### Escapes -/

theorem hexCode_reads : ∀ n < 128, (hexCode n).length = 6 ∧ (hexCode n).take 2 = ['\\', 'u'] ∧
    Text.hexChar? ((hexCode n).drop 2) = some (Char.ofNat n) := by
  decide +kernel

/-- A control character is written by its number, in four digits. -/
theorem exists_hexCode {c : Char} (control : isControl c = true) :
    ∃ a₁ a₂ a₃ a₄, hexCode c.toNat = ['\\', 'u', a₁, a₂, a₃, a₄] ∧
      Text.hexChar? [a₁, a₂, a₃, a₄] = some c := by
  have small : c.toNat < 128 := by
    simp only [isControl, Bool.or_eq_true, Bool.and_eq_true, decide_eq_true_eq] at control
    omega
  obtain ⟨length, front, value⟩ := hexCode_reads c.toNat small
  match written : hexCode c.toNat, length with
  | [b₁, b₂, a₁, a₂, a₃, a₄], _ =>
    simp only [written, List.take_succ_cons, List.take_zero, List.cons.injEq, and_true] at front
    obtain ⟨rfl, rfl⟩ := front
    refine ⟨a₁, a₂, a₃, a₄, rfl, ?_⟩
    simpa [written] using value

/-- How a character other than a quote is written between double quotes: by a short escape, by its
number, or as itself. -/
inductive Escapes (long : Bool) (c : Char) : List Char → Prop
  | short {d : Char} (means : shortEscape? d = some c) : Escapes long c ['\\', d]
  | code {a₁ a₂ a₃ a₄ : Char} (means : Text.hexChar? [a₁, a₂, a₃, a₄] = some c) :
    Escapes long c ['\\', 'u', a₁, a₂, a₃, a₄]
  | lineEnd (isLong : long = true) (same : c = '\n') : Escapes long c [c]
  | itself (plain : isControl c = false) (backslash : c ≠ '\\') : Escapes long c [c]

theorem escapedChar_escapes (long : Bool) (c : Char) : Escapes long c (escapedChar long c) := by
  unfold escapedChar
  split
  case h_6 =>
    cases long with
    | false => exact .short rfl
    | true => exact .lineEnd rfl rfl
  case h_7 backslash _ =>
    by_cases control : isControl c = true
    · obtain ⟨_, _, _, _, written, means⟩ := exists_hexCode control
      rw [if_pos control, written]
      exact .code means
    · rw [if_neg control]
      exact .itself (by simpa using control) backslash
  all_goals exact .short rfl

/-- A one-letter escape begins no escape by number. -/
theorem letter_of_shortEscape? {d c : Char} (means : shortEscape? d = some c) :
    d ≠ 'x' ∧ d ≠ 'u' ∧ d ≠ 'U' := by
  refine ⟨?_, ?_, ?_⟩ <;> rintro rfl <;> cases means

/-! ### One line -/

theorem scanBasic_short {c d : Char} (means : shortEscape? d = some c) (tail : List Char) :
    scanBasic ('\\' :: d :: tail) = prepend? (some c) (scanBasic tail) := by
  obtain ⟨x, u, capital⟩ := letter_of_shortEscape? means
  rw [scanBasic.eq_def]
  split
  case h_7 e after _ escaped same =>
    obtain ⟨rfl, rfl⟩ := List.cons_eq_cons.mp same
    exact absurd rfl (escaped d tail rfl)
  all_goals simp_all

theorem scanBasic_escapes {c : Char} {written : List Char} (escapes : Escapes false c written)
    (quote : c ≠ '"') (tail : List Char) :
    scanBasic (written ++ tail) = prepend? (some c) (scanBasic tail) := by
  cases escapes with
  | short means => exact scanBasic_short means tail
  | code means => simp [scanBasic, means]
  | lineEnd isLong => cases isLong
  | itself plain backslash =>
    rw [List.cons_append, List.nil_append, scanBasic.eq_def]
    split <;> simp_all

theorem scanBasic_escapedChars (cs rest : List Char) (run : Nat) :
    scanBasic (escapedChars false run cs ++ '"' :: rest) = some (cs, rest) := by
  induction cs generalizing run with
  | nil => simp [escapedChars, scanBasic]
  | cons c cs ih =>
    by_cases quote : c = '"'
    · subst quote
      simp [escapedChars, scanBasic_short (d := '"') (c := '"') rfl, ih, prepend?]
    · rw [escapedChars, if_neg quote, List.append_assoc,
        scanBasic_escapes (escapedChar_escapes false c) quote, ih]
      rfl

theorem scanLiteral_append {cs : List Char} (rest : List Char)
    (plain : ∀ c ∈ cs, isControl c = false ∧ c ≠ '\'') :
    scanLiteral (cs ++ '\'' :: rest) = some (cs, rest) := by
  induction cs with
  | nil => simp [scanLiteral]
  | cons c cs ih =>
    obtain ⟨⟨control, quote⟩, plain⟩ := List.forall_mem_cons.mp plain
    rw [List.cons_append, scanLiteral.eq_def]
    split
    · next none => cases none
    · next same => simp_all
    · next d tail _ same =>
      obtain ⟨rfl, rfl⟩ := List.cons_eq_cons.mp same
      rw [if_neg (by simp [control]), ih plain]
      rfl

/-! ### Several lines -/

/-- Only where two more double quotes follow, a double quote can belong to the end of the text. -/
theorem scanLongBasic_quote {tail : List Char} (single : ∀ rest, tail ≠ '"' :: '"' :: rest) :
    scanLongBasic false ('"' :: tail) = prepend? (some '"') (scanLongBasic false tail) := by
  rw [scanLongBasic.eq_def]
  split
  case h_10 e after _ _ same =>
    obtain ⟨rfl, rfl⟩ := List.cons_eq_cons.mp same
    simp [isControl]
  all_goals simp_all

theorem scanLongBasic_short {c d : Char} (means : shortEscape? d = some c) (tail : List Char) :
    scanLongBasic false ('\\' :: d :: tail) = prepend? (some c) (scanLongBasic false tail) := by
  obtain ⟨x, u, capital⟩ := letter_of_shortEscape? means
  have inLine : startsLineEnd (skipSpaces (d :: tail)) = false := by
    have solid : isSpace d = false ∧ d ≠ '\n' ∧ d ≠ '\r' := by
      refine ⟨Bool.eq_false_iff.mpr fun space => ?_, ?_, ?_⟩
      · obtain rfl | rfl := eq_of_isSpace space <;> cases means
      · rintro rfl
        cases means
      · rintro rfl
        cases means
    rw [skipSpaces, List.dropWhile_cons_of_neg (by simp [solid.1])]
    unfold startsLineEnd
    split <;> simp_all
  rw [scanLongBasic.eq_def]
  split
  case h_10 e after _ escaped _ same =>
    obtain ⟨rfl, rfl⟩ := List.cons_eq_cons.mp same
    exact absurd rfl (escaped d tail rfl)
  all_goals simp_all

theorem scanLongBasic_escapes {c : Char} {written : List Char} (escapes : Escapes true c written)
    (quote : c ≠ '"') (tail : List Char) :
    scanLongBasic false (written ++ tail) = prepend? (some c) (scanLongBasic false tail) := by
  cases escapes with
  | short means => exact scanLongBasic_short means tail
  | code means => simp [scanLongBasic, means]
  | lineEnd isLong same =>
    subst same
    simp [scanLongBasic]
  | itself plain backslash =>
    rw [List.cons_append, List.nil_append, scanLongBasic.eq_def]
    split
    case h_9 after same =>
      obtain ⟨rfl, -⟩ := List.cons_eq_cons.mp same
      cases plain
    all_goals simp_all

/-- The end of a text on several lines takes up to two quotes before it into the text. -/
theorem scanLongBasic_close {rest : List Char} (ends : ∀ tail, rest ≠ '"' :: tail) :
    scanLongBasic false ('"' :: '"' :: '"' :: rest) = some ([], rest) ∧
    scanLongBasic false ('"' :: '"' :: '"' :: '"' :: rest) = some (['"'], rest) ∧
    scanLongBasic false ('"' :: '"' :: '"' :: '"' :: '"' :: rest) = some (['"', '"'], rest) := by
  refine ⟨?_, ?_, ?_⟩ <;> simp [scanLongBasic, ends]

/-- A character that is not a quote is not written with one in front. -/
theorem escapedChar_head (long : Bool) {c : Char} (quote : c ≠ '"') :
    ∃ d ds, escapedChar long c = d :: ds ∧ d ≠ '"' := by
  have escapes := escapedChar_escapes long c
  generalize escapedChar long c = written at escapes
  cases escapes with
  | short | code => exact ⟨_, _, rfl, by decide⟩
  | lineEnd | itself => exact ⟨_, _, rfl, quote⟩

/-- On one line, after two quotes in a row, or before another character, no quote comes next. -/
theorem escapedChars_head (long : Bool) {d : Char} {run : Nat}
    (coded : long = true → d = '"' → 2 ≤ run) (cs : List Char) :
    ∃ e es, escapedChars long run (d :: cs) = e :: es ∧ e ≠ '"' := by
  by_cases quote : d = '"'
  · have full : ¬(long && decide (run < 2)) = true := by
      rw [Bool.and_eq_true, decide_eq_true_eq]
      exact fun ⟨isLong, few⟩ => Nat.not_lt.mpr (coded isLong quote) few
    exact ⟨'\\', _, by rw [escapedChars, if_pos quote, if_neg full], by decide⟩
  · obtain ⟨e, es, written, other⟩ := escapedChar_head long quote
    exact ⟨e, _, by rw [escapedChars, if_neg quote, written, List.cons_append], other⟩

theorem scanLongBasic_escapedChars (cs : List Char) {rest : List Char}
    (ends : ∀ tail, rest ≠ '"' :: tail) (run : Nat) :
    scanLongBasic false (escapedChars true run cs ++ '"' :: '"' :: '"' :: rest) =
      some (cs, rest) := by
  obtain ⟨bare, one, two⟩ := scanLongBasic_close ends
  induction cs generalizing run with
  | nil => simpa [escapedChars] using bare
  | cons c cs ih =>
    by_cases quote : c = '"'
    · subst quote
      by_cases kept : run < 2
      · rw [escapedChars, if_pos rfl, if_pos (by simp [kept]), List.cons_append]
        -- the quote stands for itself: is it part of the text, or already of its end?
        cases cs with
        | nil => simpa [escapedChars] using one
        | cons d cs =>
          by_cases coded : d = '"' → 2 ≤ run + 1
          · obtain ⟨e, es, written, other⟩ := escapedChars_head true (fun _ => coded) cs
            rw [scanLongBasic_quote (by simp [written, other]), ih]
            rfl
          · obtain ⟨rfl, few⟩ := Classical.not_imp.mp coded
            obtain rfl : run = 0 := by omega
            cases cs with
            | nil => simpa [escapedChars] using two
            | cons e cs =>
              obtain ⟨f, fs, written, other⟩ :=
                escapedChars_head true (d := e) (fun _ _ => Nat.le_refl 2) cs
              rw [scanLongBasic_quote (by simp [escapedChars.eq_2 true 1 '"', written, other]), ih]
              rfl
      · simp [escapedChars, kept, scanLongBasic_short (d := '"') (c := '"') rfl, ih, prepend?]
    · rw [escapedChars, if_neg quote, List.append_assoc,
        scanLongBasic_escapes (escapedChar_escapes true c) quote, ih]
      rfl

/-! ### Single quotes on several lines -/

theorem scanLongLiteral_plain {c : Char} (plain : isControl c = false ∨ c = '\n') {tail : List Char}
    (single : c = '\'' → ∀ rest, tail ≠ '\'' :: '\'' :: rest) :
    scanLongLiteral (c :: tail) = prepend? (some c) (scanLongLiteral tail) := by
  rw [scanLongLiteral.eq_def]
  split
  case h_6 e after _ _ same =>
    obtain ⟨rfl, rfl⟩ := List.cons_eq_cons.mp same
    rcases plain with plain | rfl <;> simp [*]
  case h_5 after same =>
    obtain ⟨rfl, -⟩ := List.cons_eq_cons.mp same
    rcases plain with plain | plain <;> cases plain
  all_goals simp_all

theorem scanLongLiteral_close {rest : List Char} (ends : ∀ tail, rest ≠ '\'' :: tail) :
    scanLongLiteral ('\'' :: '\'' :: '\'' :: rest) = some ([], rest) ∧
    scanLongLiteral ('\'' :: '\'' :: '\'' :: '\'' :: rest) = some (['\''], rest) ∧
    scanLongLiteral ('\'' :: '\'' :: '\'' :: '\'' :: '\'' :: rest) =
      some (['\'', '\''], rest) := by
  refine ⟨?_, ?_, ?_⟩ <;> simp [scanLongLiteral, ends]

theorem le_longestRun (c : Char) (run : Nat) (cs : List Char) : run ≤ longestRun c run cs := by
  induction cs generalizing run with
  | nil => exact Nat.le_refl run
  | cons d cs ih =>
    rw [longestRun]
    split
    · exact Nat.le_trans (Nat.le_succ run) (ih (run + 1))
    · exact Nat.le_max_left run _

theorem scanLongLiteral_append {cs rest : List Char} (ends : ∀ tail, rest ≠ '\'' :: tail)
    (plain : ∀ c ∈ cs, isControl c = false ∨ c = '\n') {run : Nat}
    (short : longestRun '\'' run cs ≤ 2) :
    scanLongLiteral (cs ++ '\'' :: '\'' :: '\'' :: rest) = some (cs, rest) := by
  obtain ⟨bare, one, two⟩ := scanLongLiteral_close ends
  induction cs generalizing run with
  | nil => exact bare
  | cons c cs ih =>
    obtain ⟨first, others⟩ := List.forall_mem_cons.mp plain
    by_cases quote : '\'' = c
    · subst quote
      rw [longestRun, if_pos rfl] at short
      have step (single : ∀ more, cs ++ '\'' :: '\'' :: '\'' :: rest ≠ '\'' :: '\'' :: more) :
          scanLongLiteral ('\'' :: (cs ++ '\'' :: '\'' :: '\'' :: rest)) =
            some ('\'' :: cs, rest) := by
        rw [scanLongLiteral_plain first fun _ => single, ih others short]
        rfl
      -- as for double quotes: is it part of the text, or already of its end?
      cases cs with
      | nil => exact one
      | cons d cs =>
        by_cases again : '\'' = d
        · subst again
          rw [longestRun, if_pos rfl] at short
          cases cs with
          | nil => exact two
          | cons e cs =>
            refine step fun more same => ?_
            simp only [List.cons_append, List.cons.injEq, true_and] at same
            rw [longestRun, if_pos same.1.symm] at short
            have long := le_longestRun '\'' (run + 1 + 1 + 1) cs
            omega
        · refine step fun more same => ?_
          simp only [List.cons_append, List.cons.injEq] at same
          exact again same.1.symm
    · rw [longestRun, if_neg quote] at short
      rw [List.cons_append, scanLongLiteral_plain first fun same => absurd same.symm quote,
        ih others (Nat.le_trans (Nat.le_max_right _ _) short)]
      rfl

/-! ### The form that is chosen -/

variable {cs rest : List Char}

/-- Single quotes are chosen only for a text on one line with neither control characters nor single
quotes in it. -/
theorem plain_of_literal (chosen : quoteStyle cs = .literal) :
    ∀ c ∈ cs, isControl c = false ∧ c ≠ '\'' := by
  simp only [quoteStyle] at chosen
  split_ifs at chosen with _ fits
  obtain ⟨⟨free, quote⟩, line⟩ :
      ((∀ c ∈ cs, isControl c = true → c = '\n') ∧ '\'' ∉ cs) ∧ '\n' ∉ cs := by
    simpa [needsCode] using fits
  refine fun c member => ⟨Bool.eq_false_iff.mpr fun control => ?_, ?_⟩
  · exact line (free c member control ▸ member)
  · rintro rfl
    exact quote member

theorem plain_of_longLiteral (chosen : quoteStyle cs = .longLiteral) :
    (∀ c ∈ cs, isControl c = false ∨ c = '\n') ∧ longestRun '\'' 0 cs ≤ 2 := by
  simp only [quoteStyle] at chosen
  split_ifs at chosen with _ _ _ fits
  obtain ⟨free, short⟩ :
      (∀ c ∈ cs, isControl c = true → c = '\n') ∧ longestRun '\'' 0 cs ≤ 2 := by
    simpa [needsCode] using fits
  refine ⟨fun c member => ?_, short⟩
  cases control : isControl c with
  | false => exact .inl rfl
  | true => exact .inr (free c member control)

/-- The line end that is put in front of several lines is taken away again. -/
theorem dropLineEnd_of_lines (cs written : List Char)
    (solid : '\n' ∉ cs → ∀ c ∈ written.head?, c ≠ '\n' ∧ c ≠ '\r') :
    dropLineEnd ((if cs.contains '\n' then ['\n'] else []) ++ written) = written := by
  by_cases lines : '\n' ∈ cs
  · simp [lines, dropLineEnd]
  · rw [if_neg (by simpa using lines), List.nil_append]
    cases written with
    | nil => rfl
    | cons c written =>
      obtain ⟨feed, back⟩ := solid lines c rfl
      unfold dropLineEnd
      split <;> simp_all

/-- What begins a written text is not a line end, unless the text begins with one. -/
theorem escapedChars_solid (long : Bool) (run : Nat) {tail : List Char} (line : '\n' ∉ cs)
    (solid : ∀ c ∈ tail.head?, c ≠ '\n' ∧ c ≠ '\r') :
    ∀ c ∈ (escapedChars long run cs ++ tail).head?, c ≠ '\n' ∧ c ≠ '\r' := by
  cases cs with
  | nil => simpa [escapedChars] using solid
  | cons d cs =>
    obtain ⟨feed, -⟩ : '\n' ≠ d ∧ '\n' ∉ cs := by simpa using line
    by_cases quote : d = '"'
    · rw [escapedChars, if_pos quote]
      split <;> simp
    · have escapes := escapedChar_escapes long d
      rw [escapedChars, if_neg quote]
      generalize escapedChar long d = written at escapes
      cases escapes with
      | short | code => simp
      | lineEnd _ same => exact absurd same.symm feed
      | itself plain =>
        have back : d ≠ '\r' := by
          rintro rfl
          cases plain
        simp [Ne.symm feed, back]

/-- What begins a text without control characters but line feeds is not a line end, unless it
begins with one. -/
theorem plain_solid {tail : List Char} (plain : ∀ c ∈ cs, isControl c = false ∨ c = '\n')
    (line : '\n' ∉ cs) (solid : ∀ c ∈ tail.head?, c ≠ '\n' ∧ c ≠ '\r') :
    ∀ c ∈ (cs ++ tail).head?, c ≠ '\n' ∧ c ≠ '\r' := by
  cases cs with
  | nil => exact solid
  | cons d cs =>
    rintro c ⟨rfl⟩
    have feed : d ≠ '\n' := fun same => line (same ▸ List.mem_cons_self)
    refine ⟨feed, ?_⟩
    rintro rfl
    exact (plain '\r' List.mem_cons_self).elim (by decide) feed

theorem readQuoted_basic {tail : List Char} (single : ∀ more, tail ≠ '"' :: '"' :: more) :
    readQuoted ('"' :: tail) = scanBasic tail := by
  rw [readQuoted.eq_def]
  split
  case h_3 => rw [readShortQuoted.eq_def]; split <;> simp_all
  all_goals simp_all

theorem readQuoted_literal {tail : List Char} (single : ∀ more, tail ≠ '\'' :: '\'' :: more) :
    readQuoted ('\'' :: tail) = scanLiteral tail := by
  rw [readQuoted.eq_def]
  split
  case h_3 => rw [readShortQuoted.eq_def]; split <;> simp_all
  all_goals simp_all

theorem readQuoted_quotedChars (cs rest : List Char)
    (ends : ∀ c ∈ rest.head?, c ≠ '"' ∧ c ≠ '\'') :
    readQuoted (quotedChars cs ++ rest) = some (cs, rest) := by
  have double (tail : List Char) : rest ≠ '"' :: tail := by
    rintro rfl
    exact (ends _ rfl).1 rfl
  have single (tail : List Char) : rest ≠ '\'' :: tail := by
    rintro rfl
    exact (ends _ rfl).2 rfl
  cases chosen : quoteStyle cs with
  | basic =>
    have apart (more : List Char) :
        escapedChars false 0 cs ++ '"' :: rest ≠ '"' :: '"' :: more := by
      cases cs with
      | nil => simpa [escapedChars] using double more
      | cons c cs =>
        obtain ⟨e, es, written, other⟩ :=
          @escapedChars_head false c 0 nofun cs
        simp [written, other]
    simp only [quotedChars, chosen, List.cons_append, List.nil_append, List.append_assoc,
      readQuoted_basic apart, scanBasic_escapedChars]
  | literal =>
    have plain := plain_of_literal chosen
    have apart (more : List Char) : cs ++ '\'' :: rest ≠ '\'' :: '\'' :: more := by
      cases cs with
      | nil => simpa using single more
      | cons c cs => simp [(plain c List.mem_cons_self).2]
    simp only [quotedChars, chosen, List.cons_append, List.nil_append, List.append_assoc,
      readQuoted_literal apart, scanLiteral_append rest plain]
  | longBasic =>
    have dropped := dropLineEnd_of_lines cs (escapedChars true 0 cs ++ '"' :: '"' :: '"' :: rest)
      fun line => escapedChars_solid true 0 line (by simp)
    simp only [quotedChars, chosen, List.replicate, List.cons_append, List.nil_append,
      List.append_assoc, readQuoted, dropped, scanLongBasic_escapedChars cs double]
  | longLiteral =>
    obtain ⟨plain, short⟩ := plain_of_longLiteral chosen
    have dropped := dropLineEnd_of_lines cs (cs ++ '\'' :: '\'' :: '\'' :: rest)
      fun line => plain_solid plain line (by simp)
    simp only [quotedChars, chosen, List.replicate, List.cons_append, List.nil_append,
      List.append_assoc, readQuoted, dropped, scanLongLiteral_append single plain short]

end ResultCursor.Toml
