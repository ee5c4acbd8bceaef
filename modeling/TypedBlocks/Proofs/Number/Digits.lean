import Mathlib.Data.Nat.Digits.Defs
import TypedBlocks.Number.Scaled

/-!
# Numerals that are written and read

A numeral under the strict rule is read back from its characters (`ofChars?_chars`). Each of its
parts ends where the next begins, because no part but the digits can begin with a digit. The digits
of a natural number stand for that number (`appendDigits_digitsOf`), have no leading zero
(`isStrict_ofNat`), and are all kept if they fit into a word (`keepWhole_eq`).
-/

namespace TypedBlocks.Numeral

/-! ## Digits of natural numbers -/

theorem digit?_digitChar (d : Digit) : digit? (digitChar d) = some d := by
  revert d
  decide

theorem digitsOf_of_lt {n : Nat} (h : n < 10) : digitsOf n = [⟨n, h⟩] := by
  rw [digitsOf, Nat.toDigits_of_lt_base h, List.filterMap_cons, List.filterMap_nil]
  rw [show n.digitChar = digitChar ⟨n, h⟩ from rfl, digit?_digitChar]

/-- The digits of a number of more than one digit are those of its tenth part and one more. -/
theorem digitsOf_of_le {n : Nat} (h : 10 ≤ n) :
    digitsOf n = digitsOf (n / 10) ++ [⟨n % 10, Nat.mod_lt n (by omega)⟩] := by
  rw [digitsOf, Nat.toDigits_of_base_le (by omega) h, List.filterMap_append, ← digitsOf,
    List.filterMap_cons, List.filterMap_nil]
  rw [show (n % 10).digitChar = digitChar ⟨n % 10, Nat.mod_lt n (by omega)⟩ from rfl,
    digit?_digitChar]

/-- The digits of a number stand for it. -/
theorem appendDigits_digitsOf (n : Nat) : appendDigits 0 (digitsOf n) = n := by
  induction n using Nat.strong_induction_on with
  | _ n ih =>
    by_cases h : n < 10
    · simp [digitsOf_of_lt h, appendDigits]
    · have hrest := ih (n / 10) (by omega)
      rw [appendDigits] at hrest
      rw [digitsOf_of_le (by omega), appendDigits, List.foldl_append, hrest]
      exact Nat.div_add_mod n 10

/-- The first digit of a number is not zero, unless the number is. -/
theorem digitsOf_pos {n : Nat} (h : 0 < n) :
    ∃ d more, digitsOf n = d :: more ∧ d.val ≠ 0 := by
  induction n using Nat.strong_induction_on with
  | _ n ih =>
    by_cases hlt : n < 10
    · exact ⟨⟨n, hlt⟩, [], digitsOf_of_lt hlt, Nat.ne_of_gt h⟩
    · obtain ⟨d, more, hrest, hd⟩ := ih (n / 10) (by omega) (by omega)
      exact ⟨d, more ++ [_], by rw [digitsOf_of_le (by omega), hrest, List.cons_append], hd⟩

/-- Every number has a digit, also zero. -/
theorem digitsOf_ne_nil (n : Nat) : digitsOf n ≠ [] := by
  rcases Nat.eq_zero_or_pos n with rfl | h
  · decide
  · obtain ⟨d, more, hrest, -⟩ := digitsOf_pos h
    rw [hrest]
    exact List.cons_ne_nil d more

/-- A natural number is written under the strict rule. -/
theorem isStrict_ofNat (n : Nat) : (ofNat n).isStrict = true := by
  rcases Nat.eq_zero_or_pos n with rfl | h
  · decide
  · obtain ⟨d, more, hrest, hd⟩ := digitsOf_pos h
    simp [isStrict, ofNat, hrest, hd]

/-- A number is read back from the numeral that it is written as. -/
theorem nat?_ofNat (n : Nat) : (ofNat n).nat? = some n := by
  simp only [nat?, ofNat, appendDigits_digitsOf]

/-! ## Cutting what was written -/

/-- Digits end where something else begins. -/
theorem takeDigits_append (digits : List Digit) {rest : List Char}
    (h : takeDigits rest = ([], rest)) :
    takeDigits (digits.map digitChar ++ rest) = (digits, rest) := by
  induction digits with
  | nil => exact h
  | cons d digits ih => simp [takeDigits, digit?_digitChar, ih]

theorem digitChar_ne_sign : ∀ d : Digit, digitChar d ≠ '+' ∧ digitChar d ≠ '-' := by decide

/-- A digit is no sign. -/
theorem takeSign_digits {digits : List Digit} (h : digits ≠ []) (rest : List Char) :
    takeSign (digits.map digitChar ++ rest) = (.absent, digits.map digitChar ++ rest) := by
  obtain ⟨d, digits, rfl⟩ := List.exists_cons_of_ne_nil h
  obtain ⟨hplus, hminus⟩ := digitChar_ne_sign d
  simp only [List.map_cons, List.cons_append]
  rw [takeSign]
  · intro tail he
    exact hplus (List.cons.inj he).1
  · intro tail he
    exact hminus (List.cons.inj he).1

/-- The exponent as it is written. -/
def exponentChars : Option Int → List Char
  | none => []
  | some e => 'e' :: ((if e < 0 then ['-'] else []) ++ (digitsOf e.natAbs).map digitChar)

/-- No digit comes before an exponent: its sign or its letter stops the reader. -/
theorem takeDigits_exponentChars (exponent : Option Int) :
    takeDigits (exponentChars exponent) = ([], exponentChars exponent) := by
  cases exponent with
  | none => rfl
  | some e => simp [exponentChars, takeDigits, show digit? 'e' = none by decide]

/-- An exponent is read back from the characters that it is written as, and so is its absence. -/
theorem exponent?_exponentChars (exponent : Option Int) :
    exponent? (exponentChars exponent) = some exponent := by
  cases exponent with
  | none => rfl
  | some e =>
    have hdigits : takeDigits ((digitsOf e.natAbs).map digitChar) = (digitsOf e.natAbs, []) := by
      simpa using takeDigits_append (digitsOf e.natAbs) (show takeDigits [] = ([], []) from rfl)
    obtain ⟨d, more, hmore⟩ := List.exists_cons_of_ne_nil (digitsOf_ne_nil e.natAbs)
    have hvalue := appendDigits_digitsOf e.natAbs
    simp only [exponentChars, exponent?, true_or, if_true]
    by_cases hneg : e < 0
    · simp only [hneg, if_true, List.cons_append, List.nil_append, takeSign, hdigits]
      rw [hmore] at hvalue
      simp only [hmore, hvalue, signed, Option.some.injEq]
      omega
    · have hsign := takeSign_digits (digitsOf_ne_nil e.natAbs) []
      rw [List.append_nil] at hsign
      simp only [hneg, if_false, List.nil_append, hsign, hdigits]
      rw [hmore] at hvalue
      simp only [hmore, hvalue, signed, Option.some.injEq]
      omega

/-- The fraction as it is written. -/
def fractionChars : Option (List Digit) → List Char
  | none => []
  | some digits => '.' :: digits.map digitChar

theorem chars_eq (n : Numeral) :
    n.chars = (match n.sign with
      | .absent => []
      | .plus => ['+']
      | .minus => ['-']) ++ (n.whole.map digitChar ++
        (fractionChars n.fraction ++ exponentChars n.exponent)) := by
  rw [chars, List.append_assoc, List.append_assoc]
  rfl

/-- **A numeral under the strict rule is read back.** -/
theorem ofChars?_chars {n : Numeral} (h : n.isStrict = true) : ofChars? n.chars = some n := by
  obtain ⟨sign, whole, fraction, exponent⟩ := n
  have hwhole : whole ≠ [] := by
    rintro rfl
    simp [isStrict] at h
  have htake : ∀ rest, takeDigits rest = ([], rest) →
      takeDigits (whole.map digitChar ++ rest) = (whole, rest) := fun _ => takeDigits_append whole
  have hbody : takeDigits (fractionChars fraction ++ exponentChars exponent) =
      ([], fractionChars fraction ++ exponentChars exponent) := by
    cases fraction with
    | none => exact takeDigits_exponentChars exponent
    | some digits => simp [fractionChars, takeDigits, show digit? '.' = none by decide]
  have hsign : takeSign (Numeral.chars ⟨sign, whole, fraction, exponent⟩) =
      (sign, whole.map digitChar ++ (fractionChars fraction ++ exponentChars exponent)) := by
    rw [chars_eq]
    cases sign with
    | absent => exact takeSign_digits hwhole _
    | plus => rfl
    | minus => rfl
  simp only [ofChars?, hsign, htake _ hbody]
  cases fraction with
  | none =>
    cases exponent with
    | none => rfl
    | some e => exact congrArg (Option.map _) (exponent?_exponentChars (some e))
  | some digits =>
    simp only [fractionChars, List.cons_append,
      takeDigits_append digits (takeDigits_exponentChars exponent), exponent?_exponentChars]
    rfl

/-! ## Digits in a word -/

/-- Digits that are appended to a value make it no smaller. -/
theorem le_appendDigits (value : Nat) (digits : List Digit) :
    value ≤ appendDigits value digits := by
  induction digits generalizing value with
  | nil => exact Nat.le_refl value
  | cons d digits ih =>
    have hle := ih (10 * value + d.val)
    rw [appendDigits] at hle ⊢
    rw [List.foldl_cons]
    omega

/-- Digits that fit into the word are all kept. -/
theorem keepWhole_eq {word : Nat} {digits : List Digit}
    (h : appendDigits word digits < wordSize) :
    keepWhole word digits = (appendDigits word digits, 0) := by
  induction digits generalizing word with
  | nil => rfl
  | cons d digits ih =>
    have hrest : appendDigits word (d :: digits) = appendDigits (10 * word + d.val) digits := rfl
    rw [hrest] at h ⊢
    rw [keepWhole, if_pos (Nat.lt_of_le_of_lt (le_appendDigits _ digits) h), ih h]

end TypedBlocks.Numeral
