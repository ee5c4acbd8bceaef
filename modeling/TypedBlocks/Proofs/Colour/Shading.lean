import TypedBlocks.Colour

/-!
# Which texts are colours

A colour is a hash and six hexadecimal digits in either case. Shading accepts every colour, whatever
the share, and one form more: a plus sign may stand for the first digit, and is as good as a zero
(`Colour.shade_signed`). What shading yields is always a colour, written in lower case
(`Colour.shade_exact`). No law of floating-point numbers is used, because the last step of a channel
leaves a byte, whatever came before.
-/

namespace TypedBlocks

/-! ## Digits -/

namespace Text

/-- A hexadecimal digit, in either case. -/
def IsHexDigit (c : Char) : Prop :=
  ('0' ≤ c ∧ c ≤ '9') ∨ ('a' ≤ c ∧ c ≤ 'f') ∨ ('A' ≤ c ∧ c ≤ 'F')

/-- A hexadecimal digit in lower case. -/
def IsLowerHexDigit (c : Char) : Prop := ('0' ≤ c ∧ c ≤ '9') ∨ ('a' ≤ c ∧ c ≤ 'f')

instance : DecidablePred IsHexDigit := fun c =>
  inferInstanceAs (Decidable (('0' ≤ c ∧ c ≤ '9') ∨ ('a' ≤ c ∧ c ≤ 'f') ∨ ('A' ≤ c ∧ c ≤ 'F')))

instance : DecidablePred IsLowerHexDigit := fun c =>
  inferInstanceAs (Decidable (('0' ≤ c ∧ c ≤ '9') ∨ ('a' ≤ c ∧ c ≤ 'f')))

/-- The digits are the characters that have a value. -/
theorem hexValue?_isSome_iff (c : Char) : (hexValue? c).isSome ↔ IsHexDigit c := by
  rw [hexValue?, IsHexDigit]
  split
  · simp [*]
  · split
    · simp [*]
    · split <;> simp [*]

/-- A run of characters is read as a number just if all of them are digits. -/
theorem readHex?_isSome_iff (digits : List Char) :
    (readHex? digits).isSome ↔ ∀ c ∈ digits, IsHexDigit c := by
  suffices h : ∀ value, (readHex?.go value digits).isSome ↔ ∀ c ∈ digits, IsHexDigit c from h 0
  induction digits with
  | nil => simp [readHex?.go]
  | cons c rest ih =>
    intro value
    rw [readHex?.go, List.forall_mem_cons, ← hexValue?_isSome_iff]
    cases hexValue? c with
    | none => simp
    | some digit => simp [ih]

theorem isLowerHexDigit_hexDigit {n : Nat} (h : n < 16) : IsLowerHexDigit (hexDigit n) := by
  have hall : ∀ n : Fin 16, IsLowerHexDigit (hexDigit n.val) := by decide
  exact hall ⟨n, h⟩

@[simp] theorem length_hexFixed (width n : Nat) : (hexFixed width n).length = width := by
  induction width generalizing n with
  | zero => rfl
  | succ width ih => simp [hexFixed, ih]

/-- Digits are written in lower case. -/
theorem isLowerHexDigit_of_mem_hexFixed {width n : Nat} {c : Char} (h : c ∈ hexFixed width n) :
    IsLowerHexDigit c := by
  induction width generalizing n with
  | zero => cases h
  | succ width ih =>
    rcases List.mem_append.mp h with h | h
    · exact ih h
    · rw [List.mem_singleton.mp h]
      exact isLowerHexDigit_hexDigit (Nat.mod_lt _ (by decide))

end Text

/-! ## Colours -/

namespace Colour

/-- A hash and six characters of a kind. -/
def IsSix (kind : Char → Prop) (colour : String) : Prop :=
  ∃ digits : List Char, colour.toList = '#' :: digits ∧ digits.length = 6 ∧ ∀ c ∈ digits, kind c

/-- A hash, a plus sign, and five hexadecimal digits. -/
def IsSigned (colour : String) : Prop :=
  ∃ digits : List Char, colour.toList = '#' :: '+' :: digits ∧ digits.length = 5 ∧
    ∀ c ∈ digits, Text.IsHexDigit c

/-- What is read as a number: six characters, which have to be digits; a plus sign in front is not
looked at. -/
theorem number?_eq (chars : List Char) :
    number? chars =
      if chars.length = 6 then
        Text.readHex? (if chars.head? = some '+' then chars.tail else chars)
      else none := by
  unfold number?
  split
  · rfl
  · rename_i a b c d e f hplus
    have hhead : [a, b, c, d, e, f].head? ≠ some '+' := fun h => hplus (Option.some.inj h)
    rw [if_pos (by rfl), if_neg hhead]
  · rename_i hsix
    refine (if_neg fun hlength => ?_).symm
    match chars, hlength with
    | [a, b, c, d, e, f], _ => exact hsix a b c d e f rfl

/-- **What is read as a number**: six digits, or a plus sign and five. -/
theorem number?_isSome_iff (chars : List Char) :
    (number? chars).isSome ↔
      (chars.length = 6 ∧ ∀ c ∈ chars, Text.IsHexDigit c) ∨
      ∃ digits, chars = '+' :: digits ∧ digits.length = 5 ∧ ∀ c ∈ digits, Text.IsHexDigit c := by
  rw [number?_eq]
  by_cases hlength : chars.length = 6
  · rw [if_pos hlength, Text.readHex?_isSome_iff]
    by_cases hplus : chars.head? = some '+'
    · obtain ⟨digits, rfl⟩ := List.head?_eq_some_iff.mp hplus
      rw [if_pos hplus]
      constructor
      · exact fun h => .inr ⟨digits, rfl, Nat.succ.inj hlength, h⟩
      · rintro (⟨-, h⟩ | ⟨_, hdigits, -, h⟩)
        · exact fun c hc => h c (List.mem_cons_of_mem _ hc)
        · obtain rfl := (List.cons.inj hdigits).2
          exact h
    · rw [if_neg hplus]
      constructor
      · exact fun h => .inl ⟨hlength, h⟩
      · rintro (⟨-, h⟩ | ⟨digits, rfl, -, -⟩)
        · exact h
        · exact absurd rfl hplus
  · rw [if_neg hlength]
    constructor
    · exact nofun
    · rintro (⟨h, -⟩ | ⟨digits, rfl, h, -⟩)
      · exact absurd h hlength
      · exact absurd (congrArg Nat.succ h) hlength

/-! ## Shading -/

/-- A colour is shaded if there is a hash in front of what is read as a number. -/
theorem shade_isSome_iff (colour : String) (share : Float) :
    (shade colour share).isSome ↔
      ∃ digits, colour.toList = '#' :: digits ∧ (number? digits).isSome := by
  unfold shade
  split
  · rename_i digits hhash
    rw [hhash]
    cases hnumber : number? digits with
    | none => simp [hnumber]
    | some number => simp [hnumber]
  · rename_i hhash
    exact ⟨nofun, fun ⟨digits, h, _⟩ => absurd h (hhash digits)⟩

/-- **What shading yields is a colour in lower case**: two digits for each of the three channels,
whatever the share. -/
theorem isSix_of_shade {colour result : String} {share : Float}
    (h : shade colour share = some result) : IsSix Text.IsLowerHexDigit result := by
  unfold shade at h
  split at h
  · split at h
    · cases h
      refine ⟨_, String.toList_ofList, by simp, fun c hc => ?_⟩
      obtain ⟨channel, -, hc⟩ := List.mem_flatMap.mp hc
      exact Text.isLowerHexDigit_of_mem_hexFixed hc
    · cases h
  · cases h

/-- A plus sign in the place of the first digit is as good as a zero. -/
theorem shade_signed {signed plain : String} {digits : List Char} (share : Float)
    (hsigned : signed.toList = '#' :: '+' :: digits)
    (hplain : plain.toList = '#' :: '0' :: digits) :
    shade signed share = shade plain share := by
  have hnumber : number? ('+' :: digits) = number? ('0' :: digits) := by
    rw [number?_eq, number?_eq]
    rfl
  unfold shade
  rw [hsigned, hplain]
  simp only [hnumber]

/-- **What shading accepts and what it yields.** Whatever the share, a text is shaded just if it is
a hash and six hexadecimal digits, or has a plus sign in the place of the first of them, which then
counts as a zero; and every result is a hash and six hexadecimal digits in lower case. -/
theorem shade_exact (colour : String) (share : Float) :
    ((shade colour share).isSome ↔ IsSix Text.IsHexDigit colour ∨ IsSigned colour) ∧
    (∀ digits, colour.toList = '#' :: '+' :: digits →
      shade colour share = shade (String.ofList ('#' :: '0' :: digits)) share) ∧
    ∀ result, shade colour share = some result → IsSix Text.IsLowerHexDigit result := by
  refine ⟨?_, fun digits h => shade_signed share h String.toList_ofList, fun _ => isSix_of_shade⟩
  rw [shade_isSome_iff]
  simp only [number?_isSome_iff]
  constructor
  · rintro ⟨chars, hhash, ⟨hlength, hdigits⟩ | ⟨digits, rfl, hlength, hdigits⟩⟩
    · exact .inl ⟨chars, hhash, hlength, hdigits⟩
    · exact .inr ⟨digits, hhash, hlength, hdigits⟩
  · rintro (⟨digits, hhash, hlength, hdigits⟩ | ⟨digits, hhash, hlength, hdigits⟩)
    · exact ⟨digits, hhash, .inl ⟨hlength, hdigits⟩⟩
    · exact ⟨'+' :: digits, hhash, .inr ⟨digits, rfl, hlength, hdigits⟩⟩

/-- A text that is no colour is shaded to a colour. -/
theorem shade_exact_plus :
    ¬ IsSix Text.IsHexDigit "#+12345" ∧
      ∀ share, ∃ result, shade "#+12345" share = some result ∧
        shade "#012345" share = some result ∧ IsSix Text.IsLowerHexDigit result := by
  constructor
  · rintro ⟨digits, hhash, -, hdigits⟩
    have hchars : "#+12345".toList = ['#', '+', '1', '2', '3', '4', '5'] := by decide
    rw [hchars, List.cons.injEq] at hhash
    exact absurd (hdigits '+' (hhash.2 ▸ List.mem_cons_self)) (by decide)
  · intro share
    obtain ⟨haccepted, hsigned, hresult⟩ := shade_exact "#+12345" share
    obtain ⟨result, h⟩ := Option.isSome_iff_exists.mp
      (haccepted.mpr (.inr ⟨['1', '2', '3', '4', '5'], by decide, rfl, by simp [Text.IsHexDigit]⟩))
    exact ⟨result, h, (hsigned "12345".toList (by decide)).symm.trans h, hresult result h⟩

end Colour

end TypedBlocks
