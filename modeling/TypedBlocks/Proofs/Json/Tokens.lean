import TypedBlocks.Json.Text
import TypedBlocks.Proofs.Number.Digits

/-!
# Tokens that are written and read

A token that is written is cut out of the text again (`cut?_chars`), whatever follows it, if it is
not a word; a word has to be followed by punctuation or by the end of the text (`Ends`), which tells
where it ends. In strings every character may stand: those that cannot stand for themselves are
written as escapes, and these are read back (`cut?_glyph`).
-/

namespace TypedBlocks

/-- The value of a digit is read back. -/
theorem Text.hexValue?_hexDigit {n : Nat} (h : n < 16) : hexValue? (hexDigit n) = some n := by
  have hall : ∀ n : Fin 16, hexValue? (hexDigit n.val) = some n.val := by decide
  exact hall ⟨n, h⟩

/-- Can a unit be written? A half of a pair has to have the code of one. -/
def Glyph.Writable : Glyph → Prop
  | .char _ => True
  | .half code => (isHigh code || isLow code) = true

namespace Json.Token

/-! ## Strings -/

/-- The digits of an escape but the last make up the number that they write. -/
theorem cut?_hexFixed (width missing value n : Nat) (seen : List Glyph) (rest : List Char) :
    cut? (.code (width + (missing + 1)) value seen) (Text.hexFixed width n ++ rest) =
      cut? (.code (missing + 1) (16 ^ width * value + n % 16 ^ width) seen) rest := by
  -- the digits stand in the order in which they are read, but are made from the last one on
  induction width generalizing missing n rest with
  | zero => simp [Text.hexFixed, Nat.mod_one]
  | succ width ih =>
    have hdigit := Text.hexValue?_hexDigit (Nat.mod_lt n (by omega : 16 > 0))
    rw [Text.hexFixed, List.append_assoc, show width + 1 + (missing + 1) =
      width + (missing + 1 + 1) by omega, ih]
    simp only [List.cons_append, List.nil_append, cut?, hdigit, Option.bind_eq_bind,
      Option.bind_some, show ¬ missing + 1 + 1 ≤ 1 by omega, if_false, Nat.add_sub_cancel]
    congr 2
    rw [Nat.pow_succ', Nat.mod_mul]
    ring

/-- An escape of four digits is read as the unit of its code. -/
theorem cut?_code {n : Nat} (h : n < 16 ^ 4) (seen : List Glyph) (rest : List Char) :
    cut? (.code 4 0 seen) (Text.hexFixed 4 n ++ rest) =
      cut? (.quoted (Glyph.ofCode n :: seen)) rest := by
  have hdigit := Text.hexValue?_hexDigit (Nat.mod_lt n (by omega : 16 > 0))
  have hvalue : 16 * (16 ^ 3 * 0 + n / 16 % 16 ^ 3) + n % 16 = n := by omega
  rw [Text.hexFixed, List.append_assoc, cut?_hexFixed 3 0 0]
  simp only [List.cons_append, List.nil_append, cut?, hdigit, Option.bind_eq_bind,
    Option.bind_some, hvalue, Nat.zero_add, Nat.le_refl, if_true]

/-- **Every unit of a string is read back.** -/
theorem cut?_glyph {g : Glyph} (hg : g.Writable) (seen : List Glyph) (rest : List Char) :
    cut? (.quoted seen) (glyphChars g ++ rest) = cut? (.quoted (g :: seen)) rest := by
  cases g with
  | half code =>
    have hcode : code < 16 ^ 4 := by
      simp only [Glyph.Writable, Glyph.isHigh, Glyph.isLow, Bool.or_eq_true,
        decide_eq_true_eq] at hg
      omega
    have hglyph : Glyph.ofCode code = .half code := if_pos hg
    simp only [glyphChars, List.cons_append, List.nil_append, cut?]
    simp only [show ('\\' = '"') = False by decide, if_false, if_true]
    rw [cut?_code hcode, hglyph]
  | char c =>
    simp only [glyphChars]
    by_cases hletter : c = '"' ∨ c = '\\' ∨ c = '\x08' ∨ c = '\x0c' ∨ c = '\n' ∨ c = '\r' ∨ c = '\t'
    · rcases hletter with rfl | rfl | rfl | rfl | rfl | rfl | rfl <;> simp [cut?, escape?]
    · simp only [not_or] at hletter
      obtain ⟨hquote, hbackslash, hb, hf, hn, hr, ht⟩ := hletter
      simp only [hquote, hbackslash, hb, hf, hn, hr, ht, if_false]
      by_cases hcontrol : c.toNat < 0x20
      · have hglyph : Glyph.ofCode c.toNat = .char c := by
          rw [Glyph.ofCode, if_neg, Char.ofNat_toNat]
          simp only [Glyph.isHigh, Glyph.isLow, Bool.or_eq_true, decide_eq_true_eq]
          omega
        simp only [hcontrol, if_true, List.cons_append, List.nil_append, cut?]
        simp only [show ('\\' = '"') = False by decide, if_false]
        rw [cut?_code (by omega), hglyph]
      · simp [hcontrol, cut?, hquote, hbackslash]

theorem cut?_glyphs {glyphs : List Glyph} (hg : ∀ g ∈ glyphs, g.Writable) (seen : List Glyph)
    (rest : List Char) :
    cut? (.quoted seen) (glyphs.flatMap glyphChars ++ '"' :: rest) =
      (cut? .between rest).map (.string (seen.reverse ++ glyphs) :: ·) := by
  induction glyphs generalizing seen with
  | nil => simp [cut?]
  | cons g glyphs ih =>
    rw [List.forall_mem_cons] at hg
    rw [List.flatMap_cons, List.append_assoc, cut?_glyph hg.1, ih hg.2]
    simp

/-! ## Words -/

/-- The text ends here, or goes on with punctuation. -/
def Ends (rest : List Char) : Prop :=
  ∀ c tail, rest = c :: tail → isBlank c = false ∧ c ≠ '"' ∧ (punctuation? c).isSome

theorem ends_nil : Ends [] := nofun

/-- A character that can only be part of a word. -/
def isPlain (c : Char) : Bool := !isBlank c && c != '"' && (punctuation? c).isNone

/-- A word is read on until it ends. -/
theorem cut?_plain {word : List Char} (hword : ∀ c ∈ word, isPlain c = true) (seen : List Char)
    (rest : List Char) :
    cut? (.word seen) (word ++ rest) = cut? (.word (word.reverse ++ seen)) rest := by
  induction word generalizing seen with
  | nil => rfl
  | cons c word ih =>
    rw [List.forall_mem_cons] at hword
    have hc := hword.1
    simp only [isPlain, Bool.and_eq_true, Bool.not_eq_true', bne_iff_ne, ne_eq,
      Option.isNone_iff_eq_none] at hc
    obtain ⟨⟨hblank, hquote⟩, hpunctuation⟩ := hc
    rw [List.cons_append, cut?]
    simp only [hblank, Bool.false_eq_true, if_false, hquote, hpunctuation]
    rw [ih hword.2, List.reverse_cons, List.append_assoc, List.singleton_append]

/-- **A word is cut out of the text** where it ends. -/
theorem cut?_word {word : List Char} (hne : word ≠ []) (hword : ∀ c ∈ word, isPlain c = true)
    {token : Token} (htoken : ofWord? word = some token) {rest : List Char} (hrest : Ends rest) :
    cut? .between (word ++ rest) = (cut? .between rest).map (token :: ·) := by
  obtain ⟨c, word, rfl⟩ := List.exists_cons_of_ne_nil hne
  rw [List.forall_mem_cons] at hword
  have hc := hword.1
  simp only [isPlain, Bool.and_eq_true, Bool.not_eq_true', bne_iff_ne, ne_eq,
    Option.isNone_iff_eq_none] at hc
  obtain ⟨⟨hblank, hquote⟩, hpunctuation⟩ := hc
  have hread : ofWord? (word.reverse ++ [c]).reverse = some token := by simpa using htoken
  rw [List.cons_append, cut?]
  simp only [hblank, Bool.false_eq_true, if_false, hquote, hpunctuation]
  rw [cut?_plain hword.2]
  cases rest with
  | nil => simp only [cut?, hread, Option.map_some]
  | cons d tail =>
    obtain ⟨hblank', hquote', hsome⟩ := hrest d tail rfl
    obtain ⟨mark, hmark⟩ := Option.isSome_iff_exists.mp hsome
    simp only [cut?, hblank', hquote', hmark, hread, Bool.false_eq_true, if_false,
      Option.bind_eq_bind, Option.bind_some, Option.map_map]
    rfl

theorem isPlain_digitChar : ∀ d : Digit, isPlain (Numeral.digitChar d) = true := by decide

theorem isPlain_chars (n : Numeral) : ∀ c ∈ n.chars, isPlain c = true := by
  have hdigits : ∀ digits : List Digit, ∀ c ∈ digits.map Numeral.digitChar, isPlain c = true := by
    intro digits c hc
    obtain ⟨d, -, rfl⟩ := List.mem_map.mp hc
    exact isPlain_digitChar d
  obtain ⟨sign, whole, fraction, exponent⟩ := n
  intro c hc
  rw [Numeral.chars_eq] at hc
  simp only [List.mem_append] at hc
  rcases hc with hc | hc | hc | hc
  · cases sign <;> simp at hc <;> subst hc <;> decide
  · exact hdigits whole c hc
  · cases fraction with
    | none => cases hc
    | some digits =>
      rcases List.mem_cons.mp hc with rfl | hc
      · decide
      · exact hdigits digits c hc
  · cases exponent with
    | none => cases hc
    | some e =>
      rcases List.mem_cons.mp hc with rfl | hc
      · decide
      rcases List.mem_append.mp hc with hc | hc
      · split at hc
        · rw [List.mem_singleton.mp hc]
          decide
        · cases hc
      · exact hdigits _ c hc

theorem chars_ne_nil {n : Numeral} (h : n.isStrict = true) : n.chars ≠ [] := by
  intro hnil
  have hread := Numeral.ofChars?_chars h
  rw [hnil] at hread
  obtain rfl : Numeral.mk .absent [] none none = n := Option.some.inj hread
  cases h

/-- A numeral under the strict rule is the word that it is written as: no other word begins with a
digit or a sign. -/
theorem ofWord?_chars {n : Numeral} (h : n.isStrict = true) :
    ofWord? n.chars = some (.number n) := by
  have hread := Numeral.ofChars?_chars h
  have hother : ∀ word, Numeral.ofChars? word = none → n.chars ≠ word := by
    rintro word hnone rfl
    rw [hread] at hnone
    cases hnone
  rw [ofWord?, if_neg (hother _ (by decide)), if_neg (hother _ (by decide)),
    if_neg (hother _ (by decide)), hread]
  exact if_pos h

/-! ## All tokens -/

/-- Can a token be written? -/
def Writable : Token → Prop
  | .number n => n.isStrict = true
  | .string glyphs => ∀ g ∈ glyphs, g.Writable
  | _ => True

/-- Is a token a word? -/
def isWord : Token → Bool
  | .null | .bool _ | .number _ => true
  | _ => false

/-- **A token is cut out of the text that it is written in.** -/
theorem cut?_chars {token : Token} (ht : token.Writable) {rest : List Char}
    (hrest : token.isWord = true → Ends rest) :
    cut? .between (token.chars ++ rest) = (cut? .between rest).map (token :: ·) := by
  cases token with
  | null => exact cut?_word (by decide) (List.all_eq_true.mp rfl) (by decide) (hrest rfl)
  | bool b =>
    cases b <;>
      exact cut?_word (by decide) (List.all_eq_true.mp rfl) (by decide) (hrest rfl)
  | number n => exact cut?_word (chars_ne_nil ht) (isPlain_chars n) (ofWord?_chars ht) (hrest rfl)
  | string glyphs =>
    rw [show (Token.string glyphs).chars ++ rest =
      '"' :: (glyphs.flatMap glyphChars ++ '"' :: rest) by simp [chars]]
    simp only [cut?, show isBlank '"' = false by decide, Bool.false_eq_true, if_false, if_true]
    exact cut?_glyphs ht [] rest
  | _ => rfl

end Json.Token

end TypedBlocks
