import TypedBlocks.Proofs.Json.Tokens

/-!
# Texts that are written and read

**A value that can be written is read back** (`parse?_render`): its tokens are cut out of the text
again, each where the next begins, and the machine that reads them gathers each container as it was.
A value can be written if its numerals are strict and the halves in its strings are halves
(`Writable`); strings are not asked for anything else.
-/

namespace TypedBlocks.Json

open Token (Ends cut?)

/-- Can a value be written? -/
inductive Writable : Json → Prop
  | null : Writable .null
  | bool (b : Bool) : Writable (.bool b)
  | number {n : Numeral} (h : n.isStrict = true) : Writable (.number n)
  | string {glyphs : List Glyph} (h : ∀ g ∈ glyphs, g.Writable) : Writable (.string glyphs)
  | array {items : List Json} (h : ∀ item ∈ items, Writable item) : Writable (.array items)
  | object {members : List (List Glyph × Json)} (hkeys : ∀ m ∈ members, ∀ g ∈ m.1, g.Writable)
      (hvalues : ∀ m ∈ members, Writable m.2) : Writable (.object members)

/-! ## Tokens out of the text -/

/-- Are these tokens cut out of the text that they are written in? That is, with whatever follows
that does not run on into the last of them. -/
def Cuts (tokens : List Token) : Prop :=
  ∀ rest, Ends rest →
    cut? .between (tokens.flatMap Token.chars ++ rest) = (cut? .between rest).map (tokens ++ ·)

/-- Does the text of these tokens tell where a word before them ends? Punctuation does, and so does
the end. -/
def Stops (tokens : List Token) : Prop := ∀ rest, Ends (tokens.flatMap Token.chars ++ rest)

theorem Cuts.one {token : Token} (ht : token.Writable) : Cuts [token] := by
  intro rest hrest
  rw [List.flatMap_singleton, Token.cut?_chars ht fun _ => hrest]
  rfl

/-- What is no word ends by itself. -/
theorem Cuts.cons {token : Token} {tokens : List Token} (ht : token.Writable)
    (hword : token.isWord = false) (h : Cuts tokens) : Cuts (token :: tokens) := by
  intro rest hrest
  rw [List.flatMap_cons, List.append_assoc, Token.cut?_chars ht (by simp [hword]), h rest hrest,
    Option.map_map]
  rfl

theorem Cuts.append {front back : List Token} (hfront : Cuts front) (hback : Cuts back)
    (hstops : Stops back) : Cuts (front ++ back) := by
  intro rest hrest
  rw [List.flatMap_append, List.append_assoc, hfront _ (hstops rest), hback rest hrest,
    Option.map_map]
  congr 1
  funext tokens
  exact (List.append_assoc front back tokens).symm

theorem stops_moreItems (items : List Json) : Stops (moreItems items) := by
  intro rest c tail h
  cases items <;> cases h <;> decide

theorem stops_moreMembers (members : List (List Glyph × Json)) : Stops (moreMembers members) := by
  intro rest c tail h
  cases members <;> cases h <;> decide

theorem cuts_moreItems {items : List Json} (h : ∀ item ∈ items, Cuts item.tokens) :
    Cuts (moreItems items) := by
  induction items with
  | nil => exact .one trivial
  | cons item items ih =>
    rw [List.forall_mem_cons] at h
    rw [moreItems]
    exact .cons trivial rfl (h.1.append (ih h.2) (stops_moreItems items))

theorem cuts_moreMembers {members : List (List Glyph × Json)}
    (hkeys : ∀ m ∈ members, ∀ g ∈ m.1, g.Writable)
    (hvalues : ∀ m ∈ members, Cuts m.2.tokens) : Cuts (moreMembers members) := by
  induction members with
  | nil => exact .one trivial
  | cons m members ih =>
    rw [List.forall_mem_cons] at hkeys hvalues
    have hmore := hvalues.1.append (ih hkeys.2 hvalues.2) (stops_moreMembers members)
    exact .cons trivial rfl (.cons hkeys.1 rfl (.cons trivial rfl hmore))

/-- **The tokens of a value are cut out of its text.** -/
theorem Writable.cuts {json : Json} (h : json.Writable) : Cuts json.tokens := by
  induction h with
  | null => exact .one trivial
  | bool b => exact .one trivial
  | number hn => exact .one hn
  | string hglyphs => exact .one hglyphs
  | @array items _ ih =>
    cases items with
    | nil => exact .cons trivial rfl (.one trivial)
    | cons item items =>
      rw [List.forall_mem_cons] at ih
      rw [tokens]
      exact .cons trivial rfl (ih.1.append (cuts_moreItems ih.2) (stops_moreItems items))
  | @object members hkeys _ ih =>
    cases members with
    | nil => exact .cons trivial rfl (.one trivial)
    | cons m members =>
      rw [List.forall_mem_cons] at hkeys ih
      have hmore := ih.1.append (cuts_moreMembers hkeys.2 ih.2) (stops_moreMembers members)
      exact .cons trivial rfl (.cons hkeys.1 rfl (.cons trivial rfl hmore))

/-! ## Values out of the tokens -/

/-- The first item of an array begins as any value does. -/
theorem run?_firstItem (json : Json) (stack : List Frame) (rest : List Token) :
    Stage.run? (.wantItem stack) (json.tokens ++ rest) =
      Stage.run? (.wantValue (.array [] :: stack)) (json.tokens ++ rest) := by
  cases json with
  | array items => cases items <;> rfl
  | object members => cases members <;> rfl
  | _ => rfl

mutual

/-- **The tokens of a value are read as the value**, whatever containers are open around it. -/
theorem run?_tokens (json : Json) (stack : List Frame) (rest : List Token) :
    Stage.run? (.wantValue stack) (json.tokens ++ rest) =
      Stage.run? (.complete json stack) rest := by
  match json with
  | .null | .bool _ | .number _ | .string _ | .array [] | .object [] => rfl
  | .array (item :: items) =>
    calc Stage.run? (.wantValue stack) ((Json.array (item :: items)).tokens ++ rest)
      _ = Stage.run? (.wantItem stack) (item.tokens ++ (moreItems items ++ rest)) := by
        rw [tokens, List.append_assoc]
        rfl
      _ = Stage.run? (.complete item (.array [] :: stack)) (moreItems items ++ rest) := by
        rw [run?_firstItem, run?_tokens item]
      _ = Stage.run? (.complete (.array (item :: items)) stack) rest := run?_moreItems items ..
  | .object ((key, value) :: members) =>
    calc Stage.run? (.wantValue stack) ((Json.object ((key, value) :: members)).tokens ++ rest)
      _ = Stage.run? (.wantValue (.object [] key :: stack))
          (value.tokens ++ (moreMembers members ++ rest)) := by
        rw [tokens, List.append_assoc, List.append_assoc]
        rfl
      _ = Stage.run? (.complete value (.object [] key :: stack)) (moreMembers members ++ rest) :=
        run?_tokens value ..
      _ = Stage.run? (.complete (.object ((key, value) :: members)) stack) rest :=
        run?_moreMembers members ..

/-- An array goes on with the items that are written behind the ones seen. -/
theorem run?_moreItems (items : List Json) (seen : List Json) (item : Json) (stack : List Frame)
    (rest : List Token) :
    Stage.run? (.complete item (.array seen :: stack)) (moreItems items ++ rest) =
      Stage.run? (.complete (.array ((item :: seen).reverse ++ items)) stack) rest := by
  match items with
  | [] => rw [List.append_nil]; rfl
  | next :: items =>
    calc Stage.run? (.complete item (.array seen :: stack)) (moreItems (next :: items) ++ rest)
      _ = Stage.run? (.wantValue (.array (item :: seen) :: stack))
          (next.tokens ++ (moreItems items ++ rest)) := by
        rw [moreItems, List.append_assoc]
        rfl
      _ = Stage.run? (.complete next (.array (item :: seen) :: stack)) (moreItems items ++ rest) :=
        run?_tokens next ..
      _ = _ := by rw [run?_moreItems items, List.reverse_cons (a := next), List.append_assoc]; rfl

/-- An object goes on with the members that are written behind the ones seen. -/
theorem run?_moreMembers (members seen : List (List Glyph × Json)) (key : List Glyph)
    (value : Json) (stack : List Frame) (rest : List Token) :
    Stage.run? (.complete value (.object seen key :: stack)) (moreMembers members ++ rest) =
      Stage.run? (.complete (.object (((key, value) :: seen).reverse ++ members)) stack) rest := by
  match members with
  | [] => rw [List.append_nil]; rfl
  | (next, after) :: members =>
    calc Stage.run? (.complete value (.object seen key :: stack))
          (moreMembers ((next, after) :: members) ++ rest)
      _ = Stage.run? (.wantValue (.object ((key, value) :: seen) next :: stack))
          (after.tokens ++ (moreMembers members ++ rest)) := by
        rw [moreMembers, List.append_assoc, List.append_assoc]
        rfl
      _ = Stage.run? (.complete after (.object ((key, value) :: seen) next :: stack))
          (moreMembers members ++ rest) := run?_tokens after ..
      _ = _ := by
        rw [run?_moreMembers members, List.reverse_cons (a := (next, after)), List.append_assoc]
        rfl

end

/-- **A value is read back from its text**, if it can be written at all: the texts of its numbers
keep to the strict rule, and its halves have the codes of halves. -/
theorem parse?_render {json : Json} (h : json.Writable) : parse? json.render = some json := by
  have hcut : Token.ofChars? json.render.toList = some json.tokens := by
    have hall := h.cuts [] Token.ends_nil
    rw [List.append_nil] at hall
    rw [Token.ofChars?, render, String.toList_ofList, hall]
    simp [cut?]
  have hrun := run?_tokens json [] []
  rw [List.append_nil] at hrun
  simp only [parse?, hcut, hrun, Stage.run?]

end TypedBlocks.Json
