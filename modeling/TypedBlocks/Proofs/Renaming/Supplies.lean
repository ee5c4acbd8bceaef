import Mathlib.Logic.Function.Basic
import TypedBlocks.Proofs.Renaming.Canvas
import TypedBlocks.Proofs.Run.Acts

/-!
# Exchanging one supply of ids for another

The ids of one supply cannot always be exchanged for those of another by a `Renaming`: if the second
takes up all texts and the first does not, then nothing is left that the other texts could become.
But the ids of any supply can be exchanged for strokes, with a mark in front of the texts that are
no ids. Two supplies are compared there, with a different mark for each, so that what is the same
after both exchanges corresponds before them (`Renaming.exists_exchange`).
-/

namespace TypedBlocks

/-- A text behind a mark; the empty text stays empty. So texts that are no ids are kept out of the
way of the strokes. -/
def marked (mark : Char) (s : String) : String :=
  if s = "" then "" else String.ofList (mark :: s.toList)

theorem marked_empty (mark : Char) : marked mark "" = "" := if_pos rfl

theorem toList_marked {s : String} (hs : s ≠ "") (mark : Char) :
    (marked mark s).toList = mark :: s.toList := by
  rw [marked, if_neg hs, String.toList_ofList]

/-- A marked text is read in one way, unless it is empty. -/
theorem eq_of_marked {a b : Char} {s t : String} (h : marked a s = marked b t) :
    s = t ∧ (s ≠ "" → a = b) := by
  have hlist := congrArg String.toList h
  by_cases hs : s = "" <;> by_cases ht : t = ""
  · exact ⟨hs.trans ht.symm, fun hne => absurd hs hne⟩
  · rw [hs, marked_empty, toList_marked ht] at hlist
    cases hlist
  · rw [ht, marked_empty, toList_marked hs] at hlist
    cases hlist
  · rw [toList_marked hs, toList_marked ht, List.cons.injEq, String.toList_inj] at hlist
    exact ⟨hlist.2, fun _ => hlist.1⟩

theorem strokes_ne_marked {mark : Char} (hmark : mark ≠ '|') (n : Nat) (s : String) :
    strokes n ≠ marked mark s := by
  by_cases hs : s = ""
  · rw [hs, marked_empty]
    exact strokes_ne_empty n
  · intro h
    have hlist := congrArg String.toList h
    rw [toList_marked hs, strokes, String.toList_ofList, List.replicate_succ,
      List.cons.injEq] at hlist
    exact hmark hlist.1.symm

namespace Renaming

variable {ids ids' : IdSupply} {a b : Char}

/-- What a text becomes when the ids of a supply are exchanged for strokes: an id the strokes of its
number, and any other text itself behind a mark. -/
noncomputable def stroke (ids : IdSupply) (mark : Char) : String → String :=
  Function.extend ids strokes (marked mark)

theorem stroke_id (hids : Function.Injective ids) (mark : Char) (n : Nat) :
    stroke ids mark (ids n) = strokes n := hids.extend_apply ..

theorem stroke_other {s : String} (h : ∀ n, ids n ≠ s) (mark : Char) :
    stroke ids mark s = marked mark s :=
  Function.extend_apply' _ _ _ fun ⟨n, hn⟩ => h n hn

/-- **Texts that are exchanged for the same** are the ids of two supplies at the same place, or one
text that is no id of either. -/
theorem eq_of_stroke (hids : Function.Injective ids) (hids' : Function.Injective ids')
    (ha : a ≠ '|') (hb : b ≠ '|') {s t : String} (h : stroke ids a s = stroke ids' b t) :
    (∃ n, s = ids n ∧ t = ids' n) ∨
      (∀ n, ids n ≠ s) ∧ (∀ n, ids' n ≠ t) ∧ s = t ∧ (s ≠ "" → a = b) := by
  by_cases hs : ∃ n, ids n = s <;> by_cases ht : ∃ n, ids' n = t
  · obtain ⟨m, rfl⟩ := hs
    obtain ⟨n, rfl⟩ := ht
    rw [stroke_id hids, stroke_id hids'] at h
    exact .inl ⟨n, by rw [strokes_injective h], rfl⟩
  · obtain ⟨m, rfl⟩ := hs
    rw [stroke_id hids, stroke_other (not_exists.mp ht)] at h
    exact absurd h (strokes_ne_marked hb m t)
  · obtain ⟨n, rfl⟩ := ht
    rw [stroke_id hids', stroke_other (not_exists.mp hs)] at h
    exact absurd h.symm (strokes_ne_marked ha n s)
  · rw [stroke_other (not_exists.mp hs), stroke_other (not_exists.mp ht)] at h
    exact .inr ⟨not_exists.mp hs, not_exists.mp ht, eq_of_marked h⟩

/-- Exchanges the ids of a supply for strokes. -/
noncomputable def toStrokes (hids : Function.Injective ids) (hne : ∀ n, ids n ≠ "")
    (mark : Char) (hmark : mark ≠ '|') : Renaming where
  map := stroke ids mark
  injective := fun s t h => by
    rcases eq_of_stroke hids hids hmark hmark h with ⟨n, hs, ht⟩ | ⟨-, -, hst, -⟩
    · exact hs.trans ht.symm
    · exact hst
  map_empty := by rw [stroke_other hne, marked_empty]

theorem supply_toStrokes (hids : Function.Injective ids) (hne : ∀ n, ids n ≠ "")
    (mark : Char) (hmark : mark ≠ '|') : (toStrokes hids hne mark hmark).supply ids = strokes :=
  funext fun n => stroke_id hids mark n

/-- **Going on from the strokes.** If the ids of one supply are to be those of another, then what
was exchanged for strokes with different marks can be exchanged once more: the texts of the second
side come back as they were, and those of the first come out as they are to be. -/
theorem exists_exchange (hids : Function.Injective ids) (hids' : Function.Injective ids')
    (hne : ∀ n, ids n ≠ "") (hne' : ∀ n, ids' n ≠ "") (ha : a ≠ '|') (hb : b ≠ '|') (hab : a ≠ b)
    {ρ : String → String} (hρ : ∀ n, ρ (ids n) = ids' n) (hempty : ρ "" = "") :
    ∃ σ : String → String, σ ∘ stroke ids' b = id ∧ σ ∘ stroke ids a = ρ := by
  have hstroke := (toStrokes hids hne a ha).injective
  have hstroke' := (toStrokes hids' hne' b hb).injective
  refine ⟨Function.extend (stroke ids' b) id (Function.extend (stroke ids a) ρ id), ?_, ?_⟩
  · funext t
    exact hstroke'.extend_apply ..
  · funext s
    by_cases h : ∃ t, stroke ids' b t = stroke ids a s
    · obtain ⟨t, ht⟩ := h
      -- the two sides meet in strokes and in the empty text, and nowhere else
      have hts : t = ρ s := by
        rcases eq_of_stroke hids hids' ha hb ht.symm with ⟨n, rfl, rfl⟩ | ⟨-, -, rfl, hmark⟩
        · exact (hρ n).symm
        · rw [of_not_not fun hs => hab (hmark hs), hempty]
      rw [Function.comp_apply, ← ht]
      exact (hstroke'.extend_apply ..).trans hts
    · rw [Function.comp_apply, Function.extend_apply' _ _ _ h]
      exact hstroke.extend_apply ..

end Renaming

end TypedBlocks
