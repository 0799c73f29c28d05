import Phrasebook.Proofs.Selecting
import Mathlib.Algebra.Ring.Int.Defs

/-!
# Undoing replacements

Replacements at spans of a text that lie one after the other can be undone: each gloss is found
where its span started, moved by what the replacements before it have made the text grow, and the
phrase is put back there (`applyAll_undoing`). What was replaced so far and what is still to be
replaced are looked at apart: `done` is the new text up to the end of a span, and its length is that
offset and the growth up to there (`flatten_pieces_undoing`).
-/

namespace Phrasebook

namespace Replacement

/-- By how much a text grows when the gloss is put in place of the phrase. -/
def growth (f : Replacement) : Int :=
  f.gloss.length - f.phrase.length

/-- By how much a text grows by some replacements. -/
def growthOf (rs : List Replacement) : Int :=
  (rs.map growth).sum

/-- The edit that puts the phrase back, where the text has grown by `shift` before it. -/
def undo (shift : Int) (f : Replacement) : Text.Edit :=
  ⟨f.start + shift, f.start + shift + f.gloss.length, f.phrase⟩

/-- The edits that undo some replacements, where the text has grown by `shift` before them. -/
def undoing (rs : List Replacement) (shift : Int := 0) : List Text.Edit :=
  rs.mapIdx fun i f => f.undo (shift + growthOf (rs.take i))

/-- The replacements are at spans of a text, one after the other, and hold what stands there. -/
structure Spans (text : WideText) (rs : List Replacement) : Prop where
  ordered : ∀ f ∈ rs, f.start ≤ f.stop
  inside : ∀ f ∈ rs, f.stop ≤ text.length
  apart : rs.IsChain fun f g => f.stop ≤ g.start
  phrase : ∀ f ∈ rs, f.phrase = (text.drop f.start).take (f.stop - f.start)

@[simp]
theorem growthOf_nil : growthOf [] = 0 := rfl

@[simp]
theorem growthOf_cons (f : Replacement) (rs : List Replacement) :
    growthOf (f :: rs) = f.growth + growthOf rs := by
  rw [growthOf, List.map_cons, List.sum_cons]
  rfl

theorem undoing_cons (f : Replacement) (rs : List Replacement) (shift : Int) :
    undoing (f :: rs) shift = f.undo shift :: undoing rs (shift + f.growth) := by
  simp only [undoing, List.mapIdx_cons, List.take_zero, List.take_succ_cons, growthOf_nil,
    growthOf_cons, Int.add_zero, Int.add_assoc]

section Spans

variable {text : WideText} {f : Replacement} {rs : List Replacement}

theorem Spans.tail (h : Spans text (f :: rs)) : Spans text rs :=
  ⟨(List.forall_mem_cons.1 h.ordered).2, (List.forall_mem_cons.1 h.inside).2, h.apart.tail,
    (List.forall_mem_cons.1 h.phrase).2⟩

theorem Spans.next (h : Spans text (f :: rs)) : ∀ g ∈ rs.head?, f.stop ≤ g.start := by
  rcases rs with _ | ⟨g, rs⟩
  · simp
  · simpa using (List.isChain_cons_cons.1 h.apart).1

theorem Spans.length_phrase (h : Spans text (f :: rs)) :
    (f.phrase.length : Int) = f.stop - f.start := by
  have hordered := h.ordered f List.mem_cons_self
  have hinside := h.inside f List.mem_cons_self
  rw [h.phrase f List.mem_cons_self, List.length_take, List.length_drop]
  omega

/-- What stands behind an offset goes on up to the first span, over it and behind it. -/
theorem Spans.drop_eq (h : Spans text (f :: rs)) {last : Nat} (hlast : last ≤ f.start) :
    text.drop last
      = (text.drop last).take (f.start - last) ++ (f.phrase ++ text.drop f.stop) := by
  have hordered := h.ordered f List.mem_cons_self
  have hstart : (text.drop last).drop (f.start - last) = text.drop f.start := by
    rw [List.drop_drop, Nat.add_sub_cancel' hlast]
  have hstop : (text.drop f.start).drop (f.stop - f.start) = text.drop f.stop := by
    rw [List.drop_drop, Nat.add_sub_cancel' hordered]
  calc text.drop last
      = (text.drop last).take (f.start - last) ++ text.drop f.start := by
        rw [← hstart, List.take_append_drop]
    _ = _ := by
        rw [h.phrase f List.mem_cons_self, ← hstop, List.take_append_drop]

end Spans

/-- The new text from an offset on. -/
def resultFrom (text : WideText) (last : Nat) (rs : List Replacement) : WideText :=
  (Text.Edit.pieces text last (rs.map edit)).flatten

theorem resultFrom_nil (text : WideText) (last : Nat) :
    resultFrom text last [] = text.drop last := by
  rw [resultFrom, List.map_nil, Text.Edit.pieces, Text.slice_natCast]
  simp

theorem resultFrom_cons (text : WideText) (last : Nat) (f : Replacement) (rs : List Replacement) :
    resultFrom text last (f :: rs) = (text.drop last).take (f.start - last)
      ++ (f.gloss ++ resultFrom text f.stop rs) := by
  rw [resultFrom, List.map_cons, Text.Edit.pieces, List.flatten_cons, List.flatten_cons, edit,
    Text.slice_natCast]
  rfl

theorem length_gap {text : WideText} {last start : Nat} (hlast : last ≤ start)
    (hstart : start ≤ text.length) :
    (((text.drop last).take (start - last)).length : Int) = start - last := by
  rw [List.length_take, List.length_drop]
  omega

theorem length_resultFrom (text : WideText) : ∀ (rs : List Replacement) (last : Nat),
    Spans text rs → (∀ f ∈ rs.head?, last ≤ f.start) → last ≤ text.length →
      ((resultFrom text last rs).length : Int) = text.length - last + growthOf rs
  | [], last, _, _, hlast => by
    rw [resultFrom_nil, List.length_drop, growthOf_nil]
    omega
  | f :: rs, last, h, hfirst, hlast => by
    have hstart : last ≤ f.start := hfirst f rfl
    have hordered := h.ordered f List.mem_cons_self
    have hinside := h.inside f List.mem_cons_self
    have hgap := length_gap hstart (hordered.trans hinside)
    have hphrase := h.length_phrase
    have ih := length_resultFrom text rs f.stop h.tail h.next hinside
    rw [resultFrom_cons, List.length_append, List.length_append, growthOf_cons, growth]
    omega

/-- Where the new text is what is done already and the rest of it, undoing the replacements in the
rest gives the rest of the old text. -/
theorem flatten_pieces_undoing (text : WideText) : ∀ (rs : List Replacement) (last : Nat)
    (done : WideText) (shift : Int), Spans text rs → (∀ f ∈ rs.head?, last ≤ f.start) →
      (done.length : Int) = last + shift →
      (Text.Edit.pieces (done ++ resultFrom text last rs) (last + shift)
        (undoing rs shift)).flatten = text.drop last
  | [], last, done, shift, _, _, hdone => by
    rw [resultFrom_nil, undoing, List.mapIdx_nil, Text.Edit.pieces, ← hdone, Text.slice_natCast]
    simp
  | f :: rs, last, done, shift, h, hfirst, hdone => by
    have hstart : last ≤ f.start := hfirst f rfl
    have hinside := h.inside f List.mem_cons_self
    have hgap := length_gap hstart ((h.ordered f List.mem_cons_self).trans hinside)
    have hphrase := h.length_phrase
    set gap := (text.drop last).take (f.start - last) with hgapdef
    have hopen : (f.start : Int) + shift = ((done.length + gap.length : Nat) : Int) := by omega
    have hclose : f.start + shift + f.gloss.length = f.stop + (shift + f.growth) := by
      rw [growth]
      omega
    have ih := flatten_pieces_undoing text rs f.stop (done ++ (gap ++ f.gloss))
      (shift + f.growth) h.tail h.next (by
        simp only [List.length_append]
        omega)
    rw [List.append_assoc, List.append_assoc, ← resultFrom_cons] at ih
    have hslice : Text.slice (done ++ resultFrom text last (f :: rs)) (last + shift)
        (f.start + shift) = gap := by
      rw [← hdone, hopen, Text.slice_natCast, List.drop_left, Nat.add_sub_cancel_left,
        resultFrom_cons, List.take_left]
    rw [undoing_cons, undo, Text.Edit.pieces, hslice, hclose, List.flatten_cons,
      List.flatten_cons, ih, h.drop_eq hstart]

end Replacement

open Replacement

/-- What is found is at spans of the text, one after the other. -/
theorem Replacer.spans_find {r : Replacer} {phrases : List WideText}
    (hr : r.scanner = .ofPhrases phrases) (text : WideText) : Spans text (r.find text) := by
  have h := (selectsFrom_iff hr 0 (r.find text)).2 rfl
  have hspan := fun f hf => span_of_replacementAt (h.found f hf)
  exact
    { ordered := fun f hf => (lt_stop_of_replacementAt (h.found f hf)).le
      inside := fun f hf => (hspan f hf).1
      apart := h.apart.isChain
      phrase := fun f hf => (hspan f hf).2 }

/-- Replacements at spans of a text that lie one after the other make it grow by the sum of what
each of them adds, and putting the phrases back gives the text. What is found in a text is at such
spans. -/
theorem Text.Edit.applyAll_undoing :
    (∀ (text : WideText) (rs : List Replacement), Spans text rs →
        let new := applyAll text (rs.map Replacement.edit)
        (new.length : Int) = text.length
            + (rs.map fun f => (f.gloss.length : Int) - f.phrase.length).sum
          ∧ applyAll new (undoing rs) = text)
      ∧ ∀ (phrases : List WideText) (glosses : WideText → Option WideText) (guard : Guard)
          (text : WideText),
        let r : Replacer := { scanner := .ofPhrases phrases, glosses, guard }
        Spans text (r.find text) ∧ applyAll (r.replace text).1 (undoing (r.find text)) = text := by
  have hundo : ∀ (text : WideText) (rs : List Replacement), Spans text rs →
      applyAll (applyAll text (rs.map Replacement.edit)) (undoing rs) = text := fun text rs h =>
    flatten_pieces_undoing text rs 0 [] 0 h (fun _ _ => Nat.zero_le _) rfl
  refine ⟨fun text rs h => ⟨?_, hundo text rs h⟩, fun phrases glosses guard text => ?_⟩
  · have hlength := length_resultFrom text rs 0 h (fun _ _ => Nat.zero_le _) (Nat.zero_le _)
    exact hlength.trans (congrArg (· + growthOf rs) (Int.sub_zero _))
  · have hspans := Replacer.spans_find (r := { scanner := .ofPhrases phrases, glosses, guard }) rfl
      text
    exact ⟨hspans, hundo text _ hspans⟩

/-- Spans that touch, a gloss that is empty, and a span that is empty at the end of the text. -/
theorem Text.Edit.applyAll_undoing_touching :
    let rs : List Replacement := [⟨0, 2, .ofString "ab", .ofString "x"⟩, ⟨2, 3, .ofString " ", []⟩,
      ⟨5, 5, [], .ofString "yz"⟩]
    Spans (.ofString "ab cd") rs
      ∧ applyAll (.ofString "ab cd") (rs.map Replacement.edit) = .ofString "xcdyz"
      ∧ (undoing rs).map (fun e => (e.start, e.stop)) = [(0, 1), (1, 1), (3, 5)]
      ∧ applyAll (.ofString "xcdyz") (undoing rs) = .ofString "ab cd" := by
  intro rs
  have hspans : Spans (.ofString "ab cd") rs := by
    refine ⟨?_, ?_, ?_, ?_⟩ <;> decide
  have hnew : applyAll (.ofString "ab cd") (rs.map Replacement.edit) = .ofString "xcdyz" := by
    decide
  exact ⟨hspans, hnew, by decide, hnew ▸ (applyAll_undoing.1 _ rs hspans).2⟩

end Phrasebook
