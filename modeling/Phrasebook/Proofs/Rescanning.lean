import Phrasebook.Proofs.Parts

/-!
# Replacing twice

If every phrase has a gloss that shares no character with any phrase, and no replaced phrase has an
ASCII letter next to it, then there is nothing to be replaced in a text whose phrases have been
replaced (`find_replace_eq_nil`).

A phrase in the new text lies between two glosses, so it stood in the old text too, where it was
not replaced. What kept it from being replaced there was an ASCII letter next to it, or a longer
word with such a letter next to it. Neither the letter nor the word can have been cut off by a
replacement, as the replaced phrase would have had a letter next to it. So they are still there.
-/

namespace Phrasebook

open CodePoint (isAsciiLetter)

/-- Every phrase has a gloss, which is not empty and whose characters are in no phrase. -/
def Phrase.Foreign (phrases : List WideText) (glosses : WideText → Option WideText) : Prop :=
  ∀ w ∈ phrases, w ≠ [] →
    ∃ gloss, glosses w = some gloss ∧ gloss ≠ [] ∧ ∀ c ∈ gloss, ∀ v ∈ phrases, c ∉ v

/-- No ASCII letter stands next to the phrase that is replaced. -/
structure Replacement.StandsFree (text : WideText) (f : Replacement) : Prop where
  before : 0 < f.start → Guard.letterAt text (f.start - 1) = false
  behind : Guard.letterAt text f.stop = false

namespace Replacer

open Phrasebook.Replacer.Part

theorem concat_prefix_iff {w x : WideText} {c : CodePoint} :
    w ++ [c] <+: x ↔ w <+: x ∧ x[w.length]? = some c := by
  constructor
  · rintro ⟨y, rfl⟩
    simp
  · rintro ⟨⟨y, rfl⟩, h⟩
    rcases y with _ | ⟨d, y⟩
    · simp at h
    · obtain rfl : d = c := by simpa using h
      exact ⟨y, by simp⟩

/-- No phrase that is replaced has an ASCII letter next to it; `before` is the character before the
parts. -/
def Unglued : Option CodePoint → List Part → Prop
  | _, [] => True
  | _, copied c :: ps => Unglued (some c) ps
  | before, replaced w _ :: ps => before.any isAsciiLetter = false
    ∧ (sources ps).head?.any isAsciiLetter = false ∧ Unglued w.getLast? ps

theorem unglued_parts {due? : Due} (hdue : Begins due?)
    (done : WideText) {before : Option CodePoint} (hbefore : done.getLast? = before) (x : WideText)
    (h : ∀ f ∈ replacements done.length (parts due? before x), f.StandsFree (done ++ x)) :
    Unglued before (parts due? before x) := by
  induction before, x using parts_induction hdue generalizing done with
  | nil before =>
    rw [parts_nil]
    trivial
  | copied before c x hnone ih =>
    rw [parts_of_none hnone] at h ⊢
    refine ih (done ++ [c]) List.getLast?_concat fun f hf => ?_
    rw [List.length_append] at hf
    simpa using h f hf
  | replaced before w gloss x hne hsome ih =>
    rw [parts_of_some hne hsome] at h ⊢
    obtain ⟨hfirst, hrest⟩ := List.forall_mem_cons.1 h
    have hleft := any_getLast?_take (done ++ (w ++ x)) (p := done.length) (by simp) isAsciiLetter
    rw [List.take_left, hbefore] at hleft
    refine ⟨?_, ?_, ih (done ++ w) (List.getLast?_append_of_ne_nil done hne) fun f hf => ?_⟩
    · rw [hleft, Bool.and_eq_false_imp, decide_eq_true_eq]
      exact hfirst.before
    · have hbehind := hfirst.behind
      rw [Guard.letterAt, ← List.append_assoc, ← List.length_append,
        List.getElem?_append_right (Nat.le_refl _), Nat.sub_self] at hbehind
      rwa [sources_parts hdue, List.head?_eq_getElem?]
    · rw [List.length_append] at hf
      simpa using hrest f hf

section Foreign

variable {phrases : List WideText} {gloss? : WideText → Option WideText}

/-- Where every phrase has a gloss, nothing is replaced if and only if the longest phrase is a word
with an ASCII letter next to it. -/
theorem dueBehind_eq_none (hgloss : ∀ w ∈ phrases, w ≠ [] → gloss? w ≠ none)
    {before : Option CodePoint} {x : WideText} : dueBehind phrases gloss? before x = none
      ↔ ∀ w, Phrase.longest? phrases x = some w → isBareWord w = true
        ∧ (before.any isAsciiLetter = true ∨ x[w.length]?.any isAsciiLetter = true) := by
  unfold dueBehind
  rcases hlongest : Phrase.longest? phrases x with _ | w
  · simp
  · obtain ⟨hw, hne, -⟩ := Phrase.of_longest? hlongest
    have hsome := hgloss w hw hne
    simp [hsome, or_iff_not_imp_left, -Bool.not_eq_true]

variable (hforeign : Phrase.Foreign phrases gloss?)

theorem parts_append_of_foreign {g : WideText} (hg : ∀ c ∈ g, ∀ v ∈ phrases, c ∉ v)
    (before : Option CodePoint) (x : WideText) : parts (dueBehind phrases gloss?) before (g ++ x)
      = g.map copied ++ parts (dueBehind phrases gloss?) (g.getLast?.or before) x := by
  refine parts_append_of_none fun u c v hsplit => dueBehind_cons_eq_none (hg c ?_) _ _ _
  rw [hsplit]
  exact List.mem_append_right u List.mem_cons_self

include hforeign

theorem foreign_of_dueBehind {before : Option CodePoint} {x w gloss : WideText}
    (h : dueBehind phrases gloss? before x = some (w, gloss)) :
    gloss ≠ [] ∧ ∀ c ∈ gloss, ∀ v ∈ phrases, c ∉ v := by
  have hlongest := longest?_of_dueBehind h
  obtain ⟨hw, hne, -⟩ := Phrase.of_longest? hlongest
  obtain ⟨gloss', hgloss', hgood⟩ := hforeign w hw hne
  unfold dueBehind at h
  rw [hlongest] at h
  simp only [hgloss'] at h
  split_ifs at h
  obtain rfl : gloss' = gloss := by simpa using h
  exact hgood

/-- What the new text begins with, as far as it is made of characters of phrases, is what the old
text begins with. -/
theorem prefix_of_prefix_results (before : Option CodePoint) (x : WideText) {u : WideText}
    (hu : ∀ c ∈ u, ∃ v ∈ phrases, c ∈ v)
    (h : u <+: results (parts (dueBehind phrases gloss?) before x)) : u <+: x := by
  induction before, x using parts_induction (begins_dueBehind phrases gloss?) generalizing u with
  | nil before => simpa using h
  | copied before c x hnone ih =>
    rw [parts_of_none hnone, results_copied] at h
    rcases u with _ | ⟨d, u⟩
    · exact List.nil_prefix
    · obtain ⟨rfl, hux⟩ := List.cons_prefix_cons.1 h
      exact List.cons_prefix_cons.2 ⟨rfl, ih (List.forall_mem_cons.1 hu).2 hux⟩
  | replaced before w gloss x hne hsome ih =>
    obtain ⟨hgloss, hout⟩ := foreign_of_dueBehind hforeign hsome
    rw [parts_of_some hne hsome, results_replaced] at h
    rcases u with _ | ⟨d, u⟩
    · exact List.nil_prefix
    · obtain ⟨e, g, rfl⟩ := List.exists_cons_of_ne_nil hgloss
      obtain ⟨rfl, -⟩ := List.cons_prefix_cons.1 h
      obtain ⟨v, hv, hmem⟩ := hu d List.mem_cons_self
      exact absurd hmem (hout d List.mem_cons_self v hv)

omit hforeign in
/-- Letters behind a letter are copied. -/
theorem prefix_results_of_letters (before : Option CodePoint) (x : WideText) {u : WideText}
    (hbefore : before.any isAsciiLetter = true) (hu : u.all isAsciiLetter = true) (h : u <+: x)
    (hglued : Unglued before (parts (dueBehind phrases gloss?) before x)) :
    u <+: results (parts (dueBehind phrases gloss?) before x) := by
  induction before, x using parts_induction (begins_dueBehind phrases gloss?) generalizing u with
  | nil before => simpa using h
  | copied before c x hnone ih =>
    rw [parts_of_none hnone] at hglued ⊢
    rcases u with _ | ⟨d, u⟩
    · exact List.nil_prefix
    · obtain ⟨rfl, hux⟩ := List.cons_prefix_cons.1 h
      obtain ⟨hd, hu⟩ : isAsciiLetter d = true ∧ u.all isAsciiLetter = true := by
        simpa using hu
      exact List.cons_prefix_cons.2 ⟨rfl, ih hd hu hux hglued⟩
  | replaced before w gloss x hne hsome ih =>
    rw [parts_of_some hne hsome] at hglued
    exact absurd hbefore (by simp [hglued.1])

/-- Where nothing was replaced in the old text, nothing is replaced in the new one, if a letter has
the same character before it. -/
theorem dueBehind_results_eq_none {before before' : Option CodePoint} {c : CodePoint} {x : WideText}
    (hnone : dueBehind phrases gloss? before (c :: x) = none)
    (hglued : Unglued (some c) (parts (dueBehind phrases gloss?) (some c) x))
    (hbefore : isAsciiLetter c = true → before' = before) :
    dueBehind phrases gloss? before'
      (c :: results (parts (dueBehind phrases gloss?) (some c) x)) = none := by
  have hgloss : ∀ w ∈ phrases, w ≠ [] → gloss? w ≠ none := by
    intro w hw hne
    obtain ⟨gloss, hgloss, -⟩ := hforeign w hw hne
    simp [hgloss]
  rw [dueBehind_eq_none hgloss] at hnone ⊢
  set y := results (parts (dueBehind phrases gloss?) (some c) x) with hy
  have hkeep : ∀ u : WideText, isAsciiLetter c = true → u.all isAsciiLetter = true → u <+: c :: x →
      u <+: c :: y := by
    intro u hc hu hux
    rcases u with _ | ⟨d, u⟩
    · exact List.nil_prefix
    · obtain ⟨rfl, hrest⟩ := List.cons_prefix_cons.1 hux
      refine List.cons_prefix_cons.2 ⟨rfl, ?_⟩
      exact prefix_results_of_letters (some d) x hc (Bool.and_eq_true_iff.1 hu).2 hrest hglued
  intro w hw
  obtain ⟨hmem, hne, hwy, hmax⟩ := Phrase.of_longest? hw
  have hwx : w <+: c :: x := by
    obtain ⟨d, u, rfl⟩ := List.exists_cons_of_ne_nil hne
    obtain ⟨rfl, hrest⟩ := List.cons_prefix_cons.1 hwy
    refine List.cons_prefix_cons.2 ⟨rfl, prefix_of_prefix_results hforeign _ x ?_ hrest⟩
    exact fun e he => ⟨_, hmem, List.mem_cons_of_mem _ he⟩
  obtain ⟨v, hv⟩ : ∃ v, Phrase.longest? phrases (c :: x) = some v := by
    rw [← Option.ne_none_iff_exists']
    exact fun h => Phrase.longest?_eq_none.1 h w hmem hne hwx
  obtain ⟨hvmem, hvne, hvx, hvmax⟩ := Phrase.of_longest? hv
  obtain ⟨hbare, hnext⟩ := hnone v hv
  have hletters : v.all isAsciiLetter = true := (Bool.and_eq_true_iff.1 hbare).2
  have hc : isAsciiLetter c = true := by
    obtain ⟨d, u, rfl⟩ := List.exists_cons_of_ne_nil hvne
    obtain ⟨rfl, -⟩ := List.cons_prefix_cons.1 hvx
    exact (Bool.and_eq_true_iff.1 hletters).1
  obtain rfl : w = v := by
    have hle := hmax v hvmem hvne (hkeep v hc hletters hvx)
    exact (List.prefix_of_prefix_length_le hwx hvx (hvmax w hmem hne hwx)).eq_of_length_le hle
  refine ⟨hbare, hnext.imp (fun hleft => ?_) fun hright => ?_⟩
  · rwa [hbefore hc]
  · obtain ⟨d, hd, hletter⟩ := (Option.any_eq_true _ _).1 hright
    have hboth := hkeep (w ++ [d]) hc (by simp [hletters, hletter])
      (concat_prefix_iff.2 ⟨hwx, hd⟩)
    rw [(concat_prefix_iff.1 hboth).2]
    exact hletter

/-- All of the new text is copied when it is gone through. -/
theorem parts_results (before : Option CodePoint) (x : WideText) {before' : Option CodePoint}
    (hglued : Unglued before (parts (dueBehind phrases gloss?) before x))
    (hbefore : x.head?.any isAsciiLetter = true → before' = before) :
    parts (dueBehind phrases gloss?) before' (results (parts (dueBehind phrases gloss?) before x))
      = (results (parts (dueBehind phrases gloss?) before x)).map copied := by
  induction before, x using parts_induction (begins_dueBehind phrases gloss?)
    generalizing before' with
  | nil before => simp
  | copied before c x hnone ih =>
    rw [parts_of_none hnone] at hglued ⊢
    have hnone' := dueBehind_results_eq_none hforeign hnone hglued hbefore
    rw [results_copied, parts_of_none hnone', ih hglued fun _ => rfl, List.map_cons]
  | replaced before w gloss x hne hsome ih =>
    rw [parts_of_some hne hsome] at hglued ⊢
    obtain ⟨-, hbehind, hrest⟩ := hglued
    rw [sources_parts (begins_dueBehind phrases gloss?)] at hbehind
    rw [results_replaced, parts_append_of_foreign (foreign_of_dueBehind hforeign hsome).2,
      ih hrest fun hhead => absurd hhead (by simp [hbehind]), List.map_append]

end Foreign

/-- Nothing is found in a text whose phrases have been replaced, if every phrase has a gloss that
shares no character with any phrase, and no ASCII letter stands next to a phrase that is replaced.
So to replace twice is to replace once. -/
theorem find_replace_eq_nil {phrases : List WideText} {glosses : WideText → Option WideText}
    {text : WideText} (hforeign : Phrase.Foreign phrases glosses) :
    let r : Replacer := { scanner := .ofPhrases phrases, glosses }
    (∀ f ∈ r.find text, f.StandsFree text) →
      r.find (r.replace text).1 = []
        ∧ r.replace (r.replace text).1 = ((r.replace text).1, 0) := by
  intro r hfree
  have hgloss : Phrase.Foreign phrases r.gloss? := by
    intro w hw hne
    obtain ⟨gloss, hgloss, hnonempty, hout⟩ := hforeign w hw hne
    exact ⟨gloss, gloss?_eq_some.2 ⟨hgloss, hnonempty⟩, hnonempty, hout⟩
  rw [find_eq_parts rfl rfl] at hfree
  have hglued := unglued_parts (begins_dueBehind phrases r.gloss?) [] rfl text hfree
  have hnil : r.find (r.replace text).1 = [] := by
    rw [replace_eq_parts rfl rfl, find_eq_parts rfl rfl,
      parts_results hgloss none text hglued fun _ => rfl, replacements_map_copied]
  refine ⟨hnil, ?_⟩
  rw [replace, hnil, List.map_nil, Text.Edit.applyAll_nil]
  rfl

/-- A word that is part of a longer one is left as it is, in the new text too, although the text
before it has changed. -/
theorem find_replace_eq_nil_word :
    let phrases := [.ofString "ON", .ofString "ONA", .ofString "A-"]
    let glosses : WideText → Option WideText := fun _ => some (.ofString "啊")
    let r : Replacer := { scanner := .ofPhrases phrases, glosses }
    Phrase.Foreign phrases glosses
      ∧ (∀ f ∈ r.find (.ofString "ON ONAB A-"), f.StandsFree (.ofString "ON ONAB A-"))
      ∧ (r.replace (.ofString "ON ONAB A-")).1 = .ofString "啊 ONAB 啊"
      ∧ r.find (.ofString "啊 ONAB 啊") = [] := by
  intro phrases glosses r
  have hforeign : Phrase.Foreign phrases glosses := fun w _ _ =>
    ⟨.ofString "啊", rfl, by decide, List.forall_mem_singleton.2 (by decide)⟩
  have hfind : r.find (.ofString "ON ONAB A-")
      = [⟨0, 2, .ofString "ON", .ofString "啊"⟩, ⟨8, 10, .ofString "A-", .ofString "啊"⟩] := by
    rw [find_eq_parts rfl rfl]
    decide +kernel
  have hreplace : (r.replace (.ofString "ON ONAB A-")).1 = .ofString "啊 ONAB 啊" := by
    rw [replace, hfind]
    decide
  have hfree : ∀ f ∈ r.find (.ofString "ON ONAB A-"), f.StandsFree (.ofString "ON ONAB A-") := by
    rw [hfind]
    simp only [List.forall_mem_cons]
    exact ⟨⟨by decide, by decide⟩, ⟨by decide, by decide⟩, by simp⟩
  exact ⟨hforeign, hfree, hreplace, hreplace ▸ (find_replace_eq_nil hforeign hfree).1⟩

end Replacer

end Phrasebook
