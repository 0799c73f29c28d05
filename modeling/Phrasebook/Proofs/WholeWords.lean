import Phrasebook.Proofs.Parts
import Mathlib.Data.List.SplitBy

/-!
# Word by word

If phrases are words of ASCII letters, a text is replaced word by word. It is cut into its longest
runs of ASCII letters and the characters between them (`WideText.segments`), and each run that is a
phrase with a gloss is replaced by it, whatever other phrases it begins with, ends with or has
inside (`find_eq_words`).

A phrase that begins such a run either is the run or has a letter behind it, and one that stands
further on in the run has a letter before it (`dueBehind_word`, `dueBehind_of_letter`).
-/

namespace Phrasebook

open CodePoint (isAsciiLetter)

namespace WideText

/-- The longest runs of ASCII letters in a text and the characters between them, in order. -/
def segments (t : WideText) : List WideText :=
  t.splitBy fun a b => isAsciiLetter a && isAsciiLetter b

/-- Some texts in order, each with the offset at which it starts. -/
def located (start : Nat) : List WideText → List (Nat × WideText)
  | [] => []
  | t :: ts => (start, t) :: located (start + t.length) ts

/-- A word of ASCII letters, or another character. -/
def IsSegment (t : WideText) : Prop :=
  (t ≠ [] ∧ t.all isAsciiLetter = true) ∨ ∃ c, isAsciiLetter c = false ∧ t = [c]

/-- Segments do not run together: between two of them there is one that is no word. -/
def Separate (ts : List WideText) : Prop :=
  ts.IsChain fun s t => s.getLast?.any isAsciiLetter = true → t.head?.any isAsciiLetter = false

theorem all_isAsciiLetter_of_isChain : ∀ {t : WideText} {c d : CodePoint},
    (c :: d :: t).IsChain (fun a b => (isAsciiLetter a && isAsciiLetter b) = true) →
      (c :: d :: t).all isAsciiLetter = true
  | [], c, d, h => by simpa using h
  | e :: t, c, d, h => by
    obtain ⟨hcd, hrest⟩ := List.isChain_cons_cons.1 h
    rw [List.all_cons, all_isAsciiLetter_of_isChain hrest, (Bool.and_eq_true_iff.1 hcd).1]
    rfl

theorem IsSegment.ne_nil {t : WideText} (h : IsSegment t) : t ≠ [] := by
  rcases h with ⟨hne, -⟩ | ⟨c, -, rfl⟩
  · exact hne
  · exact List.cons_ne_nil c []

theorem isSegment_of_mem {s t : WideText} (h : s ∈ t.segments) : IsSegment s := by
  have hne : s ≠ [] := List.ne_nil_of_mem_splitBy h
  have hchain := List.isChain_of_mem_splitBy h
  rcases s with _ | ⟨c, _ | ⟨d, s⟩⟩
  · exact absurd rfl hne
  · by_cases hc : isAsciiLetter c = true
    · exact .inl ⟨hne, by simpa using hc⟩
    · exact .inr ⟨c, by simpa using hc, rfl⟩
  · exact .inl ⟨hne, all_isAsciiLetter_of_isChain hchain⟩

theorem separate_segments (t : WideText) : Separate t.segments := by
  refine (List.isChain_getLast_head_splitBy _ t).imp ?_
  rintro s t ⟨hs, ht, h⟩ hlast
  rw [List.getLast?_eq_some_getLast hs] at hlast
  rw [List.head?_eq_some_head ht]
  simpa [show isAsciiLetter (s.getLast hs) = true from hlast] using h

end WideText

namespace Replacer

open Phrasebook.Replacer.Part

/-- The gloss by which a segment is replaced. -/
def wordGloss? (phrases : List WideText) (gloss? : WideText → Option WideText) (w : WideText) :
    Option WideText :=
  if w ∈ phrases then gloss? w else none

/-- What becomes of a segment. -/
def segmentParts (phrases : List WideText) (gloss? : WideText → Option WideText) (w : WideText) :
    List Part :=
  match wordGloss? phrases gloss? w with
  | none => w.map copied
  | some gloss => [replaced w gloss]

section Words

variable {phrases : List WideText} {gloss? : WideText → Option WideText}
  (hwords : ∀ w ∈ phrases, ∀ c ∈ w, isAsciiLetter c = true)

include hwords

theorem isBareWord_of_mem {w : WideText} (hw : w ∈ phrases) (hne : w ≠ []) :
    isBareWord w = true := by
  simpa [isBareWord, hne] using hwords w hw

theorem dueBehind_of_letter {before : Option CodePoint} (hbefore : before.any isAsciiLetter = true)
    (x : WideText) : dueBehind phrases gloss? before x = none := by
  unfold dueBehind
  rcases h : Phrase.longest? phrases x with _ | w
  · rfl
  · obtain ⟨hw, hne, -⟩ := Phrase.of_longest? h
    simp [isBareWord_of_mem hwords hw hne, hbefore]

/-- A phrase that begins a text begins the word with which the text begins. -/
theorem prefix_word {v w y : WideText} (hv : v ∈ phrases) (hy : y.head?.any isAsciiLetter = false)
    (h : v <+: w ++ y) : v <+: w := by
  rcases y with _ | ⟨c, y⟩
  · rwa [List.append_nil] at h
  · have hc : c ∉ v := fun hmem => by simp [hwords v hv c hmem] at hy
    exact (prefix_append_cons_iff hc w y).1 h

theorem dueBehind_word {before : Option CodePoint} {w y : WideText} (hne : w ≠ [])
    (hletters : w.all isAsciiLetter = true) (hbefore : before.any isAsciiLetter = false)
    (hy : y.head?.any isAsciiLetter = false) :
    dueBehind phrases gloss? before (w ++ y) = (wordGloss? phrases gloss? w).map (w, ·) := by
  unfold dueBehind wordGloss?
  by_cases hw : w ∈ phrases
  · have hlongest : Phrase.longest? phrases (w ++ y) = some w :=
      Phrase.longest?_eq_some.2 ⟨hw, hne, List.prefix_append w y,
        fun v hv _ hpre => (prefix_word hwords hv hy hpre).length_le⟩
    have hnext : (w ++ y)[w.length]?.any isAsciiLetter = false := by
      rwa [List.getElem?_append_right (Nat.le_refl _), Nat.sub_self, ← List.head?_eq_getElem?]
    simp [hlongest, hw, hbefore, hnext]
  · rcases h : Phrase.longest? phrases (w ++ y) with _ | v
    · simp [hw]
    · obtain ⟨hv, hvne, hpre, -⟩ := Phrase.of_longest? h
      obtain ⟨u, rfl⟩ := prefix_word hwords hv hy hpre
      rcases u with _ | ⟨c, u⟩
      · exact absurd (by simpa using hv) hw
      · have hc : isAsciiLetter c = true := List.all_eq_true.1 hletters c (by simp)
        simp [isBareWord_of_mem hwords hv hvne, hw, hc]

theorem parts_word {before : Option CodePoint} {w y : WideText} (hne : w ≠ [])
    (hletters : w.all isAsciiLetter = true) (hbefore : before.any isAsciiLetter = false)
    (hy : y.head?.any isAsciiLetter = false) :
    parts (dueBehind phrases gloss?) before (w ++ y)
      = segmentParts phrases gloss? w ++ parts (dueBehind phrases gloss?) w.getLast? y := by
  have hdue : dueBehind phrases gloss? before (w ++ y) = _ :=
    dueBehind_word hwords hne hletters hbefore hy
  unfold segmentParts
  rcases hgloss : wordGloss? phrases gloss? w with _ | gloss
  · rw [hgloss] at hdue
    have hlast : w.getLast?.or before = w.getLast? := by
      rw [List.getLast?_eq_some_getLast hne]
      rfl
    rw [parts_append_of_none, hlast]
    intro u c v hsplit
    rcases List.eq_nil_or_concat u with rfl | ⟨u, d, rfl⟩
    · rw [hsplit] at hdue
      exact hdue
    · have hd : isAsciiLetter d = true := List.all_eq_true.1 hletters d (by simp [hsplit])
      exact dueBehind_of_letter hwords (by simp [hd]) _
  · rw [hgloss] at hdue
    exact parts_of_some hne hdue

theorem parts_flatten : ∀ (ts : List WideText) {before : Option CodePoint},
    (∀ t ∈ ts, WideText.IsSegment t) →
    WideText.Separate ts →
    (before.any isAsciiLetter = true → ts.flatten.head?.any isAsciiLetter = false) →
      parts (dueBehind phrases gloss?) before ts.flatten
        = ts.flatMap (segmentParts phrases gloss?)
  | [], _, _, _, _ => by simp
  | t :: ts, before, hsegments, hseparate, hbefore => by
    obtain ⟨ht, hts⟩ := List.forall_mem_cons.1 hsegments
    have hnext : t.getLast?.any isAsciiLetter = true →
        ts.flatten.head?.any isAsciiLetter = false := by
      rcases ts with _ | ⟨u, us⟩
      · simp
      · obtain ⟨c, u', rfl⟩ := List.exists_cons_of_ne_nil (hts u List.mem_cons_self).ne_nil
        exact (List.isChain_cons_cons.1 hseparate).1
    have ih := parts_flatten ts hts hseparate.tail hnext
    rw [List.flatten_cons, List.flatMap_cons, ← ih]
    rcases ht with ⟨hne, hletters⟩ | ⟨c, hc, rfl⟩
    · have hfirst : (t :: ts).flatten.head?.any isAsciiLetter = true := by
        obtain ⟨c, t', rfl⟩ := List.exists_cons_of_ne_nil hne
        exact (Bool.and_eq_true_iff.1 hletters).1
      have hlast : t.getLast?.any isAsciiLetter = true := by
        rw [List.getLast?_eq_some_getLast hne]
        exact List.all_eq_true.1 hletters _ (List.getLast_mem hne)
      refine parts_word hwords hne hletters ?_ (hnext hlast)
      rw [← Bool.not_eq_true]
      intro h
      rw [hbefore h] at hfirst
      cases hfirst
    · have hout : ∀ v ∈ phrases, c ∉ v := fun v hv hmem => by simp [hwords v hv c hmem] at hc
      have hnone : wordGloss? phrases gloss? [c] = none :=
        if_neg fun h => hout [c] h List.mem_cons_self
      rw [List.singleton_append, parts_of_none (dueBehind_cons_eq_none hout gloss? before _)]
      simp [segmentParts, hnone]

end Words

/-! ## What is found -/

section Segments

variable (phrases : List WideText) (gloss? : WideText → Option WideText)

theorem sources_segmentParts (w : WideText) : sources (segmentParts phrases gloss? w) = w := by
  unfold segmentParts
  split
  · exact sources_map_copied w
  · simp

theorem results_segmentParts (w : WideText) :
    results (segmentParts phrases gloss? w) = (wordGloss? phrases gloss? w).getD w := by
  unfold segmentParts
  rcases wordGloss? phrases gloss? w with _ | gloss
  · exact results_map_copied w
  · simp

theorem replacements_segmentParts (w : WideText) (start : Nat) :
    replacements start (segmentParts phrases gloss? w)
      = ((wordGloss? phrases gloss? w).map (⟨start, start + w.length, w, ·⟩)).toList := by
  unfold segmentParts
  rcases wordGloss? phrases gloss? w with _ | gloss
  · exact replacements_map_copied w start
  · rfl

theorem results_flatMap_segmentParts : ∀ ts : List WideText,
    results (ts.flatMap (segmentParts phrases gloss?))
      = ts.flatMap fun w => (wordGloss? phrases gloss? w).getD w
  | [] => rfl
  | t :: ts => by
    rw [List.flatMap_cons, List.flatMap_cons, results_append, results_segmentParts,
      results_flatMap_segmentParts ts]

theorem replacements_flatMap_segmentParts : ∀ (ts : List WideText) (start : Nat),
    replacements start (ts.flatMap (segmentParts phrases gloss?))
      = (WideText.located start ts).filterMap fun s =>
        (wordGloss? phrases gloss? s.2).map (⟨s.1, s.1 + s.2.length, s.2, ·⟩)
  | [], _ => rfl
  | t :: ts, start => by
    rw [List.flatMap_cons, replacements_append, sources_segmentParts, replacements_segmentParts,
      replacements_flatMap_segmentParts ts, WideText.located, List.filterMap_cons]
    rcases wordGloss? phrases gloss? t with _ | gloss <;> rfl

end Segments

/-- If phrases are words, what is found in a text are the segments that are phrases with a gloss,
and the text is replaced by replacing each of them. -/
theorem find_eq_words {phrases : List WideText} (glosses : WideText → Option WideText)
    (hwords : ∀ w ∈ phrases, ∀ c ∈ w, isAsciiLetter c = true) (text : WideText) :
    let r : Replacer := { scanner := .ofPhrases phrases, glosses }
    let gloss? := wordGloss? phrases r.gloss?
    r.find text = (WideText.located 0 text.segments).filterMap (fun s =>
        (gloss? s.2).map (⟨s.1, s.1 + s.2.length, s.2, ·⟩))
      ∧ (r.replace text).1 = text.segments.flatMap fun w => (gloss? w).getD w := by
  intro r gloss?
  have hparts : parts (dueBehind phrases r.gloss?) none text
      = text.segments.flatMap (segmentParts phrases r.gloss?) := by
    have h : parts (dueBehind phrases r.gloss?) none text.segments.flatten = _ :=
      parts_flatten hwords text.segments (fun _ => WideText.isSegment_of_mem)
        (WideText.separate_segments text) (by simp)
    rwa [WideText.segments, List.flatten_splitBy] at h
  refine ⟨?_, ?_⟩
  · rw [find_eq_parts rfl rfl, hparts, replacements_flatMap_segmentParts]
  · rw [replace_eq_parts rfl rfl, hparts, results_flatMap_segmentParts]

/-- Words inside of one another, of which the longest one has no gloss, in longer words and
alone. -/
theorem find_eq_words_dragon :
    let phrases := [.ofString "ON", .ofString "DRAG", .ofString "DRAGON"]
    let glosses : WideText → Option WideText := fun w =>
      if w = .ofString "DRAGON" then none else some (.ofString "龙")
    let r : Replacer := { scanner := .ofPhrases phrases, glosses }
    (∀ w ∈ phrases, ∀ c ∈ w, isAsciiLetter c = true)
      ∧ WideText.segments (.ofString "DRAGON ON-DRAG DRAGONS")
        = ["DRAGON", " ", "ON", "-", "DRAG", " ", "DRAGONS"].map WideText.ofString
      ∧ r.find (.ofString "DRAGON ON-DRAG DRAGONS")
        = [⟨7, 9, .ofString "ON", .ofString "龙"⟩, ⟨10, 14, .ofString "DRAG", .ofString "龙"⟩]
      ∧ (r.replace (.ofString "DRAGON ON-DRAG DRAGONS")).1 = .ofString "DRAGON 龙-龙 DRAGONS" := by
  intro phrases glosses r
  have hwords : ∀ w ∈ phrases, ∀ c ∈ w, isAsciiLetter c = true := by
    have hall : phrases.all (·.all isAsciiLetter) = true := by decide
    exact fun w hw c hc => List.all_eq_true.1 (List.all_eq_true.1 hall w hw) c hc
  have hsegments : WideText.segments (.ofString "DRAGON ON-DRAG DRAGONS")
      = ["DRAGON", " ", "ON", "-", "DRAG", " ", "DRAGONS"].map WideText.ofString := by decide
  obtain ⟨hfind, hreplace⟩ := find_eq_words glosses hwords (.ofString "DRAGON ON-DRAG DRAGONS")
  rw [hsegments] at hfind hreplace
  exact ⟨hwords, hsegments, hfind.trans (by decide), hreplace.trans (by decide)⟩

end Replacer

end Phrasebook
