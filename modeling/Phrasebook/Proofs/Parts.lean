import Phrasebook.Proofs.Replacing

/-!
# Parts of a text

Going through a text with whole words as the guard gives its parts in order: characters that are
copied and phrases that are replaced (`parts`). The sources of the parts put together are the text
(`sources_parts`), their results are the text with its phrases replaced (`replace_eq_parts`), and
the places where replaced phrases start are those of the replacements found (`find_eq_parts`). So
what is to be said of both can be said of the parts, with no offsets.
-/

namespace Phrasebook.Replacer

/-- A character that is copied, or a phrase with the gloss that is put in its place. -/
inductive Part
  | copied (c : CodePoint)
  | replaced (phrase gloss : WideText)
  deriving DecidableEq, Repr

namespace Part

def source : Part → WideText
  | copied c => [c]
  | replaced phrase _ => phrase

def result : Part → WideText
  | copied c => [c]
  | replaced _ gloss => gloss

/-- What stood in the text where the parts are. -/
def sources (ps : List Part) : WideText :=
  ps.flatMap source

/-- What stands there now. -/
def results (ps : List Part) : WideText :=
  ps.flatMap result

@[simp]
theorem sources_nil : sources [] = [] := rfl

@[simp]
theorem sources_copied (c : CodePoint) (ps : List Part) :
    sources (copied c :: ps) = c :: sources ps := rfl

@[simp]
theorem sources_replaced (phrase gloss : WideText) (ps : List Part) :
    sources (replaced phrase gloss :: ps) = phrase ++ sources ps := rfl

@[simp]
theorem results_nil : results [] = [] := rfl

@[simp]
theorem results_copied (c : CodePoint) (ps : List Part) :
    results (copied c :: ps) = c :: results ps := rfl

@[simp]
theorem results_replaced (phrase gloss : WideText) (ps : List Part) :
    results (replaced phrase gloss :: ps) = gloss ++ results ps := rfl

@[simp]
theorem results_append (ps qs : List Part) : results (ps ++ qs) = results ps ++ results qs := by
  simp [results]

/-- The replacements among some parts, the first of which starts at the place `start`. -/
def replacements (start : Nat) : List Part → List Replacement
  | [] => []
  | copied _ :: ps => replacements (start + 1) ps
  | replaced phrase gloss :: ps =>
    ⟨start, start + phrase.length, phrase, gloss⟩ :: replacements (start + phrase.length) ps

theorem replacements_append : ∀ (ps qs : List Part) (start : Nat), replacements start (ps ++ qs)
    = replacements start ps ++ replacements (start + (sources ps).length) qs
  | [], _, _ => rfl
  | copied c :: ps, qs, start => by
    have ih := replacements_append ps qs (start + 1)
    simp only [List.cons_append, replacements, ih, sources_copied, List.length_cons]
    congr 2
    omega
  | replaced phrase gloss :: ps, qs, start => by
    have ih := replacements_append ps qs (start + phrase.length)
    simp only [List.cons_append, replacements, ih, sources_replaced, List.length_append]
    congr 3
    omega

theorem replacements_map_copied (t : WideText) (start : Nat) :
    replacements start (t.map copied) = [] := by
  induction t generalizing start with
  | nil => rfl
  | cons c t ih => exact ih (start + 1)

@[simp]
theorem sources_map_copied (t : WideText) : sources (t.map copied) = t := by
  induction t with
  | nil => rfl
  | cons c t ih => rw [List.map_cons, sources_copied, ih]

@[simp]
theorem results_map_copied (t : WideText) : results (t.map copied) = t := by
  induction t with
  | nil => rfl
  | cons c t ih => rw [List.map_cons, results_copied, ih]

end Part

open Phrasebook.Replacer.Part

/-- The parts of a text behind a character. -/
def parts (due? : Due) (before : Option CodePoint) : WideText → List Part
  | [] => []
  | c :: x =>
    match due? before (c :: x) with
    | none => .copied c :: parts due? (some c) x
    | some (w, gloss) => .replaced w gloss :: parts due? w.getLast? (x.drop (w.length - 1))
termination_by x => x.length

section Parts

variable {due? : Due} {before : Option CodePoint}

@[simp]
theorem parts_nil : parts due? before [] = [] := by
  rw [parts]

theorem parts_of_none {c : CodePoint} {x : WideText} (h : due? before (c :: x) = none) :
    parts due? before (c :: x) = .copied c :: parts due? (some c) x := by
  rw [parts, h]

theorem parts_of_some {w gloss x : WideText} (hw : w ≠ [])
    (h : due? before (w ++ x) = some (w, gloss)) :
    parts due? before (w ++ x) = .replaced w gloss :: parts due? w.getLast? x := by
  obtain ⟨c, u, rfl⟩ := List.exists_cons_of_ne_nil hw
  rw [List.cons_append] at h ⊢
  rw [parts, h]
  simp

/-- A text in front is copied if nothing is due at any of its places. -/
theorem parts_append_of_none {g x : WideText} (h : ∀ u c v, g = u ++ c :: v →
      due? (u.getLast?.or before) (c :: (v ++ x)) = none) :
    parts due? before (g ++ x) = g.map copied ++ parts due? (g.getLast?.or before) x := by
  induction g generalizing before with
  | nil => rfl
  | cons c g ih =>
    have hlast : ∀ u : WideText, (c :: u).getLast?.or before = u.getLast?.or (some c) := by
      intro u
      rw [List.getLast?_cons]
      rcases u.getLast? with _ | d <;> rfl
    have hrest := @ih (some c) fun u d v hg => by
      rw [← hlast]
      exact h (c :: u) d v (congrArg (c :: ·) hg)
    have hnone : due? before (c :: (g ++ x)) = none := h [] c g rfl
    rw [List.cons_append, parts_of_none hnone, hrest, hlast]
    rfl

end Parts

/-! ## What the parts make up -/

/-- Nothing is due at the start of a text but what it begins with. -/
def Begins (due? : Due) : Prop :=
  ∀ before x w gloss, due? before x = some (w, gloss) → w ≠ [] ∧ w <+: x

theorem begins_dueBehind (phrases : List WideText) (gloss? : WideText → Option WideText) :
    Begins (dueBehind phrases gloss?) := by
  intro before x w gloss h
  obtain ⟨-, hne, hpre, -⟩ := Phrase.of_longest? (longest?_of_dueBehind h)
  exact ⟨hne, hpre⟩

/-- A character of no phrase is copied. -/
theorem dueBehind_cons_eq_none {phrases : List WideText} {c : CodePoint} (hc : ∀ v ∈ phrases, c ∉ v)
    (gloss? : WideText → Option WideText) (before : Option CodePoint) (x : WideText) :
    dueBehind phrases gloss? before (c :: x) = none := by
  have hnone : Phrase.longest? phrases (c :: x) = none := by
    rw [Phrase.longest?_eq_none]
    rintro w hw hne hpre
    obtain ⟨d, u, rfl⟩ := List.exists_cons_of_ne_nil hne
    obtain ⟨rfl, -⟩ := List.cons_prefix_cons.1 hpre
    exact hc _ hw List.mem_cons_self
  rw [dueBehind, hnone]

/-- What holds of the parts of no text, and of the parts of a text behind one more part, holds of
the parts of all texts. -/
theorem parts_induction {due? : Due} (hdue : Begins due?)
    {motive : Option CodePoint → WideText → Prop} (nil : ∀ before, motive before [])
    (copied : ∀ before c x, due? before (c :: x) = none → motive (some c) x →
      motive before (c :: x))
    (replaced : ∀ before w gloss x, w ≠ [] → due? before (w ++ x) = some (w, gloss) →
      motive w.getLast? x → motive before (w ++ x)) (before : Option CodePoint) (x : WideText) :
    motive before x := by
  induction h : x.length using Nat.strongRecOn generalizing before x with
  | ind n ih =>
    subst h
    rcases x with _ | ⟨c, x⟩
    · exact nil before
    rcases hd : due? before (c :: x) with _ | ⟨w, gloss⟩
    · exact copied before c x hd (ih x.length (by simp) (some c) x rfl)
    · obtain ⟨hne, y, hy⟩ := hdue before (c :: x) w gloss hd
      have hlt : y.length < (c :: x).length := by
        have := List.length_pos_of_ne_nil hne
        rw [← hy, List.length_append]
        omega
      rw [← hy] at hd ⊢
      exact replaced before w gloss y hne hd (ih y.length hlt w.getLast? y rfl)

theorem sources_parts {due? : Due} (hdue : Begins due?)
    (before : Option CodePoint) (x : WideText) : sources (parts due? before x) = x := by
  induction before, x using parts_induction hdue with
  | nil before => simp
  | copied before c x h ih => rw [parts_of_none h, sources_copied, ih]
  | replaced before w gloss x hne h ih => rw [parts_of_some hne h, sources_replaced, ih]

theorem replaceBehind_eq_parts {due? : Due}
    (hdue : Begins due?) (before : Option CodePoint) (x : WideText) (start : Nat) :
    replaceBehind due? before x = (results (parts due? before x),
      (replacements start (parts due? before x)).length) := by
  induction before, x using parts_induction hdue generalizing start with
  | nil before =>
    rw [replaceBehind, parts_nil]
    rfl
  | copied before c x h ih =>
    rw [replaceBehind, h, parts_of_none h, ih (start + 1)]
    rfl
  | replaced before w gloss x hne h ih =>
    obtain ⟨c, u, rfl⟩ := List.exists_cons_of_ne_nil hne
    rw [parts_of_some hne h]
    rw [List.cons_append] at h ⊢
    rw [replaceBehind, h]
    simp [ih (start + (u.length + 1)), replacements]

section Replacer

variable {r : Replacer} {phrases : List WideText} (hr : r.scanner = .ofPhrases phrases)
  (hguard : r.guard = .wholeWords) {text : WideText}

include hr hguard

theorem foundFrom_eq_parts (p : Nat) : r.foundFrom text p = replacements p
    (parts (dueBehind phrases r.gloss?) (text.take p).getLast? (text.drop p)) := by
  induction h : text.length - p using Nat.strongRecOn generalizing p with
  | ind n ih =>
    subst h
    rcases Nat.lt_or_ge p text.length with hlt | hle
    · have hdrop : text.drop p = text[p] :: text.drop (p + 1) := List.drop_eq_getElem_cons hlt
      rw [foundFrom_eq hr hlt, replacementAt_eq hguard hlt]
      rcases hdue : dueBehind phrases r.gloss? (text.take p).getLast? (text.drop p)
        with _ | ⟨w, gloss⟩
      · have ih := ih (text.length - (p + 1)) (by omega) (p + 1) rfl
        rw [getLast?_take_succ hlt] at ih
        rw [hdrop] at hdue ⊢
        rw [parts_of_none hdue, replacements, ← ih]
        rfl
      · obtain ⟨hne, hpre⟩ := begins_dueBehind phrases r.gloss? _ _ _ _ hdue
        have hpos := List.length_pos_of_ne_nil hne
        have ih := ih (text.length - (p + w.length)) (by omega) (p + w.length) rfl
        rw [getLast?_take_add hpre hne, ← List.drop_drop] at ih
        have hsplit : text.drop p = w ++ (text.drop p).drop w.length := by
          conv_lhs => rw [← List.take_append_drop w.length (text.drop p),
            ← List.prefix_iff_eq_take.1 hpre]
        rw [hsplit] at hdue ⊢
        rw [parts_of_some hne hdue, replacements, ← ih]
        rfl
    · rw [foundFrom_of_le hr hle, List.drop_of_length_le hle, parts_nil]
      rfl

theorem find_eq_parts : r.find text
    = replacements 0 (parts (dueBehind phrases r.gloss?) none text) := by
  have h : r.foundFrom text 0 = _ := foundFrom_eq_parts hr hguard 0
  rwa [List.take_zero, List.drop_zero] at h

theorem replace_eq_parts : r.replace text
    = (results (parts (dueBehind phrases r.gloss?) none text), (r.find text).length) := by
  rw [replace_eq_replaceBehind hr hguard, find_eq_parts hr hguard]
  exact replaceBehind_eq_parts (begins_dueBehind phrases r.gloss?) none text 0

end Replacer

end Phrasebook.Replacer
