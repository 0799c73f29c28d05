import Phrasebook.Proofs.Parts
import Phrasebook.Proofs.Phrases

/-!
# Separators

A character that is no ASCII letter and occurs in no phrase separates a text: what is found before
it and what is found behind it is what is found in the two parts by themselves
(`find_append_separator`). A phrase does not reach over such a character, and for the guard it is as
good as the end of the text (`dueBehind_append_separator`, `dueBehind_of_before`), so that reading
comes past it as if it began anew (`parts_append_separator`). The phrases of a vocabulary hold no
line breaks, so each line is replaced by itself.
-/

namespace Phrasebook

open CodePoint (isAsciiLetter isLineBreak)

/-- The text with each of its lines changed, and with its line breaks as they are; `line` holds the
line begun, last character first. -/
def WideText.mapLines (change : WideText → WideText) : WideText → (line : WideText := []) → WideText
  | [], line => change line.reverse
  | c :: t, line =>
    if isLineBreak c then change line.reverse ++ c :: mapLines change t
    else mapLines change t (c :: line)

/-- The replacement moved by some places. -/
def Replacement.shift (f : Replacement) (n : Nat) : Replacement :=
  { f with start := f.start + n, stop := f.stop + n }

/-- A character that no phrase holds and that is no ASCII letter. -/
structure Phrase.Separates (phrases : List WideText) (c : CodePoint) : Prop where
  letter : isAsciiLetter c = false
  notMem : ∀ w ∈ phrases, c ∉ w

theorem Phrase.longest?_append_cons {phrases : List WideText} {c : CodePoint}
    (hc : ∀ w ∈ phrases, c ∉ w) (x y : WideText) :
    longest? phrases (x ++ c :: y) = longest? phrases x := by
  have hfilter : phrases.filter (fun w => !w.isEmpty && w.isPrefixOf (x ++ c :: y))
      = phrases.filter fun w => !w.isEmpty && w.isPrefixOf x := by
    refine List.filter_congr fun w hw => ?_
    rw [Bool.eq_iff_iff, Bool.and_eq_true, Bool.and_eq_true, List.isPrefixOf_iff_prefix,
      List.isPrefixOf_iff_prefix, prefix_append_cons_iff (hc w hw)]
  rw [longest?, longest?, hfilter]

theorem CodePoint.eq_of_isLineBreak {c : CodePoint} (h : isLineBreak c = true) :
    c = .char '\n' ∨ c = .char '\r' := by
  rcases c with c | n
  · simpa [isLineBreak, is, Text.isLineBreak] using h
  · cases h

/-- Line breaks separate, as no useful text holds one. -/
theorem Phrase.separates_of_isLineBreak (values : List Json) {c : CodePoint}
    (hc : isLineBreak c = true) : Separates (collect values) c := by
  refine ⟨?_, fun w hw hmem => ?_⟩
  · rcases CodePoint.eq_of_isLineBreak hc with rfl | rfl <;> decide
  · have huseful := (List.mem_filter.1 (mem_collect.1 hw)).2
    have hno : ∀ d ∈ w, isLineBreak d = false := by
      simp only [isUseful, Bool.and_eq_true, Bool.not_eq_true', List.any_eq_false] at huseful
      simpa using huseful.1.1.2
    rw [hno c hmem] at hc
    cases hc

namespace Replacer

open Phrasebook.Replacer.Part

/-! ## What is due beside a separator -/

section Due

variable {phrases : List WideText} {gloss? : WideText → Option WideText}

/-- What is due depends on the character before only so far as it is an ASCII letter or not. -/
theorem dueBehind_of_before {before before' : Option CodePoint}
    (h : before.any isAsciiLetter = before'.any isAsciiLetter) (x : WideText) :
    dueBehind phrases gloss? before x = dueBehind phrases gloss? before' x := by
  rw [dueBehind, dueBehind, h]

theorem parts_of_before {before before' : Option CodePoint}
    (h : before.any isAsciiLetter = before'.any isAsciiLetter) (x : WideText) :
    parts (dueBehind phrases gloss?) before x = parts (dueBehind phrases gloss?) before' x := by
  rcases x with _ | ⟨c, x⟩
  · rw [parts_nil, parts_nil]
  · rw [parts, parts, dueBehind_of_before h]

variable {c : CodePoint} (hc : Phrase.Separates phrases c)

include hc

/-- What is due in front of a separator is what would be due if the text ended there. -/
theorem dueBehind_append_separator (before : Option CodePoint) (x y : WideText) :
    dueBehind phrases gloss? before (x ++ c :: y) = dueBehind phrases gloss? before x := by
  rw [dueBehind, dueBehind, Phrase.longest?_append_cons hc.notMem]
  rcases hlongest : Phrase.longest? phrases x with _ | w
  · rfl
  · obtain ⟨-, -, hpre, -⟩ := Phrase.of_longest? hlongest
    have hnext : (x ++ c :: y)[w.length]?.any isAsciiLetter
        = x[w.length]?.any isAsciiLetter := by
      rcases Nat.eq_or_lt_of_le hpre.length_le with heq | hlt
      · rw [heq, List.getElem?_append_right (Nat.le_refl _), Nat.sub_self,
          List.getElem?_eq_none (Nat.le_refl _)]
        simp [hc.letter]
      · rw [List.getElem?_append_left hlt]
    simp only [hnext]

theorem parts_append_separator (before : Option CodePoint) (a b : WideText) :
    parts (dueBehind phrases gloss?) before (a ++ c :: b)
      = parts (dueBehind phrases gloss?) before a
        ++ copied c :: parts (dueBehind phrases gloss?) none b := by
  have hend : ∀ before, parts (dueBehind phrases gloss?) before (c :: b)
      = copied c :: parts (dueBehind phrases gloss?) none b := by
    intro before
    have hbefore : (some c).any isAsciiLetter = (none : Option CodePoint).any isAsciiLetter := by
      simp [hc.letter]
    rw [parts_of_none (dueBehind_cons_eq_none hc.notMem _ _ _), parts_of_before hbefore]
  induction before, a using parts_induction (begins_dueBehind phrases gloss?) with
  | nil before => rw [parts_nil, List.nil_append, List.nil_append, hend]
  | copied before d a hnone ih =>
    have hnone' : dueBehind phrases gloss? before (d :: (a ++ c :: b)) = none :=
      (dueBehind_append_separator hc before (d :: a) b).trans hnone
    rw [List.cons_append, parts_of_none hnone', parts_of_none hnone, ih, List.cons_append]
  | replaced before w gloss a hne hsome ih =>
    have hsome' : dueBehind phrases gloss? before (w ++ (a ++ c :: b)) = some (w, gloss) := by
      rw [← List.append_assoc, dueBehind_append_separator hc, hsome]
    rw [List.append_assoc, parts_of_some hne hsome', parts_of_some hne hsome, ih,
      List.cons_append]

end Due

/-! ## What is found beside a separator -/

theorem replacements_shift (n : Nat) : ∀ (ps : List Part) (start : Nat),
    replacements (start + n) ps = (replacements start ps).map (·.shift n)
  | [], _ => rfl
  | copied _ :: ps, start => by
    rw [replacements, replacements, ← replacements_shift n ps, Nat.add_right_comm]
  | replaced w gloss :: ps, start => by
    rw [replacements, replacements, List.map_cons, ← replacements_shift n ps,
      Nat.add_right_comm start n]
    rfl

section Separator

variable {r : Replacer} {phrases : List WideText} (hr : r.scanner = .ofPhrases phrases)
  (hguard : r.guard = .wholeWords) {c : CodePoint} (hc : Phrase.Separates phrases c)
  (a b : WideText)

include hr hguard hc

theorem find_separator : r.find (a ++ c :: b)
    = r.find a ++ (r.find b).map (·.shift (a.length + 1)) := by
  simp only [find_eq_parts hr hguard]
  rw [parts_append_separator hc, replacements_append, replacements,
    sources_parts (begins_dueBehind phrases r.gloss?), Nat.zero_add, ← replacements_shift,
    Nat.zero_add]

theorem replace_separator : r.replace (a ++ c :: b)
    = ((r.replace a).1 ++ c :: (r.replace b).1, (r.replace a).2 + (r.replace b).2) := by
  simp only [replace_eq_parts hr hguard]
  rw [find_separator hr hguard hc, parts_append_separator hc, results_append, results_copied,
    List.length_append, List.length_map]

end Separator

/-- If line breaks separate, the lines of a text are replaced one by one. -/
theorem replace_eq_mapLines {r : Replacer} {phrases : List WideText}
    (hr : r.scanner = .ofPhrases phrases) (hguard : r.guard = .wholeWords)
    (hbreak : ∀ c, isLineBreak c = true → Phrase.Separates phrases c) :
    ∀ t line : WideText, (r.replace (line.reverse ++ t)).1
      = WideText.mapLines (fun line => (r.replace line).1) t line
  | [], line => by rw [List.append_nil, WideText.mapLines]
  | c :: t, line => by
    rw [WideText.mapLines]
    split_ifs with hc
    · rw [replace_separator hr hguard (hbreak c hc),
        ← replace_eq_mapLines hr hguard hbreak t []]
      rfl
    · rw [← replace_eq_mapLines hr hguard hbreak t (c :: line), List.reverse_cons,
        List.append_assoc, List.singleton_append]

/-- What is found in a text with a separator in it is what is found before it and, moved to where it
stands, what is found behind it, and the text is replaced part by part. So the lines of a text are
replaced one by one, if the phrases are those of a vocabulary. -/
theorem find_append_separator (glosses : WideText → Option WideText) :
    (∀ (phrases : List WideText) (c : CodePoint), isAsciiLetter c = false → (∀ w ∈ phrases, c ∉ w) →
        ∀ a b : WideText,
          let r : Replacer := { scanner := .ofPhrases phrases, glosses }
          r.find (a ++ c :: b) = r.find a ++ (r.find b).map (·.shift (a.length + 1))
            ∧ r.replace (a ++ c :: b)
              = ((r.replace a).1 ++ c :: (r.replace b).1, (r.replace a).2 + (r.replace b).2))
      ∧ ∀ (values : List Json) (text : WideText),
        let r : Replacer := { scanner := .ofPhrases (Phrase.collect values), glosses }
        (r.replace text).1 = WideText.mapLines (fun line => (r.replace line).1) text := by
  constructor
  · intro phrases c hletter hnotMem a b r
    have hc : Phrase.Separates phrases c := ⟨hletter, hnotMem⟩
    exact ⟨find_separator rfl rfl hc a b, replace_separator rfl rfl hc a b⟩
  · intro values text r
    exact replace_eq_mapLines rfl rfl (fun _ => Phrase.separates_of_isLineBreak values) text []

/-- Two words with only a comma between them. -/
theorem find_append_separator_comma :
    let phrases := [.ofString "Orokin Vault", .ofString "Orokin", .ofString "Vault"]
    let glosses : WideText → Option WideText := fun w =>
      if w = .ofString "Vault" then some (.ofString "库") else some (.ofString "奥罗金")
    let r : Replacer := { scanner := .ofPhrases phrases, glosses }
    isAsciiLetter (.char ',') = false ∧ (∀ w ∈ phrases, .char ',' ∉ w)
      ∧ r.find (.ofString "an Orokin,Vault")
        = [⟨3, 9, .ofString "Orokin", .ofString "奥罗金"⟩, ⟨10, 15, .ofString "Vault", .ofString "库"⟩]
      ∧ r.replace (.ofString "an Orokin,Vault") = (.ofString "an 奥罗金,库", 2) := by
  intro phrases glosses r
  have hletter : isAsciiLetter (.char ',') = false := by decide
  have hnotMem : ∀ w ∈ phrases, .char ',' ∉ w := by decide
  have hleft : r.find (.ofString "an Orokin") = [⟨3, 9, .ofString "Orokin", .ofString "奥罗金"⟩] := by
    rw [find_eq_parts rfl rfl]
    decide +kernel
  have hright : r.find (.ofString "Vault") = [⟨0, 5, .ofString "Vault", .ofString "库"⟩] := by
    rw [find_eq_parts rfl rfl]
    decide +kernel
  obtain ⟨hfind, hreplace⟩ := (find_append_separator glosses).1 phrases (.char ',') hletter hnotMem
    (.ofString "an Orokin") (.ofString "Vault")
  refine ⟨hletter, hnotMem, hfind.trans ?_, hreplace.trans ?_⟩
  · rw [hleft, hright]
    rfl
  · rw [replace, replace, hleft, hright]
    decide

end Replacer

end Phrasebook
