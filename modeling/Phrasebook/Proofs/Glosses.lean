import Phrasebook.Glossary
import Mathlib.Data.List.Basic
import Mathlib.Tactic.SplitIfs

/-!
# What a glossary says

The first entries of a list of pairs give each key what the list gives it (`lookup_firsts`). So what
a glossary of two vocabularies says about a phrase is what the first identifier of the phrase says
that says anything (`get?_ofVocabularies`).
-/

namespace Phrasebook

namespace Keyed

variable {α : Type}

/-- Leaving out what comes later under a key changes no look-up. -/
theorem lookup_firstsAfter (k : WideText) : ∀ (entries : List (WideText × α))
    (seen : Std.HashSet WideText)
    (kept : List (WideText × α)), (∀ l, l ∈ seen → l ∈ kept.map Prod.fst) →
      (firstsAfter seen kept entries).lookup k = (kept.reverse ++ entries).lookup k
  | [], _, kept, _ => by rw [firstsAfter, List.append_nil]
  | e :: es, seen, kept, hseen => by
    rw [firstsAfter]
    split_ifs with h
    · rw [lookup_firstsAfter k es seen kept hseen, List.lookup_append, List.lookup_append,
        List.lookup_cons]
      by_cases hk : k == e.1
      · have hmem : ((kept.reverse).lookup k).isSome = true := by
          obtain ⟨e', he', heq⟩ := List.mem_map.1 (hseen e.1 (Std.HashSet.mem_iff_contains.2 h))
          refine List.lookup_isSome_iff.2 ⟨e', List.mem_reverse.2 he', ?_⟩
          rw [heq]
          exact hk
        obtain ⟨a, ha⟩ := Option.isSome_iff_exists.1 hmem
        simp only [ha, Option.some_or]
      · simp only [hk]
    · rw [lookup_firstsAfter k es _ (e :: kept), List.reverse_cons, List.append_assoc]
      · rfl
      · intro l hl
        rcases Std.HashSet.mem_insert.1 hl with heq | hl
        · rw [← eq_of_beq heq]
          exact List.mem_cons_self
        · exact List.mem_cons_of_mem _ (hseen l hl)

theorem lookup_firsts (entries : List (WideText × α)) (k : WideText) :
    (firsts entries).lookup k = entries.lookup k := by
  rw [firsts, lookup_firstsAfter k entries ∅ [] (by simp)]
  rfl

theorem get?_ofFirsts (pairs : List (WideText × α)) (k : WideText) :
    (ofFirsts pairs).get? k = pairs.lookup k := by
  rw [get?_eq]
  exact lookup_firsts pairs k

end Keyed

namespace Glossary

/-- What an entry of a vocabulary says about a phrase, if it is an entry of the phrase. -/
def said? (target : Vocabulary) (phrase : WideText) (e : WideText × Json) : Option WideText :=
  if e.2.text? = some phrase then
    ((target.entries.lookup e.1).bind Value.text?).filter fun gloss => isGloss (phrase, gloss)
  else none

/-- What the first entry says about a phrase that says anything. -/
def first? (source target : Vocabulary) (phrase : WideText) : Option WideText :=
  source.entries.findSome? (said? target phrase)

theorem lookup_pairings (target : Vocabulary) (phrase : WideText) :
    ∀ entries : List (WideText × Json),
    ((entries.filterMap (pairing? target)).filter isGloss).lookup phrase
      = entries.findSome? (said? target phrase)
  | [] => rfl
  | e :: es => by
    have ih := lookup_pairings target phrase es
    rw [List.findSome?_cons, List.filterMap_cons, said?, pairing?, Keyed.get?_eq]
    rcases e.2.text? with _ | w
    · simpa using ih
    · rcases (target.entries.lookup e.1).bind Value.text? with _ | gloss
      · simpa using ih
      · by_cases hg : isGloss (w, gloss) = true
        · simp only [List.filter_cons_of_pos hg, List.lookup_cons, Option.some.injEq]
          by_cases hw : w = phrase
          · subst hw
            simp [Option.filter_some, hg]
          · have hne : (phrase == w) = false := by simpa using Ne.symm hw
            simpa [hw, hne] using ih
        · simp only [List.filter_cons_of_neg hg, Option.some.injEq]
          by_cases hw : w = phrase
          · subst hw
            simpa [Option.filter_some, hg] using ih
          · simpa [hw] using ih

/-- A phrase has the gloss that the first of its identifiers gives which gives any. -/
theorem get?_ofVocabularies (source target : Vocabulary) (phrase : WideText) :
    (ofVocabularies source target).get? phrase = first? source target phrase := by
  rw [get?, ofVocabularies, ofEntries, Keyed.get?_ofFirsts]
  exact lookup_pairings target phrase source.entries

/-- No gloss is empty. -/
theorem get?_ne_empty (g : Glossary) (phrase : WideText) : g.get? phrase ≠ some [] := by
  intro h
  rw [get?, Keyed.get?_eq, List.lookup_eq_some_iff] at h
  obtain ⟨before, after, heq, -⟩ := h
  have := g.meaningful (phrase, []) (by simp [heq])
  simp [isGloss] at this

end Glossary

end Phrasebook
