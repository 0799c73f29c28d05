import Phrasebook.Proofs.Glosses
import Phrasebook.Proofs.Phrases
import Phrasebook.Publication
import Mathlib.Data.List.Nodup

/-!
# The order of a vocabulary

A vocabulary says the same in whatever order its entries stand. The phrases to look for are sorted,
so they are the same in any order (`scannerOf_of_perm`), and so is the glossary in any order of the
vocabulary that the glosses come from (`ofVocabularies_of_perm`). The order of the vocabulary that
the phrases come from decides between identifiers of one phrase that have different glosses. If
there are no such identifiers, nothing depends on it either (`localize_of_perm`).
-/

namespace Phrasebook

namespace Keyed

variable {α : Type}

theorem get?_eq_some_iff_mem (t : Keyed α) {k : WideText} {a : α} :
    t.get? k = some a ↔ (k, a) ∈ t.entries := by
  rw [get?_eq, lookup_eq_some_iff_mem t.keys_nodup]

/-- Tables with the same entries in any order say the same. -/
theorem get?_of_perm {t t' : Keyed α} (h : t.entries.Perm t'.entries) (k : WideText) :
    t.get? k = t'.get? k := by
  refine Option.ext fun a => ?_
  rw [get?_eq_some_iff_mem, get?_eq_some_iff_mem, h.mem_iff]

/-- The table of a list of entries with distinct keys. -/
def ofDistinct (entries : List (WideText × α)) (h : (entries.map Prod.fst).Nodup) : Keyed α :=
  ⟨entries, indexOf entries, fun k => indexOf_eq k entries, h⟩

/-- Tables that say the same have the same entries. -/
theorem perm_of_get? {t t' : Keyed α} (h : ∀ k, t.get? k = t'.get? k) :
    t.entries.Perm t'.entries := by
  refine (List.perm_ext_iff_of_nodup (.of_map _ t.keys_nodup) (.of_map _ t'.keys_nodup)).2 ?_
  rintro ⟨k, a⟩
  rw [← get?_eq_some_iff_mem, ← get?_eq_some_iff_mem, h]

end Keyed

theorem Value.text?_eq_some {v : Json} {t : WideText} : v.text? = some t ↔ v = .text t := by
  rcases v with _ | _ | _ | _ | _ | _ | _ <;> simp [text?]

/-! ## Glosses -/

namespace Glossary

/-- Identifiers of one phrase have one gloss, as far as they have any. -/
def Unambiguous (source target : Vocabulary) : Prop :=
  ∀ (phrase : WideText) (i j g h : WideText), source.get? i = some (.text phrase) →
    source.get? j = some (.text phrase) → target.get? i = some (.text g) →
    target.get? j = some (.text h) → isGloss (phrase, g) = true → isGloss (phrase, h) = true → g = h

section Glosses

variable {source source' target target' : Vocabulary} {phrase gloss : WideText}

theorem said?_eq_some {e : WideText × Json} : said? target phrase e = some gloss ↔
    e.2 = .text phrase ∧ target.get? e.1 = some (.text gloss) ∧ isGloss (phrase, gloss) = true := by
  rw [said?, Keyed.get?_eq]
  split_ifs with h
  · rw [Option.filter_eq_some_iff, Option.bind_eq_some_iff]
    simp only [Value.text?_eq_some, exists_eq_right, Value.text?_eq_some.1 h, true_and]
  · simp only [Value.text?_eq_some.symm, h, false_and]

/-- If there is no choice between glosses, a phrase has the gloss of any of its identifiers. -/
theorem Unambiguous.get?_eq_some (h : Unambiguous source target) :
    (ofVocabularies source target).get? phrase = some gloss ↔ ∃ i,
      source.get? i = some (.text phrase) ∧ target.get? i = some (.text gloss)
        ∧ isGloss (phrase, gloss) = true := by
  have hsaid : ∀ g, first? source target phrase = some g → ∃ i,
      source.get? i = some (.text phrase) ∧ target.get? i = some (.text g)
        ∧ isGloss (phrase, g) = true := by
    intro g hg
    obtain ⟨⟨i, v⟩, hmem, hsaid⟩ := List.exists_of_findSome?_eq_some hg
    obtain ⟨rfl, hi, hgloss⟩ := said?_eq_some.1 hsaid
    exact ⟨i, source.get?_eq_some_iff_mem.2 hmem, hi, hgloss⟩
  rw [get?_ofVocabularies]
  refine ⟨hsaid gloss, ?_⟩
  rintro ⟨i, hi, hti, hgloss⟩
  rcases hfirst : first? source target phrase with _ | g
  · have hnone := List.findSome?_eq_none_iff.1 hfirst _ (source.get?_eq_some_iff_mem.1 hi)
    rw [said?_eq_some.2 ⟨rfl, hti, hgloss⟩] at hnone
    cases hnone
  · obtain ⟨j, hj, htj, hgloss'⟩ := hsaid g hfirst
    rw [h phrase j i g gloss hj hi htj hti hgloss' hgloss]

theorem Unambiguous.of_perm (h : Unambiguous source target)
    (hsource : source.entries.Perm source'.entries)
    (htarget : target.entries.Perm target'.entries) : Unambiguous source' target' := by
  intro phrase i j g g'
  rw [← Keyed.get?_of_perm hsource, ← Keyed.get?_of_perm hsource, ← Keyed.get?_of_perm htarget,
    ← Keyed.get?_of_perm htarget]
  exact h phrase i j g g'

/-- The order of the vocabulary that the glosses come from does not show. -/
theorem ofVocabularies_of_perm (source : Vocabulary)
    (htarget : target.entries.Perm target'.entries) :
    ofVocabularies source target = ofVocabularies source target' := by
  have hpairing : pairing? target = pairing? target' := by
    funext e
    rw [pairing?, pairing?, Keyed.get?_of_perm htarget]
  rw [ofVocabularies, ofVocabularies, hpairing]

theorem Unambiguous.get?_of_perm (h : Unambiguous source target)
    (hsource : source.entries.Perm source'.entries)
    (htarget : target.entries.Perm target'.entries) (phrase : WideText) :
    (ofVocabularies source target).get? phrase = (ofVocabularies source' target').get? phrase := by
  refine Option.ext fun gloss => ?_
  rw [h.get?_eq_some, (h.of_perm hsource htarget).get?_eq_some]
  simp only [Keyed.get?_of_perm hsource, Keyed.get?_of_perm htarget]

end Glosses

end Glossary

/-! ## Pages -/

theorem Publication.scannerOf_of_perm {source source' : Vocabulary}
    (h : source.entries.Perm source'.entries) : scannerOf source = scannerOf source' := by
  have hvalues : source.values.Perm source'.values := h.map Prod.snd
  rw [scannerOf, scannerOf, Phrase.collect_of_perm hvalues]

namespace Page

open Publication (scannerOf)

/-- The order of the entries of vocabularies does not show in the scanner, in the size of the
glossary and in any page, if there is no choice between glosses. The order of the vocabulary that
the glosses come from never does. -/
theorem localize_of_perm {source source' target target' : Vocabulary}
    (hsource : source.entries.Perm source'.entries)
    (htarget : target.entries.Perm target'.entries) :
    Glossary.ofVocabularies source target = Glossary.ofVocabularies source target'
      ∧ (Glossary.Unambiguous source target →
        scannerOf source = scannerOf source'
        ∧ (Glossary.ofVocabularies source target).size
          = (Glossary.ofVocabularies source' target').size
        ∧ ∀ (e : Html.Elements) (page : WideText),
          localize (scannerOf source) (.ofVocabularies source target) e page
            = localize (scannerOf source') (.ofVocabularies source' target') e page) := by
  refine ⟨Glossary.ofVocabularies_of_perm source htarget, fun h => ?_⟩
  have hscanner := Publication.scannerOf_of_perm hsource
  have hget := h.get?_of_perm hsource htarget
  refine ⟨hscanner, (Keyed.perm_of_get? hget).length_eq, fun e page => ?_⟩
  rw [localize, localize, funext hget, hscanner]

/-- Two identifiers of one phrase, the second of which has no gloss. -/
def rails : Vocabulary :=
  .ofDistinct [(.ofString "/a", .text (.ofString "Rail")),
    (.ofString "/b", .text (.ofString "Rail"))] (by decide)

def railsTurned : Vocabulary :=
  .ofDistinct [(.ofString "/b", .text (.ofString "Rail")),
    (.ofString "/a", .text (.ofString "Rail"))] (by decide)

def tracks : Vocabulary :=
  .ofDistinct [(.ofString "/a", .text (.ofString "Gleis")),
    (.ofString "/b", .text (.ofString "Rail"))] (by decide)

def tracksTurned : Vocabulary :=
  .ofDistinct [(.ofString "/b", .text (.ofString "Rail")),
    (.ofString "/a", .text (.ofString "Gleis"))] (by decide)

theorem unambiguous_rails : Glossary.Unambiguous rails tracks := by
  have hgloss : ∀ i phrase g : WideText, (i, Value.text phrase) ∈ rails.entries →
      (i, Value.text g) ∈ tracks.entries → isGloss (phrase, g) = true → g = .ofString "Gleis" := by
    intro i phrase g hi hg hgloss
    simp only [rails, tracks, Keyed.ofDistinct, List.mem_cons, Prod.mk.injEq, Value.text.injEq,
      List.not_mem_nil, or_false] at hi hg
    rcases hi with ⟨-, rfl⟩ | ⟨-, rfl⟩ <;> rcases hg with ⟨-, rfl⟩ | ⟨-, rfl⟩
    · rfl
    · exact absurd hgloss (by decide)
    · rfl
    · exact absurd hgloss (by decide)
  intro phrase i j g h hi hj hg hh hgood hgood'
  rw [Keyed.get?_eq_some_iff_mem] at hi hj hg hh
  rw [hgloss i phrase g hi hg hgood, hgloss j phrase h hj hh hgood']

theorem localize_of_perm_rails : rails.entries.Perm railsTurned.entries
    ∧ tracks.entries.Perm tracksTurned.entries ∧ Glossary.Unambiguous rails tracks
    ∧ scannerOf rails = scannerOf railsTurned
    ∧ localize (scannerOf rails) (.ofVocabularies rails tracks) .standard
        (.ofString "<td>Rail</td>")
      = localize (scannerOf railsTurned) (.ofVocabularies railsTurned tracksTurned) .standard
        (.ofString "<td>Rail</td>") := by
  have hsource : rails.entries.Perm railsTurned.entries := .swap _ _ _
  have htarget : tracks.entries.Perm tracksTurned.entries := .swap _ _ _
  have h := (localize_of_perm hsource htarget).2 unambiguous_rails
  exact ⟨hsource, htarget, unambiguous_rails, h.1, h.2.2 _ _⟩

end Page

end Phrasebook
