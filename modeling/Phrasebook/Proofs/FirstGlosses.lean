import Phrasebook.Proofs.Reordering
import Mathlib.Data.List.Forall2
import Mathlib.Data.List.Induction

/-!
# Which identifier a gloss comes from

An identifier gives a phrase a gloss if the phrase stands under it in one vocabulary, and in the
other a text that is neither empty nor the phrase. A glossary of two vocabularies holds the phrases
that some identifier gives a gloss, each with what the first of these identifiers gives, and in the
order of these identifiers (`ofVocabularies_firsts`). Identifiers that give nothing do not count,
wherever they stand. One entry more at the end of a list of pairs adds its pair at the end of the
table, or nothing if the key is there (`firsts_concat`), so the order is shown by induction from
the end of the vocabulary.
-/

namespace Phrasebook

namespace Keyed

variable {α ι : Type}

theorem firstsAfter_concat (e : WideText × α) : ∀ (es : List (WideText × α))
    (seen : Std.HashSet WideText) (kept : List (WideText × α)), firstsAfter seen kept (es ++ [e])
      = firstsAfter seen kept es ++ if e.1 ∈ seen ∨ e.1 ∈ es.map Prod.fst then [] else [e]
  | [], seen, kept => by
    by_cases h : e.1 ∈ seen <;> simp [firstsAfter, h]
  | e' :: es, seen, kept => by
    rw [List.cons_append, firstsAfter, firstsAfter]
    by_cases h : seen.contains e'.1 = true
    · have hseen : e.1 ∈ seen ∨ e.1 ∈ es.map Prod.fst
          ↔ e.1 ∈ seen ∨ e.1 ∈ (e' :: es).map Prod.fst := by
        have := Std.HashSet.mem_iff_contains.2 h
        grind
      rw [if_pos h, if_pos h, firstsAfter_concat e es]
      simp only [hseen]
    · have hseen : e.1 ∈ seen.insert e'.1 ∨ e.1 ∈ es.map Prod.fst
          ↔ e.1 ∈ seen ∨ e.1 ∈ (e' :: es).map Prod.fst := by
        grind
      rw [if_neg h, if_neg h, firstsAfter_concat e es]
      simp only [hseen]

theorem firsts_concat (es : List (WideText × α)) (e : WideText × α) :
    firsts (es ++ [e]) = firsts es ++ if e.1 ∈ es.map Prod.fst then [] else [e] := by
  have hseen : e.1 ∈ (∅ : Std.HashSet WideText) ∨ e.1 ∈ es.map Prod.fst
      ↔ e.1 ∈ es.map Prod.fst := by
    simp [Std.HashSet.not_mem_empty]
  rw [firsts, firstsAfter_concat, firsts]
  simp only [hseen]

/-- If no key comes twice, nothing is left out. -/
theorem firsts_of_nodup {entries : List (WideText × α)} (h : (entries.map Prod.fst).Nodup) :
    firsts entries = entries := by
  induction entries using List.reverseRecOn with
  | nil => rfl
  | append_singleton es e ih =>
    rw [List.map_append, List.nodup_append] at h
    obtain ⟨hes, -, hapart⟩ := h
    have hnew : e.1 ∉ es.map Prod.fst := fun hmem => hapart e.1 hmem e.1 (by simp) rfl
    rw [firsts_concat, if_neg hnew, ih hes]

theorem entries_ofLasts {pairs : List (WideText × α)} (h : (pairs.map Prod.fst).Nodup) :
    (ofLasts pairs).entries = pairs := by
  have hlast : pairs.map (fun p => (p.1, (indexOf pairs.reverse)[p.1]?.getD p.2)) = pairs := by
    have hreverse : (pairs.reverse.map Prod.fst).Nodup := by
      rwa [List.map_reverse, List.nodup_reverse]
    refine (List.map_congr_left fun p hp => ?_).trans (List.map_id pairs)
    rw [indexOf_eq, (lookup_eq_some_iff_mem hreverse).2 (List.mem_reverse.2 hp)]
    rfl
  show firsts _ = pairs
  rw [hlast, firsts_of_nodup h]

/-- The first entries come from members of the list in order, each from the first with its key. -/
theorem exists_firsts_filterMap (f : ι → Option (WideText × α)) (xs : List ι) :
    ∃ kept, kept.Sublist xs ∧ List.Forall₂ (fun x e => f x = some e ∧ ∃ before after,
      xs = before ++ x :: after ∧ ∀ y ∈ before, ∀ a, f y ≠ some (e.1, a))
        kept (firsts (xs.filterMap f)) := by
  induction xs using List.reverseRecOn with
  | nil => exact ⟨[], .slnil, .nil⟩
  | append_singleton xs x ih =>
    obtain ⟨kept, hsub, hkept⟩ := ih
    have hlonger := hkept.imp (S := fun y e => f y = some e ∧ ∃ before after,
        xs ++ [x] = before ++ y :: after ∧ ∀ z ∈ before, ∀ a, f z ≠ some (e.1, a)) (by
      rintro y e ⟨hy, before, after, rfl, hbefore⟩
      exact ⟨hy, before, after ++ [x], by simp, hbefore⟩)
    rw [List.filterMap_append]
    rcases hx : f x with _ | e
    · refine ⟨kept, hsub.trans (List.sublist_append_left xs [x]), ?_⟩
      simpa [hx] using hlonger
    · rw [List.filterMap_cons_some hx, List.filterMap_nil, firsts_concat]
      by_cases hmem : e.1 ∈ (xs.filterMap f).map Prod.fst
      · refine ⟨kept, hsub.trans (List.sublist_append_left xs [x]), ?_⟩
        simpa [hmem] using hlonger
      · rw [if_neg hmem]
        refine ⟨kept ++ [x], hsub.append (List.Sublist.refl [x]), ?_⟩
        refine List.rel_append hlonger (.cons ⟨hx, xs, [], rfl, ?_⟩ .nil)
        intro y hy a hya
        exact hmem (List.mem_map.2 ⟨_, List.mem_filterMap.2 ⟨y, hy, hya⟩, rfl⟩)

end Keyed

namespace Glossary

variable {source target : Vocabulary} {i phrase gloss : WideText}

/-- An identifier gives a phrase a gloss. -/
def Gives (source target : Vocabulary) (i phrase gloss : WideText) : Prop :=
  source.get? i = some (.text phrase) ∧ target.get? i = some (.text gloss)
    ∧ phrase ≠ [] ∧ gloss ≠ [] ∧ gloss ≠ phrase

/-- An identifier gives a phrase a gloss, and no identifier before it gives the phrase any. -/
def GivesFirst (source target : Vocabulary) (i phrase gloss : WideText) : Prop :=
  Gives source target i phrase gloss ∧ ∃ before after,
    source.entries = before ++ (i, .text phrase) :: after
      ∧ ∀ e ∈ before, ∀ g, ¬ Gives source target e.1 phrase g

theorem isGloss_iff :
    isGloss (phrase, gloss) = true ↔ phrase ≠ [] ∧ gloss ≠ [] ∧ gloss ≠ phrase := by
  simp [isGloss, and_assoc]

/-- What an entry of a vocabulary says about a phrase is what its identifier gives the phrase. -/
theorem said?_iff_gives {e : WideText × Json} (he : e ∈ source.entries) :
    said? target phrase e = some gloss ↔ Gives source target e.1 phrase gloss := by
  have hvalue : source.get? e.1 = some e.2 := source.get?_eq_some_iff_mem.2 he
  rw [said?_eq_some, isGloss_iff, Gives, hvalue, Option.some.injEq]

/-- The entry for a glossary that an entry of a vocabulary makes, if it says anything. -/
def offer? (target : Vocabulary) (e : WideText × Json) : Option (WideText × WideText) :=
  (pairing? target e).filter isGloss

theorem offer?_iff_said? {e : WideText × Json} :
    offer? target e = some (phrase, gloss) ↔ said? target phrase e = some gloss := by
  have hpairing : pairing? target e = some (phrase, gloss)
      ↔ e.2.text? = some phrase ∧ (target.get? e.1).bind Value.text? = some gloss := by
    rw [pairing?]
    rcases e.2.text? with _ | w <;> rcases (target.get? e.1).bind Value.text? with _ | g <;> simp
  rw [offer?, Option.filter_eq_some_iff, said?_eq_some, hpairing, Option.bind_eq_some_iff]
  simp only [Value.text?_eq_some, exists_eq_right, and_assoc]

theorem entries_ofVocabularies (source target : Vocabulary) :
    (ofVocabularies source target).entries
      = Keyed.firsts (source.entries.filterMap (offer? target)) := by
  show Keyed.firsts _ = _
  rw [List.filter_filterMap]
  rfl

theorem get?_eq_some_iff_givesFirst : (ofVocabularies source target).get? phrase = some gloss
    ↔ ∃ i, GivesFirst source target i phrase gloss := by
  rw [get?_ofVocabularies, first?, List.findSome?_eq_some_iff]
  constructor
  · rintro ⟨before, ⟨i, v⟩, after, hentries, hsaid, hbefore⟩
    obtain ⟨rfl, -⟩ := said?_eq_some.1 hsaid
    refine ⟨i, (said?_iff_gives (by simp [hentries])).1 hsaid, before, after, hentries, ?_⟩
    intro e he g hgives
    rw [← said?_iff_gives (by simp [hentries, he]), hbefore e he] at hgives
    cases hgives
  · rintro ⟨i, hgives, before, after, hentries, hbefore⟩
    refine ⟨before, (i, .text phrase), after, hentries, ?_, ?_⟩
    · exact (said?_iff_gives (by simp [hentries])).2 hgives
    · intro e he
      refine Option.eq_none_iff_forall_ne_some.2 fun g hsaid => hbefore e he g ?_
      exact (said?_iff_gives (by simp [hentries, he])).1 hsaid

theorem isSome_get?_iff_gives : ((ofVocabularies source target).get? phrase).isSome = true
    ↔ ∃ i gloss, Gives source target i phrase gloss := by
  rw [get?_ofVocabularies, first?, List.findSome?_isSome_iff]
  constructor
  · rintro ⟨⟨i, v⟩, he, hsome⟩
    obtain ⟨gloss, hsaid⟩ := Option.isSome_iff_exists.1 hsome
    exact ⟨i, gloss, (said?_iff_gives he).1 hsaid⟩
  · rintro ⟨i, gloss, hgives⟩
    have he := source.get?_eq_some_iff_mem.1 hgives.1
    exact ⟨_, he, Option.isSome_iff_exists.2 ⟨gloss, (said?_iff_gives he).2 hgives⟩⟩

/-- The entries of a glossary stand in the order of the identifiers they come from. -/
theorem exists_identifiers (source target : Vocabulary) :
    ∃ identifiers, identifiers.Sublist (source.entries.map Prod.fst)
      ∧ List.Forall₂ (fun i e => GivesFirst source target i e.1 e.2) identifiers
        (ofVocabularies source target).entries := by
  obtain ⟨kept, hsub, hkept⟩ := Keyed.exists_firsts_filterMap (offer? target) source.entries
  rw [entries_ofVocabularies]
  refine ⟨kept.map Prod.fst, hsub.map Prod.fst, List.forall₂_map_left_iff.2 (hkept.imp ?_)⟩
  rintro ⟨i, v⟩ ⟨phrase, gloss⟩ ⟨hoffer, before, after, hentries, hbefore⟩
  have hsaid := offer?_iff_said?.1 hoffer
  obtain ⟨rfl, -⟩ := said?_eq_some.1 hsaid
  refine ⟨(said?_iff_gives (by simp [hentries])).1 hsaid, before, after, hentries, ?_⟩
  intro e he g hgives
  rw [← said?_iff_gives (by simp [hentries, he]), ← offer?_iff_said?] at hgives
  exact hbefore e he g hgives

theorem eq_of_table_eq : ∀ {g h : Glossary}, g.table = h.table → g = h
  | ⟨_, _⟩, ⟨_, _⟩, rfl => rfl

/-- A glossary made from the entries of a glossary is the same. -/
theorem ofEntries_entries (pairs : List (WideText × WideText)) :
    ofEntries (ofEntries pairs).entries = ofEntries pairs := by
  have hfilter : (ofEntries pairs).entries.filter isGloss = (ofEntries pairs).entries :=
    List.filter_eq_self.2 (ofEntries pairs).meaningful
  have hfirsts : Keyed.firsts (ofEntries pairs).entries = (ofEntries pairs).entries :=
    Keyed.firsts_of_nodup (ofEntries pairs).table.keys_nodup
  apply eq_of_table_eq
  calc (ofEntries (ofEntries pairs).entries).table
      = Keyed.ofFirsts ((ofEntries pairs).entries.filter isGloss) := rfl
    _ = Keyed.ofFirsts (ofEntries pairs).entries := by rw [hfilter]
    _ = (ofEntries pairs).table := by
      simp only [Keyed.ofFirsts, hfirsts]
      rfl

/-- A glossary of two vocabularies holds the phrases that some identifier gives a gloss, each with
what the first such identifier gives it, in the order of these identifiers; and it is the glossary
of its own entries. -/
theorem ofVocabularies_firsts (source target : Vocabulary) :
    (∀ phrase, ((ofVocabularies source target).get? phrase).isSome = true
      ↔ ∃ i gloss, Gives source target i phrase gloss)
    ∧ (∀ phrase gloss, (ofVocabularies source target).get? phrase = some gloss
      ↔ ∃ i, GivesFirst source target i phrase gloss)
    ∧ (∃ identifiers, identifiers.Sublist (source.entries.map Prod.fst)
      ∧ List.Forall₂ (fun i e => GivesFirst source target i e.1 e.2) identifiers
        (ofVocabularies source target).entries)
    ∧ ofEntries (ofVocabularies source target).entries = ofVocabularies source target :=
  ⟨fun _ => isSome_get?_iff_gives, fun _ _ => get?_eq_some_iff_givesFirst,
    exists_identifiers source target, ofEntries_entries _⟩

end Glossary

end Phrasebook
