import Phrasebook.Text.Wide
import Std.Data.HashMap
import Std.Data.HashSet

/-!
# Keyed tables

A keyed table holds at most one value for each key and keeps its entries in order. It is built from
a list of pairs in one of two ways: the first value of a key wins, or the last one does; the key
stands where it first appeared in both. A look-up goes through a hash index that agrees with the
entries.
-/

namespace Phrasebook

structure Keyed (α : Type) where
  entries : List (WideText × α)
  index : Std.HashMap WideText α
  index_eq : ∀ k, index[k]? = entries.lookup k
  keys_nodup : (entries.map Prod.fst).Nodup

namespace Keyed

variable {α : Type}

/-- Among entries with different keys a key has the value that stands beside it. -/
theorem lookup_eq_some_iff_mem {κ : Type} [BEq κ] [LawfulBEq κ] {k : κ} {a : α} :
    ∀ {entries : List (κ × α)}, (entries.map Prod.fst).Nodup →
      (entries.lookup k = some a ↔ (k, a) ∈ entries)
  | [], _ => by simp
  | e :: es, h => by
    obtain ⟨hnot, hnodup⟩ := List.nodup_cons.1 h
    have ih := lookup_eq_some_iff_mem (k := k) (a := a) hnodup
    rw [List.lookup_cons, List.mem_cons]
    by_cases hk : k = e.1
    · subst hk
      have hout : (e.1, a) ∉ es := fun hmem => hnot (List.mem_map.2 ⟨_, hmem, rfl⟩)
      simp [hout, Prod.ext_iff, eq_comm]
    · simp [beq_eq_false_iff_ne.2 hk, ih, Prod.ext_iff, hk]

/-- The first entry of each key, in order, that is not among the keys seen; `kept` holds those
found before, last one first. -/
def firstsAfter (seen : Std.HashSet WideText) (kept : List (WideText × α)) :
    List (WideText × α) → List (WideText × α)
  | [] => kept.reverse
  | e :: es =>
    if seen.contains e.1 then firstsAfter seen kept es
    else firstsAfter (seen.insert e.1) (e :: kept) es

/-- The first entry of each key, in order. -/
def firsts (entries : List (WideText × α)) : List (WideText × α) :=
  firstsAfter ∅ [] entries

theorem nodup_firstsAfter : ∀ (entries : List (WideText × α)) (seen : Std.HashSet WideText)
    (kept : List (WideText × α)), (kept.map Prod.fst).Nodup → (∀ e ∈ kept, e.1 ∈ seen) →
      ((firstsAfter seen kept entries).map Prod.fst).Nodup
  | [], _, kept, hn, _ => by
    rw [firstsAfter, List.map_reverse]
    exact (List.reverse_perm _).nodup_iff.2 hn
  | e :: es, seen, kept, hn, hs => by
    rw [firstsAfter]
    split
    · exact nodup_firstsAfter es seen kept hn hs
    · rename_i h
      refine nodup_firstsAfter es _ _ (List.nodup_cons.2 ⟨fun hm => h ?_, hn⟩) fun e' he' => ?_
      · obtain ⟨e', he', heq⟩ := List.mem_map.1 hm
        exact heq ▸ hs e' he'
      · rcases List.mem_cons.1 he' with rfl | he'
        · simp
        · simp [hs e' he']

theorem nodup_firsts (entries : List (WideText × α)) : ((firsts entries).map Prod.fst).Nodup :=
  nodup_firstsAfter entries ∅ [] (by simp) (by simp)

theorem mem_of_mem_firstsAfter {e : WideText × α} : ∀ {entries : List (WideText × α)}
    {seen : Std.HashSet WideText} {kept : List (WideText × α)},
    e ∈ firstsAfter seen kept entries → e ∈ kept ∨ e ∈ entries
  | [], _, kept, h => by
    rw [firstsAfter] at h
    exact .inl (List.mem_reverse.1 h)
  | e' :: es, seen, kept, h => by
    rw [firstsAfter] at h
    split at h
    · rcases mem_of_mem_firstsAfter h with h | h
      · exact .inl h
      · exact .inr (List.mem_cons_of_mem _ h)
    · rcases mem_of_mem_firstsAfter h with h | h
      · rcases List.mem_cons.1 h with rfl | h
        · exact .inr List.mem_cons_self
        · exact .inl h
      · exact .inr (List.mem_cons_of_mem _ h)

/-- The index of a list of entries, in which the first value of a key wins. -/
def indexOf (entries : List (WideText × α)) : Std.HashMap WideText α :=
  entries.foldr (fun e index => index.insert e.1 e.2) ∅

theorem indexOf_eq (k : WideText) : ∀ entries : List (WideText × α),
    (indexOf entries)[k]? = entries.lookup k
  | [] => by simp [indexOf]
  | e :: es => by
    have ih := indexOf_eq k es
    rw [indexOf] at ih ⊢
    rw [List.foldr_cons, Std.HashMap.getElem?_insert, ih, List.lookup_cons]
    by_cases h : e.1 = k
    · simp [h]
    · simp [h, beq_eq_false_iff_ne.2 (Ne.symm h)]

/-- The table in which the first value of a key wins. -/
def ofFirsts (pairs : List (WideText × α)) : Keyed α where
  entries := firsts pairs
  index := indexOf (firsts pairs)
  index_eq k := indexOf_eq k (firsts pairs)
  keys_nodup := nodup_firsts pairs

/-- The table in which the last value of a key wins. -/
def ofLasts (pairs : List (WideText × α)) : Keyed α :=
  let last := indexOf pairs.reverse
  ofFirsts (pairs.map fun p => (p.1, last[p.1]?.getD p.2))

def get? (t : Keyed α) (k : WideText) : Option α :=
  t.index[k]?

@[simp]
theorem get?_eq (t : Keyed α) (k : WideText) : t.get? k = t.entries.lookup k :=
  t.index_eq k

def size (t : Keyed α) : Nat :=
  t.entries.length

def values (t : Keyed α) : List α :=
  t.entries.map Prod.snd

end Keyed

end Phrasebook
