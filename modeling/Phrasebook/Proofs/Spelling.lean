import Phrasebook.Proofs.Fallback
import Mathlib.Data.Finset.Card
import Mathlib.Order.Interval.Finset.Nat

/-!
# Nodes by their texts

The text of a node is read off on the way up to the root. In a sound trie that is the text which
leads there (`Sound.reach?_text`), so of two nodes one is the other's child exactly if its text is
longer by the character (`Sound.child?_eq_some_iff`). The nodes of a trie made from phrases have as
their texts the empty one and those that begin a phrase, each once (`bijOn_text`), which also says
how many nodes there are (`size_eq_card`).
-/

namespace Phrasebook.Scanner

/-- The texts that begin one of the phrases, but for the empty text. -/
def beginnings (phrases : List WideText) : Finset WideText :=
  (phrases.flatMap List.inits).toFinset.erase []

theorem mem_beginnings {phrases : List WideText} {u : WideText} :
    u ∈ beginnings phrases ↔ u ≠ [] ∧ ∃ w ∈ phrases, u <+: w := by
  simp [beginnings]

theorem mem_insert_beginnings {phrases : List WideText} {u : WideText} :
    u ∈ insert [] (beginnings phrases) ↔ u = [] ∨ ∃ w ∈ phrases, u <+: w := by
  rw [Finset.mem_insert, mem_beginnings]
  tauto

namespace Trie

/-- The labels met on so many steps up from a node, the last one first. -/
def climb (t : Trie) : (steps : Nat) → (n : Nat) → WideText
  | 0, _ => []
  | steps + 1, n => match t.nodes[n]? with
    | none => []
    | some node => t.climb steps node.parent ++ [node.label]

/-- The text that a node spells. -/
def text (t : Trie) (n : Nat) : WideText :=
  t.climb (t.depth n) n

namespace Sound

variable {t : Trie} (ht : t.Sound)

include ht

theorem climb_of_reach? : ∀ (u : WideText) {n : Nat}, t.reach? 0 u = some n →
    t.climb u.length n = u := by
  intro u
  induction u using List.reverseRecOn with
  | nil => exact fun _ => rfl
  | append_singleton u c ih =>
    intro n h
    obtain ⟨node, hnode⟩ : ∃ node, t.nodes[n]? = some node :=
      ⟨_, Array.getElem?_eq_getElem (ht.reach?_lt h)⟩
    obtain ⟨hp, hl⟩ := ht.parent_of_reach? h hnode
    simp only [List.length_append, List.length_singleton, climb, hnode]
    rw [ih hp, hl]

theorem text_of_reach? {u : WideText} {n : Nat} (h : t.reach? 0 u = some n) : t.text n = u := by
  rw [text, ht.depth_of_reach? u h, ht.climb_of_reach? u h]

theorem reach?_text {n : Nat} (hn : n < t.size) : t.reach? 0 (t.text n) = some n := by
  obtain ⟨u, hu⟩ := ht.exists_reach? n hn
  rw [ht.text_of_reach? hu, hu]

theorem reach?_eq_some_iff {u : WideText} {n : Nat} :
    t.reach? 0 u = some n ↔ n < t.size ∧ t.text n = u := by
  constructor
  · exact fun h => ⟨ht.reach?_lt h, ht.text_of_reach? h⟩
  · rintro ⟨hn, rfl⟩
    exact ht.reach?_text hn

theorem text_root : t.text 0 = [] :=
  ht.text_of_reach? rfl

theorem length_text {n : Nat} (hn : n < t.size) : (t.text n).length = t.depth n :=
  (ht.depth_of_reach? _ (ht.reach?_text hn)).symm

theorem text_ne_nil {n : Nat} (h0 : 0 < n) (hn : n < t.size) : t.text n ≠ [] := by
  intro h
  have hr := ht.reach?_text hn
  rw [h] at hr
  obtain rfl : 0 = n := Option.some.inj hr
  exact Nat.lt_irrefl 0 h0

theorem injOn_text : Set.InjOn t.text (Set.Iio t.size) := by
  intro m hm n hn h
  have hr := ht.reach?_text hm
  rw [h, ht.reach?_text hn] at hr
  exact (Option.some.inj hr).symm

/-- A child spells its parent's text and one character more, and whatever does so is a child. -/
theorem child?_eq_some_iff {n m : Nat} (hn : n < t.size) {c : CodePoint} :
    t.child? n c = some m ↔ m < t.size ∧ t.text m = t.text n ++ [c] := by
  rw [← ht.reach?_eq_some_iff, reach?_concat, ht.reach?_text hn]
  rfl

end Sound

end Trie

section OfPhrases

variable (phrases : List WideText)

theorem isSome_reach?_iff (u : WideText) : ((ofPhrases phrases).trie.reach? 0 u).isSome
    ↔ u ∈ insert [] (beginnings phrases) := by
  rw [(holds_trie phrases).spelled, mem_insert_beginnings]
  refine or_congr_right ⟨?_, ?_⟩
  · rintro ⟨p, hp, hu⟩
    exact ⟨p.1, List.fst_mem_of_mem_zipIdx hp, hu⟩
  · rintro ⟨w, hw, hu⟩
    obtain ⟨i, hi⟩ := List.mem_iff_getElem?.1 hw
    exact ⟨(w, i), List.mem_zipIdx_iff_getElem?.2 hi, hu⟩

/-- The nodes are in a one-to-one correspondence with the texts that begin a phrase and the empty
one. -/
theorem bijOn_text : Set.BijOn (ofPhrases phrases).trie.text (Set.Iio (ofPhrases phrases).size)
    (insert [] (beginnings phrases) : Finset WideText) := by
  have ht := (holds_trie phrases).sound
  refine ⟨fun n hn => ?_, ht.injOn_text, fun u hu => ?_⟩
  · refine (isSome_reach?_iff phrases _).1 ?_
    rw [ht.reach?_text hn]
    rfl
  · obtain ⟨n, hn⟩ := Option.isSome_iff_exists.1 ((isSome_reach?_iff phrases u).2 hu)
    exact ⟨n, ht.reach?_lt hn, ht.text_of_reach? hn⟩

theorem size_eq_card : (ofPhrases phrases).size = (beginnings phrases).card + 1 := by
  have hbij : Set.BijOn (ofPhrases phrases).trie.text (Finset.range (ofPhrases phrases).size)
      (insert [] (beginnings phrases) : Finset WideText) := by
    rw [Finset.coe_range]
    exact bijOn_text phrases
  have hnot : [] ∉ beginnings phrases := fun h => (mem_beginnings.1 h).1 rfl
  rw [← Finset.card_insert_of_notMem hnot, ← hbij.finsetCard_eq, Finset.card_range]

end OfPhrases

end Phrasebook.Scanner
