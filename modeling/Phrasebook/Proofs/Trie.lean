import Phrasebook.Scanner.Trie
import Mathlib.Data.List.Induction
import Mathlib.Tactic.SplitIfs

/-!
# What a trie spells

The characters on the way from the root to a node spell a text, and no two nodes spell one text
(`Sound.reach?_inj`). A trie made from phrases spells just the texts that begin one of them, and
what ends at a node are the phrases that it spells, in the order of the list (`holds_ofPhrases`).
-/

namespace Phrasebook.Scanner.Trie

/-- The node to which a text leads from the node `n`. -/
def reach? (t : Trie) (n : Nat) : WideText → Option Nat
  | [] => some n
  | c :: u => (t.child? n c).bind fun m => t.reach? m u

/-- The phrases that end at a node. -/
def ends (t : Trie) (n : Nat) : List Match :=
  (t.nodes[n]?.map Node.ends).getD []

/-- The phrases that end where a text leads from the root. -/
def endsAt (t : Trie) (u : WideText) : List Match :=
  ((t.reach? 0 u).map t.ends).getD []

theorem reach?_append (t : Trie) :
    ∀ (n : Nat) (u v : WideText), t.reach? n (u ++ v) = (t.reach? n u).bind (t.reach? · v)
  | _, [], _ => rfl
  | n, c :: u, v => by
    simp only [List.cons_append, reach?]
    rcases t.child? n c with _ | m
    · rfl
    · exact reach?_append t m u v

theorem reach?_concat (t : Trie) (n : Nat) (u : WideText) (c : CodePoint) :
    t.reach? n (u ++ [c]) = (t.reach? n u).bind (t.child? · c) := by
  rw [reach?_append]
  rcases t.reach? n u with _ | m
  · rfl
  · simp only [Option.bind_some, reach?]
    rcases t.child? m c with _ | k <;> rfl

/-- What begins a spelled text is spelled. -/
theorem isSome_reach?_of_append {t : Trie} {n : Nat} {u v : WideText} (h : u <+: v)
    (hv : (t.reach? n v).isSome) : (t.reach? n u).isSome := by
  obtain ⟨x, rfl⟩ := h
  rw [reach?_append] at hv
  rcases hu : t.reach? n u with _ | m
  · rw [hu] at hv
    simp at hv
  · rfl

theorem endsAt_of_reach? {t : Trie} {u : WideText} {n : Nat} (h : t.reach? 0 u = some n) :
    t.endsAt u = t.ends n := by
  simp [endsAt, h]

theorem endsAt_of_none {t : Trie} {u : WideText} (h : t.reach? 0 u = none) : t.endsAt u = [] := by
  simp [endsAt, h]

/-! ## Well-formed tries -/

/-- Each node but the root hangs from its parent by its label, and parents are made first. -/
structure Sound (t : Trie) : Prop where
  size_pos : 0 < t.size
  root : t.depth 0 = 0
  child : ∀ {n c m}, t.child? n c = some m → n < m ∧
    ∃ node, t.nodes[m]? = some node ∧ node.parent = n ∧ node.label = c
      ∧ node.depth = t.depth n + 1
  parent : ∀ {m node}, 0 < m → t.nodes[m]? = some node →
    t.child? node.parent node.label = some m

namespace Sound

variable {t : Trie}

theorem child_lt (ht : t.Sound) {n m : Nat} {c : CodePoint} (h : t.child? n c = some m) :
    m < t.size := by
  obtain ⟨-, node, hm, -⟩ := ht.child h
  exact (Array.getElem?_eq_some_iff.1 hm).1

theorem depth_child (ht : t.Sound) {n m : Nat} {c : CodePoint} (h : t.child? n c = some m) :
    t.depth m = t.depth n + 1 := by
  obtain ⟨-, node, hm, -, -, hd⟩ := ht.child h
  simp [depth, hm, hd]

theorem child_inj (ht : t.Sound) {n n' m : Nat} {c c' : CodePoint} (h : t.child? n c = some m)
    (h' : t.child? n' c' = some m) : n = n' ∧ c = c' := by
  obtain ⟨-, node, hm, rfl, rfl, -⟩ := ht.child h
  obtain ⟨-, node', hm', rfl, rfl, -⟩ := ht.child h'
  obtain rfl : node = node' := Option.some.inj (hm.symm.trans hm')
  exact ⟨rfl, rfl⟩

theorem reach?_lt (ht : t.Sound) {u : WideText} {n : Nat} (h : t.reach? 0 u = some n) :
    n < t.size := by
  rcases List.eq_nil_or_concat u with rfl | ⟨u, c, rfl⟩
  · obtain rfl : 0 = n := by simpa [reach?] using h
    exact ht.size_pos
  · rw [List.concat_eq_append, reach?_concat] at h
    obtain ⟨m, -, hc⟩ := Option.bind_eq_some_iff.1 h
    exact ht.child_lt hc

theorem depth_of_reach? (ht : t.Sound) :
    ∀ (u : WideText) {n : Nat}, t.reach? 0 u = some n → t.depth n = u.length := by
  intro u
  induction u using List.reverseRecOn with
  | nil =>
    intro n h
    obtain rfl : 0 = n := by simpa [reach?] using h
    exact ht.root
  | append_singleton u c ih =>
    intro n h
    rw [reach?_concat] at h
    obtain ⟨m, hm, hc⟩ := Option.bind_eq_some_iff.1 h
    rw [ht.depth_child hc, ih hm, List.length_append, List.length_singleton]

/-- A node spells one text only. -/
theorem reach?_inj (ht : t.Sound) :
    ∀ (u v : WideText) {n : Nat}, t.reach? 0 u = some n → t.reach? 0 v = some n → u = v := by
  intro u
  induction u using List.reverseRecOn with
  | nil =>
    intro v n hu hv
    have h1 := ht.depth_of_reach? _ hu
    have h2 := ht.depth_of_reach? _ hv
    rw [h1] at h2
    exact (List.length_eq_zero_iff.1 h2.symm).symm
  | append_singleton u c ih =>
    intro v n hu hv
    have h1 := ht.depth_of_reach? _ hu
    have h2 := ht.depth_of_reach? _ hv
    rcases List.eq_nil_or_concat v with rfl | ⟨v, d, rfl⟩
    · simp [h1] at h2
    · rw [List.concat_eq_append] at hv ⊢
      rw [reach?_concat] at hu hv
      obtain ⟨m, hm, hc⟩ := Option.bind_eq_some_iff.1 hu
      obtain ⟨m', hm', hd⟩ := Option.bind_eq_some_iff.1 hv
      obtain ⟨rfl, rfl⟩ := ht.child_inj hc hd
      rw [ih v hm hm']

/-- Each node spells a text. -/
theorem exists_reach? (ht : t.Sound) (n : Nat) (hn : n < t.size) : ∃ u, t.reach? 0 u = some n := by
  induction n using Nat.strongRecOn with
  | ind n ih =>
    rcases Nat.eq_zero_or_pos n with rfl | h0
    · exact ⟨[], rfl⟩
    · obtain ⟨node, hnode⟩ : ∃ node, t.nodes[n]? = some node := ⟨_, Array.getElem?_eq_getElem hn⟩
      have hc := ht.parent h0 hnode
      have hlt := (ht.child hc).1
      obtain ⟨u, hu⟩ := ih node.parent hlt (Nat.lt_trans hlt hn)
      refine ⟨u ++ [node.label], ?_⟩
      rw [reach?_concat, hu]
      exact hc

/-- A node that is not the root spells its parent's text and its label. -/
theorem parent_of_reach? (ht : t.Sound) {u : WideText} {c : CodePoint} {n : Nat} {node : Node}
    (h : t.reach? 0 (u ++ [c]) = some n) (hn : t.nodes[n]? = some node) :
    t.reach? 0 u = some node.parent ∧ node.label = c := by
  rw [reach?_concat] at h
  obtain ⟨m, hm, hc⟩ := Option.bind_eq_some_iff.1 h
  obtain ⟨-, node', hn', rfl, rfl, -⟩ := ht.child hc
  obtain rfl : node = node' := Option.some.inj (hn.symm.trans hn')
  exact ⟨hm, rfl⟩

end Sound

/-! ## Making a trie -/

theorem getElem?_addChild (t : Trie) (n : Nat) (c : CodePoint) (k : Nat) :
    (t.addChild n c).nodes[k]? = if k = t.size then some ⟨n, c, t.depth n + 1, [], []⟩
      else if n = k then
        t.nodes[k]?.map fun node => { node with children := (c, t.size) :: node.children }
      else t.nodes[k]? := by
  simp only [addChild, Array.getElem?_push, Array.getElem?_modify, Array.size_modify, size]
  rfl

@[simp]
theorem size_addChild (t : Trie) (n : Nat) (c : CodePoint) :
    (t.addChild n c).size = t.size + 1 := by
  simp [addChild, size]

theorem child?_addChild {t : Trie} {n : Nat} (hn : n < t.size) (c : CodePoint) (k : Nat)
    (d : CodePoint) :
    (t.addChild n c).child? k d = if k = n ∧ d = c then some t.size else t.child? k d := by
  simp only [child?, getElem?_addChild]
  by_cases hk : k = t.size
  · have hkn : k ≠ n := by omega
    have hout : t.nodes[k]? = none := Array.getElem?_eq_none (Nat.le_of_eq hk.symm)
    simp [hk ▸ hkn, hk ▸ hout, hk]
  · rw [if_neg hk]
    by_cases hnk : n = k
    · subst hnk
      obtain ⟨node, hnode⟩ : ∃ node, t.nodes[n]? = some node :=
        ⟨_, Array.getElem?_eq_getElem hn⟩
      by_cases hd : d = c
      · simp [hnode, hd]
      · simp [hnode, hd, List.lookup_cons, beq_eq_false_iff_ne.2 hd]
    · have hkn : k ≠ n := Ne.symm hnk
      simp [hnk, hkn]

theorem depth_addChild (t : Trie) (n : Nat) (c : CodePoint) {k : Nat} (hk : k ≠ t.size) :
    (t.addChild n c).depth k = t.depth k := by
  simp only [depth, getElem?_addChild, if_neg hk]
  split_ifs
  · rcases t.nodes[k]? with _ | node <;> rfl
  · rfl

theorem ends_addChild (t : Trie) (n : Nat) (c : CodePoint) (k : Nat) :
    (t.addChild n c).ends k = t.ends k := by
  simp only [ends, getElem?_addChild]
  split_ifs with h1 h2
  · rw [Array.getElem?_eq_none (Nat.le_of_eq h1.symm)]
    rfl
  · rcases t.nodes[k]? with _ | node <;> rfl
  · rfl

/-- A new child is reached by its parent's text and its label, and all else is reached as before. -/
theorem reach?_addChild {t : Trie} (ht : t.Sound) {n : Nat} {u : WideText}
    (hu : t.reach? 0 u = some n) {c : CodePoint} (hc : t.child? n c = none) (v : WideText) :
    (t.addChild n c).reach? 0 v = if v = u ++ [c] then some t.size else t.reach? 0 v := by
  have hn := ht.reach?_lt hu
  induction v using List.reverseRecOn with
  | nil => simp [reach?]
  | append_singleton v d ih =>
    rw [reach?_concat, ih, reach?_concat]
    by_cases hv : v = u ++ [c]
    · have hne : v ++ [d] ≠ u ++ [c] := by
        intro h
        have := congrArg List.length h
        simp [hv] at this
      have hnone : t.reach? 0 v = none := by
        rw [hv, reach?_concat, hu]
        exact hc
      have hout : t.child? t.size d = none := by
        simp [child?, size]
      rw [if_pos hv, if_neg hne, hnone, Option.bind_some, child?_addChild hn,
        if_neg (by omega), hout]
      rfl
    · rw [if_neg hv]
      rcases hk : t.reach? 0 v with _ | k
      · have hne : v ++ [d] ≠ u ++ [c] := by
          intro h
          obtain ⟨rfl, -⟩ := List.append_inj' h rfl
          simp [hu] at hk
        rw [if_neg hne]
        rfl
      · rw [Option.bind_some, Option.bind_some, child?_addChild hn]
        have hiff : (k = n ∧ d = c) ↔ v ++ [d] = u ++ [c] := by
          constructor
          · rintro ⟨rfl, rfl⟩
            rw [ht.reach?_inj v u hk hu]
          · intro h
            obtain ⟨rfl, h2⟩ := List.append_inj' h rfl
            rw [hu] at hk
            exact ⟨(Option.some.inj hk).symm, by simpa using h2⟩
        rw [if_congr hiff rfl rfl]

theorem endsAt_addChild {t : Trie} (ht : t.Sound) {n : Nat} {u : WideText}
    (hu : t.reach? 0 u = some n) {c : CodePoint} (hc : t.child? n c = none) (v : WideText) :
    (t.addChild n c).endsAt v = t.endsAt v := by
  have hends : (t.addChild n c).ends = t.ends := funext (ends_addChild t n c)
  rw [endsAt, endsAt, reach?_addChild ht hu hc, hends]
  split_ifs with h
  · rw [h, reach?_concat, hu, Option.bind_some, hc]
    simp [ends, size]
  · rfl

theorem Sound.addChild {t : Trie} (ht : t.Sound) {n : Nat} (hn : n < t.size) {c : CodePoint}
    (hc : t.child? n c = none) : (t.addChild n c).Sound where
  size_pos := by
    rw [size_addChild]
    omega
  root := by
    have := ht.size_pos
    rw [depth_addChild _ _ _ (by omega)]
    exact ht.root
  child := by
    intro k d m h
    rw [child?_addChild hn] at h
    split_ifs at h with hk
    · obtain ⟨rfl, rfl⟩ := hk
      obtain rfl : t.size = m := by simpa using h
      refine ⟨hn, ⟨k, d, t.depth k + 1, [], []⟩, ?_, rfl, rfl, ?_⟩
      · rw [getElem?_addChild, if_pos rfl]
      · rw [depth_addChild _ _ _ (by omega)]
    · obtain ⟨hlt, node, hm, hp, hl, hd⟩ := ht.child h
      have hms := ht.child_lt h
      rw [depth_addChild _ _ _ (by omega)]
      refine ⟨hlt, ?_⟩
      rw [getElem?_addChild, if_neg (by omega), hm]
      split_ifs
      · exact ⟨_, rfl, hp, hl, hd⟩
      · exact ⟨_, rfl, hp, hl, hd⟩
  parent := by
    intro m node h0 h
    rw [getElem?_addChild] at h
    split_ifs at h with hm hnm
    · obtain rfl : _ = node := Option.some.inj h
      rw [child?_addChild hn, if_pos ⟨rfl, rfl⟩, hm]
    · obtain ⟨node', hnode', rfl⟩ := Option.map_eq_some_iff.1 h
      have hp := ht.parent h0 hnode'
      rw [child?_addChild hn, if_neg ?_]
      · exact hp
      · rintro ⟨h1, h2⟩
        simp only at h1 h2
        rw [h1, h2, hc] at hp
        simp at hp
    · have hp := ht.parent h0 h
      rw [child?_addChild hn, if_neg ?_]
      · exact hp
      · rintro ⟨h1, h2⟩
        rw [h1, h2, hc] at hp
        simp at hp

/-- The trie `t'` spells what `t` does and what begins `w`; what ends where is the same in both. -/
structure Extends (t t' : Trie) (w : WideText) : Prop where
  sound : t'.Sound
  reach : ∀ {v k}, t.reach? 0 v = some k → t'.reach? 0 v = some k
  spelled : ∀ v, (t'.reach? 0 v).isSome ↔ (t.reach? 0 v).isSome ∨ v <+: w
  ends : ∀ v, t'.endsAt v = t.endsAt v

theorem Extends.refl {t : Trie} (ht : t.Sound) {u : WideText} {n : Nat}
    (hu : t.reach? 0 u = some n) : Extends t t u := by
  refine ⟨ht, id, fun v => ⟨.inl, ?_⟩, fun _ => rfl⟩
  rintro (h | h)
  · exact h
  · exact isSome_reach?_of_append h (by rw [hu]; rfl)

theorem Extends.trans {t₁ t₂ t₃ : Trie} {v w : WideText} (h : Extends t₁ t₂ v)
    (h' : Extends t₂ t₃ w) (hv : v <+: w) : Extends t₁ t₃ w := by
  refine ⟨h'.sound, fun hk => h'.reach (h.reach hk), fun x => ?_, fun x => ?_⟩
  · rw [h'.spelled, h.spelled]
    constructor
    · rintro ((hx | hx) | hx)
      · exact .inl hx
      · exact .inr (hx.trans hv)
      · exact .inr hx
    · rintro (hx | hx)
      · exact .inl (.inl hx)
      · exact .inr hx
  · rw [h'.ends, h.ends]

theorem extends_addChild {t : Trie} (ht : t.Sound) {n : Nat} {u : WideText}
    (hu : t.reach? 0 u = some n) {c : CodePoint} (hc : t.child? n c = none) :
    Extends t (t.addChild n c) (u ++ [c]) := by
  have hr := reach?_addChild ht hu hc
  refine ⟨ht.addChild (ht.reach?_lt hu) hc, fun {v k} hk => ?_, fun v => ?_,
    endsAt_addChild ht hu hc⟩
  · rw [hr, if_neg ?_, hk]
    rintro rfl
    rw [reach?_concat, hu, Option.bind_some, hc] at hk
    simp at hk
  · rw [hr]
    split_ifs with h
    · simp [h]
    · refine ⟨.inl, ?_⟩
      rintro (hv | hv)
      · exact hv
      · rcases List.prefix_concat_iff.1 hv with hv | hv
        · exact absurd hv h
        · exact isSome_reach?_of_append hv (by rw [hu]; rfl)

theorem extends_addPath : ∀ (w : WideText) {t : Trie} {n : Nat} {u : WideText}, t.Sound →
    t.reach? 0 u = some n → Extends t (t.addPath n w).1 (u ++ w)
      ∧ (t.addPath n w).1.reach? 0 (u ++ w) = some (t.addPath n w).2
  | [], t, n, u, ht, hu => by
    rw [List.append_nil]
    exact ⟨.refl ht hu, hu⟩
  | c :: w, t, n, u, ht, hu => by
    have hw : u ++ c :: w = u ++ [c] ++ w := by simp
    have hpre : u ++ [c] <+: u ++ [c] ++ w := List.prefix_append _ _
    simp only [addPath]
    rcases hc : t.child? n c with _ | m
    · have hext := extends_addChild ht hu hc
      have hu' : (t.addChild n c).reach? 0 (u ++ [c]) = some t.size := by
        rw [reach?_addChild ht hu hc, if_pos rfl]
      obtain ⟨h1, h2⟩ := extends_addPath w hext.sound hu'
      rw [hw]
      exact ⟨hext.trans h1 hpre, h2⟩
    · have hu' : t.reach? 0 (u ++ [c]) = some m := by
        rw [reach?_concat, hu]
        exact hc
      rw [hw]
      exact extends_addPath w ht hu'

/-- The trie with one more phrase that ends at a node. -/
def addEnd (t : Trie) (n : Nat) (m : Match) : Trie :=
  ⟨t.nodes.modify n fun node => { node with ends := node.ends ++ [m] }⟩

theorem insert_eq (t : Trie) {phrase : WideText} (h : phrase ≠ []) (index : Nat) :
    t.insert phrase index
      = (t.addPath 0 phrase).1.addEnd (t.addPath 0 phrase).2 ⟨phrase.length, index⟩ := by
  rw [insert, if_neg (by simpa using h)]
  rfl

section AddEnd

variable (t : Trie) (n : Nat) (m : Match)

theorem getElem?_addEnd (k : Nat) :
    (t.addEnd n m).nodes[k]? = if n = k then
      t.nodes[k]?.map fun node => { node with ends := node.ends ++ [m] } else t.nodes[k]? := by
  rw [addEnd, Array.getElem?_modify]

theorem child?_addEnd (k : Nat) (c : CodePoint) : (t.addEnd n m).child? k c = t.child? k c := by
  simp only [child?, getElem?_addEnd]
  split_ifs
  · rcases t.nodes[k]? with _ | node <;> rfl
  · rfl

theorem depth_addEnd (k : Nat) : (t.addEnd n m).depth k = t.depth k := by
  simp only [depth, getElem?_addEnd]
  split_ifs
  · rcases t.nodes[k]? with _ | node <;> rfl
  · rfl

theorem reach?_addEnd : ∀ (k : Nat) (u : WideText), (t.addEnd n m).reach? k u = t.reach? k u
  | _, [] => rfl
  | k, c :: u => by
    simp only [reach?, child?_addEnd]
    rcases t.child? k c with _ | j
    · rfl
    · exact reach?_addEnd j u

theorem ends_addEnd {n : Nat} (hn : n < t.size) (k : Nat) :
    (t.addEnd n m).ends k = t.ends k ++ if n = k then [m] else [] := by
  simp only [ends, getElem?_addEnd]
  split_ifs with h
  · subst h
    rw [Array.getElem?_eq_getElem hn]
    rfl
  · rw [List.append_nil]

theorem Sound.addEnd {t : Trie} (ht : t.Sound) : (t.addEnd n m).Sound where
  size_pos := by simpa [Trie.addEnd, size] using ht.size_pos
  root := by
    rw [depth_addEnd]
    exact ht.root
  child := by
    intro k c j h
    rw [child?_addEnd] at h
    obtain ⟨hlt, node, hj, hp, hl, hd⟩ := ht.child h
    rw [depth_addEnd]
    refine ⟨hlt, ?_⟩
    rw [getElem?_addEnd, hj]
    split_ifs
    · exact ⟨_, rfl, hp, hl, hd⟩
    · exact ⟨_, rfl, hp, hl, hd⟩
  parent := by
    intro k node h0 h
    rw [getElem?_addEnd] at h
    rw [child?_addEnd]
    split_ifs at h
    · obtain ⟨node', hnode', rfl⟩ := Option.map_eq_some_iff.1 h
      have hp := ht.parent h0 hnode'
      exact hp
    · exact ht.parent h0 h

theorem endsAt_addEnd {t : Trie} (ht : t.Sound) {n : Nat} {w : WideText}
    (hw : t.reach? 0 w = some n)
    (v : WideText) : (t.addEnd n m).endsAt v = t.endsAt v ++ if w = v then [m] else [] := by
  rcases hv : t.reach? 0 v with _ | k
  · have hne : w ≠ v := by
      rintro rfl
      simp [hv] at hw
    rw [endsAt_of_none hv, endsAt_of_none (by rw [reach?_addEnd, hv]), if_neg hne]
    rfl
  · have hiff : n = k ↔ w = v := by
      constructor
      · rintro rfl
        exact ht.reach?_inj w v hw hv
      · rintro rfl
        exact Option.some.inj (hw.symm.trans hv)
    rw [endsAt_of_reach? hv, endsAt_of_reach? (by rw [reach?_addEnd, hv]),
      ends_addEnd t m (ht.reach?_lt hw), if_congr hiff rfl rfl]

end AddEnd

/-! ## The trie of a list of phrases -/

/-- The phrases of a numbered list that are a text, with their numbers. The empty one is none. -/
def endsOf (phrases : List (WideText × Nat)) (v : WideText) : List Match :=
  (phrases.filter fun p => p.1 ≠ [] ∧ p.1 = v).map fun p => ⟨p.1.length, p.2⟩

/-- The trie spells what begins one of the phrases, and they end where they are spelled. -/
structure Holds (t : Trie) (phrases : List (WideText × Nat)) : Prop where
  sound : t.Sound
  spelled : ∀ v, (t.reach? 0 v).isSome ↔ v = [] ∨ ∃ p ∈ phrases, v <+: p.1
  ends : ∀ v, t.endsAt v = endsOf phrases v

theorem holds_empty : empty.Holds [] where
  sound := by
    refine ⟨by decide, rfl, fun {n c m} h => ?_, fun {m node} h0 h => ?_⟩
    · have : empty.child? n c = none := by
        rcases n with _ | n <;> rfl
      simp [this] at h
    · rcases m with _ | m
      · omega
      · simp [empty] at h
  spelled := by
    intro v
    rcases v with _ | ⟨c, v⟩
    · simp [reach?]
    · have : empty.child? 0 c = none := rfl
      simp [reach?, this]
  ends := by
    intro v
    rcases v with _ | ⟨c, v⟩
    · rfl
    · have : empty.child? 0 c = none := rfl
      exact endsAt_of_none (by rw [reach?, this]; rfl)

theorem Holds.insert {t : Trie} {phrases : List (WideText × Nat)} (h : t.Holds phrases)
    (p : WideText × Nat) : (t.insert p.1 p.2).Holds (phrases ++ [p]) := by
  obtain ⟨w, index⟩ := p
  by_cases hw : w = []
  · subst hw
    have hsame : t.insert [] index = t := rfl
    refine ⟨h.sound, fun v => ?_, fun v => ?_⟩
    · rw [hsame, h.spelled]
      constructor
      · rintro (hv | ⟨p, hp, hv⟩)
        · exact .inl hv
        · exact .inr ⟨p, by simp [hp], hv⟩
      · rintro (hv | ⟨p, hp, hv⟩)
        · exact .inl hv
        · rcases List.mem_append.1 hp with hp | hp
          · exact .inr ⟨p, hp, hv⟩
          · rw [List.mem_singleton.1 hp] at hv
            exact .inl (List.prefix_nil.1 hv)
    · rw [hsame, h.ends]
      simp [endsOf]
  · obtain ⟨hext, hend⟩ := extends_addPath w h.sound (n := 0) (u := []) rfl
    rw [List.nil_append] at hext hend
    simp only [insert_eq t hw]
    refine ⟨hext.sound.addEnd _ _, fun v => ?_, fun v => ?_⟩
    · rw [reach?_addEnd, hext.spelled, h.spelled]
      constructor
      · rintro ((hv | ⟨p, hp, hv⟩) | hv)
        · exact .inl hv
        · exact .inr ⟨p, by simp [hp], hv⟩
        · exact .inr ⟨(w, index), by simp, hv⟩
      · rintro (hv | ⟨p, hp, hv⟩)
        · exact .inl (.inl hv)
        · rcases List.mem_append.1 hp with hp | hp
          · exact .inl (.inr ⟨p, hp, hv⟩)
          · rw [List.mem_singleton.1 hp] at hv
            exact .inr hv
    · rw [endsAt_addEnd _ hext.sound hend, hext.ends, h.ends]
      by_cases hv : w = v
      · simp [endsOf, hv, hv ▸ hw]
      · simp [endsOf, hv]

theorem Holds.foldl_insert : ∀ (ps : List (WideText × Nat)) {t : Trie}
    {done : List (WideText × Nat)},
    t.Holds done → (ps.foldl (fun t p => t.insert p.1 p.2) t).Holds (done ++ ps)
  | [], _, _, h => by simpa using h
  | p :: ps, _, _, h => by
    have := Holds.foldl_insert ps (h.insert p)
    simpa using this

theorem holds_ofPhrases (phrases : List WideText) : (ofPhrases phrases).Holds phrases.zipIdx :=
  Holds.foldl_insert phrases.zipIdx holds_empty

end Phrasebook.Scanner.Trie
