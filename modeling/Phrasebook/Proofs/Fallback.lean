import Phrasebook.Proofs.Trie
import Phrasebook.Scanner.Basic

/-!
# What fallbacks lead to

The fallback of a node spells the longest proper suffix of the node's text that the trie spells, and
its matches are the phrases that are suffixes of that text (`settled_ofTrie`). Nodes are worked out
in the order of depth, so what a node reads of the others is final by then. With such fallbacks the
node behind a text is that of its longest spelled suffix, whatever character comes (`longest_next`).
-/

namespace Phrasebook.Scanner

namespace Trie

/-- The longest suffix of `u` that the trie spells is `v`. -/
structure Longest (t : Trie) (u v : WideText) : Prop where
  suffix : v <:+ u
  spelled : (t.reach? 0 v).isSome
  longest : ∀ x, x <:+ u → (t.reach? 0 x).isSome → x.length ≤ v.length

/-- The phrases that are suffixes of a text, the longest first. -/
def matchesAt (t : Trie) (u : WideText) : List Match :=
  u.tails.flatMap t.endsAt

theorem matchesAt_cons (t : Trie) (c : CodePoint) (u : WideText) :
    t.matchesAt (c :: u) = t.endsAt (c :: u) ++ t.matchesAt u := by
  simp [matchesAt]

theorem matchesAt_of_ne_nil (t : Trie) {w : WideText} (hw : w ≠ []) :
    t.matchesAt w = t.endsAt w ++ t.matchesAt w.tail := by
  obtain ⟨c, u, rfl⟩ := List.exists_cons_of_ne_nil hw
  exact t.matchesAt_cons c u

theorem longest_nil (t : Trie) : t.Longest [] [] :=
  ⟨List.suffix_refl _, rfl, fun _ hx _ => hx.length_le⟩

/-- Suffixes that are longer than the longest spelled one are no phrases. -/
theorem Longest.matchesAt_eq {t : Trie} : ∀ {u v : WideText}, t.Longest u v →
    t.matchesAt u = t.matchesAt v
  | [], v, h => by rw [List.suffix_nil.1 h.suffix]
  | c :: u, v, h => by
    rcases List.suffix_cons_iff.1 h.suffix with rfl | hv
    · rfl
    · have hnone : t.reach? 0 (c :: u) = none := by
        rw [← Option.not_isSome_iff_eq_none]
        intro hs
        have h1 := h.longest _ (List.suffix_refl _) hs
        have h2 := hv.length_le
        rw [List.length_cons] at h1
        omega
      rw [matchesAt_cons, endsAt_of_none hnone, List.nil_append]
      exact Longest.matchesAt_eq
        ⟨hv, h.spelled, fun x hx => h.longest x (hx.trans (List.suffix_cons c u))⟩

/-! ## Following fallbacks -/

/-- The fallback of the node that `w` leads to is that of the longest spelled suffix of `w` other
than `w`. -/
def FallsBack (t : Trie) (fallback : Array Nat) (w : WideText) : Prop :=
  ∀ n, t.reach? 0 w = some n → ∃ v, t.Longest w.tail v
    ∧ t.reach? 0 v = some (fallback.getD n 0)

theorem longest_child {t : Trie} {u v : WideText} {c : CodePoint} {n m : Nat} (hv : v <:+ u)
    (hn : t.reach? 0 v = some n) (hc : t.child? n c = some m)
    (hmax : ∀ x, x <:+ u → (t.reach? 0 (x ++ [c])).isSome → x.length ≤ v.length) :
    t.Longest (u ++ [c]) (v ++ [c]) ∧ t.reach? 0 (v ++ [c]) = some m := by
  have hm : t.reach? 0 (v ++ [c]) = some m := by
    rw [reach?_concat, hn]
    exact hc
  refine ⟨⟨?_, by rw [hm]; rfl, fun x hx hs => ?_⟩, hm⟩
  · exact List.suffix_concat_iff.2 (.inr ⟨v, rfl, hv⟩)
  · rcases List.suffix_concat_iff.1 hx with rfl | ⟨y, rfl, hy⟩
    · exact Nat.zero_le _
    · have := hmax y hy hs
      simp only [List.length_append, List.length_singleton]
      omega

theorem longest_root {t : Trie} {u : WideText} {c : CodePoint}
    (hmax : ∀ x, x <:+ u → ¬ (t.reach? 0 (x ++ [c])).isSome) : t.Longest (u ++ [c]) [] := by
  refine ⟨List.nil_suffix, rfl, fun x hx hs => ?_⟩
  rcases List.suffix_concat_iff.1 hx with rfl | ⟨y, rfl, hy⟩
  · exact Nat.le_refl _
  · exact absurd hs (hmax y hy)

/-- Following fallbacks from a node finds the longest spelled suffix of `u ++ [c]`, if no suffix
that `c` could prolong is longer than the node's text. -/
theorem longest_follow {t : Trie} (ht : t.Sound) {fallback : Array Nat} {c : CodePoint}
    {u : WideText} :
    ∀ (fuel : Nat) {n : Nat} {v : WideText}, v.length ≤ fuel → v <:+ u → t.reach? 0 v = some n →
      (∀ x, x <:+ u → (t.reach? 0 (x ++ [c])).isSome → x.length ≤ v.length) →
      (∀ x, x <:+ v → t.FallsBack fallback x) →
      ∃ y, t.Longest (u ++ [c]) y ∧ t.reach? 0 y = some (t.follow fallback c fuel n)
  | 0, n, v, hf, hv, hn, hmax, _ => by
    obtain rfl : v = [] := List.length_eq_zero_iff.1 (by omega)
    obtain rfl : 0 = n := by simpa [reach?] using hn
    rw [follow]
    rcases hc : t.child? 0 c with _ | m
    · refine ⟨[], longest_root fun x hx hs => ?_, rfl⟩
      obtain rfl : x = [] := List.length_eq_zero_iff.1 (by simpa using hmax x hx hs)
      simp [reach?, hc] at hs
    · exact ⟨[c], longest_child hv hn hc hmax⟩
  | fuel + 1, n, v, hf, hv, hn, hmax, hfb => by
    rw [follow]
    rcases hc : t.child? n c with _ | m
    · have hlt : ∀ x, x <:+ u → (t.reach? 0 (x ++ [c])).isSome → x.length < v.length := by
        intro x hx hs
        refine Nat.lt_of_le_of_ne (hmax x hx hs) fun he => ?_
        have hxv := List.suffix_of_suffix_length_le hx hv (Nat.le_of_eq he)
        obtain rfl : x = v := hxv.eq_of_length he
        rw [reach?_concat, hn, Option.bind_some, hc] at hs
        simp at hs
      by_cases h0 : n = 0
      · subst h0
        obtain rfl : v = [] := ht.reach?_inj v [] hn rfl
        refine ⟨[], longest_root fun x hx hs => ?_, by simp [reach?]⟩
        have := hlt x hx hs
        simp at this
      · simp only [if_neg h0]
        obtain ⟨w, hw, hwn⟩ := hfb v (List.suffix_refl _) n hn
        have hvne : v ≠ [] := by
          rintro rfl
          exact h0 (by simpa [reach?] using hn.symm)
        obtain ⟨d, v, rfl⟩ := List.exists_cons_of_ne_nil hvne
        have hvu : v <:+ u := (List.suffix_cons d v).trans hv
        have hwl := hw.suffix.length_le
        simp only [List.tail_cons, List.length_cons] at hw hwl hf hlt
        refine longest_follow ht fuel (by omega) (hw.suffix.trans hvu) hwn (fun x hx hs => ?_)
          fun x hx => hfb x (hx.trans (hw.suffix.trans (List.suffix_cons d v)))
        have hxl := hlt x hx hs
        exact hw.longest x (List.suffix_of_suffix_length_le hx hvu (by omega))
          (isSome_reach?_of_append (List.prefix_append _ _) hs)
    · exact ⟨v ++ [c], longest_child hv hn hc hmax⟩

end Trie

/-! ## Working out the links -/

/-- The links while the nodes in `pending` are still to be visited: those have no more than the
phrases that they spell, and all others are final. -/
structure Settled (t : Trie) (pending : List Nat) (links : Links) : Prop where
  size_fallback : links.fallback.size = t.size
  size_outputs : links.outputs.size = t.size
  fallsBack : ∀ n w, t.reach? 0 w = some n → n ∉ pending → t.FallsBack links.fallback w
  outputs : ∀ n w, t.reach? 0 w = some n → n ∉ pending → links.outputs.getD n [] = t.matchesAt w
  pending : ∀ n w, t.reach? 0 w = some n → n ∈ pending → links.outputs.getD n [] = t.endsAt w

/-- The fallback that a visit works out for a node. -/
def Links.target (t : Trie) (links : Links) (node : Node) : Nat :=
  if node.parent = 0 then 0
  else t.follow links.fallback node.label
    (t.depth (links.fallback.getD node.parent 0)) (links.fallback.getD node.parent 0)

section Visit

variable {t : Trie} {n : Nat} {node : Node} (hnode : t.nodes[n]? = some node) {links : Links}

include hnode

theorem visit_eq : links.visit t n = ⟨links.fallback.setIfInBounds n (links.target t node),
    links.outputs.modify n (· ++ links.outputs.getD (links.target t node) [])⟩ := by
  rw [Links.visit, hnode]
  rfl

theorem getD_fallback_visit (hn : n < links.fallback.size) (k : Nat) :
    (links.visit t n).fallback.getD k 0
      = if n = k then links.target t node else links.fallback.getD k 0 := by
  rw [visit_eq hnode, Array.getD_eq_getD_getElem?, Array.getElem?_setIfInBounds]
  by_cases h : n = k
  · rw [if_pos h, if_pos hn, if_pos h, Option.getD_some]
  · rw [if_neg h, if_neg h, Array.getD_eq_getD_getElem?]

theorem getD_outputs_visit (hn : n < links.outputs.size) (k : Nat) :
    (links.visit t n).outputs.getD k [] = if n = k
      then links.outputs.getD k [] ++ links.outputs.getD (links.target t node) []
      else links.outputs.getD k [] := by
  rw [visit_eq hnode, Array.getD_eq_getD_getElem?, Array.getElem?_modify]
  by_cases h : n = k
  · subst h
    have hself : links.outputs[n]? = some (links.outputs.getD n []) := by
      rw [Array.getElem?_eq_getElem hn, Array.getD_eq_getD_getElem?,
        Array.getElem?_eq_getElem hn, Option.getD_some]
    rw [if_pos rfl, if_pos rfl, hself, Option.map_some, Option.getD_some]
  · rw [if_neg h, if_neg h, Array.getD_eq_getD_getElem?]

end Visit

/-- What spells less than the next node to be visited is final. -/
theorem notMem_of_length_lt {t : Trie} (ht : t.Sound) {n : Nat} {ns : List Nat}
    (hle : ∀ m ∈ ns, t.depth n ≤ t.depth m) {w : WideText} (hw : t.reach? 0 w = some n) {k : Nat}
    {x : WideText} (hk : t.reach? 0 x = some k) (hlt : x.length < w.length) : k ∉ n :: ns := by
  intro hmem
  have hdn := ht.depth_of_reach? _ hw
  have hdk := ht.depth_of_reach? _ hk
  rcases List.mem_cons.1 hmem with rfl | hmem
  · omega
  · have := hle k hmem
    omega

/-- A node that is visited when all of lesser depth are final falls back to the longest proper
suffix. -/
theorem Settled.target {t : Trie} (ht : t.Sound) {n : Nat} {ns : List Nat} {links : Links}
    (h : Settled t (n :: ns) links) (hle : ∀ m ∈ ns, t.depth n ≤ t.depth m) {u : WideText}
    {c : CodePoint}
    (hu : t.reach? 0 (u ++ [c]) = some n) {node : Node} (hnode : t.nodes[n]? = some node) :
    ∃ v, t.Longest (u ++ [c]).tail v ∧ t.reach? 0 v = some (links.target t node) := by
  obtain ⟨hp, hl⟩ := ht.parent_of_reach? hu hnode
  have hfinal : ∀ k x, t.reach? 0 x = some k → x.length ≤ u.length → k ∉ n :: ns := by
    intro k x hk hx
    refine notMem_of_length_lt ht hle hu hk ?_
    rw [List.length_append, List.length_singleton]
    omega
  rw [Links.target]
  rcases u with _ | ⟨d, u⟩
  · obtain h0 : 0 = node.parent := by simpa [Trie.reach?] using hp
    rw [if_pos h0.symm]
    exact ⟨[], t.longest_nil, rfl⟩
  · have h0 : node.parent ≠ 0 := by
      intro h0
      rw [h0] at hp
      exact absurd (ht.reach?_inj _ [] hp rfl) (List.cons_ne_nil d u)
    obtain ⟨v, hv, hvn⟩ := h.fallsBack _ _ hp (hfinal _ _ hp (Nat.le_refl _)) _ hp
    simp only [List.tail_cons] at hv
    have hvl := hv.suffix.length_le
    rw [if_neg h0, hl, List.cons_append, List.tail_cons, ht.depth_of_reach? _ hvn]
    refine Trie.longest_follow ht _ (Nat.le_refl _) hv.suffix hvn (fun x hx hs => ?_)
      fun x hx => ?_
    · exact hv.longest x hx (Trie.isSome_reach?_of_append (List.prefix_append _ _) hs)
    · intro k hk
      have hxl := hx.length_le
      refine h.fallsBack k x hk (hfinal k x hk ?_) k hk
      rw [List.length_cons]
      omega

/-- A visit makes its node final and keeps what the others have. -/
theorem Settled.visit {t : Trie} (ht : t.Sound) {n : Nat} {ns : List Nat} {links : Links}
    (h : Settled t (n :: ns) links) (hle : ∀ m ∈ ns, t.depth n ≤ t.depth m) (h0 : 0 < n)
    (hn : n < t.size) (hns : n ∉ ns) : Settled t ns (links.visit t n) := by
  obtain ⟨node, hnode⟩ : ∃ node, t.nodes[n]? = some node := ⟨_, Array.getElem?_eq_getElem hn⟩
  obtain ⟨w, hw⟩ := ht.exists_reach? n hn
  rcases List.eq_nil_or_concat w with rfl | ⟨u, c, rfl⟩
  · obtain rfl : 0 = n := by simpa [Trie.reach?] using hw
    exact absurd h0 (Nat.lt_irrefl 0)
  rw [List.concat_eq_append] at hw
  obtain ⟨v, hv, hvn⟩ := h.target ht hle hw hnode
  have hfallback := getD_fallback_visit hnode (h.size_fallback.symm ▸ hn)
  have houtputs := getD_outputs_visit hnode (h.size_outputs.symm ▸ hn)
  have hother : ∀ k, k ≠ n → k ∉ ns → k ∉ n :: ns := fun k hkn hk hmem =>
    (List.mem_cons.1 hmem).elim hkn hk
  refine ⟨?_, ?_, fun k x hk hkns j hj => ?_, fun k x hk hkns => ?_, fun k x hk hkns => ?_⟩
  · rw [visit_eq hnode, Array.size_setIfInBounds, h.size_fallback]
  · rw [visit_eq hnode, Array.size_modify, h.size_outputs]
  · obtain rfl : k = j := Option.some.inj (hk.symm.trans hj)
    rw [hfallback]
    by_cases hkn : n = k
    · subst hkn
      obtain rfl := ht.reach?_inj _ _ hw hk
      rw [if_pos rfl]
      exact ⟨v, hv, hvn⟩
    · rw [if_neg hkn]
      exact h.fallsBack k x hk (hother k (Ne.symm hkn) hkns) k hk
  · rw [houtputs]
    by_cases hkn : n = k
    · subst hkn
      obtain rfl := ht.reach?_inj _ _ hw hk
      have hvl : v.length < (u ++ [c]).length := by
        have := hv.suffix.length_le
        rw [List.length_tail, List.length_append, List.length_singleton] at this
        rw [List.length_append, List.length_singleton]
        omega
      rw [if_pos rfl, h.pending n _ hk List.mem_cons_self,
        h.outputs _ _ hvn (notMem_of_length_lt ht hle hw hvn hvl), ← hv.matchesAt_eq,
        t.matchesAt_of_ne_nil (List.concat_ne_nil c u)]
    · rw [if_neg hkn]
      exact h.outputs k x hk (hother k (Ne.symm hkn) hkns)
  · have hkn : n ≠ k := by
      rintro rfl
      exact hns hkns
    rw [houtputs, if_neg hkn]
    exact h.pending k x hk (List.mem_cons_of_mem _ hkns)

theorem Settled.foldl_visit {t : Trie} (ht : t.Sound) : ∀ (ns : List Nat) {ms : List Nat}
    {links : Links}, Settled t (ns ++ ms) links →
      (ns ++ ms).Pairwise (fun m n => t.depth m ≤ t.depth n) → (ns ++ ms).Nodup →
      (∀ n ∈ ns ++ ms, 0 < n ∧ n < t.size) → Settled t ms (ns.foldl (Links.visit t) links)
  | [], _, _, h, _, _, _ => h
  | n :: ns, _, _, h, hs, hd, hb => by
    obtain ⟨hle, hs⟩ := List.pairwise_cons.1 hs
    obtain ⟨hns, hd⟩ := List.nodup_cons.1 hd
    obtain ⟨h0, hn⟩ := hb n List.mem_cons_self
    exact Settled.foldl_visit ht ns (h.visit ht hle h0 hn hns) hs hd
      fun m hm => hb m (List.mem_cons_of_mem _ hm)

/-- The links before any node was visited. -/
def Links.unvisited (t : Trie) : Links :=
  ⟨Array.replicate t.size 0, t.nodes.map Node.ends⟩

theorem settled_unvisited {t : Trie} (ht : t.Sound) {ns : List Nat}
    (hns : ∀ n, n ∈ ns ↔ 0 < n ∧ n < t.size) : Settled t ns (Links.unvisited t) := by
  have hroot : ∀ {n w}, t.reach? 0 w = some n → n ∉ ns → n = 0 := by
    intro n w hn hp
    have := ht.reach?_lt hn
    rw [hns] at hp
    omega
  refine ⟨by simp [Links.unvisited], by simp [Links.unvisited, Trie.size], fun n w hn hp => ?_,
    fun n w hn hp => ?_, fun n w hn _ => ?_⟩
  · obtain rfl := hroot hn hp
    obtain rfl := ht.reach?_inj w [] hn rfl
    intro k hk
    obtain rfl : 0 = k := Option.some.inj (hn.symm.trans hk)
    refine ⟨[], t.longest_nil, ?_⟩
    simp [Links.unvisited, Trie.reach?, Array.getD_eq_getD_getElem?, ht.size_pos]
  · obtain rfl := hroot hn hp
    obtain rfl := ht.reach?_inj w [] hn rfl
    simp [Links.unvisited, Trie.matchesAt, Trie.endsAt_of_reach? hn, Trie.ends,
      Array.getD_eq_getD_getElem?]
  · simp [Links.unvisited, Trie.endsAt_of_reach? hn, Trie.ends, Array.getD_eq_getD_getElem?]

/-- An order in which links can be worked out: each node below the root once, and none before one
of lesser depth. -/
structure Trie.Orders (t : Trie) (ns : List Nat) : Prop where
  mem : ∀ n, n ∈ ns ↔ 0 < n ∧ n < t.size
  sorted : ns.Pairwise fun m n => t.depth m ≤ t.depth n
  nodup : ns.Nodup

/-- While the links are worked out in such an order, those of the nodes visited are final. -/
theorem Trie.Orders.settled {t : Trie} (ht : t.Sound) {done rest : List Nat}
    (h : t.Orders (done ++ rest)) :
    Settled t rest (done.foldl (Links.visit t) (Links.unvisited t)) :=
  Settled.foldl_visit ht done (settled_unvisited ht h.mem) h.sorted h.nodup
    fun n hn => (h.mem n).1 hn

theorem Trie.orders_byDepth (t : Trie) : t.Orders t.byDepth where
  mem := by
    intro n
    rw [Trie.byDepth, List.mem_mergeSort, List.mem_range'_1]
    omega
  sorted := by
    have := @List.pairwise_mergeSort _ (fun m n => decide (t.depth m ≤ t.depth n))
      (by simp; omega) (by simp; omega) (List.range' 1 (t.size - 1))
    simpa [Trie.byDepth] using this
  nodup := (List.mergeSort_perm _ _).nodup_iff.2 List.nodup_range'

/-- All links of a trie are final in the end. -/
theorem settled_ofTrie {t : Trie} (ht : t.Sound) : Settled t [] (Links.ofTrie t) := by
  have h := t.orders_byDepth
  rw [← List.append_nil t.byDepth] at h
  exact h.settled ht

theorem Trie.Longest.unique {t : Trie} {u v w : WideText} (h : t.Longest u v) (h' : t.Longest u w) :
    v = w := by
  have hl : v.length = w.length :=
    Nat.le_antisymm (h'.longest v h.suffix h.spelled) (h.longest w h'.suffix h'.spelled)
  exact (List.suffix_of_suffix_length_le h.suffix h'.suffix (Nat.le_of_eq hl)).eq_of_length hl

/-- There is one way only in which all links are final. -/
theorem Settled.unique {t : Trie} (ht : t.Sound) {links links' : Links} (h : Settled t [] links)
    (h' : Settled t [] links') : links = links' := by
  obtain ⟨fallback, outputs⟩ := links
  obtain ⟨fallback', outputs'⟩ := links'
  have hsize := h.size_fallback.trans h'.size_fallback.symm
  have hsize' := h.size_outputs.trans h'.size_outputs.symm
  congr
  · refine Array.ext hsize fun n hn hn' => ?_
    obtain ⟨w, hw⟩ := ht.exists_reach? n (h.size_fallback ▸ hn)
    obtain ⟨v, hv, hvn⟩ := h.fallsBack n w hw List.not_mem_nil n hw
    obtain ⟨v', hv', hvn'⟩ := h'.fallsBack n w hw List.not_mem_nil n hw
    rw [hv.unique hv', hvn'] at hvn
    simpa [Array.getD, hn, hn'] using Option.some.inj hvn.symm
  · refine Array.ext hsize' fun n hn hn' => ?_
    obtain ⟨w, hw⟩ := ht.exists_reach? n (h.size_outputs ▸ hn)
    have := (h.outputs n w hw List.not_mem_nil).trans (h'.outputs n w hw List.not_mem_nil).symm
    simpa [Array.getD, hn, hn'] using this

/-- The links do not depend on the order in which they are worked out. -/
theorem Trie.Orders.foldl_visit {t : Trie} (ht : t.Sound) {ns : List Nat} (h : t.Orders ns) :
    ns.foldl (Links.visit t) (Links.unvisited t) = Links.ofTrie t := by
  rw [← List.append_nil ns] at h
  exact (h.settled ht).unique ht (settled_ofTrie ht)

/-! ## The automaton of a list of phrases -/

section OfPhrases

variable (phrases : List WideText)

theorem phrases_ofPhrases : (ofPhrases phrases).phrases = phrases.toArray := rfl

theorem holds_trie : (ofPhrases phrases).trie.Holds phrases.zipIdx :=
  Trie.holds_ofPhrases phrases

theorem settled_ofPhrases : Settled (ofPhrases phrases).trie []
    ⟨(ofPhrases phrases).fallback, (ofPhrases phrases).outputs⟩ :=
  settled_ofTrie (Trie.holds_ofPhrases phrases).sound

/-- What ends behind a text that leads to a node: all phrases that are suffixes of it. -/
theorem outputs_ofPhrases {u v : WideText} (h : (ofPhrases phrases).trie.Longest u v) {n : Nat}
    (hn : (ofPhrases phrases).trie.reach? 0 v = some n) :
    (ofPhrases phrases).outputs.getD n [] = (ofPhrases phrases).trie.matchesAt u := by
  rw [h.matchesAt_eq]
  exact (settled_ofPhrases phrases).outputs n v hn List.not_mem_nil

/-- One step of the automaton keeps to the longest suffix that the trie spells. -/
theorem longest_next {u v : WideText} (h : (ofPhrases phrases).trie.Longest u v) {n : Nat}
    (hn : (ofPhrases phrases).trie.reach? 0 v = some n) (c : CodePoint) :
    ∃ w, (ofPhrases phrases).trie.Longest (u ++ [c]) w
      ∧ (ofPhrases phrases).trie.reach? 0 w = some ((ofPhrases phrases).next n c) := by
  have ht := (holds_trie phrases).sound
  refine Trie.longest_follow ht _ (Nat.le_of_eq (ht.depth_of_reach? _ hn).symm) h.suffix hn
    (fun x hx hs => ?_) fun x _ k hk => ?_
  · exact h.longest x hx (Trie.isSome_reach?_of_append (List.prefix_append _ _) hs)
  · exact (settled_ofPhrases phrases).fallsBack k x hk List.not_mem_nil k hk

end OfPhrases

end Phrasebook.Scanner
