import Phrasebook.Proofs.Queue
import Phrasebook.Proofs.Scan
import Phrasebook.Proofs.Spelling

/-!
# What a scanner is made of

A scanner has one node for the empty text and for each text that begins a phrase. A node falls back
to that of its text's longest proper suffix that has a node, and its matches are the phrases that
are suffixes of its text. All of it is said of the arrays as they are, in `Built`, which holds of
every scanner made from phrases (`built_ofPhrases`). Both loops that fall back, in the making and in
a step of the automaton, come to an end and read no entry that is not there (`Trie.Stops`).
-/

namespace Phrasebook.Scanner

theorem getElem?_eq_getD {α : Type} {xs : Array α} {i : Nat} (h : i < xs.size) (d : α) :
    xs[i]? = some (xs.getD i d) := by
  rw [Array.getD_eq_getD_getElem?, Array.getElem?_eq_getElem h, Option.getD_some]

/-! ## Falling back -/

namespace Trie

/-- Falling back from `n` for a character comes to a stop at `m`: at the first node that has a child
for the character, or else at the root. Every node on the way is one of the trie, and every entry
that is read is there. -/
inductive Stops (t : Trie) (fallback : Array Nat) (c : CodePoint) : (n m : Nat) → Prop
  | here {n : Nat} (hn : n < t.size) (h : n = 0 ∨ (t.child? n c).isSome) : t.Stops fallback c n n
  | back {n k m : Nat} (hn : n < t.size) (h0 : n ≠ 0) (hc : t.child? n c = none)
    (hk : fallback[n]? = some k) (h : t.Stops fallback c k m) : t.Stops fallback c n m

/-- With as much fuel as the node's text is long, following fallbacks does not run out of it. -/
theorem exists_stops {t : Trie} (ht : t.Sound) {fallback : Array Nat}
    (hsize : fallback.size = t.size) (c : CodePoint) : ∀ (fuel : Nat) {n : Nat} {v : WideText},
      v.length ≤ fuel → t.reach? 0 v = some n → (∀ x, x <:+ v → t.FallsBack fallback x) →
      ∃ m, t.Stops fallback c n m ∧ t.follow fallback c fuel n = (t.child? m c).getD 0
  | 0, n, v, hf, hn, _ => by
    obtain rfl : v = [] := List.length_eq_zero_iff.1 (by omega)
    obtain rfl : 0 = n := by simpa [reach?] using hn
    exact ⟨0, .here ht.size_pos (.inl rfl), rfl⟩
  | fuel + 1, n, v, hf, hn, hfb => by
    have hlt := ht.reach?_lt hn
    rw [follow]
    rcases hc : t.child? n c with _ | m
    · by_cases h0 : n = 0
      · exact ⟨n, .here hlt (.inl h0), by simp [h0, h0 ▸ hc]⟩
      · obtain ⟨w, hw, hwn⟩ := hfb v (List.suffix_refl _) n hn
        have hne : v ≠ [] := by
          rintro rfl
          exact h0 (by simpa [reach?] using hn.symm)
        have hwl : w.length < v.length := by
          have h1 := hw.suffix.length_le
          have h2 := List.length_pos_of_ne_nil hne
          rw [List.length_tail] at h1
          omega
        obtain ⟨m, hm, heq⟩ := exists_stops ht hsize c fuel (by omega) hwn fun x hx =>
          hfb x (hx.trans (hw.suffix.trans (List.tail_suffix v)))
        simp only [if_neg h0]
        exact ⟨m, .back hlt h0 hc (getElem?_eq_getD (hsize ▸ hlt) 0) hm, heq⟩
    · exact ⟨n, .here hlt (.inr (by rw [hc]; rfl)), by simp [hc]⟩

/-- The text of `m` is the longest proper suffix of that of `n` which has a node. -/
structure IsFallback (t : Trie) (n m : Nat) : Prop where
  lt_size : m < t.size
  suffix : t.text m <:+ t.text n
  shorter : (t.text m).length < (t.text n).length
  longest : ∀ k < t.size, k ≠ n → t.text k <:+ t.text n → (t.text k).length ≤ (t.text m).length

theorem FallsBack.isFallback {t : Trie} (ht : t.Sound) {fallback : Array Nat} {n : Nat}
    (h0 : 0 < n) (hn : n < t.size) (h : t.FallsBack fallback (t.text n)) :
    t.IsFallback n (fallback.getD n 0) := by
  obtain ⟨v, hv, hvn⟩ := h n (ht.reach?_text hn)
  obtain ⟨d, u, hu⟩ := List.exists_cons_of_ne_nil (ht.text_ne_nil h0 hn)
  obtain ⟨hlt, rfl⟩ := ht.reach?_eq_some_iff.1 hvn
  rw [hu, List.tail_cons] at hv
  refine ⟨hlt, ?_, ?_, fun k hk hkn hs => hv.longest _ ?_ ?_⟩
  · rw [hu]
    exact hv.suffix.trans (List.suffix_cons d u)
  · rw [hu, List.length_cons]
    exact Nat.lt_succ_of_le hv.suffix.length_le
  · rw [hu] at hs
    refine (List.suffix_cons_iff.1 hs).resolve_left fun he => hkn ?_
    exact ht.injOn_text hk hn (he.trans hu.symm)
  · rw [ht.reach?_text hk]
    rfl

end Trie

/-! ## Matches -/

/-- The matches are those of the phrases that are suffixes of `u` and not empty, each once; longer
ones come first, and of equally long ones the first of the list. -/
structure EndIn (phrases : List WideText) (u : WideText) (found : List Match) : Prop where
  mem : ∀ m, m ∈ found ↔ ∃ w, phrases[m.phrase]? = some w ∧ w ≠ [] ∧ w <:+ u
    ∧ m.length = w.length
  order : found.Pairwise fun a b => b.length < a.length
    ∨ a.length = b.length ∧ a.phrase < b.phrase
  once : (found.map Match.phrase).Nodup

theorem pairwise_tails : ∀ u : WideText, u.tails.Pairwise fun x y => y.length < x.length
  | [] => by simp
  | c :: u => by
    rw [List.tails, List.pairwise_cons]
    refine ⟨fun x hx => ?_, pairwise_tails u⟩
    have := ((List.mem_tails _ _).1 hx).length_le
    rw [List.length_cons]
    omega

section Matches

variable {t : Trie} {phrases : List WideText} (ht : t.Holds phrases.zipIdx)

include ht

theorem mem_matchesAt {u : WideText} {m : Match} : m ∈ t.matchesAt u
    ↔ ∃ w, phrases[m.phrase]? = some w ∧ w ≠ [] ∧ w <:+ u ∧ m.length = w.length := by
  simp only [Trie.matchesAt, List.mem_flatMap, List.mem_tails, ht.ends, Trie.mem_endsOf,
    List.mem_zipIdx_iff_getElem?]
  refine exists_congr fun w => ?_
  tauto

theorem pairwise_matchesAt (u : WideText) : (t.matchesAt u).Pairwise fun a b =>
    b.length < a.length ∨ a.length = b.length ∧ a.phrase < b.phrase := by
  refine List.pairwise_flatMap.2 ⟨fun x _ => ?_, (pairwise_tails u).imp ?_⟩
  · rw [ht.ends, Trie.endsOf, List.pairwise_map]
    refine ((pairwise_zipIdx phrases 0).filter _).imp_of_mem fun {p q} hp hq hlt => .inr ⟨?_, hlt⟩
    have hp := (of_decide_eq_true (List.mem_filter.1 hp).2).2
    have hq := (of_decide_eq_true (List.mem_filter.1 hq).2).2
    simp only [hp, hq]
  · intro x y hxy a ha b hb
    rw [(ht.length_of_mem_endsAt ha).1, (ht.length_of_mem_endsAt hb).1]
    exact .inl hxy

theorem endIn_matchesAt (u : WideText) : EndIn phrases u (t.matchesAt u) where
  mem _ := mem_matchesAt ht
  order := pairwise_matchesAt ht u
  once := by
    refine List.pairwise_map.2 ((pairwise_matchesAt ht u).imp_of_mem ?_)
    intro a b ha hb hab he
    obtain ⟨v, hv, -, -, hvl⟩ := (mem_matchesAt ht).1 ha
    obtain ⟨w, hw, -, -, hwl⟩ := (mem_matchesAt ht).1 hb
    rw [he, hw] at hv
    obtain rfl : w = v := Option.some.inj hv
    omega

end Matches

/-! ## Nodes that join the queue -/

/-- The child `m` of `n` for `c` is given its links. Where it falls back to is found by falling back
from where `n` does, and the matches of that node, `found`, are put behind its own. -/
structure Links.Joins (t : Trie) (links : Links) (n m : Nat) (c : CodePoint) (start stop : Nat)
    (own found : List Match) : Prop where
  child_eq : t.child? n c = some m
  start_eq : links.fallback[n]? = some start
  stops : t.Stops links.fallback c start stop
  found_eq : links.outputs[(t.child? stop c).getD 0]? = some found
  own_eq : links.outputs[m]? = some own
  fallback_eq : (links.visit t m).fallback[m]? = some ((t.child? stop c).getD 0)
  outputs_eq : (links.visit t m).outputs[m]? = some (own ++ found)

theorem Settled.joins {t : Trie} (ht : t.Sound) {m : Nat} {ms : List Nat} {links : Links}
    (h : Settled t (m :: ms) links) (hle : ∀ k ∈ ms, t.depth m ≤ t.depth k) {n : Nat}
    {c : CodePoint} (h0 : n ≠ 0) (hc : t.child? n c = some m) :
    ∃ start stop own found, links.Joins t n m c start stop own found := by
  have hm := ht.child_lt hc
  have hn := Nat.lt_trans (ht.child hc).1 hm
  obtain ⟨-, node, hnode, hp, hl, -⟩ := ht.child hc
  have hback : ∀ x : WideText, x.length ≤ (t.text n).length → t.FallsBack links.fallback x := by
    intro x hx k hk
    refine h.fallsBack k x hk (notMem_of_length_lt ht hle (ht.reach?_text hm) hk ?_) k hk
    rw [ht.length_text hm, ht.depth_child hc, ← ht.length_text hn]
    omega
  obtain ⟨v, hv, hvn⟩ := hback _ (Nat.le_refl _) n (ht.reach?_text hn)
  have hvl : v.length ≤ (t.text n).length := by
    have := hv.suffix.length_le
    rw [List.length_tail] at this
    omega
  obtain ⟨stop, hstop, hfollow⟩ := Trie.exists_stops ht h.size_fallback c v.length
    (Nat.le_refl _) hvn fun x hx => hback x (Nat.le_trans hx.length_le hvl)
  have htarget : links.target t node = (t.child? stop c).getD 0 := by
    rw [Links.target, hp, if_neg h0, hl, ht.depth_of_reach? v hvn, hfollow]
  have hlt : (t.child? stop c).getD 0 < t.size := by
    rcases hs : t.child? stop c with _ | k
    · exact ht.size_pos
    · exact ht.child_lt hs
  refine ⟨_, stop, _, _, hc, getElem?_eq_getD (h.size_fallback ▸ hn) 0, hstop,
    getElem?_eq_getD (h.size_outputs ▸ hlt) [], getElem?_eq_getD (h.size_outputs ▸ hm) [], ?_, ?_⟩
  · rw [getElem?_eq_getD (by simpa [visit_eq hnode, h.size_fallback] using hm) 0,
      getD_fallback_visit hnode (h.size_fallback ▸ hm), if_pos rfl, htarget]
  · rw [getElem?_eq_getD (by simpa [visit_eq hnode, h.size_outputs] using hm) [],
      getD_outputs_visit hnode (h.size_outputs ▸ hm), if_pos rfl, htarget]

/-- In whatever order links are worked out, those of a node that is no child of the root can be
worked out when its turn comes. -/
theorem Trie.Orders.exists_joins {t : Trie} (ht : t.Sound) {done rest : List Nat} {m : Nat}
    (h : t.Orders (done ++ m :: rest)) (hm : 1 < (t.text m).length) :
    ∃ n c start stop own found, (done.foldl (Links.visit t) (Links.unvisited t)).Joins t n m c
      start stop own found := by
  obtain ⟨h0, hlt⟩ := (h.mem m).1 (by simp)
  obtain ⟨n, c, hc⟩ := ht.exists_parent h0 hlt
  have hn : n ≠ 0 := by
    rintro rfl
    rw [ht.length_text hlt, ht.depth_child hc, ht.root] at hm
    exact Nat.lt_irrefl 1 hm
  have hle := (List.pairwise_cons.1 (List.pairwise_append.1 h.sorted).2.1).1
  exact ⟨n, c, (h.settled ht).joins ht hle hn hc⟩

/-- So can those of the child that is about to join the queue. -/
theorem Linking.exists_joins {t : Trie} (ht : t.Sound) (hlabel : t.Labelled)
    (hroot : t.ends 0 = []) {l : Linking} (h : Linking.Leads t (Linking.start t) l) {m : Nat}
    {todo : List Nat} (hm : l.todo = m :: todo) :
    ∃ n c start stop own found, l.links.Joins t n m c start stop own found := by
  obtain ⟨taken, linked, h⟩ := Linking.exists_along ht hlabel h
  obtain ⟨rest, horders, hlinks⟩ := h.orders ht hlabel hroot
  have hmem : m ∈ taken.flatMap t.childrenOf := by
    rw [← h.todo, hm]
    simp
  obtain ⟨n, hn, hnm⟩ := List.mem_flatMap.1 hmem
  obtain ⟨h0, hlt⟩ := ((Trie.orders_layered ht hlabel).mem n).1 (h.order.subset hn)
  have hpos := List.length_pos_of_ne_nil (ht.text_ne_nil h0 hlt)
  rw [hm, List.cons_append] at horders
  rw [hlinks]
  refine horders.exists_joins ht ?_
  rw [ht.length_text (Trie.lt_of_mem_childrenOf ht hlabel hnm).2,
    Trie.depth_of_mem_childrenOf ht hlabel hnm, ← ht.length_text hlt]
  omega

/-! ## The whole -/

/-- How a scanner of phrases is built. -/
structure Built (s : Scanner) (phrases : List WideText) : Prop where
  /-- The nodes stand for the empty text and the texts that begin a phrase, one for each. -/
  bijOn : Set.BijOn s.trie.text (Set.Iio s.size) (insert [] (beginnings phrases) : Finset WideText)
  root : s.trie.text 0 = []
  size : s.size = (beginnings phrases).card + 1
  child : ∀ n < s.size, ∀ c m, s.trie.child? n c = some m
    ↔ m < s.size ∧ s.trie.text m = s.trie.text n ++ [c]
  fallback_root : s.fallback[0]? = some 0
  fallback : ∀ n < s.size, 0 < n → ∃ m, s.fallback[n]? = some m ∧ s.trie.IsFallback n m
  outputs : ∀ n < s.size, ∃ found, s.outputs[n]? = some found
    ∧ EndIn phrases (s.trie.text n) found
  /-- A step of the automaton falls back until it stops, and goes on to the child. -/
  next : ∀ n < s.size, ∀ c, ∃ m, s.trie.Stops s.fallback c n m
    ∧ s.next n c = (s.trie.child? m c).getD 0
  /-- In the order of depth, links can be worked out for each node when its turn comes; the children
  of the root have theirs from the beginning. -/
  joins : ∀ done m rest, s.trie.byDepth = done ++ m :: rest → 1 < (s.trie.text m).length →
    ∃ n c start stop own found, (done.foldl (Links.visit s.trie) (Links.unvisited s.trie)).Joins
      s.trie n m c start stop own found
  /-- A queue of nodes, run to its end, leaves the same fallbacks and matches. -/
  queue : Linking.Leads s.trie (Linking.start s.trie) ⟨[], [], ⟨s.fallback, s.outputs⟩⟩
  /-- At each time of that run, links can be worked out for the child that is next. -/
  joins_queue : ∀ l, Linking.Leads s.trie (Linking.start s.trie) l → ∀ m todo,
    l.todo = m :: todo → ∃ n c start stop own found,
      l.links.Joins s.trie n m c start stop own found

/-- Every scanner that is made from phrases is built so. -/
theorem built_ofPhrases (phrases : List WideText) : (ofPhrases phrases).Built phrases := by
  have hholds := holds_trie phrases
  have ht := hholds.sound
  have hlabel : (ofPhrases phrases).trie.Labelled := Trie.labelled_ofPhrases phrases
  have hset := settled_ofPhrases phrases
  have hroot : (ofPhrases phrases).trie.ends 0 = [] := by
    rw [← hholds.endsAt_nil]
    rfl
  have hback : ∀ x, (ofPhrases phrases).trie.FallsBack (ofPhrases phrases).fallback x :=
    fun x k hk => hset.fallsBack k x hk List.not_mem_nil k hk
  refine ⟨bijOn_text phrases, ht.text_root, size_eq_card phrases,
    fun n hn c m => ht.child?_eq_some_iff hn, ?_, fun n hn h0 => ?_, fun n hn => ?_,
    fun n hn c => ?_, fun done m rest h hm => ?_, Linking.leads_end ht hlabel hroot,
    fun l hl m todo hm => Linking.exists_joins ht hlabel hroot hl hm⟩
  · obtain ⟨v, hv, hv0⟩ := hback [] 0 rfl
    rw [List.suffix_nil.1 hv.suffix] at hv0
    rw [getElem?_eq_getD (hset.size_fallback ▸ ht.size_pos) 0, ← hv0]
    rfl
  · exact ⟨_, getElem?_eq_getD (hset.size_fallback ▸ hn) 0, (hback _).isFallback ht h0 hn⟩
  · refine ⟨_, getElem?_eq_getD (hset.size_outputs ▸ hn) [], ?_⟩
    rw [hset.outputs n _ (ht.reach?_text hn) List.not_mem_nil]
    exact endIn_matchesAt hholds _
  · exact Trie.exists_stops ht hset.size_fallback c _ (Nat.le_of_eq (ht.length_text hn))
      (ht.reach?_text hn) fun x _ => hback x
  · have horders := (ofPhrases phrases).trie.orders_byDepth
    rw [h] at horders
    exact horders.exists_joins ht hm

/-- The nodes behind "s" fall back to those of "he", and at the end of "she" both phrases end. -/
example : (ofPhrases [.ofString "she", .ofString "he"]).fallback = #[0, 0, 4, 5, 0, 0]
    ∧ (ofPhrases [.ofString "she", .ofString "he"]).outputs
      = #[[], [], [], [⟨3, 0⟩, ⟨2, 1⟩], [], [⟨2, 1⟩]] := by cbv

end Phrasebook.Scanner
