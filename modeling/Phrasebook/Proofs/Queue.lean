import Phrasebook.Keyed
import Phrasebook.Proofs.Fallback
import Mathlib.Data.List.Infix
import Mathlib.Data.List.Nodup
import Mathlib.Logic.Relation

/-!
# Links worked out along a queue

The nodes of a trie come in layers, each made of the children of the layer before, and so each node
below the root comes once and none comes before a shallower one (`orders_layered`). A queue that
starts with the root's children and is given the children of each node taken from it goes through
the nodes in just this order (`Linking.Along`). So the links that are worked out for a node when it
joins the queue are in the end those of the trie (`Linking.leads_end`).
-/

namespace Phrasebook.Scanner

namespace Trie

/-- The children of a node, in the order in which they were made. -/
def childrenOf (t : Trie) (n : Nat) : List Nat :=
  (((t.nodes[n]?.map Node.children).getD []).map Prod.snd).reverse

/-- The children of a node stand under different characters. -/
def Labelled (t : Trie) : Prop :=
  ∀ (n : Nat) (node : Node), t.nodes[n]? = some node → (node.children.map Prod.fst).Nodup

theorem Labelled.child?_eq_some_iff {t : Trie} (hl : t.Labelled) {n : Nat} {node : Node}
    (hn : t.nodes[n]? = some node) {c : CodePoint} {m : Nat} :
    t.child? n c = some m ↔ (c, m) ∈ node.children := by
  rw [child?, hn, Option.bind_some, Keyed.lookup_eq_some_iff_mem (hl n node hn)]

theorem Labelled.mem_childrenOf {t : Trie} (hl : t.Labelled) {n m : Nat} :
    m ∈ t.childrenOf n ↔ ∃ c, t.child? n c = some m := by
  rcases hn : t.nodes[n]? with _ | node
  · simp [childrenOf, child?, hn]
  · simp only [hl.child?_eq_some_iff hn]
    simp [childrenOf, hn]

theorem Labelled.nodup_childrenOf {t : Trie} (ht : t.Sound) (hl : t.Labelled) (n : Nat) :
    (t.childrenOf n).Nodup := by
  rcases hn : t.nodes[n]? with _ | node
  · simp [childrenOf, hn]
  · have hchild : ∀ e ∈ node.children, t.child? n e.1 = some e.2 := fun e he =>
      (hl.child?_eq_some_iff hn).2 he
    simp only [childrenOf, hn, Option.map_some, Option.getD_some, List.nodup_reverse]
    refine List.Nodup.map_on (fun e he e' he' h => ?_) (List.Nodup.of_map _ (hl n node hn))
    have hsame := hchild e' he'
    rw [← h] at hsame
    exact Prod.ext (ht.child_inj (hchild e he) hsame).2 h

/-! ## Children of the nodes of a trie that is made -/

theorem labelled_empty : empty.Labelled := by
  intro n node hn
  obtain rfl : n = 0 := by
    have := (Array.getElem?_eq_some_iff.1 hn).1
    simpa [empty] using this
  obtain rfl : _ = node := Option.some.inj hn
  exact List.nodup_nil

theorem Labelled.addChild {t : Trie} (hl : t.Labelled) {n : Nat} {c : CodePoint}
    (hc : t.child? n c = none) : (t.addChild n c).Labelled := by
  intro k node hk
  rw [getElem?_addChild] at hk
  split_ifs at hk with h1 h2
  · obtain rfl : _ = node := Option.some.inj hk
    exact List.nodup_nil
  · subst h2
    obtain ⟨node, hn, rfl⟩ := Option.map_eq_some_iff.1 hk
    refine List.nodup_cons.2 ⟨fun hmem => ?_, hl n node hn⟩
    obtain ⟨e, he, rfl⟩ := List.mem_map.1 hmem
    rw [(hl.child?_eq_some_iff hn).2 he] at hc
    simp at hc
  · exact hl k node hk

theorem Labelled.addPath : ∀ (w : WideText) {t : Trie} {n : Nat}, t.Sound → t.Labelled →
    n < t.size → (t.addPath n w).1.Labelled
  | [], _, _, _, hl, _ => hl
  | c :: w, t, n, ht, hl, hn => by
    simp only [Trie.addPath]
    rcases hc : t.child? n c with _ | m
    · exact Labelled.addPath w (ht.addChild hn hc) (hl.addChild hc) (by simp)
    · exact Labelled.addPath w ht hl (ht.child_lt hc)

theorem Labelled.insert {t : Trie} (ht : t.Sound) (hl : t.Labelled) (w : WideText) (index : Nat) :
    (t.insert w index).Labelled := by
  by_cases hw : w = []
  · subst hw
    exact hl
  · rw [insert_eq t hw]
    intro k node hk
    have hp := Labelled.addPath w ht hl ht.size_pos
    rw [getElem?_addEnd] at hk
    split_ifs at hk
    · obtain ⟨node, hn, rfl⟩ := Option.map_eq_some_iff.1 hk
      exact hp k node hn
    · exact hp k node hk

theorem Labelled.foldl_insert : ∀ (ps : List (WideText × Nat)) {t : Trie}
    {done : List (WideText × Nat)},
    t.Holds done → t.Labelled → (ps.foldl (fun t p => t.insert p.1 p.2) t).Labelled
  | [], _, _, _, hl => hl
  | p :: ps, _, _, h, hl => Labelled.foldl_insert ps (h.insert p) (hl.insert h.sound p.1 p.2)

theorem labelled_ofPhrases (phrases : List WideText) : (ofPhrases phrases).Labelled :=
  Labelled.foldl_insert phrases.zipIdx holds_empty labelled_empty

/-! ## Layers -/

/-- The nodes that are so many steps below the root's children. -/
def layer (t : Trie) : Nat → List Nat
  | 0 => t.childrenOf 0
  | k + 1 => (t.layer k).flatMap t.childrenOf

/-- The nodes below the root, layer by layer. -/
def layered (t : Trie) : List Nat :=
  (List.range t.size).flatMap t.layer

section Layers

variable {t : Trie} (ht : t.Sound) (hl : t.Labelled)

include ht in
theorem Sound.exists_parent {m : Nat} (h0 : 0 < m) (hm : m < t.size) :
    ∃ n c, t.child? n c = some m :=
  ⟨_, _, ht.parent h0 (Array.getElem?_eq_getElem hm)⟩

include ht in
theorem Sound.depth_le (n : Nat) (hn : n < t.size) : t.depth n ≤ n := by
  induction n using Nat.strongRecOn with
  | ind n ih =>
    rcases Nat.eq_zero_or_pos n with rfl | h0
    · exact Nat.le_of_eq ht.root
    · obtain ⟨p, c, hc⟩ := ht.exists_parent h0 hn
      have hlt := (ht.child hc).1
      have := ih p hlt (Nat.lt_trans hlt hn)
      rw [ht.depth_child hc]
      omega

include ht hl

theorem parent_unique {a b m : Nat} (ha : m ∈ t.childrenOf a) (hb : m ∈ t.childrenOf b) :
    a = b := by
  obtain ⟨c, hc⟩ := hl.mem_childrenOf.1 ha
  obtain ⟨d, hd⟩ := hl.mem_childrenOf.1 hb
  exact (ht.child_inj hc hd).1

theorem lt_of_mem_childrenOf {n m : Nat} (h : m ∈ t.childrenOf n) : n < m ∧ m < t.size := by
  obtain ⟨c, hc⟩ := hl.mem_childrenOf.1 h
  exact ⟨(ht.child hc).1, ht.child_lt hc⟩

theorem depth_of_mem_childrenOf {n m : Nat} (h : m ∈ t.childrenOf n) :
    t.depth m = t.depth n + 1 := by
  obtain ⟨c, hc⟩ := hl.mem_childrenOf.1 h
  exact ht.depth_child hc

theorem lt_of_mem_layer : ∀ {k m : Nat}, m ∈ t.layer k → 0 < m ∧ m < t.size
  | 0, _, h => lt_of_mem_childrenOf ht hl h
  | _ + 1, _, h => by
    obtain ⟨n, -, h⟩ := List.mem_flatMap.1 h
    have := lt_of_mem_childrenOf ht hl h
    omega

theorem depth_of_mem_layer : ∀ {k m : Nat}, m ∈ t.layer k → t.depth m = k + 1
  | 0, m, h => by rw [depth_of_mem_childrenOf ht hl h, ht.root]
  | k + 1, m, h => by
    obtain ⟨n, hn, h⟩ := List.mem_flatMap.1 h
    rw [depth_of_mem_childrenOf ht hl h, depth_of_mem_layer hn]

theorem exists_layer (m : Nat) (h0 : 0 < m) (hm : m < t.size) : ∃ k, m ∈ t.layer k := by
  induction m using Nat.strongRecOn with
  | ind m ih =>
    obtain ⟨n, c, hc⟩ := ht.exists_parent h0 hm
    have hmem : m ∈ t.childrenOf n := hl.mem_childrenOf.2 ⟨c, hc⟩
    have hlt := (ht.child hc).1
    rcases Nat.eq_zero_or_pos n with rfl | hn0
    · exact ⟨0, hmem⟩
    · obtain ⟨k, hk⟩ := ih n hlt hn0 (Nat.lt_trans hlt hm)
      exact ⟨k + 1, List.mem_flatMap.2 ⟨n, hk, hmem⟩⟩

theorem nodup_layer : ∀ k, (t.layer k).Nodup
  | 0 => hl.nodup_childrenOf ht 0
  | k + 1 => by
    refine List.nodup_flatMap.2 ⟨fun n _ => hl.nodup_childrenOf ht n, (nodup_layer k).imp ?_⟩
    exact fun hne m ha hb => hne (parent_unique ht hl ha hb)

/-- No layer is deeper than there are nodes. -/
theorem layer_size : t.layer t.size = [] := by
  refine List.eq_nil_iff_forall_not_mem.2 fun m hm => ?_
  have hlt := (lt_of_mem_layer ht hl hm).2
  have hle := ht.depth_le m hlt
  rw [depth_of_mem_layer ht hl hm] at hle
  omega

theorem orders_layered : t.Orders t.layered where
  mem := by
    intro m
    rw [layered, List.mem_flatMap]
    constructor
    · rintro ⟨k, -, hk⟩
      exact lt_of_mem_layer ht hl hk
    · rintro ⟨h0, hm⟩
      obtain ⟨k, hk⟩ := exists_layer ht hl m h0 hm
      have hle := ht.depth_le m hm
      rw [depth_of_mem_layer ht hl hk] at hle
      exact ⟨k, List.mem_range.2 (by omega), hk⟩
  sorted := by
    refine List.pairwise_flatMap.2 ⟨fun k _ => ?_, List.pairwise_lt_range.imp ?_⟩
    · refine List.pairwise_of_forall_mem_list fun m hm n hn => ?_
      exact Nat.le_of_eq ((depth_of_mem_layer ht hl hm).trans (depth_of_mem_layer ht hl hn).symm)
    · intro j k hjk m hm n hn
      rw [depth_of_mem_layer ht hl hm, depth_of_mem_layer ht hl hn]
      omega
  nodup := by
    refine List.nodup_flatMap.2 ⟨fun k _ => nodup_layer ht hl k, List.pairwise_lt_range.imp ?_⟩
    intro j k hjk m hm hn
    have hj := depth_of_mem_layer ht hl hm
    have hk := depth_of_mem_layer ht hl hn
    omega

/-- The children of the root, and then those of the nodes below it, are the nodes below it. -/
theorem childrenOf_append_flatMap_layered :
    t.childrenOf 0 ++ t.layered.flatMap t.childrenOf = t.layered := by
  have hnext : t.layered.flatMap t.childrenOf
      = (List.range t.size).flatMap fun k => t.layer (k + 1) := List.flatMap_assoc
  calc t.childrenOf 0 ++ t.layered.flatMap t.childrenOf
      = (List.range (t.size + 1)).flatMap t.layer := by
        rw [hnext, List.range_succ_eq_map, List.flatMap_cons, List.flatMap_map]
        rfl
    _ = t.layered := by
        rw [List.range_succ, List.flatMap_append, List.flatMap_singleton, layer_size ht hl,
          List.append_nil, layered]

/-- Only the empty list of nodes is made of the children of its own nodes. -/
theorem eq_nil_of_eq_flatMap {ns : List Nat} (h : ns = ns.flatMap t.childrenOf) : ns = [] := by
  have hnot : ∀ m, m ∉ ns := by
    intro m
    induction m using Nat.strongRecOn with
    | ind m ih =>
      intro hm
      rw [h] at hm
      obtain ⟨n, hn, hmem⟩ := List.mem_flatMap.1 hm
      exact ih n (lt_of_mem_childrenOf ht hl hmem).1 hn
  exact List.eq_nil_iff_forall_not_mem.2 hnot

end Layers

end Trie

/-! ## The queue -/

/-- Where the working out of links along a queue stands. -/
structure Linking where
  /-- The children of the node that was taken last which have not joined the queue yet. -/
  todo : List Nat
  queue : List Nat
  links : Links

namespace Linking

/-- In the beginning the children of the root are in the queue, and they fall back to the root. -/
def start (t : Trie) : Linking :=
  ⟨[], t.childrenOf 0, Links.unvisited t⟩

/-- A child joins the queue, with its links; or, if none is left, a node is taken from the queue. -/
def step? (t : Trie) : Linking → Option Linking
  | ⟨m :: todo, queue, links⟩ => some ⟨todo, queue ++ [m], links.visit t m⟩
  | ⟨[], n :: queue, links⟩ => some ⟨t.childrenOf n, queue, links⟩
  | ⟨[], [], _⟩ => none

/-- Steps lead from the one to the other. -/
abbrev Leads (t : Trie) : Linking → Linking → Prop :=
  Relation.ReflTransGen fun l l' => l.step? t = some l'

/-- The nodes in `taken` were taken from the queue, and those in `linked` were given links. -/
structure Along (t : Trie) (l : Linking) (taken linked : List Nat) : Prop where
  queue : taken ++ l.queue = t.childrenOf 0 ++ linked
  todo : linked ++ l.todo = taken.flatMap t.childrenOf
  links : l.links = linked.foldl (Links.visit t) (Links.unvisited t)
  order : taken <+: t.layered

theorem along_start (t : Trie) : (start t).Along t [] [] :=
  ⟨by simp [start], rfl, rfl, List.nil_prefix⟩

section Run

variable {t : Trie} (ht : t.Sound) (hl : t.Labelled)

include ht hl

/-- What has joined the queue or is about to are the first of the layered nodes. -/
theorem Along.joined {l : Linking} {taken linked : List Nat} (h : l.Along t taken linked) :
    t.childrenOf 0 ++ linked ++ l.todo <+: t.layered := by
  rw [List.append_assoc, h.todo, ← Trie.childrenOf_append_flatMap_layered ht hl,
    List.prefix_append_right_inj]
  exact List.IsPrefix.flatMap h.order t.childrenOf

theorem Along.step {l l' : Linking} {taken linked : List Nat} (h : l.Along t taken linked)
    (hs : l.step? t = some l') :
    ∃ taken' linked', l'.Along t taken' linked'
      ∧ taken'.length + linked'.length = taken.length + linked.length + 1 := by
  have hjoined := h.joined ht hl
  obtain ⟨hqueue, htodo, hlinks, horder⟩ := h
  obtain ⟨_ | ⟨m, todo⟩, queue, links⟩ := l
  · rcases queue with _ | ⟨n, queue⟩
    · simp [step?] at hs
    · obtain rfl : _ = l' := Option.some.inj hs
      simp only [List.append_nil] at hqueue htodo hjoined
      refine ⟨taken ++ [n], linked, ⟨by simpa using hqueue, ?_, hlinks, ?_⟩, ?_⟩
      · rw [List.flatMap_append, List.flatMap_singleton, ← htodo]
      · rw [← hqueue] at hjoined
        refine List.IsPrefix.trans ⟨queue, ?_⟩ hjoined
        rw [List.append_assoc, List.singleton_append]
      · rw [List.length_append, List.length_singleton]
        omega
  · obtain rfl : _ = l' := Option.some.inj hs
    refine ⟨taken, linked ++ [m], ⟨?_, by simpa using htodo, ?_, horder⟩, ?_⟩
    · simp only at hqueue ⊢
      rw [← List.append_assoc, hqueue, List.append_assoc]
    · simp only at hlinks ⊢
      rw [List.foldl_append, ← hlinks]
      rfl
    · rw [List.length_append, List.length_singleton]
      omega

theorem Along.length_le {l : Linking} {taken linked : List Nat} (h : l.Along t taken linked) :
    taken.length + linked.length ≤ 2 * t.layered.length := by
  have h1 := h.order.length_le
  have h2 := (h.joined ht hl).length_le
  simp only [List.length_append] at h2
  omega

theorem exists_along {l : Linking} (h : Leads t (start t) l) :
    ∃ taken linked, l.Along t taken linked := by
  induction h with
  | refl => exact ⟨[], [], along_start t⟩
  | tail _ hs ih =>
    obtain ⟨taken, linked, h⟩ := ih
    obtain ⟨taken', linked', h', -⟩ := h.step ht hl hs
    exact ⟨taken', linked', h'⟩

/-- When no step is left, all nodes were taken. -/
theorem Along.taken_eq {links : Links} {taken linked : List Nat}
    (h : Along t ⟨[], [], links⟩ taken linked) : taken = t.layered := by
  have htaken : taken = t.childrenOf 0 ++ taken.flatMap t.childrenOf := by
    rw [← h.todo]
    simpa using h.queue
  obtain ⟨rest, hrest⟩ := h.order
  have hall := Trie.childrenOf_append_flatMap_layered ht hl
  rw [← hrest, List.flatMap_append, ← List.append_assoc, ← htaken,
    List.append_cancel_left_eq] at hall
  rw [← hrest, Trie.eq_nil_of_eq_flatMap ht hl hall.symm, List.append_nil]

variable (hroot : t.ends 0 = [])

include hroot

/-- The children of the root have from the beginning what they would be given. -/
theorem visit_childrenOf_root {m : Nat} (hm : m ∈ t.childrenOf 0) :
    (Links.unvisited t).visit t m = Links.unvisited t := by
  obtain ⟨c, hc⟩ := hl.mem_childrenOf.1 hm
  obtain ⟨-, node, hnode, hp, -⟩ := ht.child hc
  have hnone : (Links.unvisited t).outputs.getD 0 [] = [] := by
    simpa [Links.unvisited, Trie.ends, Array.getD_eq_getD_getElem?] using hroot
  have hback : (Links.unvisited t).fallback.setIfInBounds m 0 = (Links.unvisited t).fallback := by
    simp [Links.unvisited]
  have hsame : (Links.unvisited t).outputs.modify m (· ++ []) = (Links.unvisited t).outputs := by
    refine Array.ext_getElem? fun k => ?_
    simp [Array.getElem?_modify]
  rw [visit_eq hnode, Links.target, if_pos hp, hnone, hback, hsame]

theorem foldl_visit_childrenOf_root (linked : List Nat) :
    (t.childrenOf 0 ++ linked).foldl (Links.visit t) (Links.unvisited t)
      = linked.foldl (Links.visit t) (Links.unvisited t) := by
  have hsame : ∀ ms : List Nat, (∀ m ∈ ms, m ∈ t.childrenOf 0) →
      ms.foldl (Links.visit t) (Links.unvisited t) = Links.unvisited t := by
    intro ms
    induction ms with
    | nil => exact fun _ => rfl
    | cons m ms ih =>
      intro h
      rw [List.foldl_cons, visit_childrenOf_root ht hl hroot (h m List.mem_cons_self)]
      exact ih fun k hk => h k (List.mem_cons_of_mem _ hk)
  rw [List.foldl_append, hsame _ fun _ h => h]

/-- The links are those worked out so far in an order in which the children to come are next. -/
theorem Along.orders {l : Linking} {taken linked : List Nat} (h : l.Along t taken linked) :
    ∃ rest, t.Orders (t.childrenOf 0 ++ linked ++ (l.todo ++ rest))
      ∧ l.links = (t.childrenOf 0 ++ linked).foldl (Links.visit t) (Links.unvisited t) := by
  obtain ⟨rest, hrest⟩ := h.joined ht hl
  refine ⟨rest, ?_, ?_⟩
  · rw [← List.append_assoc, hrest]
    exact Trie.orders_layered ht hl
  · rw [h.links, foldl_visit_childrenOf_root ht hl hroot]

/-- A run that has come to its end leaves the links of the trie. -/
theorem Along.eq_end {l : Linking} {taken linked : List Nat} (h : l.Along t taken linked)
    (hs : l.step? t = none) : l = ⟨[], [], Links.ofTrie t⟩ := by
  obtain ⟨_ | ⟨m, todo⟩, _ | ⟨n, queue⟩, links⟩ := l <;> simp [step?] at hs
  have hlinked : t.childrenOf 0 ++ linked = t.layered := by
    rw [← h.queue, h.taken_eq ht hl, List.append_nil]
  rw [show links = _ from h.links, ← foldl_visit_childrenOf_root ht hl hroot, hlinked,
    (Trie.orders_layered ht hl).foldl_visit ht]

theorem Along.leads_end {l : Linking} {taken linked : List Nat} (h : l.Along t taken linked) :
    Leads t l ⟨[], [], Links.ofTrie t⟩ := by
  rcases hs : l.step? t with _ | l'
  · rw [h.eq_end ht hl hroot hs]
  · obtain ⟨taken', linked', h', hlen⟩ := h.step ht hl hs
    have hle := h'.length_le ht hl
    exact .head hs h'.leads_end
termination_by 2 * t.layered.length - (taken.length + linked.length)

/-- From the beginning the run comes to an end, and leaves the links of the trie. -/
theorem leads_end : Leads t (start t) ⟨[], [], Links.ofTrie t⟩ :=
  (along_start t).leads_end ht hl hroot

end Run

end Linking

end Phrasebook.Scanner
