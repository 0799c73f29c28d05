import Phrasebook.Proofs.Fallback
import Phrasebook.Scanner.Scan
import Mathlib.Data.List.Infix

/-!
# What a scan finds

Behind a text that was read, a scan stands at the node of the text's longest spelled suffix, and at
each place it has noted the longest phrase that begins there and ends in what was read (`Reads`). So
in the end the table holds at each place the longest phrase that begins the rest of the text, and of
equal phrases the first (`isBest_scan`). Read as two lists, the table gives for each place the
greatest length of a phrase there and the least index of that phrase (`lengths_indices_scan`).
-/

namespace Phrasebook.Scanner

theorem pairwise_zipIdx {α : Type} : ∀ (xs : List α) (k : Nat),
    (xs.zipIdx k).Pairwise fun a b => a.2 < b.2
  | [], _ => by simp
  | x :: xs, k => by
    rw [List.zipIdx_cons, List.pairwise_cons]
    exact ⟨fun b hb => List.le_snd_of_mem_zipIdx hb, pairwise_zipIdx xs (k + 1)⟩

namespace Trie

theorem mem_endsOf {phrases : List (WideText × Nat)} {u : WideText} {m : Match} :
    m ∈ endsOf phrases u ↔ (u, m.phrase) ∈ phrases ∧ u ≠ [] ∧ m.length = u.length := by
  simp only [endsOf, List.mem_map, List.mem_filter, decide_eq_true_eq]
  constructor
  · rintro ⟨⟨w, i⟩, ⟨hw, hne, rfl⟩, rfl⟩
    exact ⟨hw, hne, rfl⟩
  · rintro ⟨hu, hne, hl⟩
    refine ⟨(u, m.phrase), ⟨hu, hne, rfl⟩, ?_⟩
    simp only [← hl]

theorem endsOf_eq_nil {phrases : List (WideText × Nat)} {u : WideText} (h : endsOf phrases u = []) :
    u ≠ [] → ∀ i, (u, i) ∉ phrases := by
  intro hne i hi
  have : ⟨u.length, i⟩ ∈ endsOf phrases u := mem_endsOf.2 ⟨hi, hne, rfl⟩
  rw [h] at this
  exact List.not_mem_nil this

theorem Holds.endsAt_nil {t : Trie} {phrases : List (WideText × Nat)} (h : t.Holds phrases) :
    t.endsAt [] = [] := by
  rw [h.ends]
  simp [endsOf]

theorem Holds.length_of_mem_endsAt {t : Trie} {phrases : List (WideText × Nat)}
    (h : t.Holds phrases)
    {u : WideText} {m : Match} (hm : m ∈ t.endsAt u) : m.length = u.length ∧ u ≠ [] := by
  rw [h.ends] at hm
  obtain ⟨-, hne, hl⟩ := mem_endsOf.1 hm
  exact ⟨hl, hne⟩

theorem Holds.length_of_mem_matchesAt {t : Trie} {phrases : List (WideText × Nat)}
    (h : t.Holds phrases) {u : WideText} {m : Match} (hm : m ∈ t.matchesAt u) :
    m.length ≤ u.length := by
  obtain ⟨x, hx, hm⟩ := List.mem_flatMap.1 hm
  rw [(h.length_of_mem_endsAt hm).1]
  exact ((List.mem_tails _ _).1 hx).length_le

/-- Of the phrases that end behind a text, those that begin at a place are the ones that are all of
the text from there on. -/
theorem Holds.filter_matchesAt {t : Trie} {phrases : List (WideText × Nat)} (h : t.Holds phrases) :
    ∀ (u : WideText) (p : Nat), ((t.matchesAt u).filter fun m =>
      m.length ≤ u.length ∧ u.length - m.length = p) = t.endsAt (u.drop p)
  | [], p => by simp [matchesAt, h.endsAt_nil]
  | c :: u, 0 => by
    rw [matchesAt_cons, List.filter_append, List.drop_zero]
    have h1 : (t.endsAt (c :: u)).filter (fun m => m.length ≤ (c :: u).length
        ∧ (c :: u).length - m.length = 0) = t.endsAt (c :: u) := by
      refine List.filter_eq_self.2 fun m hm => ?_
      rw [decide_eq_true_eq, (h.length_of_mem_endsAt hm).1]
      omega
    have h2 : (t.matchesAt u).filter (fun m => m.length ≤ (c :: u).length
        ∧ (c :: u).length - m.length = 0) = [] := by
      refine List.filter_eq_nil_iff.2 fun m hm => ?_
      have := h.length_of_mem_matchesAt hm
      rw [decide_eq_true_eq, List.length_cons]
      omega
    rw [h1, h2, List.append_nil]
  | c :: u, p + 1 => by
    rw [matchesAt_cons, List.filter_append, List.drop_succ_cons, ← h.filter_matchesAt u p]
    have h1 : (t.endsAt (c :: u)).filter (fun m => m.length ≤ (c :: u).length
        ∧ (c :: u).length - m.length = p + 1) = [] := by
      refine List.filter_eq_nil_iff.2 fun m hm => ?_
      rw [decide_eq_true_eq, (h.length_of_mem_endsAt hm).1]
      omega
    rw [h1, List.nil_append]
    refine List.filter_congr fun m hm => ?_
    have := h.length_of_mem_matchesAt hm
    rw [decide_eq_decide, List.length_cons]
    omega

/-- The longest of the phrases that begin a text, by way of all its beginnings. -/
def bestOf (t : Trie) (x : WideText) : Option Match :=
  (x.inits.flatMap t.endsAt).foldl longer none

theorem Holds.bestOf_nil {t : Trie} {phrases : List (WideText × Nat)} (h : t.Holds phrases) :
    t.bestOf [] = none := by
  simp [bestOf, h.endsAt_nil]

theorem bestOf_concat (t : Trie) (x : WideText) (c : CodePoint) :
    t.bestOf (x ++ [c]) = (t.endsAt (x ++ [c])).foldl longer (t.bestOf x) := by
  simp [bestOf, List.inits_append]

end Trie

/-! ## Noting matches -/

theorem size_note (table : Table) (stop : Nat) (m : Match) :
    (table.note stop m).size = table.size := by
  unfold Table.note
  split_ifs
  · rw [Array.size_modify]
  · rfl

theorem size_foldl_note (stop : Nat) : ∀ (ms : List Match) (table : Table),
    (ms.foldl (Table.note · stop) table).size = table.size
  | [], _ => rfl
  | m :: ms, table => by
    rw [List.foldl_cons, size_foldl_note stop ms, size_note]

/-- Noting matches that end at one place changes each entry by those that begin there. -/
theorem getElem?_foldl_note (stop p : Nat) : ∀ (ms : List Match) (table : Table),
    (ms.foldl (Table.note · stop) table)[p]? = table[p]?.map
      ((ms.filter fun m => m.length ≤ stop ∧ stop - m.length = p).foldl longer)
  | [], table => by simp
  | m :: ms, table => by
    rw [List.foldl_cons, getElem?_foldl_note stop p ms]
    unfold Table.note
    by_cases hm : m.length ≤ stop
    · rw [if_pos hm, Array.getElem?_modify]
      by_cases hp : stop - m.length = p
      · rw [if_pos hp, List.filter_cons_of_pos (by simp [hm, hp])]
        rcases table[p]? with _ | best <;> rfl
      · rw [if_neg hp, List.filter_cons_of_neg (by simp [hp])]
    · rw [if_neg hm, List.filter_cons_of_neg (by simp [hm])]

/-! ## Reading a text -/

section Reading

variable (phrases : List WideText)

/-- Where a scan stands that has read `u`, for a table of a size. -/
structure Reads (size : Nat) (u : WideText) (scan : Scan) : Prop where
  position : scan.position = u.length
  node : ∃ v, (ofPhrases phrases).trie.Longest u v
    ∧ (ofPhrases phrases).trie.reach? 0 v = some scan.node
  size_table : scan.table.size = size
  best : ∀ p < size, scan.table[p]? = some ((ofPhrases phrases).trie.bestOf (u.drop p))

theorem reads_start (size : Nat) : Reads phrases size [] ⟨0, 0, Array.replicate size none⟩ := by
  refine ⟨rfl, ⟨[], Trie.longest_nil _, rfl⟩, Array.size_replicate, fun p hp => ?_⟩
  rw [List.drop_nil, (holds_trie phrases).bestOf_nil]
  simp [hp]

theorem Reads.read {size : Nat} {u : WideText} {scan : Scan} (h : Reads phrases size u scan)
    (c : CodePoint) : Reads phrases size (u ++ [c]) (Scan.read (ofPhrases phrases) scan c) := by
  have ht := holds_trie phrases
  obtain ⟨v, hv, hvn⟩ := h.node
  obtain ⟨w, hw, hwn⟩ := longest_next phrases hv hvn c
  have hstop : scan.position + 1 = (u ++ [c]).length := by
    rw [h.position, List.length_append, List.length_singleton]
  simp only [Scan.read, outputs_ofPhrases phrases hw hwn, hstop]
  refine ⟨rfl, ⟨w, hw, hwn⟩, ?_, fun p hp => ?_⟩
  · rw [size_foldl_note, h.size_table]
  · rw [getElem?_foldl_note, h.best p hp, ht.filter_matchesAt, Option.map_some]
    by_cases hpu : p ≤ u.length
    · rw [List.drop_append_of_le_length hpu, Trie.bestOf_concat]
    · rw [List.drop_of_length_le (by omega), List.drop_of_length_le (by simp; omega),
        ht.endsAt_nil]
      rfl

theorem Reads.foldl_read {size : Nat} : ∀ (text : WideText) {u : WideText} {scan : Scan},
    Reads phrases size u scan →
      Reads phrases size (u ++ text) (text.foldl (Scan.read (ofPhrases phrases)) scan)
  | [], u, _, h => by simpa using h
  | c :: text, u, _, h => by
    have := Reads.foldl_read text (h.read phrases c)
    simpa using this

theorem reads_text (text : WideText) : Reads phrases text.length text
    (text.foldl (Scan.read (ofPhrases phrases)) ⟨0, 0, Array.replicate text.length none⟩) :=
  Reads.foldl_read phrases text (reads_start phrases text.length)

end Reading

/-! ## The longest phrase at a place -/

/-- A match of the longest phrase that begins a text, and of the first such phrase; or none, if no
phrase begins it. -/
def IsBest (phrases : List WideText) (x : WideText) : Option Match → Prop
  | none => ∀ w ∈ phrases, w ≠ [] → ¬ w <+: x
  | some m => ∃ w, phrases[m.phrase]? = some w ∧ w ≠ [] ∧ w <+: x ∧ m.length = w.length
    ∧ (∀ v ∈ phrases, v <+: x → v.length ≤ w.length) ∧ ∀ i, phrases[i]? = some w → m.phrase ≤ i

theorem foldl_longer_of_length_le {m : Match} : ∀ (ms : List Match),
    (∀ n ∈ ms, n.length ≤ m.length) → ms.foldl longer (some m) = some m
  | [], _ => rfl
  | n :: ms, h => by
    have hn : ¬ m.length < n.length := Nat.not_lt.2 (h n List.mem_cons_self)
    rw [List.foldl_cons, show longer (some m) n = some m by simp [longer, hn]]
    exact foldl_longer_of_length_le ms fun k hk => h k (List.mem_cons_of_mem _ hk)

/-- The first phrase that is all of a text is better than any that begins less. -/
theorem foldl_longer_endsOf (phrases : List WideText) {x : WideText} {m : Match} {ms : List Match}
    (h : Trie.endsOf phrases.zipIdx x = m :: ms) {b : Option Match}
    (hb : ∀ n, b = some n → n.length < x.length) :
    (m :: ms).foldl longer b = some m ∧ IsBest phrases x (some m) := by
  have hmem : ∀ n ∈ m :: ms, phrases[n.phrase]? = some x ∧ x ≠ [] ∧ n.length = x.length := by
    intro n hn
    rw [← h] at hn
    obtain ⟨hx, hne, hl⟩ := Trie.mem_endsOf.1 hn
    exact ⟨List.mem_zipIdx_iff_getElem?.1 hx, hne, hl⟩
  obtain ⟨hx, hne, hl⟩ := hmem m List.mem_cons_self
  have hfirst : longer b m = some m := by
    rcases b with _ | n
    · rfl
    · have := hb n rfl
      rw [longer, if_pos (by omega)]
  refine ⟨?_, x, hx, hne, List.prefix_refl _, hl, fun v _ hv => hv.length_le, fun i hi => ?_⟩
  · rw [List.foldl_cons, hfirst]
    refine foldl_longer_of_length_le ms fun n hn => ?_
    rw [hl, (hmem n (List.mem_cons_of_mem _ hn)).2.2]
  · have hsort : (Trie.endsOf phrases.zipIdx x).Pairwise fun a b => a.phrase < b.phrase := by
      rw [Trie.endsOf, List.pairwise_map]
      exact (pairwise_zipIdx phrases 0).filter _
    have hi' : ⟨x.length, i⟩ ∈ Trie.endsOf phrases.zipIdx x :=
      Trie.mem_endsOf.2 ⟨List.mem_zipIdx_iff_getElem?.2 hi, hne, rfl⟩
    rw [h] at hsort hi'
    rcases List.mem_cons.1 hi' with rfl | hi'
    · exact Nat.le_refl _
    · exact Nat.le_of_lt ((List.pairwise_cons.1 hsort).1 _ hi')

theorem isBest_bestOf {t : Trie} {phrases : List WideText} (ht : t.Holds phrases.zipIdx)
    (x : WideText) : IsBest phrases x (t.bestOf x) := by
  induction x using List.reverseRecOn with
  | nil =>
    rw [ht.bestOf_nil]
    intro w _ hne hw
    exact hne (List.prefix_nil.1 hw)
  | append_singleton x c ih =>
    rw [Trie.bestOf_concat, ht.ends]
    rcases hends : Trie.endsOf phrases.zipIdx (x ++ [c]) with _ | ⟨m, ms⟩
    · have hpre : ∀ w ∈ phrases, w <+: x ++ [c] → w <+: x := by
        intro w hw hwx
        rcases List.prefix_concat_iff.1 hwx with rfl | hwx
        · obtain ⟨i, hi⟩ := List.mem_iff_getElem?.1 hw
          exact absurd (List.mem_zipIdx_iff_getElem?.2 hi)
            (Trie.endsOf_eq_nil hends (by simp) i)
        · exact hwx
      rw [List.foldl_nil]
      rcases hb : t.bestOf x with _ | m <;> rw [hb] at ih
      · intro w hw hne hwx
        exact ih w hw hne (hpre w hw hwx)
      · obtain ⟨w, hw, hne, hwx, hl, hmax, hmin⟩ := ih
        exact ⟨w, hw, hne, hwx.trans (List.prefix_append _ _), hl,
          fun v hv hvx => hmax v hv (hpre v hv hvx), hmin⟩
    · obtain ⟨h1, h2⟩ := foldl_longer_endsOf phrases hends (b := t.bestOf x) fun n hn => by
        rw [hn] at ih
        obtain ⟨w, -, -, hwx, hl, -⟩ := ih
        have := hwx.length_le
        rw [hl, List.length_append, List.length_singleton]
        omega
      rw [h1]
      exact h2

theorem size_scan (phrases : List WideText) (text : WideText) :
    ((ofPhrases phrases).scan text).size = text.length :=
  (reads_text phrases text).size_table

/-- At each place of a text a scan finds the longest phrase that begins there. -/
theorem isBest_scan (phrases : List WideText) (text : WideText) {p : Nat} (hp : p < text.length) :
    ∃ best, ((ofPhrases phrases).scan text)[p]? = some best
      ∧ IsBest phrases (text.drop p) best :=
  ⟨_, (reads_text phrases text).best p hp, isBest_bestOf (holds_trie phrases) _⟩

/-! ## A table as two lists -/

/-- The length of the longest phrase at each place, and zero where there is none. -/
def Table.lengths (table : Table) : List Nat :=
  table.toList.map fun best => (best.map Match.length).getD 0

/-- The index of the longest phrase at each place, and minus one where there is none. -/
def Table.indices (table : Table) : List Int :=
  table.toList.map fun best => (best.map fun m => (m.phrase : Int)).getD (-1)

theorem Table.getElem?_lengths (table : Table) (p : Nat) :
    table.lengths[p]? = table[p]?.map fun best => (best.map Match.length).getD 0 := by
  rw [lengths, List.getElem?_map, Array.getElem?_toList]

theorem Table.getElem?_indices (table : Table) (p : Nat) :
    table.indices[p]?
      = table[p]?.map fun best => (best.map fun m => (m.phrase : Int)).getD (-1) := by
  rw [indices, List.getElem?_map, Array.getElem?_toList]

/-- A scan gives for each place of a text the greatest length of a phrase that stands there, and the
least index in the list of what stands there at that length. -/
theorem lengths_indices_scan (phrases : List WideText) (text : WideText) :
    ((ofPhrases phrases).scan text).lengths.length = text.length
      ∧ ((ofPhrases phrases).scan text).indices.length = text.length
      ∧ ∀ p < text.length, ∃ n k, ((ofPhrases phrases).scan text).lengths[p]? = some n
        ∧ ((ofPhrases phrases).scan text).indices[p]? = some k
        ∧ (∀ w ∈ phrases, w ≠ [] → w <+: text.drop p → w.length ≤ n)
        ∧ ((∃ w ∈ phrases, w ≠ [] ∧ w <+: text.drop p ∧ w.length = n)
          ∨ n = 0 ∧ ∀ w ∈ phrases, w ≠ [] → ¬ w <+: text.drop p)
        ∧ (0 < n → ∃ i : Nat, k = i ∧ phrases[i]? = some ((text.drop p).take n)
          ∧ ∀ j, phrases[j]? = some ((text.drop p).take n) → i ≤ j)
        ∧ (n = 0 → k = -1) := by
  have hsize : ((ofPhrases phrases).scan text).toList.length = text.length := by
    rw [Array.length_toList, size_scan]
  refine ⟨by rw [Table.lengths, List.length_map, hsize],
    by rw [Table.indices, List.length_map, hsize], fun p hp => ?_⟩
  obtain ⟨best, hbest, his⟩ := isBest_scan phrases text hp
  simp only [Table.getElem?_lengths, Table.getElem?_indices, hbest, Option.map_some,
    Option.some.injEq, exists_and_left, exists_eq_left']
  rcases best with _ | m
  · have hnone : ∀ w ∈ phrases, w ≠ [] → ¬ w <+: text.drop p := his
    simp only [Option.map_none, Option.getD_none]
    exact ⟨fun w hw hne hwx => absurd hwx (hnone w hw hne), .inr ⟨trivial, hnone⟩,
      fun h => absurd h (Nat.lt_irrefl 0), fun _ => trivial⟩
  · obtain ⟨w, hw, hne, hwx, hlength, hmax, hfirst⟩ := his
    have hpos := List.length_pos_of_ne_nil hne
    have hstands : (text.drop p).take m.length = w := by
      rw [hlength]
      exact (List.prefix_iff_eq_take.1 hwx).symm
    simp only [Option.map_some, Option.getD_some, hstands]
    refine ⟨fun v hv _ hvx => ?_, .inl ⟨w, List.mem_of_getElem? hw, hne, hwx, hlength.symm⟩,
      fun _ => ⟨m.phrase, rfl, hw, hfirst⟩, fun hzero => ?_⟩
    · rw [hlength]
      exact hmax v hv hvx
    · omega

end Phrasebook.Scanner
