import Phrasebook.Proofs.Structure

/-!
# The scan's guard

Behind whatever has been read, a scan stands at the node of the longest suffix that begins a phrase,
so the matches it finds there end in what was read and begin inside of it. A scan that fails where a
match would begin before the text, or outside of the table, or where a node has no list of matches,
therefore never fails and is the scan itself (`Reads.foldlM_read?`): the guard in `Table.note` never
holds a match back.
-/

namespace Phrasebook.Scanner

/-! ## A scan that fails -/

/-- Notes a match, or fails if it would begin before the text or outside of the table. -/
def Table.note? (table : Table) (stop : Nat) (m : Match) : Option Table :=
  if m.length ≤ stop ∧ stop - m.length < table.size then
    some (table.modify (stop - m.length) (longer · m))
  else none

/-- Reads a character, or fails if the node has no list of matches or one cannot be noted. -/
def Scan.read? (s : Scanner) (scan : Scan) (c : CodePoint) : Option Scan :=
  let node := s.next scan.node c
  let stop := scan.position + 1
  s.outputs[node]?.bind fun found =>
    (found.foldlM (Table.note? · stop) scan.table).map fun table => ⟨node, stop, table⟩

theorem foldlM_note? (stop : Nat) : ∀ (ms : List Match) (table : Table),
    (∀ m ∈ ms, m.length ≤ stop ∧ stop - m.length < table.size) →
      ms.foldlM (Table.note? · stop) table = some (ms.foldl (Table.note · stop) table)
  | [], _, _ => rfl
  | m :: ms, table, h => by
    have hm := h m List.mem_cons_self
    have hnote : table.note? stop m = some (table.note stop m) := by
      rw [Table.note?, if_pos hm, Table.note, if_pos hm.1]
    have ih := foldlM_note? stop ms (table.note stop m) fun k hk => by
      rw [size_note]
      exact h k (List.mem_cons_of_mem _ hk)
    rw [List.foldlM_cons, hnote, List.foldl_cons]
    exact ih

/-! ## Where a scan stands -/

/-- Of the suffixes of `u`, `v` is the longest that begins a phrase; it is empty if none does. -/
structure LongestBeginning (phrases : List WideText) (u v : WideText) : Prop where
  suffix : v <:+ u
  begins : v = [] ∨ ∃ w ∈ phrases, v <+: w
  longest : ∀ x, x <:+ u → (∃ w ∈ phrases, x <+: w) → x.length ≤ v.length

section Standing

variable (phrases : List WideText)

theorem longestBeginning_of_longest {u v : WideText} (h : (ofPhrases phrases).trie.Longest u v) :
    LongestBeginning phrases u v := by
  refine ⟨h.suffix, ?_, fun x hx hs => h.longest x hx ?_⟩
  · exact mem_insert_beginnings.1 ((isSome_reach?_iff phrases v).1 h.spelled)
  · exact (isSome_reach?_iff phrases x).2 (mem_insert_beginnings.2 (.inr hs))

/-- Where a scan of `u ++ v` stands that has read `u`. Each match that it finds there begins in the
text and is what the text holds from there to where the scan stands. -/
structure Stands (u v : WideText) (scan : Scan) : Prop where
  position : scan.position = u.length
  size : scan.table.size = (u ++ v).length
  lt_size : scan.node < (ofPhrases phrases).size
  longest : LongestBeginning phrases u ((ofPhrases phrases).trie.text scan.node)
  found : ∃ found, (ofPhrases phrases).outputs[scan.node]? = some found
    ∧ ∀ m ∈ found, (0 : Int) ≤ scan.position - m.length
      ∧ (scan.position - m.length : Int) < scan.table.size
      ∧ phrases[m.phrase]?
        = some (Text.slice (u ++ v) (scan.position - m.length) scan.position)

variable {phrases}

/-- The matches found behind a text are of phrases that end there. -/
theorem Reads.exists_found {size : Nat} {u : WideText} {scan : Scan}
    (h : Reads phrases size u scan) :
    ∃ found, (ofPhrases phrases).outputs[scan.node]? = some found ∧ EndIn phrases u found := by
  have ht := holds_trie phrases
  obtain ⟨v, hv, hvn⟩ := h.node
  have hlt : scan.node < (ofPhrases phrases).outputs.size :=
    (settled_ofPhrases phrases).size_outputs ▸ ht.sound.reach?_lt hvn
  refine ⟨_, getElem?_eq_getD hlt [], ?_⟩
  rw [outputs_ofPhrases phrases hv hvn]
  exact endIn_matchesAt ht u

theorem Reads.stands {u v : WideText} {scan : Scan} (h : Reads phrases (u ++ v).length u scan) :
    Stands phrases u v scan := by
  have ht := (holds_trie phrases).sound
  obtain ⟨w, hw, hwn⟩ := h.node
  obtain ⟨found, hfound, hend⟩ := h.exists_found
  refine ⟨h.position, h.size_table, ht.reach?_lt hwn, ?_, found, hfound, fun m hm => ?_⟩
  · rw [ht.text_of_reach? hwn]
    exact longestBeginning_of_longest phrases hw
  · obtain ⟨x, hx, hne, ⟨y, rfl⟩, hl⟩ := (hend.mem m).1 hm
    have hpos := List.length_pos_of_ne_nil hne
    have hstart : (scan.position - m.length : Int) = (y.length : Nat) := by
      rw [h.position, List.length_append, hl]
      omega
    refine ⟨by omega, ?_, ?_⟩
    · rw [hstart, h.size_table]
      simp only [List.length_append]
      omega
    · rw [hstart, Text.slice_natCast, hx, h.position, List.append_assoc]
      simp

theorem Reads.read? {size : Nat} {u : WideText} {scan : Scan} (h : Reads phrases size u scan)
    (hlt : u.length < size) (c : CodePoint) : Scan.read? (ofPhrases phrases) scan c
      = some (Scan.read (ofPhrases phrases) scan c) := by
  obtain ⟨found, hfound, hend⟩ := (h.read phrases c).exists_found
  have hnode : (ofPhrases phrases).outputs[(ofPhrases phrases).next scan.node c]? = some found :=
    hfound
  have hnotes : found.foldlM (Table.note? · (scan.position + 1)) scan.table
      = some (found.foldl (Table.note · (scan.position + 1)) scan.table) := by
    refine foldlM_note? _ found _ fun m hm => ?_
    obtain ⟨w, -, hne, hw, hl⟩ := (hend.mem m).1 hm
    have hle := hw.length_le
    have hpos := List.length_pos_of_ne_nil hne
    rw [List.length_append, List.length_singleton] at hle
    rw [h.position, h.size_table, hl]
    omega
  simp only [Scan.read?, hnode, Option.bind_some, hnotes, Option.map_some, Scan.read,
    Array.getD_eq_getD_getElem?, Option.getD_some]

theorem Reads.foldlM_read? {size : Nat} : ∀ (text : WideText) {u : WideText} {scan : Scan},
    Reads phrases size u scan → u.length + text.length ≤ size →
      text.foldlM (Scan.read? (ofPhrases phrases)) scan
        = some (text.foldl (Scan.read (ofPhrases phrases)) scan)
  | [], _, _, _, _ => rfl
  | c :: text, u, _, h, hle => by
    rw [List.length_cons] at hle
    have ih := Reads.foldlM_read? text (h.read phrases c) (by simp; omega)
    rw [List.foldlM_cons, h.read? (by omega) c, List.foldl_cons]
    exact ih

end Standing

/-- Whatever part `u` of a text a scan has read, it stands at the node of the longest suffix of `u`
that begins a phrase, the matches found there lie in the text, and up to there no match was held
back by the guard and none was noted outside of the table. -/
theorem scan_stands_behind (phrases : List WideText) (u v : WideText) :
    ∃ scan, u.foldl (Scan.read (ofPhrases phrases))
        ⟨0, 0, Array.replicate (u ++ v).length none⟩ = scan
      ∧ (ofPhrases phrases).scan (u ++ v)
        = (v.foldl (Scan.read (ofPhrases phrases)) scan).table
      ∧ u.foldlM (Scan.read? (ofPhrases phrases))
        ⟨0, 0, Array.replicate (u ++ v).length none⟩ = some scan
      ∧ Stands phrases u v scan := by
  have hstart := reads_start phrases (u ++ v).length
  refine ⟨_, rfl, ?_, hstart.foldlM_read? u (by simp), Reads.stands ?_⟩
  · rw [scan, List.foldl_append]
  · exact Reads.foldl_read phrases u hstart

end Phrasebook.Scanner
