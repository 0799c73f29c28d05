import Phrasebook.Phrase
import Phrasebook.Scanner.Basic
import Mathlib.Data.List.Nodup
import Mathlib.Order.Lattice

/-!
# The phrases of a vocabulary

Collecting phrases sorts them and drops repetitions, which changes their order and their number but
not what phrases there are: all useful texts among the values (`mem_collect`). Sorting lets
repetitions stand side by side, so each phrase that is left comes before the next: it is longer, or
as long and less in the order of texts (`pairwise_before_eraseReps`). There is only one such list
of given texts (`eq_collect_iff`). So neither the order of the values nor anything but the useful
texts among them shows (`collect_eq_iff`), and phrases that are collected again stay as they are.
-/

namespace Phrasebook

instance : LinearOrder CodePoint :=
  { LinearOrder.lift' CodePoint.toNat fun _ _ => CodePoint.toNat_inj with
    lt := (· < ·)
    le := (· ≤ ·) }

namespace Phrase

theorem mem_eraseRepsBy_loop {x : WideText} : ∀ (ts : List WideText) (t : WideText)
    (kept : List WideText), x ∈ List.eraseRepsBy.loop (· == ·) t ts kept ↔ x ∈ kept ∨ x = t ∨ x ∈ ts
  | [], t, kept => by
    simp [List.eraseRepsBy.loop, or_comm]
  | u :: ts, t, kept => by
    rw [List.eraseRepsBy.loop]
    cases h : t == u with
    | true =>
      rw [mem_eraseRepsBy_loop ts t kept, List.mem_cons, eq_of_beq h]
      tauto
    | false =>
      rw [mem_eraseRepsBy_loop ts u (t :: kept), List.mem_cons, List.mem_cons]
      tauto

theorem mem_eraseReps {x : WideText} : ∀ {ts : List WideText}, x ∈ ts.eraseReps ↔ x ∈ ts
  | [] => Iff.rfl
  | t :: ts => by
    rw [List.eraseReps, List.eraseRepsBy, mem_eraseRepsBy_loop, List.mem_cons]
    simp

/-- The phrases collected are the useful texts among the values. -/
theorem mem_collect {values : List Json} {w : WideText} :
    w ∈ collect values ↔ w ∈ (values.filterMap Value.text?).filter isUseful := by
  rw [collect, mem_eraseReps]
  exact (List.mergeSort_perm _ _).mem_iff

theorem mem_collect_iff {values : List Json} {w : WideText} :
    w ∈ collect values ↔ Value.text w ∈ values ∧ isUsefulValue (.text w) = true := by
  have huseful : isUsefulValue (.text w) = isUseful w := by
    simp [isUsefulValue, Value.text?]
  rw [mem_collect, List.mem_filter, huseful]
  refine and_congr_left fun _ => ?_
  rw [List.mem_filterMap]
  constructor
  · rintro ⟨v, hv, htext⟩
    rcases v with _ | _ | _ | _ | _ | _ | _ <;> simp [Value.text?] at htext
    exact htext ▸ hv
  · intro h
    exact ⟨.text w, h, rfl⟩

/-! ## The order of phrases -/

/-- A phrase comes before another: it is longer, or as long and less in the order of texts. -/
def Before (a b : WideText) : Prop :=
  b.length < a.length ∨ a.length = b.length ∧ a < b

section Order

variable {a b c : WideText}

theorem precedes_iff : precedes a b = true ↔
    b.length < a.length ∨ a.length = b.length ∧ ¬ b < a := by
  simp [precedes]

theorem precedes_trans (hab : precedes a b = true) (hbc : precedes b c = true) :
    precedes a c = true := by
  rw [precedes_iff] at hab hbc ⊢
  rcases hab with hab | ⟨hab, hle⟩ <;> rcases hbc with hbc | ⟨hbc, hle'⟩
  · exact .inl (by omega)
  · exact .inl (by omega)
  · exact .inl (by omega)
  · have hac := List.le_trans (List.not_lt.1 hle) (List.not_lt.1 hle')
    exact .inr ⟨by omega, List.not_lt.2 hac⟩

theorem precedes_total (a b : WideText) : (precedes a b || precedes b a) = true := by
  rw [Bool.or_eq_true, precedes_iff, precedes_iff]
  rcases Nat.lt_trichotomy a.length b.length with h | h | h
  · exact .inr (.inl h)
  · rcases List.le_total a b with hle | hle
    · exact .inl (.inr ⟨h, List.not_lt.2 hle⟩)
    · exact .inr (.inr ⟨h.symm, List.not_lt.2 hle⟩)
  · exact .inl (.inl h)

theorem Before.irrefl (a : WideText) : ¬ Before a a := by
  rintro (h | ⟨-, h⟩)
  · omega
  · exact List.lt_irrefl a h

theorem Before.trans (hab : Before a b) (hbc : Before b c) : Before a c := by
  rcases hab with hab | ⟨hab, hlt⟩ <;> rcases hbc with hbc | ⟨hbc, hlt'⟩
  · exact .inl (by omega)
  · exact .inl (by omega)
  · exact .inl (by omega)
  · exact .inr ⟨by omega, List.lt_trans hlt hlt'⟩

theorem before_of_precedes (h : precedes a b = true) (hne : a ≠ b) : Before a b := by
  rcases precedes_iff.1 h with h | ⟨hlen, hle⟩
  · exact .inl h
  · refine .inr ⟨hlen, ?_⟩
    by_contra hnot
    exact hne (List.le_antisymm (List.not_lt.1 hle) (List.not_lt.1 hnot))

end Order

/-- Texts are in order behind those in `kept`, which come before `t` and stand last one first. -/
theorem pairwise_before_loop : ∀ (ts : List WideText) (t : WideText) (kept : List WideText),
    (t :: ts).Pairwise (precedes · · = true) → (t :: kept).Pairwise (fun a b => Before b a) →
      (List.eraseRepsBy.loop (· == ·) t ts kept).Pairwise Before
  | [], t, kept, _, hkept => by
    rw [List.eraseRepsBy.loop]
    exact List.pairwise_reverse.2 hkept
  | u :: ts, t, kept, hts, hkept => by
    obtain ⟨ht, hu⟩ := List.pairwise_cons.1 hts
    rw [List.eraseRepsBy.loop]
    cases h : t == u with
    | true =>
      rw [eq_of_beq h] at hkept ⊢
      exact pairwise_before_loop ts u kept hu hkept
    | false =>
      have hbefore : Before t u := before_of_precedes (ht u List.mem_cons_self) (ne_of_beq_false h)
      refine pairwise_before_loop ts u (t :: kept) hu (List.pairwise_cons.2 ⟨?_, hkept⟩)
      intro k hk
      rcases List.mem_cons.1 hk with rfl | hk
      · exact hbefore
      · exact ((List.pairwise_cons.1 hkept).1 k hk).trans hbefore

theorem pairwise_before_eraseReps : ∀ {ts : List WideText}, ts.Pairwise (precedes · · = true) →
    ts.eraseReps.Pairwise Before
  | [], _ => .nil
  | t :: ts, h => pairwise_before_loop ts t [] h (List.pairwise_singleton _ t)

theorem pairwise_before_collect (values : List Json) : (collect values).Pairwise Before := by
  have hsorted : ∀ ts : List WideText, (ts.mergeSort precedes).Pairwise (precedes · · = true) :=
    List.pairwise_mergeSort (fun _ _ _ => precedes_trans) precedes_total
  exact pairwise_before_eraseReps (hsorted _)

theorem nodup_of_pairwise_before {ts : List WideText} (h : ts.Pairwise Before) : ts.Nodup := by
  refine h.imp ?_
  rintro a _ hab rfl
  exact hab.irrefl

/-- A list in which each text comes before the next is known from its members. -/
theorem eq_of_pairwise_before {ts us : List WideText} (hts : ts.Pairwise Before)
    (hus : us.Pairwise Before) (hmem : ∀ w, w ∈ ts ↔ w ∈ us) : ts = us := by
  have hperm := (List.perm_ext_iff_of_nodup (nodup_of_pairwise_before hts)
    (nodup_of_pairwise_before hus)).2 hmem
  exact hperm.eq_of_pairwise (fun _ _ _ _ hab hba => (hab.trans hba).irrefl.elim) hts hus

/-! ## The list of phrases -/

/-- Some values and others have the same useful texts. -/
def UsefulAlike (values others : List Json) : Prop :=
  ∀ w, isUsefulValue (.text w) = true → (Value.text w ∈ values ↔ Value.text w ∈ others)

/-- The phrases collected are the only list of the useful texts in order. -/
theorem eq_collect_iff {values : List Json} {ts : List WideText} : ts = collect values ↔
    ts.Pairwise Before ∧ ∀ w, w ∈ ts ↔ Value.text w ∈ values ∧ isUsefulValue (.text w) = true := by
  constructor
  · rintro rfl
    exact ⟨pairwise_before_collect values, fun _ => mem_collect_iff⟩
  · rintro ⟨hts, hmem⟩
    refine eq_of_pairwise_before hts (pairwise_before_collect values) fun w => ?_
    rw [hmem, mem_collect_iff]

theorem collect_eq_iff {values others : List Json} :
    collect values = collect others ↔ UsefulAlike values others := by
  rw [eq_collect_iff, UsefulAlike]
  constructor
  · rintro ⟨-, hmem⟩ w hw
    have h := hmem w
    rw [mem_collect_iff] at h
    simpa [hw] using h
  · intro h
    refine ⟨pairwise_before_collect values, fun w => ?_⟩
    rw [mem_collect_iff]
    exact and_congr_left fun hw => h w hw

/-- The phrases collected do not depend on the order of the values. -/
theorem collect_of_perm {values others : List Json} (h : values.Perm others) :
    collect values = collect others :=
  collect_eq_iff.2 fun _ _ => h.mem_iff

/-- Phrases that are collected again stay as they are. -/
theorem collect_collect (values : List Json) :
    collect ((collect values).map .text) = collect values := by
  symm
  rw [eq_collect_iff]
  refine ⟨pairwise_before_collect values, fun w => ?_⟩
  have hmap : Value.text w ∈ (collect values).map .text ↔ w ∈ collect values := by simp
  rw [hmap, and_iff_left_of_imp]
  intro h
  exact (mem_collect_iff.1 h).2

/-- The phrases collected from some values are the useful texts among them, once each and in strict
order. They and their scanner depend on nothing but which texts these are, and collecting them
again changes nothing. -/
theorem collect_canonical (values : List Json) :
    (∀ ts, ts = collect values ↔ ts.Pairwise Before
      ∧ ∀ w, w ∈ ts ↔ Value.text w ∈ values ∧ isUsefulValue (.text w) = true)
    ∧ (collect values).Nodup
    ∧ (∀ others, collect values = collect others ↔ UsefulAlike values others)
    ∧ (∀ others, Scanner.ofPhrases (collect values) = Scanner.ofPhrases (collect others)
      ↔ UsefulAlike values others)
    ∧ collect ((collect values).map .text) = collect values := by
  refine ⟨fun _ => eq_collect_iff, nodup_of_pairwise_before (pairwise_before_collect values),
    fun _ => collect_eq_iff, fun others => ?_, collect_collect values⟩
  rw [← collect_eq_iff]
  constructor
  · intro h
    have hphrases := congrArg Scanner.phrases h
    simpa [Scanner.ofPhrases] using hphrases
  · intro h
    rw [h]

end Phrase

end Phrasebook
