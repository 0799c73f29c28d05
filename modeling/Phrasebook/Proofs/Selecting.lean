import Phrasebook.Proofs.Replacing
import Mathlib.Data.List.Chain

/-!
# Which replacements are found

The replacements found in a text are told by what they are, with no word about how they are found:
spans one after the other, each of which holds the longest phrase that begins at its start and is
admitted and has a gloss, and outside of which no longest phrase is admitted and has a gloss. There
is just one list of that kind (`selects_iff_eq_find`).

A list is looked at from a place on (`SelectsFrom`). At a place with a replacement the list begins
with it and goes on behind it, at another it goes on at the next place, as reading does.
-/

namespace Phrasebook

/-- The phrase is the longest one of those that begin a text. -/
structure Phrase.IsLongest (phrases : List WideText) (x w : WideText) : Prop where
  mem : w ∈ phrases
  ne_nil : w ≠ []
  begins : w <+: x
  longest : ∀ v ∈ phrases, v <+: x → v.length ≤ w.length

theorem Phrase.isLongest_iff {phrases : List WideText} {x w : WideText} :
    IsLongest phrases x w ↔ longest? phrases x = some w := by
  rw [longest?_eq_some]
  constructor
  · rintro ⟨hw, hne, hwx, hmax⟩
    exact ⟨hw, hne, hwx, fun v hv _ => hmax v hv⟩
  · rintro ⟨hw, hne, hwx, hmax⟩
    refine ⟨hw, hne, hwx, fun v hv hvx => ?_⟩
    by_cases hvne : v = []
    · rw [hvne]
      exact Nat.zero_le _
    · exact hmax v hv hvne hvx

namespace Replacer

/-- A list of replacements that takes the longest phrases of a text wherever it may. -/
structure Selects (phrases : List WideText) (glosses : WideText → Option WideText) (guard : Guard)
    (text : WideText) (rs : List Replacement) : Prop where
  nonempty : ∀ f ∈ rs, f.start < f.stop
  inside : ∀ f ∈ rs, f.stop ≤ text.length
  apart : rs.IsChain fun f g => f.stop ≤ g.start
  phrase : ∀ f ∈ rs, f.phrase = (text.drop f.start).take (f.stop - f.start)
  longest : ∀ f ∈ rs, Phrase.IsLongest phrases (text.drop f.start) f.phrase
  admitted : ∀ f ∈ rs, guard.admits text f.start f.phrase = true
  gloss : ∀ f ∈ rs, glosses f.phrase = some f.gloss ∧ f.gloss ≠ []
  outside : ∀ p < text.length, (∀ f ∈ rs, p < f.start ∨ f.stop ≤ p) →
    (∀ w ∈ phrases, w ≠ [] → ¬ w <+: text.drop p)
      ∨ ∃ w, Phrase.IsLongest phrases (text.drop p) w
        ∧ (guard.admits text p w = false ∨ ∀ gloss, glosses w = some gloss → gloss = [])

section Place

variable {r : Replacer} {phrases : List WideText} {text : WideText} {p : ℕ} {f : Replacement}

theorem replacementAt_eq_some : r.replacementAt phrases text p = some f ↔
    f.start = p ∧ f.stop = p + f.phrase.length
      ∧ Phrase.longest? phrases (text.drop p) = some f.phrase
      ∧ r.guard.admits text p f.phrase = true
      ∧ r.glosses f.phrase = some f.gloss ∧ f.gloss ≠ [] := by
  refine ⟨of_replacementAt, ?_⟩
  rintro ⟨hstart, hstop, hlongest, hadmits, hgloss, hne⟩
  rcases f with ⟨start, stop, phrase, gloss⟩
  simp only at hstart hstop hlongest hadmits hgloss hne
  subst hstart hstop
  simp [replacementAt, hlongest, hadmits, hgloss, hne]

theorem replacementAt_eq_none : r.replacementAt phrases text p = none ↔
    (∀ w ∈ phrases, w ≠ [] → ¬ w <+: text.drop p)
      ∨ ∃ w, Phrase.IsLongest phrases (text.drop p) w
        ∧ (r.guard.admits text p w = false ∨ ∀ gloss, r.glosses w = some gloss → gloss = []) := by
  rw [← Phrase.longest?_eq_none]
  simp only [Phrase.isLongest_iff]
  unfold replacementAt
  rcases Phrase.longest? phrases (text.drop p) with _ | w
  · simp
  · cases hadmits : r.guard.admits text p w with
    | false => simp [hadmits]
    | true => simp [hadmits, Option.filter_eq_none_iff]

/-- A replacement at a place lies inside the text and holds what stands there. -/
theorem span_of_replacementAt (h : r.replacementAt phrases text p = some f) :
    f.stop ≤ text.length ∧ f.phrase = (text.drop p).take (f.stop - p) := by
  obtain ⟨-, hstop, hlongest, -⟩ := of_replacementAt h
  obtain ⟨-, hne, hpre, -⟩ := Phrase.of_longest? hlongest
  have hlen := hpre.length_le
  have hpos := List.length_pos_of_ne_nil hne
  rw [List.length_drop] at hlen
  refine ⟨by omega, ?_⟩
  rw [hstop, Nat.add_sub_cancel_left]
  exact List.prefix_iff_eq_take.1 hpre

end Place

/-! ## From a place on -/

/-- The list takes all replacements of a text from a place on that do not overlap those before. -/
structure SelectsFrom (r : Replacer) (phrases : List WideText) (text : WideText) (p : ℕ)
    (rs : List Replacement) : Prop where
  found : ∀ f ∈ rs, r.replacementAt phrases text f.start = some f
  behind : ∀ f ∈ rs, p ≤ f.start
  apart : rs.Pairwise fun f g => f.stop ≤ g.start
  outside : ∀ q, p ≤ q → q < text.length → (∀ f ∈ rs, q < f.start ∨ f.stop ≤ q) →
    r.replacementAt phrases text q = none

section From

variable {r : Replacer} {phrases : List WideText} {text : WideText} {p : ℕ} {rs : List Replacement}

theorem selectsFrom_of_le (hp : text.length ≤ p) : r.SelectsFrom phrases text p rs ↔ rs = [] := by
  constructor
  · intro h
    refine List.eq_nil_iff_forall_not_mem.2 fun f hf => ?_
    have hstop := (span_of_replacementAt (h.found f hf)).1
    have hlt := lt_stop_of_replacementAt (h.found f hf)
    have hle := h.behind f hf
    omega
  · rintro rfl
    refine ⟨by simp, by simp, .nil, fun q hpq hq => ?_⟩
    omega

theorem selectsFrom_of_none (hp : r.replacementAt phrases text p = none) :
    r.SelectsFrom phrases text p rs ↔ r.SelectsFrom phrases text (p + 1) rs := by
  constructor
  · intro h
    refine ⟨h.found, fun f hf => ?_, h.apart, fun q hq => h.outside q (by omega)⟩
    have hne : f.start ≠ p := by
      rintro rfl
      rw [h.found f hf] at hp
      cases hp
    have := h.behind f hf
    omega
  · intro h
    refine ⟨h.found, fun f hf => ?_, h.apart, fun q hq hlt hout => ?_⟩
    · have := h.behind f hf
      omega
    · rcases Nat.eq_or_lt_of_le hq with rfl | hq
      · exact hp
      · exact h.outside q hq hlt hout

theorem selectsFrom_of_some {f : Replacement} (hp : r.replacementAt phrases text p = some f) :
    r.SelectsFrom phrases text p rs
      ↔ ∃ rest, rs = f :: rest ∧ r.SelectsFrom phrases text f.stop rest := by
  have hstart := (of_replacementAt hp).1
  have hlt := lt_stop_of_replacementAt hp
  have hstop := (span_of_replacementAt hp).1
  constructor
  · intro h
    have hcovered : ∃ g ∈ rs, g.start ≤ p ∧ p < g.stop := by
      by_contra hno
      push Not at hno
      have := h.outside p (Nat.le_refl p) (by omega) fun g hg => by
        have := hno g hg
        omega
      rw [hp] at this
      cases this
    obtain ⟨g, hg, hle, -⟩ := hcovered
    have hgp : g.start = p := Nat.le_antisymm hle (h.behind g hg)
    obtain rfl : f = g := Option.some.inj (hp.symm.trans (hgp ▸ h.found g hg))
    rcases rs with _ | ⟨e, rest⟩
    · cases hg
    obtain ⟨hrest, hapart⟩ := List.pairwise_cons.1 h.apart
    obtain rfl : f = e := by
      rcases List.mem_cons.1 hg with heq | hmem
      · exact heq
      · have h1 := hrest f hmem
        have h2 := h.behind e List.mem_cons_self
        have h3 := lt_stop_of_replacementAt (h.found e List.mem_cons_self)
        omega
    refine ⟨rest, rfl, fun g hg => h.found g (List.mem_cons_of_mem _ hg), hrest, hapart,
      fun q hq hqlt hout => h.outside q (by omega) hqlt ?_⟩
    exact List.forall_mem_cons.2 ⟨.inr hq, hout⟩
  · rintro ⟨rest, rfl, h⟩
    refine ⟨List.forall_mem_cons.2 ⟨hstart.symm ▸ hp, h.found⟩,
      List.forall_mem_cons.2 ⟨hstart.ge, fun g hg => ?_⟩,
      List.pairwise_cons.2 ⟨h.behind, h.apart⟩, fun q hq hqlt hout => ?_⟩
    · have := h.behind g hg
      omega
    · obtain ⟨hout, hrest⟩ := List.forall_mem_cons.1 hout
      exact h.outside q (by omega) hqlt hrest

/-- From a place on there is one such list, and it is what reading finds. -/
theorem selectsFrom_iff (hr : r.scanner = .ofPhrases phrases) (p : ℕ) (rs : List Replacement) :
    r.SelectsFrom phrases text p rs ↔ rs = r.foundFrom text p := by
  induction h : text.length - p using Nat.strongRecOn generalizing p rs with
  | ind n ih =>
    subst h
    rcases Nat.lt_or_ge p text.length with hlt | hle
    · rw [foundFrom_eq hr hlt]
      rcases hp : r.replacementAt phrases text p with _ | f
      · rw [selectsFrom_of_none hp]
        exact ih _ (by omega) (p + 1) rs rfl
      · have hstop := lt_stop_of_replacementAt hp
        rw [selectsFrom_of_some hp]
        constructor
        · rintro ⟨rest, rfl, hrest⟩
          rw [(ih _ (by omega) f.stop rest rfl).1 hrest]
        · intro hrs
          exact ⟨_, hrs, (ih _ (by omega) f.stop _ rfl).2 rfl⟩
    · rw [selectsFrom_of_le hle, foundFrom_of_le hr hle]

end From

/-! ## In the whole text -/

/-- Spans that are not empty are apart if each is apart from the next. -/
theorem pairwise_of_isChain : ∀ {rs : List Replacement}, (∀ f ∈ rs, f.start < f.stop) →
    rs.IsChain (fun f g => f.stop ≤ g.start) → rs.Pairwise fun f g => f.stop ≤ g.start
  | [], _, _ => .nil
  | [f], _, _ => List.pairwise_singleton _ f
  | f :: g :: rs, hne, h => by
    obtain ⟨hfg, hrest⟩ := List.isChain_cons_cons.1 h
    obtain ⟨-, hne⟩ := List.forall_mem_cons.1 hne
    have ih := pairwise_of_isChain hne hrest
    have hg := (List.forall_mem_cons.1 hne).1
    refine List.pairwise_cons.2 ⟨List.forall_mem_cons.2 ⟨hfg, fun k hk => ?_⟩, ih⟩
    have := (List.pairwise_cons.1 ih).1 k hk
    omega

theorem selects_iff_selectsFrom {r : Replacer} {phrases : List WideText} {text : WideText}
    {rs : List Replacement} :
    Selects phrases r.glosses r.guard text rs ↔ r.SelectsFrom phrases text 0 rs := by
  constructor
  · intro h
    refine ⟨fun f hf => ?_, fun _ _ => Nat.zero_le _, pairwise_of_isChain h.nonempty h.apart,
      fun q _ hq hout => replacementAt_eq_none.2 (h.outside q hq hout)⟩
    have hlength : f.phrase.length = f.stop - f.start := by
      have hstop := h.inside f hf
      rw [h.phrase f hf, List.length_take, List.length_drop]
      omega
    have hlt := h.nonempty f hf
    exact replacementAt_eq_some.2 ⟨rfl, by omega, Phrase.isLongest_iff.1 (h.longest f hf),
      h.admitted f hf, h.gloss f hf⟩
  · intro h
    have hspan := fun f hf => span_of_replacementAt (h.found f hf)
    have hat := fun f hf => replacementAt_eq_some.1 (h.found f hf)
    exact
      { nonempty := fun f hf => lt_stop_of_replacementAt (h.found f hf)
        inside := fun f hf => (hspan f hf).1
        apart := h.apart.isChain
        phrase := fun f hf => (hspan f hf).2
        longest := fun f hf => Phrase.isLongest_iff.2 (hat f hf).2.2.1
        admitted := fun f hf => (hat f hf).2.2.2.1
        gloss := fun f hf => (hat f hf).2.2.2.2
        outside := fun p hp hout =>
          replacementAt_eq_none.1 (h.outside p (Nat.zero_le p) hp hout) }

/-- What is found in a text is the one list of replacements that takes the longest phrases wherever
it may. -/
theorem selects_iff_eq_find (phrases : List WideText) (glosses : WideText → Option WideText)
    (guard : Guard)
    (text : WideText) (rs : List Replacement) : Selects phrases glosses guard text rs
      ↔ rs = find { scanner := .ofPhrases phrases, glosses, guard } text := by
  rw [find_eq_foundFrom, ← selectsFrom_iff rfl, ← selects_iff_selectsFrom]

end Replacer

end Phrasebook
