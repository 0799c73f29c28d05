import Phrasebook.Proofs.Scan
import Phrasebook.Replacer
import Mathlib.Data.List.MinMax

/-!
# What is replaced

At each place the longest of the phrases that begin there counts (`Phrase.longest?`). It is replaced
if it is admitted and has a gloss (`replacementAt`), and reading goes on behind it; if not, it goes
on at the next place (`foundFrom_eq`). With whole words as the guard this looks at no more than the
rest of the text and the character before it, so that a text is replaced by going through it once
(`replaceBehind`, `replace_eq`).
-/

namespace Phrasebook

/-! ## The longest phrase that begins a text -/

/-- A text without a character stands at the start of another if it stands before that character. -/
theorem prefix_append_cons_iff {c : CodePoint} {w : WideText} (hc : c ∉ w) (x y : WideText) :
    w <+: x ++ c :: y ↔ w <+: x := by
  refine ⟨fun h => ?_, fun h => h.trans (List.prefix_append x _)⟩
  rcases List.prefix_or_prefix_of_prefix h (List.prefix_append x (c :: y)) with hwx | ⟨v, rfl⟩
  · exact hwx
  · rcases v with _ | ⟨d, v⟩
    · rw [List.append_nil]
    · rw [List.prefix_append_right_inj] at h
      obtain ⟨rfl, -⟩ := List.cons_prefix_cons.1 h
      exact absurd (by simp) hc

/-- The longest of the phrases that begin a text. -/
def Phrase.longest? (phrases : List WideText) (x : WideText) : Option WideText :=
  (phrases.filter fun w => !w.isEmpty && w.isPrefixOf x).argmax List.length

namespace Phrase

theorem mem_beginning {phrases : List WideText} {x w : WideText} :
    w ∈ phrases.filter (fun w => !w.isEmpty && w.isPrefixOf x)
      ↔ w ∈ phrases ∧ w ≠ [] ∧ w <+: x := by
  simp [List.isPrefixOf_iff_prefix]

theorem longest?_eq_none {phrases : List WideText} {x : WideText} :
    longest? phrases x = none ↔ ∀ w ∈ phrases, w ≠ [] → ¬ w <+: x := by
  rw [longest?, List.argmax_eq_none, List.eq_nil_iff_forall_not_mem]
  constructor
  · intro h w hw hne hwx
    exact h w (mem_beginning.2 ⟨hw, hne, hwx⟩)
  · intro h w hw
    obtain ⟨hw, hne, hwx⟩ := mem_beginning.1 hw
    exact h w hw hne hwx

/-- The longest phrase that begins a text is one of them, and none of them is longer. -/
theorem of_longest? {phrases : List WideText} {x w : WideText} (h : longest? phrases x = some w) :
    w ∈ phrases ∧ w ≠ [] ∧ w <+: x ∧ ∀ v ∈ phrases, v ≠ [] → v <+: x → v.length ≤ w.length := by
  obtain ⟨hw, hne, hwx⟩ := mem_beginning.1 (List.argmax_mem (Option.mem_def.2 h))
  refine ⟨hw, hne, hwx, fun v hv hvne hvx => ?_⟩
  exact List.le_of_mem_argmax (mem_beginning.2 ⟨hv, hvne, hvx⟩) (Option.mem_def.2 h)

theorem longest?_eq_some {phrases : List WideText} {x w : WideText} : longest? phrases x = some w ↔
    w ∈ phrases ∧ w ≠ [] ∧ w <+: x ∧ ∀ v ∈ phrases, v ≠ [] → v <+: x → v.length ≤ w.length := by
  refine ⟨of_longest?, fun ⟨hw, hne, hwx, hmax⟩ => ?_⟩
  rcases h : longest? phrases x with _ | v
  · exact absurd hwx (longest?_eq_none.1 h w hw hne)
  · obtain ⟨hv, hvne, hvx, hvmax⟩ := of_longest? h
    have hvw := List.prefix_of_prefix_length_le hvx hwx (hmax v hv hvne hvx)
    rw [hvw.eq_of_length_le (hvmax w hw hne hwx)]

/-- Which phrase is the longest depends on what phrases there are, and not on their order. -/
theorem longest?_congr {phrases others : List WideText} (h : ∀ w, w ∈ phrases ↔ w ∈ others)
    (x : WideText) : longest? phrases x = longest? others x := by
  rcases hx : longest? others x with _ | w
  · rw [longest?_eq_none] at hx ⊢
    exact fun w hw => hx w ((h w).1 hw)
  · rw [longest?_eq_some] at hx ⊢
    obtain ⟨hw, hne, hwx, hmax⟩ := hx
    exact ⟨(h w).2 hw, hne, hwx, fun v hv => hmax v ((h v).1 hv)⟩

/-- The best match at a place is a match of the longest phrase. -/
theorem longest?_of_isBest {phrases : List WideText} {x : WideText} :
    ∀ {best : Option Scanner.Match}, Scanner.IsBest phrases x best →
      (best = none ∧ longest? phrases x = none) ∨ ∃ m w, best = some m
        ∧ longest? phrases x = some w ∧ phrases[m.phrase]? = some w ∧ m.length = w.length
  | none, h => .inl ⟨rfl, longest?_eq_none.2 h⟩
  | some m, h => by
    obtain ⟨w, hw, hne, hwx, hl, hmax, -⟩ := h
    refine .inr ⟨m, w, rfl, longest?_eq_some.2 ⟨?_, hne, hwx, fun v hv _ => hmax v hv⟩, hw, hl⟩
    exact List.mem_of_getElem? hw

end Phrase

/-! ## Going through a text -/

namespace Replacer

/-- The replacement at a place of a text. -/
def replacementAt (r : Replacer) (phrases : List WideText) (text : WideText) (p : Nat) :
    Option Replacement :=
  match Phrase.longest? phrases (text.drop p) with
  | none => none
  | some w =>
    if r.guard.admits text p w then
      ((r.glosses w).filter fun gloss => !gloss.isEmpty).map (⟨p, p + w.length, w, ·⟩)
    else none

/-- The replacements from a place on. -/
def foundFrom (r : Replacer) (text : WideText) (p : Nat) : List Replacement :=
  r.findFrom text ((r.scanner.scan text).toList.drop p) p 0

theorem find_eq_foundFrom (r : Replacer) (text : WideText) : r.find text = r.foundFrom text 0 := rfl

theorem findFrom_skip (r : Replacer) (text : WideText) : ∀ (best : List (Option Scanner.Match))
    (start skip : Nat),
    r.findFrom text best start skip = r.findFrom text (best.drop skip) (start + skip) 0
  | [], _, skip => by
    rw [List.drop_nil]
    rfl
  | _ :: _, _, 0 => rfl
  | _ :: best, start, skip + 1 => by
    rw [findFrom, findFrom_skip r text best, List.drop_succ_cons, Nat.add_right_comm,
      Nat.add_assoc]

section Found

variable {r : Replacer} {phrases : List WideText} (hr : r.scanner = .ofPhrases phrases)
  {text : WideText} {p : Nat}

/-- What a replacement found at a place is. -/
theorem of_replacementAt {f : Replacement} (h : r.replacementAt phrases text p = some f) :
    f.start = p ∧ f.stop = p + f.phrase.length
      ∧ Phrase.longest? phrases (text.drop p) = some f.phrase
      ∧ r.guard.admits text p f.phrase = true
      ∧ r.glosses f.phrase = some f.gloss ∧ f.gloss ≠ [] := by
  unfold replacementAt at h
  split at h
  · cases h
  · rename_i w hw
    split_ifs at h with hadmits
    obtain ⟨gloss, hgloss, rfl⟩ := Option.map_eq_some_iff.1 h
    obtain ⟨hgloss, hempty⟩ := Option.filter_eq_some_iff.1 hgloss
    exact ⟨rfl, rfl, hw, hadmits, hgloss, by simpa using hempty⟩

theorem lt_stop_of_replacementAt {f : Replacement} (h : r.replacementAt phrases text p = some f) :
    p < f.stop := by
  obtain ⟨-, hstop, hw, -⟩ := of_replacementAt h
  have := List.length_pos_of_ne_nil (Phrase.of_longest? hw).2.1
  omega

include hr

theorem length_scan : (r.scanner.scan text).toList.length = text.length := by
  rw [hr, Array.length_toList, Scanner.size_scan]

theorem foundFrom_of_le (hp : text.length ≤ p) : r.foundFrom text p = [] := by
  rw [foundFrom, List.drop_of_length_le (by rwa [length_scan hr])]
  rfl

/-- The table of a scan says which replacement there is at a place. -/
theorem bind_replacement? (hp : p < text.length) : ∃ best, (r.scanner.scan text)[p]? = some best
    ∧ best.bind (r.replacement? text p) = r.replacementAt phrases text p := by
  obtain ⟨best, hbest, his⟩ := Scanner.isBest_scan phrases text hp
  refine ⟨best, hr ▸ hbest, ?_⟩
  rcases Phrase.longest?_of_isBest his with ⟨rfl, hnone⟩ | ⟨m, w, rfl, hsome, hw, hl⟩
  · rw [replacementAt, hnone]
    rfl
  · have hphrase : r.scanner.phrases[m.phrase]? = some w := by
      rw [hr, Scanner.phrases_ofPhrases, List.getElem?_toArray, hw]
    simp only [Option.bind_some, replacement?, replacementAt, hphrase, hsome, hl]
    rcases r.glosses w with _ | ⟨_ | ⟨c, gloss⟩⟩ <;> rfl

/-- At a place with a replacement reading goes on behind it, else at the next place. -/
theorem foundFrom_eq (hp : p < text.length) : r.foundFrom text p =
    match r.replacementAt phrases text p with
    | none => r.foundFrom text (p + 1)
    | some f => f :: r.foundFrom text f.stop := by
  obtain ⟨best, hbest, hat⟩ := bind_replacement? hr hp
  have hlt : p < (r.scanner.scan text).toList.length := by rwa [length_scan hr]
  have hget : (r.scanner.scan text).toList[p] = best := by
    rw [← Array.getElem?_toList, List.getElem?_eq_getElem hlt] at hbest
    exact Option.some.inj hbest
  rw [foundFrom, List.drop_eq_getElem_cons hlt, hget, findFrom, hat]
  rcases hf : r.replacementAt phrases text p with _ | f
  · rfl
  · have hstop := lt_stop_of_replacementAt hf
    have h1 : p + 1 + (f.stop - p - 1) = f.stop := by omega
    simp only [findFrom_skip r text _ (p + 1), List.drop_drop, h1]
    rfl

end Found

/-! ## Once through a text -/

/-- Which phrase is to be replaced by what at the start of a text, behind a character. -/
abbrev Due :=
  Option CodePoint → WideText → Option (WideText × WideText)

/-- The longest phrase that begins a text with its gloss, unless it is a word of ASCII letters next
to such a letter; `before` is the character before the text. -/
def dueBehind (phrases : List WideText) (gloss? : WideText → Option WideText) : Due :=
  fun before x =>
  match Phrase.longest? phrases x with
  | none => none
  | some w =>
    if isBareWord w
        && (before.any CodePoint.isAsciiLetter || x[w.length]?.any CodePoint.isAsciiLetter) then
      none
    else (gloss? w).map (w, ·)

/-- A text behind a character with its phrases replaced, and how many there were. -/
def replaceBehind (due? : Due) (before : Option CodePoint) : WideText → WideText × Nat
  | [] => ([], 0)
  | c :: x =>
    match due? before (c :: x) with
    | none =>
      let (y, n) := replaceBehind due? (some c) x
      (c :: y, n)
    | some (w, gloss) =>
      let (y, n) := replaceBehind due? w.getLast? (x.drop (w.length - 1))
      (gloss ++ y, n + 1)
termination_by x => x.length

/-- Which phrases there are counts, and not their order. -/
theorem dueBehind_congr {phrases others : List WideText} (h : ∀ w, w ∈ phrases ↔ w ∈ others)
    (gloss? : WideText → Option WideText) : dueBehind phrases gloss? = dueBehind others gloss? := by
  funext before x
  rw [dueBehind, dueBehind, Phrase.longest?_congr h]

theorem longest?_of_dueBehind {phrases : List WideText} {gloss? : WideText → Option WideText}
    {before : Option CodePoint} {x w gloss : WideText}
    (h : dueBehind phrases gloss? before x = some (w, gloss)) :
    Phrase.longest? phrases x = some w := by
  unfold dueBehind at h
  split at h
  · cases h
  · rename_i v hv
    split_ifs at h
    obtain ⟨g, -, heq⟩ := Option.map_eq_some_iff.1 h
    rw [hv, (Prod.mk.inj heq).1]

theorem any_getLast?_take (text : WideText) {p : Nat} (hp : p ≤ text.length)
    (f : CodePoint → Bool) :
    (text.take p).getLast?.any f = (decide (0 < p) && text[p - 1]?.any f) := by
  rw [List.getLast?_take]
  rcases p with _ | p
  · simp
  · rw [Nat.add_sub_cancel, List.getElem?_eq_getElem (by omega)]
    simp

theorem getLast?_take_succ {text : WideText} {p : Nat} (hp : p < text.length) :
    (text.take (p + 1)).getLast? = some text[p] := by
  rw [List.take_add_one, List.getElem?_eq_getElem hp, Option.toList_some, List.getLast?_concat]

/-- Behind a phrase that stands at a place, the character before is the last one of the phrase. -/
theorem getLast?_take_add {text w : WideText} {p : Nat} (hw : w <+: text.drop p) (hne : w ≠ []) :
    (text.take (p + w.length)).getLast? = w.getLast? := by
  rw [List.take_add, ← List.prefix_iff_eq_take.1 hw, List.getLast?_append_of_ne_nil _ hne]

theorem take_drop_succ {text : WideText} {p last : Nat} (hlast : last ≤ p) (hp : p < text.length) :
    (text.drop last).take (p + 1 - last) = (text.drop last).take (p - last) ++ [text[p]] := by
  have hnext : (text.drop last)[p - last]? = some text[p] := by
    rw [List.getElem?_drop, Nat.add_sub_cancel' hlast, List.getElem?_eq_getElem hp]
  rw [Nat.sub_add_comm hlast, List.take_add_one, hnext, Option.toList_some]

/-- The gloss of a phrase, unless it is empty. -/
def gloss? (r : Replacer) (phrase : WideText) : Option WideText :=
  (r.glosses phrase).filter fun gloss => !gloss.isEmpty

theorem gloss?_eq_some {r : Replacer} {phrase gloss : WideText} :
    r.gloss? phrase = some gloss ↔ r.glosses phrase = some gloss ∧ gloss ≠ [] := by
  simp [gloss?, Option.filter_eq_some_iff]

theorem gloss?_eq_glosses {r : Replacer} (hgloss : ∀ w, r.glosses w ≠ some []) :
    r.gloss? = r.glosses := by
  funext phrase
  rcases h : r.glosses phrase with _ | gloss
  · rw [gloss?, h]
    rfl
  · exact gloss?_eq_some.2 ⟨h, fun hnil => hgloss phrase (hnil ▸ h)⟩

section Replace

variable {r : Replacer} {phrases : List WideText} (hr : r.scanner = .ofPhrases phrases)
  (hguard : r.guard = .wholeWords) {text : WideText}

include hguard

theorem replacementAt_eq {p : Nat} (hp : p < text.length) : r.replacementAt phrases text p =
    (dueBehind phrases r.gloss? (text.take p).getLast? (text.drop p)).map
      fun d => ⟨p, p + d.1.length, d.1, d.2⟩ := by
  unfold replacementAt dueBehind
  rcases Phrase.longest? phrases (text.drop p) with _ | w
  · rfl
  · have hadmits : r.guard.admits text p w = !(isBareWord w
        && ((text.take p).getLast?.any CodePoint.isAsciiLetter
          || (text.drop p)[w.length]?.any CodePoint.isAsciiLetter)) := by
      rw [hguard, any_getLast?_take text (by omega), List.getElem?_drop]
      simp only [Guard.wholeWords, Guard.letterAt, Bool.not_and, Bool.not_or]
    simp only [hadmits, gloss?]
    rcases isBareWord w && ((text.take p).getLast?.any CodePoint.isAsciiLetter
      || (text.drop p)[w.length]?.any CodePoint.isAsciiLetter) with _ | _
    · simp only [Bool.not_false, if_true, Bool.false_eq_true, if_false, Option.map_map]
      rfl
    · rfl

include hr

/-- From a place on, a text is edited as if the rest were gone through. What stands before the place
and behind the offset `last` is copied. -/
theorem pieces_foundFrom (p last : Nat) (hp : p ≤ text.length) (hlast : last ≤ p) :
    (Text.Edit.pieces text last ((r.foundFrom text p).map Replacement.edit)).flatten
        = (text.drop last).take (p - last)
          ++ (replaceBehind (dueBehind phrases r.gloss?) (text.take p).getLast? (text.drop p)).1
      ∧ (r.foundFrom text p).length
        = (replaceBehind (dueBehind phrases r.gloss?) (text.take p).getLast? (text.drop p)).2 := by
  induction h : text.length - p using Nat.strongRecOn generalizing p last with
  | ind n ih =>
    subst h
    rcases Nat.eq_or_lt_of_le hp with rfl | hlt
    · rw [foundFrom_of_le hr (Nat.le_refl _), List.drop_length, replaceBehind, List.map_nil,
        Text.Edit.pieces, Text.slice_natCast]
      simp
    have hdrop : text.drop p = text[p] :: text.drop (p + 1) := List.drop_eq_getElem_cons hlt
    rw [foundFrom_eq hr hlt, replacementAt_eq hguard hlt, hdrop, replaceBehind]
    rcases hdue : dueBehind phrases r.gloss? (text.take p).getLast? (text[p] :: text.drop (p + 1))
      with _ | ⟨w, gloss⟩
    · obtain ⟨ih1, ih2⟩ := ih (text.length - (p + 1)) (by omega) (p + 1) last
        (by omega) (by omega) rfl
      rw [getLast?_take_succ hlt] at ih1 ih2
      refine ⟨?_, ih2⟩
      simp only [Option.map_none]
      rw [ih1, take_drop_succ hlast hlt, List.append_assoc]
      rfl
    · obtain ⟨-, hne, hpre, -⟩ := Phrase.of_longest? (longest?_of_dueBehind hdue)
      rw [← hdrop] at hpre
      have hpos := List.length_pos_of_ne_nil hne
      have hle : p + w.length ≤ text.length := by
        have := hpre.length_le
        rw [List.length_drop] at this
        omega
      obtain ⟨ih1, ih2⟩ := ih (text.length - (p + w.length)) (by omega) (p + w.length)
        (p + w.length) hle (Nat.le_refl _) rfl
      have hrest : (text.drop (p + 1)).drop (w.length - 1) = text.drop (p + w.length) := by
        rw [List.drop_drop]
        congr 1
        omega
      rw [getLast?_take_add hpre hne] at ih1 ih2
      simp only [Option.map_some, List.map_cons, List.length_cons, hrest, ih2, and_true]
      simp only [Text.Edit.pieces, Replacement.edit, List.flatten_cons, Text.slice_natCast]
      rw [ih1]
      simp

/-- A text is replaced by going through it once. -/
theorem replace_eq_replaceBehind :
    r.replace text = replaceBehind (dueBehind phrases r.gloss?) none text := by
  obtain ⟨h1, h2⟩ := pieces_foundFrom hr hguard 0 0 (Nat.zero_le text.length)
    (Nat.le_refl 0)
  rw [replace, find_eq_foundFrom, Text.Edit.applyAll, h2]
  exact Prod.ext h1 rfl

theorem replace_eq (hgloss : ∀ w, r.glosses w ≠ some []) :
    r.replace text = replaceBehind (dueBehind phrases r.glosses) none text := by
  rw [replace_eq_replaceBehind hr hguard, gloss?_eq_glosses hgloss]

end Replace

end Replacer

end Phrasebook
