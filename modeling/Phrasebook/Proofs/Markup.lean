import Phrasebook.Proofs.Mapping
import Phrasebook.Proofs.Replacing
import Phrasebook.Proofs.Glosses
import Phrasebook.Page
import Mathlib

/-!
# When markup is kept

Glosses are put into a page as they are, so a `<` in one begins a tag. A page keeps its tags and its
tail exactly if no gloss that is put into it holds a `<` (`tags_localize_iff`). That such a gloss
always shows is seen by counting the characters inside tags and the tail: what is put into a run
takes none of them away, and its first `<` is one more (`le_tagged_mapTokens`).
-/

namespace Phrasebook

namespace Html

/-! ## Counting markup -/

/-- The number of characters of a text that are inside tags or the tail; `inside` says whether a tag
has begun before the text. -/
def tagged : (inside : Bool) → WideText → Nat
  | _, [] => 0
  | false, c :: t => if c = .char '<' then tagged true t + 1 else tagged false t
  | true, c :: t => (if c = .char '>' then tagged false t else tagged true t) + 1

theorem tagged_le_inside : ∀ t : WideText, tagged false t ≤ tagged true t
  | [] => Nat.le_refl 0
  | c :: t => by
    have ih := tagged_le_inside t
    simp only [tagged]
    split_ifs with hlt hgt
    · exact absurd (hlt.symm.trans hgt) (by decide)
    all_goals omega

theorem tagged_append_of_notMem {u : WideText} (h : .char '<' ∉ u) (t : WideText) :
    tagged false (u ++ t) = tagged false t := by
  induction u with
  | nil => rfl
  | cons c u ih =>
    rw [List.mem_cons, not_or] at h
    obtain ⟨hc, hu⟩ := h
    rw [List.cons_append, tagged, if_neg (Ne.symm hc), ih hu]

/-- What stands before a text takes away none of its markup. -/
theorem tagged_le_append : ∀ (inside : Bool) (u t : WideText),
    tagged false t ≤ tagged inside (u ++ t)
  | false, [], _ => Nat.le_refl _
  | true, [], t => tagged_le_inside t
  | false, c :: u, t => by
    have h₁ := tagged_le_append false u t
    have h₂ := tagged_le_append true u t
    rw [List.cons_append, tagged]
    split_ifs <;> omega
  | true, c :: u, t => by
    have h₁ := tagged_le_append false u t
    have h₂ := tagged_le_append true u t
    rw [List.cons_append, tagged]
    split_ifs <;> omega

theorem tagged_lt_append {u : WideText} (h : .char '<' ∈ u) (t : WideText) :
    tagged false t < tagged false (u ++ t) := by
  obtain ⟨v, w, rfl, hv⟩ := List.eq_append_cons_of_mem h
  rw [List.append_assoc, tagged_append_of_notMem hv, List.cons_append, tagged, if_pos rfl]
  exact Nat.lt_succ_of_le (tagged_le_append true w t)

theorem tagged_inside_of_notMem {u : WideText} (h : .char '>' ∉ u) (t : WideText) :
    tagged true (u ++ t) = u.length + tagged true t := by
  induction u with
  | nil => exact (Nat.zero_add _).symm
  | cons c u ih =>
    rw [List.mem_cons, not_or] at h
    obtain ⟨hc, hu⟩ := h
    rw [List.cons_append, tagged, if_neg (Ne.symm hc), ih hu, List.length_cons]
    omega

theorem tagged_tag {tag : WideText} (h : IsTag tag) (t : WideText) :
    tagged false (tag ++ t) = tag.length + tagged false t := by
  obtain ⟨u, rfl, hu⟩ := h
  have htext : .char '<' :: u ++ [.char '>'] ++ t = .char '<' :: (u ++ .char '>' :: t) := by simp
  rw [htext, tagged, if_pos rfl, tagged_inside_of_notMem hu, tagged, if_pos rfl]
  simp only [List.length_append, List.length_cons, List.length_nil]
  omega

theorem tagged_tail {tail : WideText} (h : IsTail tail) : tagged false tail = tail.length := by
  rcases h with rfl | ⟨u, rfl, hu⟩
  · rfl
  · have htail := tagged_inside_of_notMem hu []
    rw [List.append_nil] at htail
    rw [tagged, if_pos rfl, htail, List.length_cons]
    rfl

theorem Pieces.tagged_eq (page : WideText) : tagged false page
    = (ofText page).tags.flatten.length + (ofText page).tail.length := by
  induction page using page_induction with
  | run_tail run tail hr ht =>
    rw [tagged_append_of_notMem hr, tagged_tail ht, ofText_run_tail hr ht]
    exact (Nat.zero_add _).symm
  | run_tag run tag rest hr ht ih =>
    rw [tagged_append_of_notMem hr, tagged_tag ht, ofText_run_tag hr ht, ih]
    simp only [tags, cons, List.map_cons, List.flatten_cons, List.length_append]
    omega

/-! ## Mapped pages -/

namespace Elements

variable (e : Elements) {f : WideText → WideText}

/-- Mapped tokens have no less markup, and more if some run gets a `<`. -/
theorem le_tagged_mapTokens (tail : WideText) : ∀ {ts : List Token} (stack : List Text),
    Token.Apart ts → tagged false (Token.concat ts ++ tail)
        ≤ tagged false (Token.concat (e.mapTokens f stack ts) ++ tail)
      ∧ ∀ t ∈ e.runsIn stack ts, .char '<' ∈ f t → tagged false (Token.concat ts ++ tail)
        < tagged false (Token.concat (e.mapTokens f stack ts) ++ tail)
  | [], _, _ => ⟨Nat.le_refl _, fun t ht => absurd ht (by simp [runsIn])⟩
  | .tag u :: ts, stack, h => by
    obtain ⟨ih, ihlt⟩ := le_tagged_mapTokens tail (e.track stack u).1 h.2
    simp only [mapTokens, Token.concat_cons, Token.text, List.append_assoc, tagged_tag h.1]
    exact ⟨Nat.add_le_add_left ih _, fun t ht hlt => Nat.add_lt_add_left (ihlt t ht hlt) _⟩
  | .run u :: ts, stack, h => by
    obtain ⟨-, hlt, -, hts⟩ := h
    obtain ⟨ih, ihlt⟩ := le_tagged_mapTokens tail stack hts
    simp only [mapTokens, Token.concat_cons, Token.text, List.append_assoc,
      tagged_append_of_notMem hlt]
    have hrun := tagged_le_append false (if e.allows stack then f u else u)
      (Token.concat (e.mapTokens f stack ts) ++ tail)
    refine ⟨ih.trans hrun, fun t ht hft => ?_⟩
    rcases List.mem_append.1 ht with ht | ht
    · split_ifs at ht with hallows
      · obtain rfl := List.mem_singleton.1 ht
        rw [if_pos hallows]
        exact Nat.lt_of_le_of_lt ih (tagged_lt_append hft _)
      · cases ht
    · exact Nat.lt_of_lt_of_le (ihlt t ht hft) hrun

/-- A mapped page has the same tags and the same tail exactly if no run gets a `<`. -/
theorem tags_mapWith_iff (hf : ∀ t, t ≠ [] → f t ≠ []) (page : WideText) :
    ((Pieces.ofText (e.mapWith f page)).tags = (Pieces.ofText page).tags
        ∧ (Pieces.ofText (e.mapWith f page)).tail = (Pieces.ofText page).tail)
      ↔ ∀ run ∈ e.runsSeen page, .char '<' ∉ f run := by
  constructor
  · rintro ⟨htags, htail⟩ run hrun hlt
    obtain ⟨hcut, hpage⟩ := Pieces.cut_ofText page
    rw [runsSeen_eq] at hrun
    have hmore := (le_tagged_mapTokens e (Pieces.ofText page).tail [] hcut.apart).2 run hrun hlt
    rw [Pieces.concat_tokens, hpage, ← mapWith_eq, Pieces.tagged_eq, Pieces.tagged_eq, htags,
      htail] at hmore
    exact Nat.lt_irrefl _ hmore
  · intro h
    obtain ⟨htokens, htail⟩ := tokens_mapWith e fun run hrun =>
      (⟨hf run (mem_runsSeen e hrun).1, h run hrun⟩ : f run ≠ [] ∧ .char '<' ∉ f run)
    refine ⟨?_, htail⟩
    rw [Pieces.tags_eq, Pieces.tags_eq, htokens, filterMap_tag?_mapTokens]

end Elements

end Html

/-! ## Replaced phrases -/

namespace Text.Edit

/-- A character of an edited text stands in the text or was put in. -/
theorem mem_pieces {text : WideText} {c : CodePoint} : ∀ {edits : List Edit} {last : Int},
    c ∈ (pieces text last edits).flatten → c ∈ text ∨ ∃ e ∈ edits, c ∈ e.insertion
  | [], last, h => by
    rw [pieces, List.flatten_singleton] at h
    exact .inl (List.mem_of_mem_drop (List.mem_of_mem_take h))
  | e :: es, last, h => by
    rw [pieces, List.flatten_cons, List.flatten_cons, List.mem_append, List.mem_append] at h
    rcases h with h | h | h
    · exact .inl (List.mem_of_mem_drop (List.mem_of_mem_take h))
    · exact .inr ⟨e, List.mem_cons_self, h⟩
    · rcases mem_pieces h with h | ⟨e', he', h⟩
      · exact .inl h
      · exact .inr ⟨e', List.mem_cons_of_mem _ he', h⟩

theorem mem_pieces_of_mem {text : WideText} {c : CodePoint} {e : Edit} (hc : c ∈ e.insertion) :
    ∀ {edits : List Edit} (last : Int), e ∈ edits → c ∈ (pieces text last edits).flatten
  | e' :: es, last, h => by
    rw [pieces, List.flatten_cons, List.flatten_cons, List.mem_append, List.mem_append]
    rcases List.mem_cons.1 h with rfl | h
    · exact .inr (.inl hc)
    · exact .inr (.inr (mem_pieces_of_mem hc e'.stop h))

end Text.Edit

namespace Replacer

variable (r : Replacer) {text : WideText}

/-- A text gets a character that it does not have exactly if a gloss put into it has it. -/
theorem mem_replace_iff {c : CodePoint} (h : c ∉ text) :
    c ∈ (r.replace text).1 ↔ ∃ found ∈ r.find text, c ∈ found.gloss := by
  rw [replace, Text.Edit.applyAll]
  constructor
  · intro hc
    rcases Text.Edit.mem_pieces hc with hc | ⟨e, he, hc⟩
    · exact absurd hc h
    · obtain ⟨found, hfound, rfl⟩ := List.mem_map.1 he
      exact ⟨found, hfound, hc⟩
  · rintro ⟨found, hfound, hc⟩
    exact Text.Edit.mem_pieces_of_mem hc 0 (List.mem_map_of_mem hfound)

/-- What is found has the gloss of its phrase. -/
theorem glosses_of_mem_findFrom {found : Replacement} : ∀ {best : List (Option Scanner.Match)}
    {start skip : Nat}, found ∈ r.findFrom text best start skip →
      r.glosses found.phrase = some found.gloss
  | [], _, _, h => absurd h (by simp [findFrom])
  | _ :: _, _, _ + 1, h => by
    rw [findFrom] at h
    exact glosses_of_mem_findFrom h
  | m :: best, start, 0, h => by
    rw [findFrom] at h
    split at h
    · exact glosses_of_mem_findFrom h
    · rename_i first hfirst
      rcases List.mem_cons.1 h with rfl | h
      · obtain ⟨m, -, hm⟩ := Option.bind_eq_some_iff.1 hfirst
        unfold replacement? at hm
        split at hm
        · cases hm
        · split_ifs at hm
          split at hm
          · rename_i gloss hgloss
            split_ifs at hm
            obtain rfl := Option.some.inj hm
            exact hgloss
          · cases hm
      · exact glosses_of_mem_findFrom h

theorem replaceBehind_ne_nil {due? : Due}
    (hdue : ∀ before x w gloss, due? before x = some (w, gloss) → gloss ≠ [])
    (before : Option CodePoint) {x : WideText} (hx : x ≠ []) :
    (replaceBehind due? before x).1 ≠ [] := by
  rcases x with _ | ⟨c, x⟩
  · exact absurd rfl hx
  · rw [replaceBehind]
    split
    · exact List.cons_ne_nil _ _
    · rename_i w gloss h
      simp [hdue _ _ _ _ h]

end Replacer

namespace Page

open Html

variable (phrases : List WideText) (g : Glossary) (e : Elements)

/-- What replaces phrases by their glosses. -/
def replacer : Replacer :=
  { scanner := .ofPhrases phrases, glosses := g.get? }

theorem replace_ne_nil {run : WideText} (h : run ≠ []) :
    ((replacer phrases g).replace run).1 ≠ [] := by
  rw [Replacer.replace_eq (r := replacer phrases g) rfl rfl g.get?_ne_empty]
  refine Replacer.replaceBehind_ne_nil (fun before x w gloss hdue => ?_) none h
  rintro rfl
  unfold Replacer.dueBehind at hdue
  split at hdue
  · cases hdue
  · rename_i v _
    split_ifs at hdue
    obtain ⟨gloss, hgloss, heq⟩ := Option.map_eq_some_iff.1 hdue
    rw [(Prod.mk.inj heq).2] at hgloss
    exact g.get?_ne_empty v hgloss

theorem walk_replaceCounting (r : Replacer) : ∀ (stack : List Text) (ts : List Token) (n : Nat),
    (e.walk r.replaceCounting stack ts n).1 = e.mapTokens (fun t => (r.replace t).1) stack ts
  | _, [], _ => rfl
  | stack, .tag t :: ts, n =>
    congrArg (Token.tag t :: ·) (walk_replaceCounting r (e.track stack t).1 ts n)
  | stack, .run t :: ts, n => by
    rw [Elements.walk, Elements.mapTokens]
    split_ifs
    · exact congrArg (Token.run (r.replace t).1 :: ·)
        (walk_replaceCounting r stack ts (n + (r.replace t).2))
    · exact congrArg (Token.run t :: ·) (walk_replaceCounting r stack ts n)

/-- A localized page is the page with its runs replaced. -/
theorem page_localize (page : WideText) : (localize (.ofPhrases phrases) g e page).page
    = e.mapWith (fun run => ((replacer phrases g).replace run).1) page := by
  rw [Elements.mapWith_eq, ← walk_replaceCounting e (replacer phrases g) [] _ 0]
  simp only [localize, localizeBy, Elements.mapText_eq]
  rfl

/-- A page keeps its tags and its tail exactly if no gloss put into it has a `<`, and so at any rate
if no gloss of the glossary has one. -/
theorem tags_localize_iff (page : WideText) :
    let localized := (localize (.ofPhrases phrases) g e page).page
    let kept := (Pieces.ofText localized).tags = (Pieces.ofText page).tags
      ∧ (Pieces.ofText localized).tail = (Pieces.ofText page).tail
    (kept ↔ ∀ run ∈ e.runsSeen page, ∀ found ∈ (replacer phrases g).find run,
        .char '<' ∉ found.gloss)
      ∧ ((∀ phrase gloss, g.get? phrase = some gloss → .char '<' ∉ gloss) → kept) := by
  have hiff := Elements.tags_mapWith_iff e
    (f := fun run => ((replacer phrases g).replace run).1)
    (fun _ hne => replace_ne_nil phrases g hne) page
  rw [← page_localize] at hiff
  have hruns : (∀ run ∈ e.runsSeen page, .char '<' ∉ ((replacer phrases g).replace run).1)
      ↔ ∀ run ∈ e.runsSeen page, ∀ found ∈ (replacer phrases g).find run,
        .char '<' ∉ found.gloss := by
    refine forall₂_congr fun run hrun => ?_
    rw [Replacer.mem_replace_iff _ (Elements.mem_runsSeen e hrun).2]
    simp only [not_exists, not_and]
  refine ⟨hiff.trans hruns, fun h => hiff.2 (hruns.2 fun run _ found hfound => ?_)⟩
  exact h found.phrase found.gloss (Replacer.glosses_of_mem_findFrom _ hfound)

/-- A gloss that is a tag stands in the localized page as one. -/
theorem tags_localize_tag :
    let page := .ofString "<td>ab</td>"
    let localized := (localize (.ofPhrases [.ofString "ab"])
      (.ofEntries [(.ofString "ab", .ofString "<b>")]) .standard page).page
    localized = .ofString "<td><b></td>"
      ∧ (Pieces.ofText page).tags = [.ofString "<td>", .ofString "</td>"]
      ∧ (Pieces.ofText localized).tags
        = [.ofString "<td>", .ofString "<b>", .ofString "</td>"] := by
  refine ⟨by cbv, by cbv, by cbv⟩

end Page

end Phrasebook
