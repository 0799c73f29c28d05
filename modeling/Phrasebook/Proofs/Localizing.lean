import Phrasebook.Proofs.Counters
import Phrasebook.Proofs.Glosses
import Phrasebook.Proofs.Phrases
import Phrasebook.Proofs.Replacing
import Phrasebook.Publication

/-!
# Localizing a page the plain way

A page can be localized with no scanner and no stack. It is cut at its `<` and `>`, the open
elements of each name are counted, and in each run inside an allowed element all useful phrases are
tried at each place (`localizePlainly`). This gives the same page and the same number of
replacements as the scanner, the glossary and the stack do (`localize_eq_localizePlainly`).
-/

namespace Phrasebook.Page

section Plain

variable (due? : Replacer.Due) (e : Html.Elements)

/-- A run of text with its phrases replaced if an allowed element is open. -/
def localizeRun (counts : Text → Nat) (run : WideText) : WideText × Nat :=
  if e.anyOpen counts then Replacer.replaceBehind due? none run else (run, 0)

/-- A page behind open elements, localized run by run. -/
def localizeFrom (counts : Text → Nat) (page : WideText) : WideText × Nat :=
  let rest := page.dropWhile (· ≠ .char '<')
  let run := localizeRun due? e counts (page.takeWhile (· ≠ .char '<'))
  match _ : rest.dropWhile (· ≠ .char '>') with
  | [] => (run.1 ++ rest, run.2)
  | _ :: behind =>
    let tag := rest.takeWhile (· ≠ .char '>') ++ [.char '>']
    let page := localizeFrom (e.countTag counts tag) behind
    (run.1 ++ (tag ++ page.1), run.2 + page.2)
termination_by page.length
decreasing_by
  rename_i h
  have h1 := (List.dropWhile_suffix (l := rest) (· ≠ .char '>')).length_le
  have h2 := (List.dropWhile_suffix (l := page) (· ≠ .char '<')).length_le
  simp only [h, List.length_cons] at h1
  simp only [rest] at h1
  omega

end Plain

/-- A page localized by trying all useful phrases of a vocabulary at each place. -/
def localizePlainly (source target : Vocabulary) (e : Html.Elements) (page : WideText) :
    WideText × Nat :=
  localizeFrom (Replacer.dueBehind ((source.values.filterMap Value.text?).filter Phrase.isUseful)
    (Glossary.first? source target)) e (fun _ => 0) page

section Cut

open Html

variable (due? : Replacer.Due) (e : Html.Elements)
  (counts : Text → Nat) {run tag tail : WideText}

theorem localizeFrom_run_tail (hr : .char '<' ∉ run) (ht : IsTail tail) :
    localizeFrom due? e counts (run ++ tail)
      = ((localizeRun due? e counts run).1 ++ tail,
        (localizeRun due? e counts run).2) := by
  obtain ⟨htake, hdrop, hgt⟩ := spans_run_tail hr ht
  rw [localizeFrom]
  split
  · rw [htake, hdrop]
  · rename_i h
    rw [hdrop, hgt] at h
    cases h

theorem localizeFrom_run_tag (hr : .char '<' ∉ run) (ht : IsTag tag) (rest : WideText) :
    localizeFrom due? e counts (run ++ (tag ++ rest))
      = ((localizeRun due? e counts run).1
          ++ (tag ++ (localizeFrom due? e (e.countTag counts tag) rest).1),
        (localizeRun due? e counts run).2
          + (localizeFrom due? e (e.countTag counts tag) rest).2) := by
  obtain ⟨htake, hdrop, htag, hgt⟩ := spans_run_tag hr ht rest
  rw [localizeFrom]
  split
  · rename_i h
    rw [hdrop, hgt] at h
    cases h
  · rename_i c behind h
    rw [hdrop, hgt] at h
    obtain ⟨-, rfl⟩ := List.cons.inj h
    rw [htake, hdrop, htag]

end Cut

/-! ## The same page -/

section Same

open Html

variable {r : Replacer} {due? : Replacer.Due}
  (hr : ∀ run, r.replace run = Replacer.replaceBehind due? none run) (e : Elements)

include hr

/-- A run behind open elements is localized as it is behind their numbers. -/
theorem mapRun_eq (stack : List Text) (run : WideText) (count : Nat) :
    e.mapRun r.replaceCounting stack run count
      = ((localizeRun due? e (fun n => stack.count n) run).1,
        count + (localizeRun due? e (fun n => stack.count n) run).2) := by
  rw [Elements.mapRun, localizeRun, ← Elements.allows_eq]
  rcases run with _ | ⟨c, run⟩
  · by_cases h : e.allows stack = true
    · simp only [h, List.isEmpty_nil, Bool.not_true, Bool.false_and, if_true,
        Replacer.replaceBehind]
      rfl
    · simp only [h]
      rfl
  · by_cases h : e.allows stack = true
    · simp only [h, List.isEmpty_cons, Bool.not_false, Bool.and_self, if_true,
        ← hr]
      rfl
    · simp only [h, Bool.and_false]
      rfl

theorem walk_run (stack : List Text) (run : WideText) (count : Nat) :
    Token.concat (e.walk r.replaceCounting stack (Token.ofRun run) count).1
        = (localizeRun due? e (fun n => stack.count n) run).1
      ∧ (e.walk r.replaceCounting stack (Token.ofRun run) count).2
        = count + (localizeRun due? e (fun n => stack.count n) run).2 := by
  have h := congrFun (Elements.walk_ofRun e r.replaceCounting stack run) count
  rw [mapRun_eq hr] at h
  exact Prod.mk.inj h

omit hr in
theorem walk_run_tag (stack : List Text) (run tag : WideText) (ts : List Token) (count : Nat) :
    e.walk r.replaceCounting stack (Token.ofRun run ++ .tag tag :: ts) count =
      let a := e.walk r.replaceCounting stack (Token.ofRun run) count
      let b := e.walk r.replaceCounting (e.track stack tag).1 ts a.2
      (a.1 ++ .tag tag :: b.1, b.2) := by
  rw [Elements.walk_append, Elements.after_ofRun]
  rfl

/-- A page is walked behind open elements as it is localized behind their numbers. -/
theorem walk_eq (page : WideText) (stack : List Text) (count : Nat) :
    Token.concat (e.walk r.replaceCounting stack (Pieces.ofText page).tokens count).1
        ++ (Pieces.ofText page).tail
        = (localizeFrom due? e (fun n => stack.count n) page).1
      ∧ (e.walk r.replaceCounting stack (Pieces.ofText page).tokens count).2
        = count + (localizeFrom due? e (fun n => stack.count n) page).2 := by
  induction page using page_induction generalizing stack count with
  | run_tail run tail hrun htail =>
    obtain ⟨h1, h2⟩ := walk_run hr e stack run count
    rw [localizeFrom_run_tail _ _ _ hrun htail, Pieces.ofText_run_tail hrun htail]
    exact ⟨congrArg (· ++ tail) h1, h2⟩
  | run_tag run tag rest hrun htag ih =>
    obtain ⟨h1, h2⟩ := walk_run hr e stack run count
    obtain ⟨ih1, ih2⟩ := ih (e.track stack tag).1
      (e.walk r.replaceCounting stack (Token.ofRun run) count).2
    have hcounts : e.countTag (fun n => stack.count n) tag
        = fun n => (e.track stack tag).1.count n :=
      funext fun n => (Elements.count_track e stack tag n).symm
    rw [localizeFrom_run_tag _ _ _ hrun htag, Pieces.ofText_run_tag hrun htag,
      Pieces.tokens_cons, walk_run_tag, hcounts, ← ih1, ← h1]
    refine ⟨?_, ?_⟩
    · simp [Token.text, Pieces.cons]
    · exact ih2.trans (by rw [h2, Nat.add_assoc])

omit hr in
/-- A page is localized behind no open elements, by going once through each run. -/
theorem localizeBy_eq {scanner : Scanner} {glosses : WideText → Option WideText}
    (hr : ∀ run, Replacer.replace { scanner, glosses } run = Replacer.replaceBehind due? none run)
    (page : WideText) :
    ((localizeBy scanner glosses e page).page, (localizeBy scanner glosses e page).replacements)
      = localizeFrom due? e (fun _ => 0) page := by
  obtain ⟨h1, h2⟩ := walk_eq hr e page [] 0
  refine Prod.ext (Eq.trans ?_ h1) (Eq.trans ?_ (h2.trans (Nat.zero_add _)))
  · simp only [localizeBy, Elements.mapText_eq]
    rfl
  · simp only [localizeBy, Elements.mapText_eq]
    rfl

end Same

/-- A page is localized as it is the plain way. -/
theorem localize_eq_localizePlainly (source target : Vocabulary) (allowed void : List Text)
    (page : WideText) :
    let l := localize (Publication.scannerOf source) (.ofVocabularies source target)
      (.ofNames allowed void) page
    (l.page, l.replacements) = localizePlainly source target (.ofNames allowed void) page := by
  set glossary := Glossary.ofVocabularies source target with hglossary
  have hdue : Replacer.dueBehind ((source.values.filterMap Value.text?).filter Phrase.isUseful)
      (Glossary.first? source target)
      = Replacer.dueBehind (Phrase.collect source.values) glossary.get? := by
    have hfirst : glossary.get? = Glossary.first? source target :=
      funext (Glossary.get?_ofVocabularies source target)
    rw [hfirst, Replacer.dueBehind_congr fun _ => Phrase.mem_collect]
  rw [localizePlainly, hdue]
  exact localizeBy_eq (.ofNames allowed void)
    (fun _ => Replacer.replace_eq rfl rfl glossary.get?_ne_empty) page

end Phrasebook.Page
