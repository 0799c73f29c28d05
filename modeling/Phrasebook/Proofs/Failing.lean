import Phrasebook.Proofs.Halting
import Phrasebook.Proofs.Retrying

/-!
# Refreshes that fail

What a refresh that fails leaves behind depends on the part in which it fails. If no page comes, or
the stored one cannot be compared with it, nothing is left. If the publication fails, the page that
came is stored, and what is said about it in the output file is not yet said (`Unpublished`,
`refresh_effects`). The calls do not depend on how it ends: all of them are made in the fetching
(`calls_refresh`).
-/

namespace Phrasebook.Refresh

namespace Setup

/-- The settings name the page and the directory of the publication. -/
def Located (s : Setup) : Prop :=
  (∃ part, s.settings.sourcePage.part = .ok part) ∧ ∃ part, s.directorySetting.part = .ok part

/-- The calls of a round: one for the page, and behind it one that closes a session of its own. -/
def session (s : Setup) (r : Round) : List Http.Call :=
  .get (address s.settings r.request) r.request.timeout
    :: if r.request.ownSession then [.close] else []

/-- A refresh is prepared, and then its publication fails. -/
def Unpublished (s : Setup) (r : Round) (w w' : World) : Prop :=
  ∃ plan w₁ e, (s.prepare r).runOn w = (.ok plan, w₁)
    ∧ (s.republish plan.due).runOn w₁ = (.error e, w')

end Setup

/-! ## The calls -/

section Calls

theorem calls_fetch (answer : Http.Answer) (url : Setting) (ownSession : Bool) (timeout : Setting)
    (w : World) : ((fetch answer url ownSession timeout).runOn w).2.calls
      = w.calls ++ .get url timeout :: if ownSession then [.close] else [] := by
  have hpage : ∀ w : World, ((pageOf answer url.display).runOn w).2.calls = w.calls :=
    (Action.leaves_ofExcept _ _).bind fun _ => Action.leaves_pure _
  cases ownSession
  · exact hpage _
  · refine (hpage _).trans ?_
    simp [List.append_assoc]

variable {s : Setup} {r : Round} {page site : Path}

theorem leaves_calls_putText (p : Path) (t : WideText) :
    Action.Leaves World.calls (Action.putText p t) :=
  Action.leaves_putText (fun _ _ _ _ => rfl) t

theorem leaves_calls_storedHash (page : Path) : Action.Leaves World.calls (storedHash page) := by
  refine (Action.leaves_contains page).bind fun b => ?_
  cases b
  · exact Action.leaves_pure _
  · exact (Action.leaves_textAt _).bind fun _ => Action.leaves_pure _

theorem leaves_calls_store (page : Path) (fresh : Text) (changed : Bool) :
    Action.Leaves World.calls (store page fresh changed) := by
  cases changed
  · exact Action.leaves_pure _
  · exact (Action.leaves_report (fun _ _ => rfl) _).bind fun _ => leaves_calls_putText _ _

theorem leaves_calls_isDue (site : Path) (changed force : Bool) :
    Action.Leaves World.calls (isDue site changed force) := by
  unfold isDue
  split_ifs
  · exact Action.leaves_pure _
  · exact (Action.leaves_contains _).map _

theorem leaves_calls_republish (s : Setup) (due : Bool) :
    Action.Leaves World.calls (s.republish due) := by
  cases due
  · exact Action.leaves_pure _
  · refine (Publication.leaves_publish (fun _ _ => rfl) _ _ _ (fun p => ?_)
      leaves_calls_putText).bind fun _ => Action.leaves_report (fun _ _ => rfl) _
    exact Action.leaves_makeDirectories p fun _ _ _ _ => rfl

theorem leaves_calls_announce (r : Round) (changed : Bool) :
    Action.Leaves World.calls (r.announce changed) := by
  rw [announce_eq]
  rcases r.output? with _ | name
  · exact Action.leaves_pure _
  · exact Action.leaves_change _ fun _ _ _ => rfl

/-- All that a refresh calls for is called for when it fetches the page. -/
theorem calls_prepare (hlocated : s.Located) (w : World) :
    ((s.prepare r).runOn w).2.calls = w.calls ++ s.session r := by
  obtain ⟨⟨pagePart, hpage⟩, sitePart, hsite⟩ := hlocated
  unfold Setup.prepare
  rw [Action.runOn_bind_of_ok (Action.runOn_joined_of_ok hpage _ _),
    Action.runOn_bind_of_ok (Action.runOn_joined_of_ok hsite _ _)]
  refine (Action.view_bind (fun fresh => ?_) w).trans (calls_fetch _ _ _ _ _)
  refine (leaves_calls_storedHash _).bind fun oldHash => ?_
  exact (leaves_calls_store _ _ _).bind fun _ => (leaves_calls_isDue _ _ _).bind fun _ =>
    Action.leaves_pure _

theorem prepare_of_not_located (h : ¬ s.Located) (w : World) :
    ∃ e, (s.prepare r).runOn w = (.error e, w) := by
  unfold Setup.prepare
  rcases hpage : s.settings.sourcePage.part with misfit | pagePart
  · exact ⟨_, Action.runOn_bind_of_error (Action.runOn_joined_of_error hpage _ _)⟩
  · rw [Action.runOn_bind_of_ok (Action.runOn_joined_of_ok hpage _ _)]
    rcases hsite : s.directorySetting.part with misfit | sitePart
    · exact ⟨_, Action.runOn_bind_of_error (Action.runOn_joined_of_error hsite _ _)⟩
    · exact absurd ⟨⟨pagePart, hpage⟩, sitePart, hsite⟩ h

/-- However a refresh ends, its calls are those of its session, and there are none if the settings
do not say what to refresh. -/
theorem calls_refresh (s : Setup) (r : Round) (w : World) :
    (s.Located → ((s.refresh r).runOn w).2.calls = w.calls ++ s.session r)
      ∧ (¬ s.Located → ((s.refresh r).runOn w).2.calls = w.calls) := by
  have hprepare : ((s.refresh r).runOn w).2.calls = ((s.prepare r).runOn w).2.calls := by
    rw [Setup.refresh_eq]
    refine Action.view_bind (fun plan => ?_) w
    exact (leaves_calls_republish s _).bind fun _ => (leaves_calls_announce r _).bind fun _ =>
      Action.leaves_pure _
  rw [hprepare]
  refine ⟨fun hlocated => calls_prepare hlocated w, fun hnot => ?_⟩
  obtain ⟨e, hrun⟩ := prepare_of_not_located (r := r) hnot w
  rw [hrun]

end Calls

/-! ## The files -/

section Files

variable {s : Setup} {r : Round} {w w' : World} {plan : Plan} {result : Except Failure Report}

theorem not_yields_storedHash {t : FileTree} {page : Path} (hpage : t.contains page = .ok true)
    (htext : t.text? page = none) (hash : Option Text) : ¬ (storedHash page).Yields t hash := by
  intro h
  obtain ⟨w', hrun, -⟩ := h { tree := t } rfl
  obtain ⟨b, w₁, hb, ht₁, h₁⟩ := (Action.reading_contains page).bind_ok rfl hrun
  obtain rfl := Except.ok.inj (hpage.symm.trans (Action.yields_contains.1 hb))
  obtain ⟨x, w₂, hx, -, -⟩ := (Action.reading_textAt page).bind_ok ht₁ h₁
  rw [text?_of_yields hx] at htext
  cases htext

theorem storedHash_of_prepare (h : (s.prepare r).runOn w = (.ok plan, w')) :
    (storedHash s.page).Yields w.tree plan.oldHash := by
  unfold Setup.prepare at h
  obtain ⟨page, w₁, hpage, ht₁, h⟩ := (Action.reading_joined _ _).bind_ok rfl h
  obtain ⟨site, w₂, -, ht₂, h⟩ := (Action.reading_joined _ _).bind_ok ht₁ h
  obtain ⟨fresh, w₃, -, ht₃, h⟩ := (reading_fetch _ _ _ _).bind_ok ht₂ h
  obtain ⟨oldHash, w₄, hhash, -, h⟩ := (reading_storedHash _).bind_ok ht₃ h
  obtain ⟨⟨⟩, w₅, -, h⟩ := Action.runOn_bind_ok.1 h
  obtain ⟨due, w₆, -, h⟩ := Action.runOn_bind_ok.1 h
  obtain ⟨heq, -⟩ := Prod.mk.inj h
  obtain rfl := Except.ok.inj heq
  obtain rfl : page = s.page := Setup.eq_pathOf hpage
  exact hhash

/-- Without a page to compare, the refresh fails and changes nothing. -/
theorem refresh_of_incomparable (h : (s.refresh r).runOn w = (result, w'))
    (hnone : r.answer.body? = none
      ∨ w.tree.contains s.page = .ok true ∧ w.tree.text? s.page = none) :
    (∃ e, result = .error e) ∧ w'.tree = w.tree := by
  rcases hprepare : (s.prepare r).runOn w with ⟨e | plan, w₁⟩
  · rw [Setup.refresh_eq, Action.runOn_bind_of_error hprepare] at h
    obtain ⟨rfl, rfl⟩ := Prod.mk.inj h
    exact ⟨⟨e, rfl⟩, atomic_prepare s r _ _ _ hprepare⟩
  · rcases hnone with hbody | ⟨hpage, htext⟩
    · have hfetched := (prepare_ok hprepare).fetched
      rw [Round.page?, hbody] at hfetched
      cases hfetched
    · exact absurd (storedHash_of_prepare hprepare) (not_yields_storedHash hpage htext _)

/-- Behind the preparation the stored page is the page fetched, if digests tell pages apart. -/
theorem Setup.Prepared.text? {t t' : FileTree} (h : s.Prepared r t t' plan)
    (hdigest : s.TellsApart t r) : t'.text? s.page = some plan.fresh := by
  cases hchanged : plan.changed
  · obtain ⟨old, hold, heq⟩ := Option.map_eq_some_iff.1 (h.changed_eq_false.1 hchanged)
    rw [h.same hchanged, hold, hdigest old plan.fresh hold h.fetched heq]
  · exact FileTree.text?_eq_some.2 (FileTree.read_write (h.stored hchanged))

theorem Setup.Unpublished.refresh (h : s.Unpublished r w w') :
    ∃ e, (s.refresh r).runOn w = (.error e, w') := by
  obtain ⟨plan, w₁, e, hprepare, hpublish⟩ := h
  refine ⟨e, ?_⟩
  rw [Setup.refresh_eq, Action.runOn_bind_of_ok hprepare]
  exact Action.runOn_bind_of_error hpublish

/-- When the publication fails, only the stored page and the files of the publication are
written. -/
theorem Setup.Unpublished.keeps (h : s.Unpublished r w w') :
    FileTree.Keeps (fun q => q = w.tree.place s.page ∨ s.IsPublished w'.tree q) w.tree w'.tree := by
  obtain ⟨plan, w₁, e, hprepare, hpublish⟩ := h
  have hprepared := prepare_ok hprepare
  exact (hprepared.keeps.mono fun _ => .inl).trans
    ((republish_keeps hprepared.directory hpublish).mono fun _ => .inr)

theorem Setup.Unpublished.stored (h : s.Unpublished r w w')
    (hpage : ¬ s.IsPublished w'.tree (w.tree.place s.page)) (hdigest : s.TellsApart w.tree r) :
    ∃ fresh, r.page? = some fresh ∧ w'.tree.read s.page = .ok (Text.Utf8.encode fresh) := by
  obtain ⟨plan, w₁, e, hprepare, hpublish⟩ := h
  have hprepared := prepare_ok hprepare
  have hkeeps := republish_keeps hprepared.directory hpublish
  rw [← hprepared.keeps.place] at hpage
  exact ⟨plan.fresh, hprepared.fetched,
    FileTree.text?_eq_some.1 (hkeeps.text? hpage (hprepared.text? hdigest))⟩

/-- What a refresh leaves behind, also when it fails. If no page comes, or the stored one is no
text, it fails and changes nothing. If the publication fails, the stored page is the page that came,
the output file is as it was, and so is all but the files of the publication. However it ends, it
has asked for the page once, and has closed the session behind that if and only if it is its own. -/
theorem Setup.refresh_effects (s : Setup) (h : (s.refresh r).runOn w = (result, w')) :
    (r.answer.body? = none ∨ w.tree.contains s.page = .ok true ∧ w.tree.text? s.page = none →
        (∃ e, result = .error e) ∧ w'.tree = w.tree)
      ∧ (s.Unpublished r w w' → ¬ s.IsPublished w'.tree (w.tree.place s.page) →
        s.TellsApart w.tree r →
        (∀ g, r.output? = some g → w.tree.place (.ofText g) ≠ w.tree.place s.page
          ∧ ¬ s.IsPublished w'.tree (w.tree.place (.ofText g))) →
        (∃ e, result = .error e)
          ∧ (∃ fresh, r.page? = some fresh
            ∧ w'.tree.read s.page = .ok (Text.Utf8.encode fresh))
          ∧ (∀ g, r.output? = some g → w'.tree.fileAt? (.ofText g) = w.tree.fileAt? (.ofText g))
          ∧ FileTree.Keeps (fun q => q = w.tree.place s.page ∨ s.IsPublished w'.tree q)
            w.tree w'.tree)
      ∧ (s.Located → w'.calls = w.calls ++ s.session r)
      ∧ (¬ s.Located → w'.calls = w.calls) := by
  have hcalls := calls_refresh s r w
  rw [h] at hcalls
  refine ⟨refresh_of_incomparable h, fun hun hpage hdigest houtput => ?_, hcalls⟩
  obtain ⟨e, hrun⟩ := hun.refresh
  obtain ⟨rfl, -⟩ := Prod.mk.inj (h.symm.trans hrun)
  refine ⟨⟨e, rfl⟩, hun.stored hpage hdigest, fun g hg => ?_, hun.keeps⟩
  obtain ⟨hne, hnot⟩ := houtput g hg
  exact hun.keeps.fileAt? (not_or.2 ⟨hne, hnot⟩)

end Files

theorem unpublished_noVocabulary : belowRoot.Unpublished (brings "a".toList)
    { tree := noVocabulary }
    ((belowRoot.refresh (brings "a".toList)).runOn { tree := noVocabulary }).2 := by
  have hprepare : ((belowRoot.prepare (brings "a".toList)).runOn
      { tree := noVocabulary }).1.toOption.isSome = true := by
    decide +kernel
  have hpublish : ((belowRoot.prepare (brings "a".toList) >>= fun plan =>
      belowRoot.republish plan.due).runOn { tree := noVocabulary }).1.toOption.isNone = true := by
    decide +kernel
  rcases hplan : (belowRoot.prepare (brings "a".toList)).runOn { tree := noVocabulary }
    with ⟨e | plan, w₁⟩
  · rw [hplan] at hprepare
    cases hprepare
  rw [Action.runOn_bind_of_ok hplan] at hpublish
  rcases hrun : (belowRoot.republish plan.due).runOn w₁ with ⟨e | ⟨⟩, w'⟩
  · have hun : belowRoot.Unpublished (brings "a".toList) { tree := noVocabulary } w' :=
      ⟨plan, w₁, e, hplan, hrun⟩
    obtain ⟨e', hrefresh⟩ := hun.refresh
    rwa [hrefresh]
  · rw [hrun] at hpublish
    cases hpublish

/-- The page is stored when its publication fails for a vocabulary, nothing is said in the output
file, and the session is closed. -/
theorem refresh_effects_noVocabulary : ∃ e w',
    (belowRoot.refresh (brings "a".toList)).runOn { tree := noVocabulary } = (.error e, w')
      ∧ w'.tree.read belowRoot.page = .ok (Text.Utf8.encode "a".toList)
      ∧ w'.tree.fileAt? (.ofText outputName) = none
      ∧ w'.calls = belowRoot.session (brings "a".toList)
      ∧ Http.Call.close ∈ w'.calls := by
  have hun := unpublished_noVocabulary
  have hdigest : belowRoot.TellsApart noVocabulary (brings "a".toList) := by
    intro old fresh hold
    rw [show noVocabulary.text? belowRoot.page = none by decide +kernel] at hold
    cases hold
  have hplain : listsPlain ((belowRoot.refresh (brings "a".toList)).runOn
      { tree := noVocabulary }).2.tree = true := by
    decide +kernel
  rcases hrun : (belowRoot.refresh (brings "a".toList)).runOn { tree := noVocabulary }
    with ⟨result, w'⟩
  rw [hrun] at hun hplain
  have hpage := not_isPublished_page hplain
  have hpublished := not_isPublished_output w'.tree
  rw [place_of_refresh hrun] at hpage hpublished
  obtain ⟨-, hfailed, hcalls, -⟩ := belowRoot.refresh_effects hrun
  obtain ⟨⟨e, rfl⟩, ⟨fresh, hfresh, hread⟩, houtput, -⟩ :=
    hfailed hun hpage hdigest fun g hg => by
      obtain rfl : outputName = g := Option.some.inj hg
      exact ⟨by decide, hpublished⟩
  have hfresh' : (brings "a".toList).page? = some "a".toList := by
    decide +kernel
  obtain rfl := Option.some.inj (hfresh.symm.trans hfresh')
  have hsession := hcalls ⟨⟨_, rfl⟩, _, rfl⟩
  refine ⟨e, w', rfl, hread, ?_, hsession, ?_⟩
  · rw [houtput outputName rfl]
    decide +kernel
  · rw [hsession]
    exact List.mem_append_right _ (List.mem_cons_of_mem _ (List.mem_singleton_self _))

end Phrasebook.Refresh
