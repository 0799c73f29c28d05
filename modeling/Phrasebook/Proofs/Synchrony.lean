import Phrasebook.Proofs.Rounds

/-!
# The publication keeps up with the page

A publication is in step with the files if each page in it is the one that localizing the stored
page gives. It is brought in step when it is published, and it stays in step over refreshes that
find nothing to publish, since none of them writes to an input (`Setup.synced_refresh`). Over
refreshes that all succeed, and that find no publication at first, it is in step behind each of them
(`Setup.synced_steps`). The file that a refresh adds its line to may be a page of the publication;
then it is that page that is not in step (`output_in_site`).
-/

namespace Phrasebook.Refresh

open IndexPage (pageName)
open Publication (languagesIn localizeSource)

/-- Each page of the publication that is `spared` is what localizing the stored page gives. -/
def Setup.Synced (s : Setup) (spared : Place → Prop) (t : FileTree) : Prop :=
  ∃ languages, (languagesIn s.root s.settings).Yields t languages
    ∧ ∀ l ∈ languages, spared (t.place (s.site.join (pageName l.code))) →
      ∃ (text : Text) (n : Nat), (localizeSource s.root l.code s.settings).Yields t (text.wide, n)
        ∧ t.read (s.site.join (pageName l.code)) = .ok (Text.Utf8.encode text)

section Step

variable {s : Setup} {spared : Place → Prop} {r : Round} {w w' : World} {t t' : FileTree}

/-- A publication stays in step as long as neither an input nor a page of it is written to. -/
theorem Setup.Synced.of_keeps {written : Place → Prop} (h : s.Synced spared t)
    (hkeeps : FileTree.Keeps written t t') (hinput : ∀ q, s.IsInput t q → ¬ written q)
    (hspared : ∀ q, spared q → ¬ written q) : s.Synced spared t' := by
  obtain ⟨languages, hlanguages, hpages⟩ := h
  have htable : ∀ data, s.settings.dataDirectory.part = .ok data →
      ¬ written (t.place ((s.root.join data).join Publication.languagesPath)) :=
    fun data hdata => hinput _ (.languages hdata)
  refine ⟨languages, Publication.languagesIn_of_keeps hkeeps htable hlanguages,
    fun l hl hl' => ?_⟩
  rw [hkeeps.place] at hl'
  obtain ⟨text, n, hlocalize, hread⟩ := hpages l hl hl'
  exact ⟨text, n, Publication.localizeSource_of_keeps hkeeps hinput hlanguages hl hlocalize,
    hkeeps.read (hspared _ hl') hread⟩

/-- The files of the publication are no inputs, if the stored page is none of them. -/
theorem not_isPublished_of_isInput (hpage : ¬ s.IsPublished t (t'.place s.page)) {q : Place}
    (hq : s.IsInput t' q) : ¬ s.IsPublished t q := by
  rcases hq with hpart | hdata | hdata | ⟨hdata, hlanguages, hl⟩
  · rwa [← Setup.pathOf_eq hpart]
  · rintro ⟨_, -, hout⟩
    exact Publication.not_isOutput_languages _ _ _ _ _ hout
  · rintro ⟨_, -, hout⟩
    exact Publication.not_isOutput_vocabulary _ _ _ _ _ _ hout
  · rintro ⟨_, -, hout⟩
    exact Publication.not_isOutput_vocabulary _ _ _ _ _ _ hout

/-- A publication is in step when it has been published. -/
theorem synced_of_publish {p : Publication}
    (h : (Publication.publish s.root (some s.directorySetting) s.settings).runOn w = (.ok p, w'))
    (hpage : ¬ s.IsPublished w'.tree (w'.tree.place s.page))
    (hslash : ∀ languages, (languagesIn s.root s.settings).Yields w'.tree languages →
      ∀ l ∈ languages, '/' ∉ l.code) : s.Synced spared w'.tree := by
  obtain ⟨languages, hlanguages, hdirectory, hcodes, hpages⟩ := Publication.publish_stands h
  have hsite : p.directory = s.site := Setup.eq_pathOf hdirectory
  rw [hsite] at hdirectory
  have hkeeps := Publication.publish_keeps_after (some s.directorySetting) hdirectory h
  rw [hkeeps.place] at hpage
  have hinput : ∀ q, s.IsInput w.tree q → ¬ s.IsPublished w'.tree q :=
    fun q hq => not_isPublished_of_isInput hpage hq
  have hlanguages' := Publication.languagesIn_of_keeps hkeeps
    (fun data hdata => hinput _ (.languages hdata)) hlanguages
  refine ⟨languages, hlanguages', fun l hl _ => ?_⟩
  obtain ⟨q, hq, hcode⟩ := List.mem_map.1 (hcodes ▸ List.mem_map_of_mem hl)
  obtain ⟨hpath, text, hlocalize, hread⟩ := hpages (hslash languages hlanguages') q hq
  rw [hcode] at hpath hlocalize
  rw [hpath, hsite] at hread
  exact ⟨text, q.replacements,
    Publication.localizeSource_of_keeps hkeeps hinput hlanguages hl hlocalize, hread⟩

/-- A refresh that succeeds leaves the publication in step, if it was in step before where there was
one. -/
theorem Setup.synced_refresh {ρ : Report} (h : (s.refresh r).runOn w = (.ok ρ, w'))
    (hbefore : w.tree.contains s.site = .ok true → s.Synced spared w.tree)
    (hinput : ∀ name, r.output? = some name → ¬ s.IsInput w'.tree (w'.tree.place (.ofText name)))
    (hspared : ∀ name, r.output? = some name → ¬ spared (w'.tree.place (.ofText name)))
    (hpage : ¬ s.IsPublished w'.tree (w'.tree.place s.page))
    (hslash : ∀ languages, (languagesIn s.root s.settings).Yields w'.tree languages →
      ∀ l ∈ languages, '/' ∉ l.code) : s.Synced spared w'.tree := by
  obtain ⟨plan, w₁, w₂, -, hprepare, hpublish, hannounced⟩ := refresh_ok h
  have hprepared := prepare_ok hprepare
  obtain ⟨hdue, hidle⟩ := republish_ok hpublish
  have htable : ∀ data, s.settings.dataDirectory.part = .ok data →
      ¬ ∃ name, r.output? = some name
        ∧ w₂.tree.place ((s.root.join data).join Publication.languagesPath)
          = w₂.tree.place (.ofText name) := by
    rintro data hdata ⟨name, hname, heq⟩
    refine hinput name hname ?_
    rw [hannounced.keeps.place, ← heq, ← hannounced.keeps.place]
    exact .languages hdata
  have hsynced : s.Synced spared w₂.tree := by
    cases hplan : plan.due
    · obtain ⟨hchanged, -, hsite⟩ := hprepared.due.1 hplan
      rw [hprepared.same hchanged] at hsite
      rw [hidle hplan, hprepared.same hchanged]
      exact hbefore hsite
    · obtain ⟨p, w₃, htree, hrun⟩ := hdue hplan
      rw [← htree] at hannounced htable ⊢
      rw [hannounced.keeps.place] at hpage
      exact synced_of_publish hrun (fun hp => hpage (hannounced.isPublished hinput hp))
        fun languages hlanguages =>
          hslash languages (Publication.languagesIn_of_keeps hannounced.keeps htable hlanguages)
  refine hsynced.of_keeps hannounced.keeps ?_ ?_
  · rintro q hq ⟨name, hname, rfl⟩
    have hinput' := hinput name hname
    rw [hannounced.keeps.place] at hinput'
    exact hinput' (Publication.IsInput.of_keeps hannounced.keeps htable hq)
  · rintro q hq ⟨name, hname, rfl⟩
    have hspared' := hspared name hname
    rw [hannounced.keeps.place] at hspared'
    exact hspared' hq

/-- Behind a refresh that succeeds the page it fetched is the stored one. -/
theorem read_page_of_refresh {ρ : Report} (h : (s.refresh r).runOn w = (.ok ρ, w'))
    (hinput : ∀ name, r.output? = some name → ¬ s.IsInput w'.tree (w'.tree.place (.ofText name)))
    (hpage : ¬ s.IsPublished w'.tree (w'.tree.place s.page))
    (hdigest : s.TellsApart w.tree r) :
    ∃ fresh, r.page? = some fresh ∧ w'.tree.read s.page = .ok (Text.Utf8.encode fresh) := by
  obtain ⟨plan, w₁, w₂, rfl, hprepare, hpublish, hannounced⟩ := refresh_ok h
  have hprepared := prepare_ok hprepare
  have hstored : w₁.tree.text? s.page = some plan.fresh := by
    cases hchanged : plan.changed
    · rw [hprepared.same hchanged, ← hprepared.fetched]
      exact (changed_of_refresh h hdigest).1 hchanged
    · exact FileTree.text?_eq_some.2 (FileTree.read_write (hprepared.stored hchanged))
  exact ⟨plan.fresh, hprepared.fetched, FileTree.text?_eq_some.1
    (text?_of_stored hprepared hpublish hannounced hinput hpage hstored)⟩

end Step

/-! ## Refreshes one after the other -/

/-- The refresh succeeds, its digests tell the pages apart, no code of a language leads elsewhere,
and neither the output file is an input nor the stored page a page of the publication. -/
structure Step.Undisturbed (st : Step) (s : Setup) : Prop where
  ok : ∃ ρ, st.result = .ok ρ
  digest : s.TellsApart st.before.tree st.round
  codes : ∀ languages, (languagesIn s.root s.settings).Yields st.after.tree languages →
    ∀ l ∈ languages, '/' ∉ l.code
  output : ∀ name, st.round.output? = some name →
    ¬ s.IsInput st.after.tree (st.after.tree.place (.ofText name))
  page : ¬ s.IsPublished st.after.tree (st.after.tree.place s.page)

namespace Setup

variable {s : Setup}

theorem synced_before (spared : Place → Prop) : ∀ (rounds : List Round) (w : World),
    (w.tree.contains s.site = .ok true → s.Synced spared w.tree) →
    (∀ st ∈ s.steps w rounds, st.Undisturbed s) →
    (∀ r ∈ rounds, ∀ name, r.output? = some name → ¬ spared (w.tree.place (.ofText name))) →
    ∀ st ∈ s.steps w rounds, st.before.tree.contains s.site = .ok true →
      s.Synced spared st.before.tree
  | [], _, _, _, _, _, hst => absurd hst List.not_mem_nil
  | r :: rounds, w, hbefore, hsteps, hspared, st, hst => by
    obtain ⟨hstep, hsteps⟩ := List.forall_mem_cons.1 hsteps
    obtain ⟨hspared₀, hspared⟩ := List.forall_mem_cons.1 hspared
    rcases List.mem_cons.1 hst with rfl | hst
    · exact hbefore
    · obtain ⟨ρ, hρ⟩ := hstep.ok
      have hrun := runOn_of_step hρ
      simp only [← place_of_refresh hrun] at hspared₀ hspared
      have hsynced := synced_refresh hrun hbefore hstep.output hspared₀ hstep.page hstep.codes
      exact synced_before spared rounds _ (fun _ => hsynced) hsteps hspared st hst

theorem contains_before : ∀ (rounds : List Round) (w : World),
    w.tree.contains s.site = .ok true → (∀ st ∈ s.steps w rounds, ∃ ρ, st.result = .ok ρ) →
    ∀ st ∈ s.steps w rounds, st.before.tree.contains s.site = .ok true
  | [], _, _, _, _, hst => absurd hst List.not_mem_nil
  | r :: rounds, w, hsite, hok, st, hst => by
    obtain ⟨⟨ρ, hρ⟩, hok⟩ := List.forall_mem_cons.1 hok
    have hrun := runOn_of_step hρ
    rcases List.mem_cons.1 hst with rfl | hst
    · exact hsite
    · exact contains_before rounds _ (contains_site_of_ok hrun) hok st hst

/-- Once a refresh has succeeded there is a publication, and so there is one before each refresh but
the first. -/
theorem contains_before_iff : ∀ (rounds : List Round) (w : World) (i : ℕ) {st : Step},
    w.tree.contains s.site ≠ .ok true → (∀ st ∈ s.steps w rounds, ∃ ρ, st.result = .ok ρ) →
    (s.steps w rounds)[i]? = some st → (st.before.tree.contains s.site = .ok true ↔ i ≠ 0)
  | [], _, _, _, _, _, hst => by simp [steps] at hst
  | r :: rounds, w, 0, st, hnew, _, hst => by
    rw [steps, List.getElem?_cons_zero, Option.some.injEq] at hst
    rw [← hst]
    exact iff_of_false hnew (fun h => h rfl)
  | r :: rounds, w, i + 1, st, _, hok, hst => by
    obtain ⟨⟨ρ, hρ⟩, hok⟩ := List.forall_mem_cons.1 hok
    have hrun := runOn_of_step hρ
    rw [steps, List.getElem?_cons_succ] at hst
    exact iff_of_true (contains_before rounds _ (contains_site_of_ok hrun) hok st
      (List.mem_of_getElem? hst)) (Nat.succ_ne_zero i)

/-- Behind each of many refreshes that all succeed, and that find no publication at first, the page
last fetched is the stored one and the publication is in step with it, up to pages that a refresh
adds its line to. A refresh publishes if the page changed, if it is forced to, or if it is the first
one. -/
theorem synced_steps (s : Setup) (rounds : List Round) (w : World)
    (hnew : w.tree.contains s.site ≠ .ok true)
    (hsteps : ∀ st ∈ s.steps w rounds, st.Undisturbed s) (i : ℕ) (st : Step)
    (hst : (s.steps w rounds)[i]? = some st) :
    ∃ ρ fresh languages, st.result = .ok ρ ∧ st.round.page? = some fresh
      ∧ st.after.tree.read s.page = .ok (Text.Utf8.encode fresh)
      ∧ ((languagesIn s.root s.settings).runOn st.after).1 = .ok languages
      ∧ (∀ l ∈ languages, (∀ r ∈ rounds, ∀ name, r.output? = some name →
          st.after.tree.place (.ofText name)
            ≠ st.after.tree.place (s.site.join (pageName l.code))) →
        ∃ (text : Text) (n : Nat),
          ((localizeSource s.root l.code s.settings).runOn st.after).1 = .ok (text.wide, n)
          ∧ st.after.tree.read (s.site.join (pageName l.code)) = .ok (Text.Utf8.encode text))
      ∧ ρ.published = (ρ.changed || st.round.request.force || i == 0) := by
  have hmem : st ∈ s.steps w rounds := List.mem_of_getElem? hst
  have hstep := hsteps st hmem
  obtain ⟨ρ, hρ⟩ := hstep.ok
  have hrun := runOn_of_mem_steps hmem
  rw [hρ] at hrun
  let spared : Place → Prop := fun q =>
    ∀ r ∈ rounds, ∀ name, r.output? = some name → st.after.tree.place (.ofText name) ≠ q
  have hspared : ∀ r ∈ rounds, ∀ name, r.output? = some name →
      ¬ spared (st.after.tree.place (.ofText name)) :=
    fun r hr name hname h => h r hr name hname rfl
  have hspared₀ : ∀ r ∈ rounds, ∀ name, r.output? = some name →
      ¬ spared (w.tree.place (.ofText name)) := by
    have hhere := (here_of_mem_steps hmem).2
    simp only [FileTree.place, hhere] at hspared ⊢
    exact hspared
  have hbefore := synced_before spared rounds w (fun h => absurd h hnew) hsteps hspared₀ st hmem
  obtain ⟨fresh, hfresh, hread⟩ := read_page_of_refresh hrun hstep.output hstep.page hstep.digest
  obtain ⟨languages, hlanguages, hpages⟩ := synced_refresh hrun hbefore hstep.output
    (hspared _ (round_mem_of_mem_steps hmem)) hstep.page hstep.codes
  refine ⟨ρ, fresh, languages, hρ, hfresh, hread, hlanguages.result rfl, fun l hl hl' => ?_, ?_⟩
  · obtain ⟨text, n, hlocalize, hpage⟩ := hpages l hl hl'
    exact ⟨text, n, hlocalize.result rfl, hpage⟩
  · have hsite := contains_before_iff rounds w i hnew (fun st hst => (hsteps st hst).ok) hst
    have hpublished := published_of_ok hrun
    have hvalue : (ρ.changed || st.round.request.force || i == 0) = false
        ↔ ρ.changed = false ∧ st.round.request.force = false ∧ i ≠ 0 := by
      simp [and_assoc]
    rw [hsite, ← hvalue] at hpublished
    exact Bool.eq_iff_iff.2 (not_iff_not.1 (by simpa using hpublished))

end Setup

/-! ## Runs below the root -/

/-- What is to be seen of a step: it succeeds, the page it fetches is the stored one if there is
one with its digest, and no code of a language leads elsewhere. -/
def Step.seemsUndisturbed (st : Step) : Bool :=
  st.result.toOption.isSome
    && ((st.before.tree.text? belowRoot.page).map Digest.Sha256.ofText
        != st.round.page?.map Digest.Sha256.ofText
      || st.before.tree.text? belowRoot.page == st.round.page?)
    && listsPlain st.after.tree

theorem undisturbed_of_seems {st : Step} (h : st.seemsUndisturbed = true)
    (houtput : ∀ name, st.round.output? = some name →
      ¬ belowRoot.IsInput st.after.tree (st.after.tree.place (.ofText name))) :
    st.Undisturbed belowRoot := by
  rw [Step.seemsUndisturbed, Bool.and_eq_true, Bool.and_eq_true] at h
  obtain ⟨⟨hok, htext⟩, hplain⟩ := h
  refine ⟨?_, fun old fresh hold hfresh heq => ?_, fun languages hlanguages l hl =>
    not_mem_code_of_listsPlain hplain hlanguages hl, houtput, not_isPublished_page hplain⟩
  · rcases hresult : st.result with e | ρ
    · rw [hresult] at hok
      cases hok
    · exact ⟨ρ, rfl⟩
  · rw [hold, hfresh] at htext
    simpa [heq] using htext

/-! ## Two pages, one after the other -/

open Publication (Bilingual bilingualWith railFiles railPage railPageZh)

def shortPage : Text :=
  "<td>Rail</td>".toList

def shortPageZh : Text :=
  "<td>轨</td>".toList

def twice : List Round :=
  [brings shortPage, brings railPage]

/-- What a refresh writes that brings a page in two languages. -/
def refreshed (page zh : Text) (t : FileTree) : Except FileTree.Problem FileTree := do
  let stored ← t.write belowRoot.page (Text.Utf8.encode page)
  let published ← Publication.writeSite belowRoot.site (railFiles belowRoot.site page zh) stored
  published.appendNamed outputName (Text.Utf8.encode (outputLine true))

def bilingual : FileTree :=
  bilingualWith []

/-- The files behind the first refresh. -/
def first : FileTree :=
  (refreshed shortPage shortPageZh bilingual).toOption.getD bilingual

/-- The files behind the second. -/
def second : FileTree :=
  (refreshed railPage railPageZh first).toOption.getD first

theorem refresh_does_brings {page zh : Text} {n : ℕ} {oldHash : Option Text} {t t' : FileTree}
    (hhash : (storedHash belowRoot.page).Yields t oldHash)
    (hchanged : oldHash ≠ some (Digest.Sha256.ofText page))
    (hfiles : ∀ t₁, t.write belowRoot.page (Text.Utf8.encode page) = .ok t₁ → Bilingual page t₁)
    (hpage : (brings page).page? = some page)
    (hzh : Page.localizeFrom Publication.railDue .standard (fun _ => 0)
      (Page.setLanguage "en".toList "zh".toList page).wide = (zh.wide, n))
    (hen : Page.setLanguage "en".toList "en".toList page = page)
    (h : refreshed page zh t = .ok t') :
    ∃ ρ, ρ.changed = true ∧ (belowRoot.refresh (brings page)).Does t ρ t' := by
  obtain ⟨t₁, hstore, h⟩ := Publication.bind_eq_ok.1 h
  obtain ⟨t₂, hsite, hline⟩ := Publication.bind_eq_ok.1 h
  obtain ⟨p, hpublish⟩ := (hfiles t₁ hstore).publish_does_bilingual belowRoot.directorySetting
    (some belowRoot.directorySetting) rfl hzh hen hsite
  exact refresh_does ⟨_, rfl⟩ ⟨_, rfl⟩ hpage hhash hchanged hstore hpublish hline

theorem undisturbed_belowRoot {st : Step} {ρ : Report} (hok : st.result = .ok ρ)
    (hdigest : belowRoot.TellsApart st.before.tree st.round)
    (hname : st.round.output? = some outputName) (hplain : listsPlain st.after.tree = true) :
    st.Undisturbed belowRoot := by
  refine ⟨⟨ρ, hok⟩, hdigest, fun languages hlanguages l hl =>
    not_mem_code_of_listsPlain hplain hlanguages hl, fun name hname' => ?_,
    not_isPublished_page hplain⟩
  obtain rfl := Option.some.inj (hname.symm.trans hname')
  exact (apart_belowRoot hplain).input

theorem listsPlain_of_bilingual {page : Text} {t : FileTree} (h : Bilingual page t) :
    listsPlain t = true := by
  have hlanguages : (languagesIn belowRoot.root belowRoot.settings).Yields t
      Publication.railLanguages := h.yields_languagesIn (.text "site".toList)
  rw [listsPlain, hlanguages.result rfl]
  decide

theorem bilingual_first : Bilingual shortPage first :=
  ⟨rfl, rfl, rfl, rfl⟩

theorem bilingual_second : Bilingual railPage second :=
  ⟨rfl, rfl, rfl, rfl⟩

theorem ofText_shortPage_ne : Digest.Sha256.ofText shortPage ≠ Digest.Sha256.ofText railPage := by
  decide +kernel

theorem refresh_bilingual : ∃ ρ, ρ.changed = true
    ∧ (belowRoot.refresh (brings shortPage)).Does bilingual ρ first := by
  have hnone : (storedHash belowRoot.page).Yields bilingual none := by
    have hcontains : (Action.contains belowRoot.page).Yields bilingual false :=
      Action.yields_contains.2 rfl
    exact hcontains.bind (Action.yields_pure.2 rfl)
  have hzh : Page.localizeFrom Publication.railDue .standard (fun _ => 0)
      (Page.setLanguage "en".toList "zh".toList shortPage).wide = (shortPageZh.wide, 1) := by
    decide +kernel
  refine refresh_does_brings hnone nofun (fun t₁ ht₁ => ?_) rfl hzh (by decide +kernel) rfl
  obtain rfl := Except.ok.inj ht₁
  exact ⟨rfl, rfl, rfl, rfl⟩

theorem refresh_first : ∃ ρ, ρ.changed = true
    ∧ (belowRoot.refresh (brings railPage)).Does first ρ second := by
  have hstored : first.text? belowRoot.page = some shortPage :=
    FileTree.text?_eq_some.2 rfl
  have hhash := yields_storedHash (congrArg (Option.map Digest.Sha256.ofText) hstored)
  refine refresh_does_brings hhash (fun heq => ofText_shortPage_ne (Option.some.inj heq))
    (fun t₁ ht₁ => ?_) rfl Publication.railPage_zh (by decide +kernel) rfl
  obtain rfl := Except.ok.inj ht₁
  exact ⟨rfl, rfl, rfl, rfl⟩

theorem steps_twice : ∃ ρ₁ ρ₂ w₁ w₂, ρ₂.changed = true ∧ w₁.tree = first ∧ w₂.tree = second
    ∧ belowRoot.steps { tree := bilingual } twice
      = [⟨brings shortPage, { tree := bilingual }, .ok ρ₁, w₁⟩,
        ⟨brings railPage, w₁, .ok ρ₂, w₂⟩] := by
  obtain ⟨ρ₁, -, hdoes₁⟩ := refresh_bilingual
  obtain ⟨w₁, hrun₁, hw₁⟩ := hdoes₁ { tree := bilingual } rfl
  obtain ⟨ρ₂, hchanged₂, hdoes₂⟩ := refresh_first
  obtain ⟨w₂, hrun₂, hw₂⟩ := hdoes₂ w₁ hw₁
  refine ⟨ρ₁, ρ₂, w₁, w₂, hchanged₂, hw₁, hw₂, ?_⟩
  simp only [twice, Setup.steps, Setup.step, hrun₁, hrun₂]

theorem undisturbed_twice {ρ₁ ρ₂ : Report} {w₁ w₂ : World} (hw₁ : w₁.tree = first)
    (hw₂ : w₂.tree = second) :
    (⟨brings shortPage, { tree := bilingual }, .ok ρ₁, w₁⟩ : Step).Undisturbed belowRoot
      ∧ (⟨brings railPage, w₁, .ok ρ₂, w₂⟩ : Step).Undisturbed belowRoot := by
  have hstored₀ : bilingual.text? belowRoot.page = none := rfl
  have hstored₁ : w₁.tree.text? belowRoot.page = some shortPage :=
    FileTree.text?_eq_some.2 (hw₁ ▸ bilingual_first.page)
  constructor
  · refine undisturbed_belowRoot rfl (fun old fresh hold _ _ => ?_) rfl
      (hw₁ ▸ listsPlain_of_bilingual bilingual_first)
    cases hstored₀.symm.trans hold
  · refine undisturbed_belowRoot rfl (fun old fresh hold hfresh heq => ?_) rfl
      (hw₂ ▸ listsPlain_of_bilingual bilingual_second)
    obtain rfl := Option.some.inj (hstored₁.symm.trans hold)
    obtain rfl : railPage = fresh := Option.some.inj hfresh
    exact absurd heq ofText_shortPage_ne

/-- The file that the rounds add their lines to is no page of the publication. -/
theorem place_output_ne_page {r : Round} {name : Text} (t : FileTree) (hr : r ∈ twice)
    (hname : r.output? = some name) :
    t.place (.ofText name) ≠ t.place (belowRoot.site.join (pageName "zh".toList)) := by
  have hnamed : ∀ r ∈ twice, r.output? = some outputName := by decide
  have hpage : t.place (belowRoot.site.join (pageName "zh".toList))
      = t.here ++ ["site".toList] ++ [pageName "zh".toList] := rfl
  rw [hnamed r hr, Option.some.injEq] at hname
  rw [← hname, place_output, hpage]
  exact fun heq => absurd (congrArg List.length heq) (by simp)

theorem synced_steps_twice : bilingual.contains belowRoot.site ≠ .ok true
    ∧ (∀ st ∈ belowRoot.steps { tree := bilingual } twice, st.Undisturbed belowRoot)
    ∧ ∃ st ρ, (belowRoot.steps { tree := bilingual } twice)[1]? = some st ∧ st.result = .ok ρ
      ∧ ρ.changed = true ∧ ρ.published = true
      ∧ st.after.tree.read belowRoot.page = .ok (Text.Utf8.encode railPage)
      ∧ st.after.tree.read (belowRoot.site.join (pageName "zh".toList))
        = .ok (Text.Utf8.encode railPageZh) := by
  have hnew : bilingual.contains belowRoot.site ≠ .ok true := by decide
  obtain ⟨ρ₁, ρ₂, w₁, w₂, hchanged₂, hw₁, hw₂, hsteps⟩ := steps_twice
  have hundisturbed : ∀ st ∈ belowRoot.steps { tree := bilingual } twice,
      st.Undisturbed belowRoot := by
    obtain ⟨h₁, h₂⟩ := @undisturbed_twice ρ₁ ρ₂ _ _ hw₁ hw₂
    rw [hsteps]
    exact List.forall_mem_cons.2 ⟨h₁, List.forall_mem_singleton.2 h₂⟩
  have hstep : (belowRoot.steps { tree := bilingual } twice)[1]?
      = some ⟨brings railPage, w₁, .ok ρ₂, w₂⟩ := by
    rw [hsteps]
    rfl
  obtain ⟨ρ, fresh, languages, hresult, hfresh, hread, hlanguages, hpages, hpublished⟩ :=
    belowRoot.synced_steps twice _ hnew hundisturbed 1 _ hstep
  obtain rfl := Except.ok.inj hresult
  obtain rfl : railPage = fresh := Option.some.inj hfresh
  have hlanguages₂ : (languagesIn belowRoot.root belowRoot.settings).Yields w₂.tree
      Publication.railLanguages :=
    hw₂ ▸ bilingual_second.yields_languagesIn (.text "site".toList)
  have hzh : (localizeSource belowRoot.root "zh".toList belowRoot.settings).Yields w₂.tree
      (railPageZh.wide, 1) :=
    hw₂ ▸ bilingual_second.yields_localizeSource_zh (.text "site".toList) Publication.railPage_zh
  obtain rfl := Except.ok.inj ((hlanguages₂.result rfl).symm.trans hlanguages)
  obtain ⟨text, n, htext, hfile⟩ := hpages ⟨"zh".toList, "zh".toList, "zh".toList⟩
    List.mem_cons_self fun _ hr _ hname => place_output_ne_page w₂.tree hr hname
  obtain ⟨hwide, -⟩ := Prod.mk.inj (Except.ok.inj (htext.symm.trans (hzh.result rfl)))
  obtain rfl := WideText.wide_inj hwide
  refine ⟨hnew, hundisturbed, _, ρ₂, hstep, rfl, hchanged₂, ?_, hread, hfile⟩
  rw [hpublished, hchanged₂]
  rfl

/-- A round whose line goes to a page of the publication. -/
def outputInSite : Round :=
  ⟨.answered 200 "OK".toList (Text.Utf8.encode "a".toList),
    { outputFile := some "site/droptables-en.html".toList }⟩

theorem output_in_site : sourceOnly.contains belowRoot.site = .ok false
    ∧ (belowRoot.step { tree := sourceOnly } outputInSite).Undisturbed belowRoot
    ∧ ((languagesIn belowRoot.root belowRoot.settings).runOn
        (belowRoot.step { tree := sourceOnly } outputInSite).after).1.toOption
      = some [⟨"en".toList, "en".toList, "en".toList⟩]
    ∧ ((localizeSource belowRoot.root "en".toList belowRoot.settings).runOn
        (belowRoot.step { tree := sourceOnly } outputInSite).after).1.toOption
      = some (.ofString "a", 0)
    ∧ ((belowRoot.step { tree := sourceOnly } outputInSite).after.tree.read
        (belowRoot.site.join (pageName "en".toList))).toOption
      = some (Text.Utf8.encode "achanged=true\n".toList) := by
  refine ⟨by decide, undisturbed_of_seems (by decide +kernel) fun name hname => ?_,
    by decide +kernel, by decide +kernel, by decide +kernel⟩
  obtain rfl : "site/droptables-en.html".toList = name := Option.some.inj hname
  have hplace : ∀ t : FileTree, t.place (.ofText "site/droptables-en.html".toList)
      = t.here ++ ["site".toList] ++ ["droptables-en.html".toList] := fun _ => rfl
  have hpage : ∀ t : FileTree, t.place belowRoot.page = t.here ++ ["droptables-en.html".toList] :=
    fun _ => rfl
  refine not_isInput_belowRoot ?_ ?_
  · intro heq
    rw [hplace, hpage] at heq
    simpa using congrArg List.length heq
  · rw [hplace, Place.name, List.getLast?_concat]
    decide

end Phrasebook.Refresh
