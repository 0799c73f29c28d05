import Phrasebook.Proofs.Refreshing

/-!
# Refreshes one after the other

`Setup.steps` lists the refreshes of some rounds, each with the world before it and the world behind
it. Over them the output file grows by one line for each refresh that succeeds, and a refresh that
is repeated at once finds nothing to do (`Setup.output_steps`).
-/

namespace Phrasebook.Refresh

open Publication (languagesIn)

/-- A refresh as it ran. -/
structure Step where
  round : Round
  before : World
  result : Except Failure Report
  after : World

namespace Setup

def step (s : Setup) (w : World) (r : Round) : Step :=
  let out := (s.refresh r).runOn w
  ⟨r, w, out.1, out.2⟩

def steps (s : Setup) : World → List Round → List Step
  | _, [] => []
  | w, r :: rs => s.step w r :: s.steps (s.step w r).after rs

/-- The world behind the last of some rounds. -/
def after (s : Setup) : World → List Round → World
  | w, [] => w
  | w, r :: rs => s.after (s.step w r).after rs

section Steps

variable {s : Setup} {st : Step}

theorem runOn_of_step {r : Round} {w : World} {result : Except Failure Report}
    (h : (s.step w r).result = result) :
    (s.refresh r).runOn w = (result, (s.step w r).after) := by
  rw [← h]
  rfl

theorem runOn_of_mem_steps : ∀ {rounds : List Round} {w : World}, st ∈ s.steps w rounds →
    (s.refresh st.round).runOn st.before = (st.result, st.after)
  | [], _, h => absurd h List.not_mem_nil
  | _ :: _, _, h => by
    rcases List.mem_cons.1 h with rfl | h
    · rfl
    · exact runOn_of_mem_steps h

theorem round_mem_of_mem_steps : ∀ {rounds : List Round} {w : World}, st ∈ s.steps w rounds →
    st.round ∈ rounds
  | [], _, h => absurd h List.not_mem_nil
  | _ :: _, _, h => by
    rcases List.mem_cons.1 h with rfl | h
    · exact List.mem_cons_self
    · exact List.mem_cons_of_mem _ (round_mem_of_mem_steps h)

end Steps

/-- The digests of the stored page and of the page fetched differ if the pages do. -/
def TellsApart (s : Setup) (t : FileTree) (r : Round) : Prop :=
  ∀ old fresh, t.text? s.page = some old → r.page? = some fresh →
    Digest.Sha256.ofText old = Digest.Sha256.ofText fresh → old = fresh

end Setup

/-- The file is none of those that the pages are made from, none of the publication, and the stored
page is none of the publication either. -/
structure Step.Apart (st : Step) (s : Setup) (output : Path) : Prop where
  input : ¬ s.IsInput st.after.tree (st.after.tree.place output)
  published : ¬ s.IsPublished st.after.tree (st.after.tree.place output)
  page : ¬ s.IsPublished st.after.tree (st.after.tree.place s.page)

/-- The line that a refresh owes to the output file: none if it failed, and otherwise whether the
page fetched is the one that was stored before. -/
def Step.line (st : Step) (page : Path) : Text :=
  match st.result with
  | .error _ => []
  | .ok _ =>
    if st.before.tree.text? page = st.round.page? then "changed=false\n".toList
    else "changed=true\n".toList

section Run

variable {s : Setup} {r : Round} {w w' : World} {ρ : Report} {g : Text}

/-- Up to its announcement a refresh writes to the stored page and to the publication only. -/
theorem exists_keeps_of_refresh {result : Except Failure Report}
    (h : (s.refresh r).runOn w = (result, w')) : ∃ t : FileTree,
      FileTree.Keeps (fun q => s.IsPage w.tree q ∨ s.IsPublished t q) w.tree t
        ∧ (∀ e, result = .error e → w'.tree = t)
        ∧ ∀ ρ, result = .ok ρ → r.Announced ρ.changed t w'.tree := by
  have hparts : ∀ {plan : Plan} {w₁ w₂ : World} {out : Except Failure Unit},
      (s.prepare r).runOn w = (.ok plan, w₁) → (s.republish plan.due).runOn w₁ = (out, w₂) →
        FileTree.Keeps (fun q => s.IsPage w.tree q ∨ s.IsPublished w₂.tree q) w.tree w₂.tree := by
    intro plan w₁ w₂ out hprepare hpublish
    have hprepared := prepare_ok hprepare
    refine (hprepared.keeps.mono ?_).trans
      ((republish_keeps hprepared.directory hpublish).mono fun q hq => .inr hq)
    intro q hq
    exact .inl ⟨hprepared.page, hq⟩
  rcases Setup.refresh_outcome h with hprepare | ⟨hprepare, hpublish⟩ |
    ⟨hprepare, hpublish, hannounce⟩ | ⟨hprepare, hpublish, hannounce⟩
  · have htree := atomic_prepare s r _ _ _ hprepare
    exact ⟨w.tree, .refl _ _, fun _ _ => htree, nofun⟩
  · exact ⟨w'.tree, hparts hprepare hpublish, fun _ _ => rfl, nofun⟩
  · exact ⟨_, hparts hprepare hpublish, fun _ _ => atomic_announce r _ _ _ _ hannounce, nofun⟩
  · refine ⟨_, hparts hprepare hpublish, nofun, ?_⟩
    rintro _ ⟨⟩
    exact announce_ok hannounce

/-- A refresh does not change the working directory. -/
theorem here_of_refresh {result : Except Failure Report}
    (h : (s.refresh r).runOn w = (result, w')) : w'.tree.here = w.tree.here := by
  obtain ⟨t, hkeeps, herror, hok⟩ := exists_keeps_of_refresh h
  rcases result with e | ρ
  · rw [herror e rfl, hkeeps.here]
  · rw [(hok ρ rfl).keeps.here, hkeeps.here]

theorem place_of_refresh {result : Except Failure Report}
    (h : (s.refresh r).runOn w = (result, w')) (p : Path) : w'.tree.place p = w.tree.place p := by
  unfold FileTree.place
  rw [here_of_refresh h]

/-- A refresh reports that the page changed if the page is not the one that was stored. -/
theorem changed_of_refresh (h : (s.refresh r).runOn w = (.ok ρ, w'))
    (hdigest : s.TellsApart w.tree r) : ρ.changed = false ↔ w.tree.text? s.page = r.page? := by
  obtain ⟨fresh, hfresh, hchanged⟩ := changed_of_ok h
  rw [hchanged, hfresh, Option.map_eq_some_iff]
  constructor
  · rintro ⟨old, hold, heq⟩
    rw [hold, hdigest old fresh hold hfresh heq]
  · intro htext
    exact ⟨fresh, htext, rfl⟩

/-- A refresh that succeeds adds one line to the output file, and one that fails adds none. -/
theorem bytesOf_step (hname : r.output? = some g) (hapart : (s.step w r).Apart s (.ofText g))
    (hdigest : s.TellsApart w.tree r) :
    (s.step w r).after.tree.bytesOf (.ofText g)
      = w.tree.bytesOf (.ofText g) ++ Text.Utf8.encode ((s.step w r).line s.page) := by
  have hrun := Setup.runOn_of_step (s := s) (r := r) (w := w) rfl
  obtain ⟨t, hkeeps, herror, hok⟩ := exists_keeps_of_refresh hrun
  have hpublished := hapart.published
  rw [place_of_refresh hrun] at hpublished
  have hpage : ¬ s.IsPage w.tree (w.tree.place (.ofText g)) := fun ⟨hpart, hplace⟩ =>
    hapart.input <| by
      rw [place_of_refresh hrun, hplace, ← place_of_refresh hrun]
      exact Setup.IsPage.isInput ⟨hpart, rfl⟩
  rcases hresult : (s.step w r).result with e | ρ
  · have htree := herror e hresult
    rw [htree] at hpublished
    rw [Step.line, hresult, htree, hkeeps.bytesOf (by simp [hpage, hpublished])]
    simp [Text.Utf8.encode]
  · have hannounced := hok ρ hresult
    have hpublished : ¬ s.IsPublished t (w.tree.place (.ofText g)) := fun hp =>
      hpublished (hannounced.isPublished (by simp [hname, hapart.input]) hp)
    have hchanged := changed_of_refresh (Setup.runOn_of_step hresult) hdigest
    unfold Round.Announced at hannounced
    rw [hname] at hannounced
    rw [FileTree.bytesOf_appendNamed hannounced, hkeeps.bytesOf (by simp [hpage, hpublished]),
      Step.line, hresult]
    congr 2
    rcases hvalue : ρ.changed
    · have : (s.step w r).before.tree.text? s.page = (s.step w r).round.page? := hchanged.1 hvalue
      rw [if_pos this]
      rfl
    · have : ¬ (s.step w r).before.tree.text? s.page = (s.step w r).round.page? := fun heq => by
        rw [hchanged.2 heq] at hvalue
        cases hvalue
      rw [if_neg this]
      rfl

/-- A refresh that is repeated at once, and not forced, finds nothing changed and nothing to
publish; it changes no file but the one that its line is added to. -/
theorem refresh_again (h : (s.refresh r).runOn w = (.ok ρ, w')) (hname : r.output? = some g)
    (hinput : ¬ s.IsInput w'.tree (w'.tree.place (.ofText g)))
    (hpage : ¬ s.IsPublished w'.tree (w'.tree.place s.page))
    {again : Round} (hbody : again.answer.body? = r.answer.body?)
    (hforce : again.request.force = false) (hname' : again.output? = some g) :
    ∃ ρ' w'', (s.refresh again).runOn w' = (.ok ρ', w'') ∧ ρ'.changed = false
      ∧ ρ'.oldHash = some ρ'.freshHash ∧ ρ'.published = false
      ∧ ∀ q, q ≠ w'.tree.place (.ofText g) → w''.tree.get? q = w'.tree.get? q := by
  obtain ⟨plan, w₁, w₂, rfl, hprepare, hpublish, hannounced⟩ := refresh_ok h
  have hprepared := prepare_ok hprepare
  have hfetched : again.page? = some plan.fresh := by
    rw [← hprepared.fetched, Round.page?, Round.page?, hbody]
  have hhash : (w'.tree.text? s.page).map Digest.Sha256.ofText = some plan.freshHash := by
    obtain ⟨old, hold, heq⟩ := Option.map_eq_some_iff.1 hprepared.hash
    rw [text?_of_stored hprepared hpublish hannounced (by simp [hname, hinput]) hpage hold,
      Option.map_some, heq]
  obtain ⟨w₃, hprepare', ht₃⟩ := prepare_unchanged hprepared.page hprepared.directory hfetched
    hhash hforce (contains_site_of_ok h)
  unfold Round.Announced at hannounced
  rw [hname] at hannounced
  obtain ⟨t, happend⟩ := (FileTree.Keeps.refl (fun _ => False) w'.tree).appendNamed hannounced
    (Text.Utf8.encode (outputLine false))
  have hunchanged : (Plan.mk plan.fresh (some plan.freshHash) false).changed = false := by
    simp [Plan.changed, Plan.freshHash]
  have hannounce : (again.announce false).runOn w₃ = (.ok (), { w₃ with tree := t }) := by
    rw [announce_eq, hname']
    exact Action.runOn_change_of_ok (by rw [ht₃, happend])
  rw [← hunchanged] at hannounce
  exact ⟨_, _, refresh_of_parts hprepare' rfl hannounce, hunchanged, rfl, rfl,
    fun q hq => FileTree.get?_appendNamed happend hq⟩

theorem Setup.bytesOf_after (s : Setup) (g : Text) : ∀ (rounds : List Round) (w : World),
    (∀ r ∈ rounds, r.output? = some g) →
    (∀ st ∈ s.steps w rounds, st.Apart s (.ofText g)) →
    (∀ st ∈ s.steps w rounds, s.TellsApart st.before.tree st.round) →
      (s.after w rounds).tree.bytesOf (.ofText g) = w.tree.bytesOf (.ofText g)
        ++ Text.Utf8.encode ((s.steps w rounds).flatMap fun st => st.line s.page)
  | [], w, _, _, _ => by simp [after, steps, Text.Utf8.encode]
  | r :: rounds, w, hname, hapart, hdigest => by
    obtain ⟨hname₀, hname⟩ := List.forall_mem_cons.1 hname
    obtain ⟨hapart₀, hapart⟩ := List.forall_mem_cons.1 hapart
    obtain ⟨hdigest₀, hdigest⟩ := List.forall_mem_cons.1 hdigest
    rw [after, steps, List.flatMap_cons, Text.Utf8.encode_append,
      bytesOf_after s g rounds _ hname hapart hdigest, bytesOf_step hname₀ hapart₀ hdigest₀,
      List.append_assoc]

/-- Over refreshes of which some may fail, the output file grows by one line for each that succeeds:
whether the page fetched was another one than the page stored before. A refresh repeated at once
changes nothing else. -/
theorem Setup.output_steps (s : Setup) (g : Text) (rounds : List Round) (w : World)
    (hname : ∀ r ∈ rounds, r.output? = some g)
    (hapart : ∀ st ∈ s.steps w rounds, st.Apart s (.ofText g))
    (hdigest : ∀ st ∈ s.steps w rounds, s.TellsApart st.before.tree st.round) :
    (s.after w rounds).tree.bytesOf (.ofText g) = w.tree.bytesOf (.ofText g)
        ++ Text.Utf8.encode ((s.steps w rounds).flatMap fun st => st.line s.page)
      ∧ ∀ st ∈ s.steps w rounds, ∀ ρ, st.result = .ok ρ →
        (ρ.changed = false ↔ st.before.tree.text? s.page = st.round.page?)
        ∧ ∀ again : Round, again.answer.body? = st.round.answer.body? →
          again.request.force = false → again.output? = some g →
          ∃ ρ' w', (s.refresh again).runOn st.after = (.ok ρ', w') ∧ ρ'.changed = false
            ∧ ρ'.oldHash = some ρ'.freshHash ∧ ρ'.published = false
            ∧ ∀ q, q ≠ st.after.tree.place (.ofText g) →
              w'.tree.get? q = st.after.tree.get? q := by
  refine ⟨s.bytesOf_after g rounds w hname hapart hdigest, fun st hst ρ hresult => ?_⟩
  have hrun := Setup.runOn_of_mem_steps hst
  rw [hresult] at hrun
  refine ⟨changed_of_refresh hrun (hdigest st hst), fun again hbody hforce hname' => ?_⟩
  exact refresh_again hrun (hname _ (Setup.round_mem_of_mem_steps hst)) (hapart st hst).input
    (hapart st hst).page hbody hforce hname'

/-- The working directory is the same behind and before each of the refreshes. -/
theorem Setup.here_of_mem_steps {st : Step} : ∀ {rounds : List Round} {w : World},
    st ∈ s.steps w rounds → st.before.tree.here = w.tree.here ∧ st.after.tree.here = w.tree.here
  | [], _, h => absurd h List.not_mem_nil
  | r :: rounds, w, h => by
    have hstep := here_of_refresh (Setup.runOn_of_step (s := s) (r := r) (w := w) rfl)
    rcases List.mem_cons.1 h with rfl | h
    · exact ⟨rfl, hstep⟩
    · obtain ⟨hbefore, hafter⟩ := Setup.here_of_mem_steps h
      exact ⟨hbefore.trans hstep, hafter.trans hstep⟩

end Run

/-! ## A site below the root -/

/-- Files whose table lists the source language alone. -/
def sourceOnly : FileTree :=
  .ofEntries ["work".toList] [("data", .directory), ("data/supplementals", .directory),
    ("data/supplementals/languages.csv", .file (Text.Utf8.encode "code\nen\n".toList)),
    ("data/dict.en.json", .file (Text.Utf8.encode "\x7b\"/a\": \"Rail\"\x7d".toList))]

def belowRoot : Setup where
  root := .here
  settings := { dataDirectory := .text "data".toList }

def outputName : Text :=
  "out.txt".toList

/-- A round that fetches a page. -/
def brings (page : Text) : Round :=
  ⟨.answered 200 "OK".toList (Text.Utf8.encode page), { outputFile := some outputName }⟩

def offline : Round :=
  ⟨.refused "offline".toList, { outputFile := some outputName }⟩

/-- The table lists languages whose codes lead nowhere else. -/
def listsPlain (t : FileTree) : Bool :=
  ((languagesIn belowRoot.root belowRoot.settings).runOn { tree := t }).1.toOption.any
    fun languages => languages.all fun l => !l.code.contains '/'

theorem not_mem_code_of_listsPlain {t : FileTree} (h : listsPlain t = true)
    {languages : List Language}
    (hlanguages : (languagesIn belowRoot.root belowRoot.settings).Yields t languages) {l : Language}
    (hl : l ∈ languages) : '/' ∉ l.code := by
  rw [listsPlain, hlanguages.result rfl] at h
  simpa using List.all_eq_true.1 h l hl

theorem not_isPublished_page {t : FileTree} (h : listsPlain t = true) :
    ¬ belowRoot.IsPublished t (t.place belowRoot.page) := by
  rintro ⟨languages, hlanguages, hout⟩
  have hslash : ∀ code ∈ languages.map Language.code, '/' ∉ code :=
    List.forall_mem_map.2 fun l hl => not_mem_code_of_listsPlain h hlanguages hl
  obtain ⟨name, hname⟩ := hout.exists_name hslash
  have hpage : t.place belowRoot.page = t.here ++ ["droptables-en.html".toList] := rfl
  have hsite : belowRoot.site.place t.here = t.here ++ ["site".toList] := rfl
  rw [hpage, hsite, List.append_assoc, List.append_right_inj] at hname
  exact absurd (congrArg List.length hname) (by simp)

theorem not_isInput_belowRoot {t : FileTree} {q : Place} (hpage : q ≠ t.place belowRoot.page)
    (hlast : q.name.getLast? ≠ some 'v' ∧ q.name.getLast? ≠ some 'n') :
    ¬ belowRoot.IsInput t q := by
  intro hinput
  rcases hinput.getLast?_name with ⟨part, hpart, heq⟩ | h | h
  · exact hpage (heq.trans (congrArg t.place (Setup.pathOf_eq hpart).symm))
  · exact hlast.1 h
  · exact hlast.2 h

theorem place_output (t : FileTree) :
    t.place (.ofText outputName) = t.here ++ [outputName] := rfl

theorem getLast?_name_output (t : FileTree) :
    (t.place (.ofText outputName)).name.getLast? = some 't' := by
  rw [place_output, Place.name, List.getLast?_concat]
  rfl

theorem not_isPublished_output (t : FileTree) :
    ¬ belowRoot.IsPublished t (t.place (.ofText outputName)) := by
  rintro ⟨_, -, hout⟩
  have hlast := hout.getLast?_name
  rw [getLast?_name_output] at hlast
  cases hlast

theorem apart_belowRoot {st : Step} (h : listsPlain st.after.tree = true) :
    st.Apart belowRoot (.ofText outputName) := by
  refine ⟨not_isInput_belowRoot ?_ ?_, not_isPublished_output _, not_isPublished_page h⟩
  · have hpage : st.after.tree.place belowRoot.page
        = st.after.tree.here ++ ["droptables-en.html".toList] := rfl
    rw [place_output, hpage, ne_eq, List.append_right_inj]
    decide
  · rw [getLast?_name_output]
    decide

/-- A page that comes again after the server was away. -/
def outage : List Round :=
  [brings "a".toList, offline, brings "a".toList]

theorem output_steps_outage : (∀ r ∈ outage, r.output? = some outputName)
    ∧ (∀ st ∈ belowRoot.steps { tree := sourceOnly } outage,
      st.Apart belowRoot (.ofText outputName))
    ∧ (∀ st ∈ belowRoot.steps { tree := sourceOnly } outage,
      belowRoot.TellsApart st.before.tree st.round)
    ∧ (belowRoot.after { tree := sourceOnly } outage).tree.bytesOf (.ofText outputName)
      = Text.Utf8.encode "changed=true\nchanged=false\n".toList := by
  have hname : ∀ r ∈ outage, r.output? = some outputName := by decide
  have htexts : (belowRoot.steps { tree := sourceOnly } outage).all (fun st =>
      st.before.tree.text? belowRoot.page == none
        || st.round.page? == none
        || st.before.tree.text? belowRoot.page == st.round.page?) = true := by
    decide +kernel
  have hlines : (belowRoot.steps { tree := sourceOnly } outage).flatMap
      (fun st => st.line belowRoot.page) = "changed=true\nchanged=false\n".toList := by
    decide +kernel
  have hdigest : ∀ st ∈ belowRoot.steps { tree := sourceOnly } outage,
      belowRoot.TellsApart st.before.tree st.round := by
    intro st hst old fresh hold hfresh _
    have htext := List.all_eq_true.1 htexts st hst
    rw [hold, hfresh] at htext
    simpa using htext
  have hplain : (belowRoot.steps { tree := sourceOnly } outage).all
      (fun st => listsPlain st.after.tree) = true := by
    decide +kernel
  have hapart : ∀ st ∈ belowRoot.steps { tree := sourceOnly } outage,
      st.Apart belowRoot (.ofText outputName) := fun st hst =>
    apart_belowRoot (List.all_eq_true.1 hplain st hst)
  refine ⟨hname, hapart, hdigest, ?_⟩
  rw [(belowRoot.output_steps outputName outage _ hname hapart hdigest).1, hlines]
  rfl

end Phrasebook.Refresh
