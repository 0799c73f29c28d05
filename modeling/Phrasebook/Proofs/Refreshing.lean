import Phrasebook.Proofs.Encoding
import Phrasebook.Proofs.Footprint
import Phrasebook.Refresh

/-!
# What a refresh does

A refresh prepares itself, which is to fetch the page, compare it with the stored one and store it
if it differs; it publishes if that is due; and it says in a file whether the page changed. It can
fail in each of these parts (`Setup.refresh_outcome`). What a part does to the files is said once
for each of them: `prepare_ok`, `republish_ok`, `announce_ok` if it succeeds, and `atomic_prepare`,
`republish_keeps`, `atomic_announce` also if it fails.
-/

namespace Phrasebook

/-- The text of a file. There is none where there is no file and where its bytes are no text. -/
def FileTree.text? (t : FileTree) (p : Path) : Option Text :=
  match t.read p with
  | .error _ => none
  | .ok bytes => (Text.Utf8.decode bytes).toOption

theorem FileTree.text?_eq_some {t : FileTree} {p : Path} {x : Text} :
    t.text? p = some x ↔ t.read p = .ok (Text.Utf8.encode x) := by
  unfold text?
  rcases t.read p with e | bytes
  · simp
  · rw [Except.ok.injEq, eq_comm (a := bytes), ← Text.Utf8.decode_eq_ok]
    dsimp only
    rcases Text.Utf8.decode bytes with m | y <;> simp [Except.toOption]

/-- A text that is not written to can be read later. -/
theorem FileTree.Keeps.text? {written : Place → Prop} {t t' : FileTree} {p : Path} {x : Text}
    (h : Keeps written t t') (hw : ¬ written (t.place p)) (hx : t.text? p = some x) :
    t'.text? p = some x :=
  text?_eq_some.2 (h.read hw (text?_eq_some.1 hx))

/-- The bytes of the page that an answer brings, if it brings one. -/
def Http.Answer.body? : Http.Answer → Option Bytes
  | refused _ => none
  | answered code _ content => if 400 ≤ code ∧ code < 600 then none else some content

theorem Http.Answer.content_eq_ok {answer : Http.Answer} {url : Text} {bytes : Bytes} :
    answer.content url = .ok bytes ↔ answer.body? = some bytes := by
  rcases answer with message | ⟨code, reason, content⟩
  · simp [Answer.content, body?]
  · unfold Answer.content body?
    dsimp only
    split_ifs <;> simp

namespace Refresh

/-- What stays the same over many refreshes. -/
structure Setup where
  root : Path
  directory : Option Setting := none
  settings : Settings := {}

/-- What differs: the answer of the server, and what is asked of a refresh. -/
structure Round where
  answer : Http.Answer
  request : Request

/-- The page that a round fetches, if it fetches one. -/
def Round.page? (r : Round) : Option Text :=
  r.answer.body?.map Text.Utf8.decodeLenient

/-- The file that a round adds its line to, as it was named. -/
def Round.output? (r : Round) : Option Text :=
  r.request.outputFile.filter (!·.isEmpty)

namespace Setup

/-- The setting that names the directory of the publication. -/
def directorySetting (s : Setup) : Setting :=
  s.directory.getD s.settings.outputDirectory

/-- The path that a setting names below the root, and the root itself if it names none. -/
def pathOf (s : Setup) (setting : Setting) : Path :=
  (setting.part.toOption.map s.root.join).getD s.root

/-- The path of the stored page. -/
def page (s : Setup) : Path :=
  s.pathOf s.settings.sourcePage

/-- The directory of the publication. -/
def site (s : Setup) : Path :=
  s.pathOf s.directorySetting

theorem pathOf_eq {s : Setup} {setting : Setting} {part : Text} (h : setting.part = .ok part) :
    s.pathOf setting = s.root.join part := by
  rw [pathOf, h]
  rfl

theorem yields_pathOf (s : Setup) {setting : Setting} {part : Text} (h : setting.part = .ok part)
    (t : FileTree) : (Action.joined s.root setting).Yields t (s.pathOf setting) :=
  Action.yields_joined.2 ⟨part, h, (pathOf_eq h).symm⟩

theorem eq_pathOf {s : Setup} {setting : Setting} {p : Path} {t : FileTree}
    (h : (Action.joined s.root setting).Yields t p) : p = s.pathOf setting := by
  obtain ⟨part, hpart, rfl⟩ := Action.yields_joined.1 h
  exact (pathOf_eq hpart).symm

/-- The files that the pages are made from, the stored page among them. -/
def IsInput (s : Setup) (t : FileTree) (q : Place) : Prop :=
  Publication.IsInput s.root s.settings t q

/-- The settings name the page, and the place is that of the page. -/
def IsPage (s : Setup) (t : FileTree) (q : Place) : Prop :=
  (∃ part, s.settings.sourcePage.part = .ok part) ∧ q = t.place s.page

theorem IsPage.isInput {s : Setup} {t : FileTree} {q : Place} (h : s.IsPage t q) :
    s.IsInput t q := by
  obtain ⟨⟨part, hpart⟩, rfl⟩ := h
  rw [page, pathOf_eq hpart]
  exact .page hpart

/-- The files of the publication. -/
def IsPublished (s : Setup) (t : FileTree) (q : Place) : Prop :=
  Publication.IsPublished s.root s.site s.settings t q

def refresh (s : Setup) (r : Round) : Action Report :=
  run r.answer s.root { r.request with directory := s.directory } s.settings

end Setup

/-! ## The parts of a refresh -/

/-- What a refresh has fetched and found before it publishes, and whether it is to publish. -/
structure Plan where
  fresh : Text
  oldHash : Option Text
  due : Bool

namespace Plan

def freshHash (plan : Plan) : Text :=
  Digest.Sha256.ofText plan.fresh

def changed (plan : Plan) : Bool :=
  plan.oldHash != some plan.freshHash

def report (plan : Plan) : Report :=
  ⟨plan.changed, plan.oldHash, plan.freshHash, plan.due⟩

end Plan

/-- Stores a page that changed. -/
def store (page : Path) (fresh : Text) (changed : Bool) : Action Unit :=
  if changed then do
    Action.report (.pageChanged page.name)
    Action.putText page fresh.wide
  else pure ()

/-- Whether to publish. -/
def isDue (site : Path) (changed force : Bool) : Action Bool :=
  if changed || force then pure true else (!·) <$> Action.contains site

def Setup.prepare (s : Setup) (r : Round) : Action Plan := do
  let page ← Action.joined s.root s.settings.sourcePage
  let site ← Action.joined s.root s.directorySetting
  let fresh ← fetch r.answer (address s.settings r.request) r.request.ownSession r.request.timeout
  let oldHash ← storedHash page
  let changed := oldHash != some (Digest.Sha256.ofText fresh)
  store page fresh changed
  let due ← isDue site changed r.request.force
  return ⟨fresh, oldHash, due⟩

/-- Publishes the page if that is due. -/
def Setup.republish (s : Setup) (due : Bool) : Action Unit :=
  if due then do
    let publication ← Publication.publish s.root (some s.directorySetting) s.settings
    Action.report (.published publication.pages.length publication.directory)
  else pure ()

/-- Adds the line that says whether the page changed. -/
def Round.announce (r : Round) (changed : Bool) : Action Unit :=
  match r.request.outputFile with
  | some (c :: t) => Action.addText (c :: t) (outputLine changed)
  | _ => pure ()

theorem Setup.refresh_eq (s : Setup) (r : Round) : s.refresh r = (do
    let plan ← s.prepare r
    s.republish plan.due
    r.announce plan.changed
    return plan.report) := by
  have hif : ∀ (due : Bool) (x : Action Unit) (f : Unit → Action Report),
      ((if due then x else pure ()) >>= f) = if due then x >>= f else f () := by
    intro due x f
    cases due <;> simp
  simp only [refresh, run, prepare, bind_assoc, pure_bind]
  refine congrArg _ (funext fun page => ?_)
  refine congrArg _ (funext fun site => ?_)
  refine congrArg _ (funext fun fresh => ?_)
  refine congrArg _ (funext fun oldHash => ?_)
  unfold store isDue republish Round.announce
  simp only [hif, Plan.changed, Plan.freshHash, Plan.report, bind_assoc]
  rcases hfile : r.request.outputFile with _ | _ | ⟨c, t⟩
  · cases oldHash != some (Digest.Sha256.ofText fresh) <;> cases r.request.force <;>
      simp [directorySetting]
  · cases oldHash != some (Digest.Sha256.ofText fresh) <;> cases r.request.force <;>
      simp [directorySetting]
  · cases oldHash != some (Digest.Sha256.ofText fresh) <;> cases r.request.force <;>
      simp [directorySetting]

/-- How a refresh can end: it fails in one of its parts, behind those before it, or in none. -/
inductive Setup.Outcome (s : Setup) (r : Round) (w : World) : Except Failure Report → World → Prop
  | unprepared {e : Failure} {w' : World} (h : (s.prepare r).runOn w = (.error e, w')) :
    Outcome s r w (.error e) w'
  | unpublished {plan : Plan} {e : Failure} {w₁ w' : World}
    (hprepare : (s.prepare r).runOn w = (.ok plan, w₁))
    (h : (s.republish plan.due).runOn w₁ = (.error e, w')) : Outcome s r w (.error e) w'
  | unannounced {plan : Plan} {e : Failure} {w₁ w₂ w' : World}
    (hprepare : (s.prepare r).runOn w = (.ok plan, w₁))
    (hpublish : (s.republish plan.due).runOn w₁ = (.ok (), w₂))
    (h : (r.announce plan.changed).runOn w₂ = (.error e, w')) : Outcome s r w (.error e) w'
  | done {plan : Plan} {w₁ w₂ w' : World} (hprepare : (s.prepare r).runOn w = (.ok plan, w₁))
    (hpublish : (s.republish plan.due).runOn w₁ = (.ok (), w₂))
    (hannounce : (r.announce plan.changed).runOn w₂ = (.ok (), w')) :
    Outcome s r w (.ok plan.report) w'

theorem Setup.refresh_outcome {s : Setup} {r : Round} {w w' : World}
    {result : Except Failure Report} (h : (s.refresh r).runOn w = (result, w')) :
    s.Outcome r w result w' := by
  rw [refresh_eq] at h
  rcases hprepare : (s.prepare r).runOn w with ⟨e | plan, w₁⟩
  · rw [Action.runOn_bind_of_error hprepare] at h
    obtain ⟨rfl, rfl⟩ := Prod.mk.inj h
    exact .unprepared hprepare
  rw [Action.runOn_bind_of_ok hprepare] at h
  rcases hpublish : (s.republish plan.due).runOn w₁ with ⟨e | ⟨⟩, w₂⟩
  · rw [Action.runOn_bind_of_error hpublish] at h
    obtain ⟨rfl, rfl⟩ := Prod.mk.inj h
    exact .unpublished hprepare hpublish
  rw [Action.runOn_bind_of_ok hpublish] at h
  rcases hannounce : (r.announce plan.changed).runOn w₂ with ⟨e | ⟨⟩, w₃⟩
  · rw [Action.runOn_bind_of_error hannounce] at h
    obtain ⟨rfl, rfl⟩ := Prod.mk.inj h
    exact .unannounced hprepare hpublish hannounce
  · rw [Action.runOn_bind_of_ok hannounce] at h
    obtain ⟨rfl, rfl⟩ := Prod.mk.inj h
    exact .done hprepare hpublish hannounce

/-! ## Fetching and comparing -/

section Reading

variable {t : FileTree} {page : Path}

/-- The page that an answer brings. -/
def pageOf (answer : Http.Answer) (url : Text) : Action Text := do
  let content ← Action.ofExcept .http (answer.content url)
  return Text.Utf8.decodeLenient content

theorem reading_pageOf (answer : Http.Answer) (url : Text) : Action.Reading (pageOf answer url) :=
  (Action.reading_ofExcept _ _).bind fun _ => Action.reading_pure _

theorem yields_pageOf (answer : Http.Answer) (url : Text) {x : Text} :
    (pageOf answer url).Yields t x ↔ answer.body?.map Text.Utf8.decodeLenient = some x := by
  rw [pageOf, Action.yields_bind (Action.reading_ofExcept _ _) fun _ => Action.reading_pure _,
    Option.map_eq_some_iff]
  simp only [Action.yields_ofExcept, Action.yields_pure, Http.Answer.content_eq_ok]

theorem reading_fetch (answer : Http.Answer) (url : Setting) (ownSession : Bool)
    (timeout : Setting) : Action.Reading (fetch answer url ownSession timeout) := by
  refine (Action.reading_report _).bind fun _ => (Action.reading_call _).bind fun _ => ?_
  cases ownSession
  · exact reading_pageOf answer _
  · exact (Action.reading_call _).bind fun _ => reading_pageOf answer _

/-- Whatever else a request says, the page fetched is the one that the answer brings. -/
theorem yields_fetch {answer : Http.Answer} {url : Setting} {ownSession : Bool} {timeout : Setting}
    {x : Text} : (fetch answer url ownSession timeout).Yields t x
      ↔ answer.body?.map Text.Utf8.decodeLenient = some x := by
  rw [← yields_pageOf (t := t) answer url.display]
  constructor
  · intro h
    obtain ⟨w', hrun, -⟩ := h { tree := t } rfl
    obtain ⟨⟨⟩, w₁, -, ht₁, h₁⟩ := (Action.reading_report _).bind_ok rfl hrun
    obtain ⟨⟨⟩, w₂, -, ht₂, h₂⟩ := (Action.reading_call _).bind_ok ht₁ h₁
    cases ownSession
    · exact (reading_pageOf _ _).yields ht₂ (congrArg Prod.fst h₂)
    · obtain ⟨⟨⟩, w₃, -, ht₃, h₃⟩ := (Action.reading_call _).bind_ok ht₂ h₂
      exact (reading_pageOf _ _).yields ht₃ (congrArg Prod.fst h₃)
  · intro h
    refine (Action.yields_report _ t ()).bind ((Action.yields_call _ t ()).bind ?_)
    cases ownSession
    · exact h
    · exact (Action.yields_call _ t ()).bind h

theorem reading_storedHash (page : Path) : Action.Reading (storedHash page) := by
  refine (Action.reading_contains page).bind fun b => ?_
  cases b
  · exact Action.reading_pure _
  · exact (Action.reading_textAt page).bind fun _ => Action.reading_pure _

theorem text?_of_yields {x : Text} (h : (Action.textAt page).Yields t x) :
    t.text? page = some x := by
  obtain ⟨bytes, hbytes, hdecode⟩ := Action.yields_textAt.1 h
  rw [FileTree.text?_eq_some, Text.Utf8.decode_eq_ok.1 hdecode, hbytes]

theorem yields_textAt_of_text? {x : Text} (h : t.text? page = some x) :
    (Action.textAt page).Yields t x :=
  Action.yields_textAt.2 ⟨_, FileTree.text?_eq_some.1 h, Text.Utf8.decode_encode x⟩

/-- The digest found is that of the stored page, and none where there is no page. -/
theorem eq_of_yields_storedHash {hash : Option Text} (h : (storedHash page).Yields t hash) :
    hash = (t.text? page).map Digest.Sha256.ofText := by
  obtain ⟨w', hrun, -⟩ := h { tree := t } rfl
  obtain ⟨b, w₁, hb, ht₁, h₁⟩ := (Action.reading_contains page).bind_ok rfl hrun
  have hcontains := Action.yields_contains.1 hb
  cases b
  · obtain rfl := Except.ok.inj (congrArg Prod.fst h₁)
    have hnone : t.text? page = none := by
      rcases htext : t.text? page with _ | x
      · rfl
      · rw [t.contains_of_read (FileTree.text?_eq_some.1 htext)] at hcontains
        cases hcontains
    rw [hnone]
    rfl
  · obtain ⟨x, w₂, hx, -, h₂⟩ := (Action.reading_textAt page).bind_ok ht₁ h₁
    obtain rfl := Except.ok.inj (congrArg Prod.fst h₂)
    rw [text?_of_yields hx]
    rfl

theorem yields_storedHash {hash : Text}
    (h : (t.text? page).map Digest.Sha256.ofText = some hash) :
    (storedHash page).Yields t (some hash) := by
  obtain ⟨x, hx, rfl⟩ := Option.map_eq_some_iff.1 h
  have hcontains := t.contains_of_read (FileTree.text?_eq_some.1 hx)
  refine (Action.yields_contains.2 hcontains).bind ?_
  exact (yields_textAt_of_text? hx).bind (Action.yields_pure.2 rfl)

end Reading

/-! ## The parts and the files -/

/-- What holds of the files before and behind the preparation of a refresh. -/
structure Setup.Prepared (s : Setup) (r : Round) (t t' : FileTree) (plan : Plan) : Prop where
  page : ∃ part, s.settings.sourcePage.part = .ok part
  directory : ∃ part, s.directorySetting.part = .ok part
  fetched : r.page? = some plan.fresh
  oldHash : plan.oldHash = (t.text? s.page).map Digest.Sha256.ofText
  stored : plan.changed = true → t.write s.page (Text.Utf8.encode plan.fresh) = .ok t'
  same : plan.changed = false → t' = t
  due : plan.due = false ↔
    plan.changed = false ∧ r.request.force = false ∧ t'.contains s.site = .ok true

section Parts

variable {s : Setup} {r : Round} {w w' : World} {plan : Plan}

theorem store_ok {page : Path} {fresh : Text} {changed : Bool}
    (h : (store page fresh changed).runOn w = (.ok (), w')) :
    (changed = true → w.tree.write page (Text.Utf8.encode fresh) = .ok w'.tree)
      ∧ (changed = false → w'.tree = w.tree) := by
  cases changed
  · obtain ⟨-, rfl⟩ := Prod.mk.inj h
    exact ⟨nofun, fun _ => rfl⟩
  · obtain ⟨⟨⟩, w₁, -, ht₁, h⟩ := (Action.reading_report _).bind_ok rfl h
    rw [← ht₁]
    exact ⟨fun _ => Action.putText_wide_ok h, nofun⟩

theorem reading_isDue (site : Path) (changed force : Bool) :
    Action.Reading (isDue site changed force) := by
  unfold isDue
  split_ifs
  · exact Action.reading_pure _
  · exact (Action.reading_contains site).map _

theorem yields_isDue {t : FileTree} {site : Path} {changed force due : Bool}
    (h : (isDue site changed force).Yields t due) :
    due = false ↔ changed = false ∧ force = false ∧ t.contains site = .ok true := by
  unfold isDue at h
  split_ifs at h with hor
  · obtain rfl := Action.yields_pure.1 h
    rw [Bool.or_eq_true] at hor
    constructor
    · exact nofun
    · rintro ⟨rfl, rfl, -⟩
      simp at hor
  · obtain ⟨b, hb, rfl⟩ := (Action.yields_map (Action.reading_contains site)).1 h
    rw [Bool.or_eq_true, not_or, Bool.not_eq_true, Bool.not_eq_true] at hor
    rw [Action.yields_contains] at hb
    simp [hor, hb]

theorem prepare_ok (h : (s.prepare r).runOn w = (.ok plan, w')) :
    s.Prepared r w.tree w'.tree plan := by
  unfold Setup.prepare at h
  obtain ⟨page, w₁, hpage, ht₁, h⟩ := (Action.reading_joined _ _).bind_ok rfl h
  obtain ⟨site, w₂, hsite, ht₂, h⟩ := (Action.reading_joined _ _).bind_ok ht₁ h
  obtain ⟨fresh, w₃, hfresh, ht₃, h⟩ := (reading_fetch _ _ _ _).bind_ok ht₂ h
  obtain ⟨oldHash, w₄, hhash, ht₄, h⟩ := (reading_storedHash _).bind_ok ht₃ h
  obtain ⟨⟨⟩, w₅, hstore, h⟩ := Action.runOn_bind_ok.1 h
  obtain ⟨due, w₆, hdue, ht₆, h⟩ := (reading_isDue _ _ _).bind_ok rfl h
  obtain ⟨heq, rfl⟩ := Prod.mk.inj h
  obtain rfl := Except.ok.inj heq
  obtain ⟨pagePart, hpagePart, -⟩ := Action.yields_joined.1 hpage
  obtain ⟨sitePart, hsitePart, -⟩ := Action.yields_joined.1 hsite
  obtain rfl : page = s.page := Setup.eq_pathOf hpage
  obtain rfl : site = s.site := Setup.eq_pathOf hsite
  obtain ⟨hstored, hsame⟩ := store_ok hstore
  rw [ht₄, ← ht₆] at hstored hsame
  rw [← ht₆] at hdue
  exact ⟨⟨_, hpagePart⟩, ⟨_, hsitePart⟩, yields_fetch.1 hfresh,
    eq_of_yields_storedHash hhash, hstored, hsame, yields_isDue hdue⟩

section Prepared

variable {t t' : FileTree} (h : s.Prepared r t t' plan)

include h

/-- Nothing but the stored page is written to. -/
theorem Setup.Prepared.keeps : FileTree.Keeps (· = t.place s.page) t t' := by
  cases hchanged : plan.changed
  · rw [h.same hchanged]
    exact .refl _ _
  · exact FileTree.keeps_write (h.stored hchanged)

/-- The page is changed if it has not the digest of the stored one. -/
theorem Setup.Prepared.changed_eq_false :
    plan.changed = false ↔ (t.text? s.page).map Digest.Sha256.ofText = some plan.freshHash := by
  rw [Plan.changed, h.oldHash, bne_eq_false_iff_eq]

/-- Behind the preparation the stored page has the digest of the page fetched. -/
theorem Setup.Prepared.hash :
    (t'.text? s.page).map Digest.Sha256.ofText = some plan.freshHash := by
  cases hchanged : plan.changed
  · rw [h.same hchanged]
    exact h.changed_eq_false.1 hchanged
  · rw [FileTree.text?_eq_some.2 (FileTree.read_write (h.stored hchanged))]
    rfl

end Prepared

/-- A refresh that cannot be prepared leaves the files as they are. -/
theorem atomic_prepare (s : Setup) (r : Round) : Action.Atomic (s.prepare r) := by
  refine (Action.reading_joined _ _).bind_atomic fun page => ?_
  refine (Action.reading_joined _ _).bind_atomic fun site => ?_
  refine (reading_fetch _ _ _ _).bind_atomic fun fresh => ?_
  refine (reading_storedHash _).bind_atomic fun oldHash => ?_
  dsimp only
  cases oldHash != some (Digest.Sha256.ofText fresh)
  · exact (Action.reading_pure _).bind_atomic fun _ =>
      (reading_isDue _ _ _).bind_atomic fun _ => (Action.reading_pure _).atomic
  · exact ((Action.reading_report _).bind_atomic fun _ =>
      Action.atomic_putText_wide _ _).bind_pure _

/-- A refresh that is not forced finds nothing to publish where the page has the digest of the
stored one and there is a publication. -/
theorem prepare_unchanged {x : Text} (hsource : ∃ part, s.settings.sourcePage.part = .ok part)
    (hdirectory : ∃ part, s.directorySetting.part = .ok part) (hpage : r.page? = some x)
    (hhash : (w.tree.text? s.page).map Digest.Sha256.ofText = some (Digest.Sha256.ofText x))
    (hforce : r.request.force = false)
    (hsite : w.tree.contains s.site = .ok true) : ∃ w',
      (s.prepare r).runOn w = (.ok ⟨x, some (Digest.Sha256.ofText x), false⟩, w')
        ∧ w'.tree = w.tree := by
  obtain ⟨pagePart, hpagePart⟩ := hsource
  obtain ⟨sitePart, hsitePart⟩ := hdirectory
  have hchanged : (some (Digest.Sha256.ofText x) != some (Digest.Sha256.ofText x)) = false := by
    simp
  have hdue : (isDue s.site false false).Yields w.tree false :=
    (Action.yields_map (Action.reading_contains _)).2 ⟨true, Action.yields_contains.2 hsite, rfl⟩
  refine Action.Yields.bind (s.yields_pathOf hpagePart _)
    (Action.Yields.bind (s.yields_pathOf hsitePart _) (Action.Yields.bind (yields_fetch.2 hpage)
      (Action.Yields.bind (yields_storedHash hhash) ?_))) w rfl
  rw [hchanged, hforce]
  exact (Action.yields_pure.2 rfl).bind (hdue.bind (Action.yields_pure.2 rfl))

theorem republish_ok {due : Bool} (h : (s.republish due).runOn w = (.ok (), w')) :
    (due = true → ∃ p w₁, w₁.tree = w'.tree
        ∧ (Publication.publish s.root (some s.directorySetting) s.settings).runOn w = (.ok p, w₁))
      ∧ (due = false → w'.tree = w.tree) := by
  cases due
  · obtain ⟨-, rfl⟩ := Prod.mk.inj h
    exact ⟨nofun, fun _ => rfl⟩
  · obtain ⟨p, w₁, hpublish, h⟩ := Action.runOn_bind_ok.1 h
    exact ⟨fun _ => ⟨p, w₁, ((Action.reading_report _).tree_eq h).symm, hpublish⟩, nofun⟩

/-- Only files of the publication are written when it is published, also when that fails. -/
theorem republish_keeps {due : Bool} {result : Except Failure Unit}
    (hdirectory : ∃ part, s.directorySetting.part = .ok part)
    (h : (s.republish due).runOn w = (result, w')) :
    FileTree.Keeps (s.IsPublished w'.tree) w.tree w'.tree := by
  cases due
  · obtain ⟨-, rfl⟩ := Prod.mk.inj h
    exact .refl _ _
  · obtain ⟨part, hpart⟩ := hdirectory
    rcases hpublish : (Publication.publish s.root (some s.directorySetting) s.settings).runOn w
      with ⟨p, w₁⟩
    have hkeeps := Publication.publish_keeps_after (some s.directorySetting)
      (s.yields_pathOf hpart _) hpublish
    have htree : w'.tree = w₁.tree := by
      rw [Setup.republish, if_pos rfl] at h
      rcases p with e | p
      · rw [Action.runOn_bind_of_error hpublish] at h
        exact congrArg World.tree (Prod.mk.inj h).2.symm
      · rw [Action.runOn_bind_of_ok hpublish] at h
        exact (Action.reading_report _).tree_eq h
    rw [htree]
    exact hkeeps

/-- The line is added to the file that was named, if one was. -/
def Round.Announced (r : Round) (changed : Bool) (t t' : FileTree) : Prop :=
  match r.output? with
  | some name => t.appendNamed name (Text.Utf8.encode (outputLine changed)) = .ok t'
  | none => t' = t

theorem announce_eq (r : Round) (changed : Bool) : r.announce changed = match r.output? with
    | some name => Action.addText name (outputLine changed)
    | none => pure () := by
  unfold Round.announce Round.output?
  rcases r.request.outputFile with _ | _ | ⟨c, t⟩ <;> rfl

theorem announce_ok {changed : Bool} (h : (r.announce changed).runOn w = (.ok (), w')) :
    r.Announced changed w.tree w'.tree := by
  rw [announce_eq] at h
  unfold Round.Announced
  rcases hname : r.output? with _ | name
  · rw [hname] at h
    exact congrArg World.tree (Prod.mk.inj h).2.symm
  · rw [hname] at h
    exact Action.change_ok h

theorem atomic_announce (r : Round) (changed : Bool) : Action.Atomic (r.announce changed) := by
  rw [announce_eq]
  rcases r.output? with _ | name
  · exact (Action.reading_pure _).atomic
  · exact Action.atomic_change _ _

/-- Nothing but the file that was named is written to. -/
theorem Round.Announced.keeps {changed : Bool} {t t' : FileTree} (h : r.Announced changed t t') :
    FileTree.Keeps (fun q => ∃ name, r.output? = some name ∧ q = t.place (.ofText name)) t t' := by
  unfold Announced at h
  rcases hname : r.output? with _ | name
  · rw [hname] at h
    obtain rfl : t' = t := h
    exact .refl _ _
  · rw [hname] at h
    exact (FileTree.keeps_appendNamed h).mono fun q hq => ⟨name, rfl, hq⟩

/-- The files of the publication stay the same when the line is added to a file that is no input. -/
theorem Round.Announced.isPublished {changed : Bool} {t t' : FileTree} {q : Place}
    (h : r.Announced changed t t')
    (hinput : ∀ name, r.output? = some name → ¬ s.IsInput t' (t'.place (.ofText name)))
    (hq : s.IsPublished t q) : s.IsPublished t' q := by
  refine Publication.IsPublished.of_keeps h.keeps ?_ hq
  rintro data hdata ⟨name, hname, hplace⟩
  refine hinput name hname ?_
  rw [h.keeps.place, ← hplace, ← h.keeps.place]
  exact .languages hdata

/-- A refresh that succeeds succeeds in all its parts. -/
theorem refresh_ok {ρ : Report} (h : (s.refresh r).runOn w = (.ok ρ, w')) :
    ∃ plan w₁ w₂, ρ = plan.report ∧ (s.prepare r).runOn w = (.ok plan, w₁)
      ∧ (s.republish plan.due).runOn w₁ = (.ok (), w₂)
      ∧ r.Announced plan.changed w₂.tree w'.tree := by
  rcases Setup.refresh_outcome h with _ | _ | _ | ⟨hprepare, hpublish, hannounce⟩
  exact ⟨_, _, _, rfl, hprepare, hpublish, announce_ok hannounce⟩

theorem refresh_of_parts {w₁ w₂ : World} (hprepare : (s.prepare r).runOn w = (.ok plan, w₁))
    (hpublish : (s.republish plan.due).runOn w₁ = (.ok (), w₂))
    (hannounce : (r.announce plan.changed).runOn w₂ = (.ok (), w')) :
    (s.refresh r).runOn w = (.ok plan.report, w') := by
  rw [Setup.refresh_eq, Action.runOn_bind_of_ok hprepare, Action.runOn_bind_of_ok hpublish,
    Action.runOn_bind_of_ok hannounce]
  rfl

/-- A refresh succeeds that brings another page than the stored one, if the page can be stored and
published and the line can be added. -/
theorem refresh_does {x : Text} {oldHash : Option Text} {p : Publication} {t t₁ t₂ t' : FileTree}
    (hsource : ∃ part, s.settings.sourcePage.part = .ok part)
    (hdirectory : ∃ part, s.directorySetting.part = .ok part) (hpage : r.page? = some x)
    (hhash : (storedHash s.page).Yields t oldHash)
    (hchanged : oldHash ≠ some (Digest.Sha256.ofText x))
    (hstore : t.write s.page (Text.Utf8.encode x) = .ok t₁)
    (hpublish : (Publication.publish s.root (some s.directorySetting) s.settings).Does t₁ p t₂)
    (hannounce : r.Announced true t₂ t') :
    ∃ ρ, ρ.changed = true ∧ (s.refresh r).Does t ρ t' := by
  obtain ⟨pagePart, hpagePart⟩ := hsource
  obtain ⟨sitePart, hsitePart⟩ := hdirectory
  let plan : Plan := ⟨x, oldHash, true⟩
  have hplan : plan.changed = true := bne_iff_ne.2 hchanged
  have hstored : (store s.page x plan.changed).Does t () t₁ := by
    rw [hplan]
    exact (Action.yields_report _ t ()).does.bind (Action.does_putText_wide hstore)
  have hdue : (isDue s.site plan.changed r.request.force).Yields t₁ true := by
    rw [hplan]
    exact Action.yields_pure.2 rfl
  have hprepare : (s.prepare r).Does t plan t₁ :=
    (s.yields_pathOf hpagePart t).does.bind ((s.yields_pathOf hsitePart t).does.bind
      ((yields_fetch.2 hpage).does.bind (hhash.does.bind (hstored.bind (hdue.does.bind
        (Action.yields_pure.2 rfl).does)))))
  have hrepublish : (s.republish true).Does t₁ () t₂ :=
    hpublish.bind (Action.yields_report _ t₂ ()).does
  have hannounced : (r.announce true).Does t₂ () t' := by
    unfold Round.Announced at hannounce
    rw [announce_eq]
    rcases hname : r.output? with _ | name
    · rw [hname] at hannounce
      exact hannounce ▸ (Action.yields_pure.2 rfl).does
    · rw [hname] at hannounce
      exact Action.does_change hannounce
  refine ⟨plan.report, hplan, ?_⟩
  rw [Setup.refresh_eq]
  refine hprepare.bind (hrepublish.bind ?_)
  rw [hplan]
  exact hannounced.bind (Action.yields_pure.2 rfl).does

/-- Behind a refresh that succeeds the directory of the publication stands. -/
theorem contains_site_of_ok {ρ : Report} (h : (s.refresh r).runOn w = (.ok ρ, w')) :
    w'.tree.contains s.site = .ok true := by
  obtain ⟨plan, w₁, w₂, -, hprepare, hpublish, hannounced⟩ := refresh_ok h
  obtain ⟨hdue, hidle⟩ := republish_ok hpublish
  refine hannounced.keeps.contains ?_
  rcases hplan : plan.due
  · rw [hidle hplan]
    exact ((prepare_ok hprepare).due.1 hplan).2.2
  · obtain ⟨p, w₃, htree, hrun⟩ := hdue hplan
    obtain ⟨-, -, hdirectory, -⟩ := Publication.publish_stands hrun
    have hsite : p.directory = s.site := Setup.eq_pathOf hdirectory
    rw [← htree, ← hsite]
    exact Publication.contains_of_publish hrun

/-- The stored page stays what it is once it is stored. -/
theorem text?_of_stored {t : FileTree} {due changed : Bool} {x : Text}
    (hprepared : s.Prepared r t w.tree plan) (hpublish : (s.republish due).runOn w = (.ok (), w'))
    {t' : FileTree} (hannounced : r.Announced changed w'.tree t')
    (hinput : ∀ name, r.output? = some name → ¬ s.IsInput t' (t'.place (.ofText name)))
    (hpage : ¬ s.IsPublished t' (t'.place s.page)) (hx : w.tree.text? s.page = some x) :
    t'.text? s.page = some x := by
  have hkeeps := republish_keeps hprepared.directory hpublish
  have hsame := hannounced.keeps.place
  have hnot : ¬ s.IsPublished w'.tree (w.tree.place s.page) := fun hp => hpage <| by
    rw [hsame, hkeeps.place]
    exact hannounced.isPublished hinput hp
  refine hannounced.keeps.text? ?_ (hkeeps.text? hnot hx)
  rintro ⟨name, hname, heq⟩
  refine hinput name hname ?_
  rw [hsame, ← heq, ← hsame]
  exact Setup.IsPage.isInput ⟨hprepared.page, rfl⟩

/-- A refresh reports that the page changed if it has not the digest of the stored one. -/
theorem changed_of_ok {ρ : Report} (h : (s.refresh r).runOn w = (.ok ρ, w')) :
    ∃ fresh, r.page? = some fresh ∧ (ρ.changed = false
      ↔ (w.tree.text? s.page).map Digest.Sha256.ofText = some (Digest.Sha256.ofText fresh)) := by
  obtain ⟨plan, w₁, w₂, rfl, hprepare, -, -⟩ := refresh_ok h
  have hprepared := prepare_ok hprepare
  exact ⟨plan.fresh, hprepared.fetched, hprepared.changed_eq_false⟩

/-- A refresh publishes if the page changed, if it is forced to, and if nothing stands where the
publication is to be. -/
theorem published_of_ok {ρ : Report} (h : (s.refresh r).runOn w = (.ok ρ, w')) :
    ρ.published = false ↔
      ρ.changed = false ∧ r.request.force = false ∧ w.tree.contains s.site = .ok true := by
  obtain ⟨plan, w₁, w₂, rfl, hprepare, -, -⟩ := refresh_ok h
  have hprepared := prepare_ok hprepare
  refine hprepared.due.trans (and_congr_right fun hchanged => ?_)
  rw [hprepared.same hchanged]

end Parts

end Refresh

end Phrasebook
