import Phrasebook.Proofs.Rounds
import Mathlib.Logic.Relation

/-!
# Refreshing again after a failure

A refresh stores the page and makes the directory of the publication before it can fail to publish.
A later refresh looks at nothing else. So when a failure has left the directory behind, a refresh
that brings the same page succeeds and publishes nothing, whatever was repaired in between
(`masked_failure`); and that is the only way for a failure to be passed over
(`Setup.published_after_failure`).
-/

namespace Phrasebook.Refresh

open Publication (IsOutput languagesPath vocabularyName)

namespace Setup

/-- The table of languages and the vocabularies, of whatever languages. -/
def IsData (s : Setup) (here : Place) (q : Place) : Prop :=
  ∃ data, s.settings.dataDirectory.part = .ok data
    ∧ (q = ((s.root.join data).join languagesPath).place here
      ∨ ∃ code, q = ((s.root.join data).join (vocabularyName code)).place here)

/-- A refresh comes to publish the page `x` that it fetched, and fails then. -/
def FailsOn (s : Setup) (r : Round) (w w' : World) (x : Text) : Prop :=
  ∃ plan w₁ e, (s.prepare r).runOn w = (.ok plan, w₁) ∧ plan.due = true ∧ plan.fresh = x
    ∧ (s.refresh r).runOn w = (.error e, w')

/-- What may happen until a refresh succeeds: data are repaired, a refresh fails without having come
to publish, or one fails that has. The page that was last to be published is kept beside the
world. -/
inductive Unsettled (s : Setup) : World × Text → World × Text → Prop
  | repair {w w' : World} {x : Text}
    (h : FileTree.Keeps (s.IsData w.tree.here) w.tree w'.tree) :
    Unsettled s (w, x) (w', x)
  | idle {r : Round} {w w' : World} {x : Text} {e : Failure}
    (hidle : ∀ plan w₁, (s.prepare r).runOn w = (.ok plan, w₁) → plan.due = false)
    (h : (s.refresh r).runOn w = (.error e, w')) : Unsettled s (w, x) (w', x)
  | attempt {r : Round} {w w' : World} {x y : Text} (h : s.FailsOn r w w' y) :
    Unsettled s (w, x) (w', y)

section Failing

variable {s : Setup} {r : Round} {w w' : World} {x : Text}

/-- A refresh that fails without having come to publish leaves the files as they are. -/
theorem tree_of_idle {e : Failure}
    (hidle : ∀ plan w₁, (s.prepare r).runOn w = (.ok plan, w₁) → plan.due = false)
    (h : (s.refresh r).runOn w = (.error e, w')) : w'.tree = w.tree := by
  have hsame : ∀ {plan w₁}, (s.prepare r).runOn w = (.ok plan, w₁) → w₁.tree = w.tree := by
    intro plan w₁ hprepare
    have hprepared := prepare_ok hprepare
    exact hprepared.same (hprepared.due.1 (hidle plan w₁ hprepare)).1
  rcases refresh_outcome h with hprepare | ⟨hprepare, hpublish⟩ |
    ⟨hprepare, hpublish, hannounce⟩ | _
  · exact atomic_prepare s r _ _ _ hprepare
  · rw [hidle _ _ hprepare] at hpublish
    cases hpublish
  · rw [hidle _ _ hprepare] at hpublish
    rw [atomic_announce r _ _ _ _ hannounce, (republish_ok hpublish).2 rfl, hsame hprepare]

/-- A refresh that fails when it has come to publish has stored the page, and writes to nothing but
the publication after that. -/
theorem FailsOn.keeps (h : s.FailsOn r w w' x) : ∃ t : FileTree,
    (t.text? s.page).map Digest.Sha256.ofText = some (Digest.Sha256.ofText x)
      ∧ FileTree.Keeps (s.IsPage w.tree) w.tree t
      ∧ FileTree.Keeps (s.IsPublished w'.tree) t w'.tree := by
  obtain ⟨plan, w₁, e, hprepare, -, rfl, hrun⟩ := h
  have hprepared := prepare_ok hprepare
  refine ⟨w₁.tree, hprepared.hash,
    hprepared.keeps.mono fun q hq => ⟨hprepared.page, hq⟩, ?_⟩
  rcases refresh_outcome hrun with hprepare' | ⟨hprepare', hpublish⟩ |
    ⟨hprepare', hpublish, hannounce⟩ | _
  · rw [hprepare] at hprepare'
    cases hprepare'
  · obtain ⟨heq, rfl⟩ := Prod.mk.inj (hprepare.symm.trans hprepare')
    obtain rfl := Except.ok.inj heq
    exact republish_keeps hprepared.directory hpublish
  · obtain ⟨heq, rfl⟩ := Prod.mk.inj (hprepare.symm.trans hprepare')
    obtain rfl := Except.ok.inj heq
    rw [atomic_announce r _ _ _ _ hannounce]
    exact republish_keeps hprepared.directory hpublish

end Failing

section Unsettled

variable {s : Setup} {a b : World × Text}

theorem Unsettled.here (h : s.Unsettled a b) : b.1.tree.here = a.1.tree.here := by
  cases h with
  | repair h => exact h.here
  | idle hidle h => rw [tree_of_idle hidle h]
  | attempt h =>
    obtain ⟨_, _, _, -, -, -, hrun⟩ := h
    exact here_of_refresh hrun

theorem here_of_unsettled (h : Relation.ReflTransGen s.Unsettled a b) :
    b.1.tree.here = a.1.tree.here := by
  induction h with
  | refl => rfl
  | tail _ hstep ih => exact hstep.here.trans ih

/-- Where the directory of the publication stands it stays. -/
theorem Unsettled.contains (h : s.Unsettled a b) (hsite : a.1.tree.contains s.site = .ok true) :
    b.1.tree.contains s.site = .ok true := by
  cases h with
  | repair h => exact h.contains hsite
  | idle hidle h => rwa [tree_of_idle hidle h]
  | attempt h =>
    obtain ⟨t, -, hstore, hpublish⟩ := h.keeps
    exact hpublish.contains (hstore.contains hsite)

theorem contains_of_unsettled (h : Relation.ReflTransGen s.Unsettled a b)
    (hsite : a.1.tree.contains s.site = .ok true) : b.1.tree.contains s.site = .ok true := by
  induction h with
  | refl => exact hsite
  | tail _ hstep ih => exact hstep.contains ih

/-- The stored page has the digest of the page that was last to be published. -/
def Keyed (s : Setup) (a : World × Text) : Prop :=
  (a.1.tree.text? s.page).map Digest.Sha256.ofText = some (Digest.Sha256.ofText a.2)

theorem keyed_of_keeps {written : Place → Prop} {t t' : FileTree} {hash : Text}
    (hkeeps : FileTree.Keeps written t t') (hw : ¬ written (t.place s.page))
    (h : (t.text? s.page).map Digest.Sha256.ofText = some hash) :
    (t'.text? s.page).map Digest.Sha256.ofText = some hash := by
  obtain ⟨y, hy, rfl⟩ := Option.map_eq_some_iff.1 h
  rw [hkeeps.text? hw hy, Option.map_some]

/-- The stored page is no file of a publication with any languages. -/
def PageApart (s : Setup) (here : Place) : Prop :=
  ∀ codes, ¬ IsOutput s.site codes here (s.page.place here)

theorem FailsOn.keyed {r : Round} {w w' : World} {x : Text} (h : s.FailsOn r w w' x)
    (hpage : s.PageApart w'.tree.here) : s.Keyed (w', x) := by
  obtain ⟨t, hhash, -, hpublish⟩ := h.keeps
  refine keyed_of_keeps hpublish ?_ hhash
  rintro ⟨_, _, hout⟩
  rw [← hpublish.place] at hout
  exact hpage _ hout

theorem Unsettled.keyed (h : s.Unsettled a b) (hpage : s.PageApart a.1.tree.here)
    (hdata : ¬ s.IsData a.1.tree.here (a.1.tree.place s.page)) (ha : s.Keyed a) : s.Keyed b := by
  have hhere := h.here
  cases h with
  | repair h => exact keyed_of_keeps h hdata ha
  | idle hidle h =>
    unfold Keyed
    rw [tree_of_idle hidle h]
    exact ha
  | attempt h =>
    rw [← hhere] at hpage
    exact h.keyed hpage

theorem keyed_of_unsettled (hpage : s.PageApart a.1.tree.here)
    (hdata : ¬ s.IsData a.1.tree.here (a.1.tree.place s.page))
    (h : Relation.ReflTransGen s.Unsettled a b) (ha : s.Keyed a) : s.Keyed b := by
  induction h with
  | refl => exact ha
  | tail hpre hstep ih =>
    unfold FileTree.place at hdata
    rw [← here_of_unsettled hpre] at hpage hdata
    exact hstep.keyed hpage hdata ih

end Unsettled

/-- The first refresh that succeeds after one that failed to publish publishes the page, unless it
is not forced, the directory of the publication stands, and the page it fetches has the digest of
the stored one. The directory stands if it stood behind the failure; and the stored page is, up to
its digest, the one that was last to be published. -/
theorem published_after_failure (s : Setup) {r₀ r : Round} {w w₁ w₂ w₃ : World} {x₁ x₂ : Text}
    {ρ : Report} (hfail : s.FailsOn r₀ w w₁ x₁)
    (hrun : Relation.ReflTransGen s.Unsettled (w₁, x₁) (w₂, x₂))
    (hok : (s.refresh r).runOn w₂ = (.ok ρ, w₃)) :
    (ρ.published = false ↔ r.request.force = false ∧ w₂.tree.contains s.site = .ok true
        ∧ (w₂.tree.text? s.page).map Digest.Sha256.ofText = r.page?.map Digest.Sha256.ofText)
      ∧ (w₁.tree.contains s.site = .ok true → w₂.tree.contains s.site = .ok true)
      ∧ (s.PageApart w₁.tree.here → ¬ s.IsData w₁.tree.here (w₁.tree.place s.page) →
        (w₂.tree.text? s.page).map Digest.Sha256.ofText = some (Digest.Sha256.ofText x₂)) := by
  refine ⟨?_, contains_of_unsettled hrun, fun hpage hdata => ?_⟩
  · obtain ⟨fresh, hfresh, hchanged⟩ := changed_of_ok hok
    rw [published_of_ok hok, hchanged, hfresh]
    exact and_rotate
  · have hkeyed : s.Keyed (w₂, x₂) := keyed_of_unsettled hpage hdata hrun (hfail.keyed hpage)
    exact hkeyed

end Setup

/-! ## A vocabulary that comes late -/

/-- Files whose table lists a language without a vocabulary. -/
def noVocabulary : FileTree :=
  .ofEntries ["work".toList] [("data", .directory), ("data/supplementals", .directory),
    ("data/supplementals/languages.csv",
      .file (Text.Utf8.encode "code\nen\nzh\n".toList)),
    ("data/dict.en.json", .file (Text.Utf8.encode "\x7b\x7d".toList))]

/-- A round that fetches a page and adds no line. -/
def fetches (page : Text) : Round :=
  ⟨.answered 200 "OK".toList (Text.Utf8.encode page), {}⟩

/-- The world behind a refresh. -/
def behind (r : Round) (w : World) : World :=
  ((belowRoot.refresh r).runOn w).2

/-- The world with a vocabulary added. -/
def mend (w : World) : World :=
  match w.tree.write (.ofString "data/dict.zh.json") (Text.Utf8.encode "\x7b\x7d".toList) with
  | .ok tree => { w with tree }
  | .error _ => w

theorem keeps_mend (w : World) :
    FileTree.Keeps (belowRoot.IsData w.tree.here) w.tree (mend w).tree := by
  unfold mend
  split
  · rename_i tree hwrite
    refine (FileTree.keeps_write hwrite).mono ?_
    rintro p rfl
    exact ⟨"data".toList, rfl, .inr ⟨"zh".toList, rfl⟩⟩
  · exact .refl _ _

theorem failsOn_of_isNone {r : Round} {w : World} {x : Text}
    (hprepare : ((belowRoot.prepare r).runOn w).1.toOption.map (fun plan => (plan.due, plan.fresh))
      = some (true, x))
    (hrefresh : ((belowRoot.refresh r).runOn w).1.toOption.isNone = true) :
    belowRoot.FailsOn r w (behind r w) x := by
  rcases hplan : (belowRoot.prepare r).runOn w with ⟨e | plan, w₁⟩
  · rw [hplan] at hprepare
    cases hprepare
  rw [hplan] at hprepare
  obtain ⟨hdue, hfresh⟩ := Prod.mk.inj (Option.some.inj hprepare)
  unfold behind
  rcases hrun : (belowRoot.refresh r).runOn w with ⟨e | ρ, w'⟩
  · exact ⟨plan, w₁, e, hplan, hdue, hfresh, hrun⟩
  · rw [hrun] at hrefresh
    cases hrefresh

theorem failsOn_noVocabulary : belowRoot.FailsOn (fetches "a".toList) { tree := noVocabulary }
    (behind (fetches "a".toList) { tree := noVocabulary }) "a".toList :=
  failsOn_of_isNone (by decide +kernel) (by decide +kernel)

theorem published_mend : ((belowRoot.refresh (fetches "a".toList)).runOn
    (mend (behind (fetches "a".toList) { tree := noVocabulary }))).1.toOption.map Report.published
      = some false := by
  decide +kernel

theorem exists_of_published {r : Round} {w : World} {published : Bool}
    (h : ((belowRoot.refresh r).runOn w).1.toOption.map Report.published = some published) :
    ∃ ρ w', (belowRoot.refresh r).runOn w = (.ok ρ, w') ∧ ρ.published = published := by
  rcases hrun : (belowRoot.refresh r).runOn w with ⟨e | ρ, w'⟩
  · rw [hrun] at h
    cases h
  · rw [hrun] at h
    exact ⟨ρ, w', rfl, Option.some.inj h⟩

/-- The vocabulary is missing, the failure is mended, and the next refresh publishes nothing. -/
theorem masked_failure :
    belowRoot.FailsOn (fetches "a".toList) { tree := noVocabulary }
        (behind (fetches "a".toList) { tree := noVocabulary }) "a".toList
      ∧ FileTree.Keeps
        (belowRoot.IsData (behind (fetches "a".toList) { tree := noVocabulary }).tree.here)
        (behind (fetches "a".toList) { tree := noVocabulary }).tree
        (mend (behind (fetches "a".toList) { tree := noVocabulary })).tree
      ∧ ∃ ρ w', (belowRoot.refresh (fetches "a".toList)).runOn
          (mend (behind (fetches "a".toList) { tree := noVocabulary })) = (.ok ρ, w')
        ∧ ρ.published = false :=
  ⟨failsOn_noVocabulary, keeps_mend _, exists_of_published published_mend⟩

theorem published_after_failure_mend :
    belowRoot.FailsOn (fetches "a".toList) { tree := noVocabulary }
        (behind (fetches "a".toList) { tree := noVocabulary }) "a".toList
      ∧ Relation.ReflTransGen belowRoot.Unsettled
        (behind (fetches "a".toList) { tree := noVocabulary }, "a".toList)
        (mend (behind (fetches "a".toList) { tree := noVocabulary }), "a".toList)
      ∧ (∃ ρ w', (belowRoot.refresh (fetches "a".toList)).runOn
          (mend (behind (fetches "a".toList) { tree := noVocabulary })) = (.ok ρ, w'))
      ∧ (mend (behind (fetches "a".toList) { tree := noVocabulary })).tree.contains
        belowRoot.site = .ok true := by
  have hrun : Relation.ReflTransGen belowRoot.Unsettled
      (behind (fetches "a".toList) { tree := noVocabulary }, "a".toList)
      (mend (behind (fetches "a".toList) { tree := noVocabulary }), "a".toList) :=
    .single (.repair (keeps_mend _))
  obtain ⟨ρ, w', hok, hpublished⟩ := exists_of_published published_mend
  have h := belowRoot.published_after_failure failsOn_noVocabulary hrun hok
  exact ⟨failsOn_noVocabulary, hrun, ⟨ρ, w', hok⟩, (h.1.1 hpublished).2.1⟩

end Phrasebook.Refresh
