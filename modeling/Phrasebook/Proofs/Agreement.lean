import Phrasebook.Proofs.Succeeding

/-!
# Pages stand by themselves

A page made among others, with what was read once for all of them and while files are being
written, is the page that is made by itself of the files as they were before
(`publish_eq_localizeSource`). So it depends on the source page and on two vocabularies, and neither
on the other languages nor on their order.
-/

namespace Phrasebook.Publication

open IndexPage (pageName)

/-- The languages of the table below a root. -/
def languagesIn (root : Path) (settings : Settings) : Action (List Language) := do
  let data ← Action.joined root settings.dataDirectory
  languagesAt (data.join languagesPath)

/-- The files have the same source page and the same vocabularies. -/
structure SameInputs (root : Path) (settings : Settings) (t t' : FileTree) : Prop where
  page : ∀ page, settings.sourcePage.part = .ok page →
    t'.read (root.join page) = t.read (root.join page)
  vocabulary : ∀ data, settings.dataDirectory.part = .ok data → ∀ code,
    t'.read ((root.join data).join (vocabularyName code))
      = t.read ((root.join data).join (vocabularyName code))

theorem vocabularyAt_of_read {p : Path} {t t' : FileTree} {vocabulary : Vocabulary}
    (hread : ∀ bytes, t.read p = .ok bytes → t'.read p = .ok bytes)
    (h : (vocabularyAt p).Yields t vocabulary) : (vocabularyAt p).Yields t' vocabulary := by
  obtain ⟨bytes, hbytes, hof⟩ := yields_vocabularyAt.1 h
  exact yields_vocabularyAt.2 ⟨bytes, hread bytes hbytes, hof⟩

/-- A page made by itself depends on the source page and two vocabularies alone. -/
theorem localizeSource_of_reads {root : Path} {settings : Settings} {t t' : FileTree} {code : Text}
    {result : WideText × Nat}
    (hpage : ∀ part, settings.sourcePage.part = .ok part →
      ∀ bytes, t.read (root.join part) = .ok bytes → t'.read (root.join part) = .ok bytes)
    (hvocabulary : ∀ data, settings.dataDirectory.part = .ok data →
      ∀ c, c = settings.sourceLanguage.display ∨ c = code →
        ∀ bytes, t.read ((root.join data).join (vocabularyName c)) = .ok bytes →
          t'.read ((root.join data).join (vocabularyName c)) = .ok bytes)
    (h : (localizeSource root code settings).Yields t result) :
    (localizeSource root code settings).Yields t' result := by
  obtain ⟨page, hjoined, data, hdata, text, htext, hlocalize⟩ := yields_localizeSource.1 h
  obtain ⟨part, hpart, rfl⟩ := Action.yields_joined.1 hjoined
  obtain ⟨dataPart, hdataPart, rfl⟩ := Action.yields_joined.1 hdata
  obtain ⟨bytes, hbytes, hdecode⟩ := Action.yields_textAt.1 htext
  refine yields_localizeSource.2 ⟨_, Action.yields_joined.2 ⟨part, hpart, rfl⟩, _,
    Action.yields_joined.2 ⟨dataPart, hdataPart, rfl⟩, text,
    Action.yields_textAt.2 ⟨bytes, hpage part hpart bytes hbytes, hdecode⟩, ?_⟩
  unfold localizeText at hlocalize ⊢
  split_ifs at hlocalize ⊢ with hsource
  · exact Action.yields_pure.2 (Action.yields_pure.1 hlocalize)
  · obtain ⟨w', h₀, -⟩ := hlocalize { tree := t } rfl
    obtain ⟨source, w₁, hsource, ht₁, h₁⟩ := (reading_vocabularyAt _).bind_ok rfl h₀
    obtain ⟨target, w₂, htarget, ht₂, h₂⟩ := (reading_vocabularyAt _).bind_ok ht₁ h₁
    obtain ⟨elements, w₃, helements, ht₃, h₃⟩ := (Action.reading_ofExcept _ _).bind_ok ht₂ h₂
    have hlast := (reading_localize _ _ _ _).yields ht₃ (congrArg Prod.fst h₃)
    have hsource' := vocabularyAt_of_read (hvocabulary dataPart hdataPart _ (.inl rfl)) hsource
    have htarget' := vocabularyAt_of_read (hvocabulary dataPart hdataPart _ (.inr rfl)) htarget
    exact hsource'.bind (htarget'.bind
      ((Action.yields_ofExcept.2 (Action.yields_ofExcept.1 helements)).bind
        (yields_localize.2 (yields_localize.1 hlast))))

theorem SameInputs.localizeSource {root : Path} {settings : Settings} {t t' : FileTree}
    (h : SameInputs root settings t t') {code : Text} {result : WideText × Nat}
    (hpage : (localizeSource root code settings).Yields t result) :
    (localizeSource root code settings).Yields t' result :=
  localizeSource_of_reads (fun part hpart _ hbytes => (h.page part hpart).trans hbytes)
    (fun data hdata c _ _ hbytes => (h.vocabulary data hdata c).trans hbytes) hpage

/-- What a publication that succeeds reports and leaves behind, page by page. -/
theorem publish_stands {root : Path} {directory : Option Setting} {settings : Settings}
    {w w' : World} {p : Publication}
    (h : (publish root directory settings).runOn w = (.ok p, w')) :
    ∃ languages, (languagesIn root settings).Yields w.tree languages
      ∧ (Action.joined root (directory.getD settings.outputDirectory)).Yields w.tree p.directory
      ∧ p.pages.map WrittenPage.code = languages.map Language.code
      ∧ ((∀ l ∈ languages, '/' ∉ l.code) → ∀ q ∈ p.pages,
        q.path = p.directory.join (pageName q.code)
        ∧ ∃ text : Text,
          (localizeSource root q.code settings).Yields w.tree (text.wide, q.replacements)
          ∧ w'.tree.read q.path = .ok (Text.Utf8.encode text)) := by
  obtain ⟨languages, s, elements, w₁, hread, helements, hdirectory, hkeeps, -, hrun⟩ :=
    publish_ok h
  rw [hdirectory]
  refine ⟨languages, hread.data.bind hread.languages, hread.directory,
    codes_mapM_writePage languages hrun, fun hslash q hq => ?_⟩
  have hcodes : ∀ code ∈ languages.map Language.code, '/' ∉ code := by
    intro code hcode
    obtain ⟨l, hl, rfl⟩ := List.mem_map.1 hcode
    exact hslash l hl
  obtain ⟨hpages, -⟩ := stands_mapM_writePage hread hcodes languages
    (fun l hl => List.mem_map_of_mem hl) (hkeeps.mono fun _ => IsOutput.mono (by simp)) hrun
  obtain ⟨hpath, text, hyields, htext⟩ := hpages q hq
  refine ⟨hpath, text, hread.localizeSource helements hyields, ?_⟩
  rw [hpath]
  exact htext

/-- Each page of a publication is the page made by itself, and two publications with the same source
page and vocabularies have the same page for a language. -/
theorem publish_eq_localizeSource {root : Path} {directory : Option Setting} {settings : Settings}
    {w w' : World} {p : Publication}
    (h : (publish root directory settings).runOn w = (.ok p, w')) :
    ∃ languages, ((languagesIn root settings).runOn w).1 = .ok languages
      ∧ ((Action.joined root (directory.getD settings.outputDirectory)).runOn w).1
        = .ok p.directory
      ∧ p.pages.map WrittenPage.code = languages.map Language.code
      ∧ ((∀ l ∈ languages, '/' ∉ l.code) → ∀ q ∈ p.pages,
        q.path = p.directory.join (pageName q.code)
        ∧ (∃ text : Text,
          ((localizeSource root q.code settings).runOn w).1 = .ok (text.wide, q.replacements)
          ∧ w'.tree.read q.path = .ok (Text.Utf8.encode text))
        ∧ ∀ directory₂ w₂ w₂' p₂, (publish root directory₂ settings).runOn w₂ = (.ok p₂, w₂') →
          (∀ r ∈ p₂.pages, '/' ∉ r.code) → SameInputs root settings w.tree w₂.tree →
            ∀ q₂ ∈ p₂.pages, q₂.code = q.code →
              q₂.replacements = q.replacements ∧ w₂'.tree.read q₂.path = w'.tree.read q.path) := by
  obtain ⟨languages, hlanguages, hdirectory, hcodes, hpages⟩ := publish_stands h
  refine ⟨languages, hlanguages.result rfl, hdirectory.result rfl, hcodes, fun hslash q hq => ?_⟩
  obtain ⟨hpath, text, hyields, htext⟩ := hpages hslash q hq
  refine ⟨hpath, ⟨text, hyields.result rfl, htext⟩, ?_⟩
  intro directory₂ w₂ w₂' p₂ h₂ hslash₂ hsame q₂ hq₂ hcode
  obtain ⟨languages₂, -, -, hcodes₂, hpages₂⟩ := publish_stands h₂
  have hslash₂' : ∀ l ∈ languages₂, '/' ∉ l.code := by
    intro l hl
    obtain ⟨r, hr, heq⟩ := List.mem_map.1 (hcodes₂ ▸ List.mem_map_of_mem hl)
    exact heq ▸ hslash₂ r hr
  obtain ⟨-, text₂, hyields₂, htext₂⟩ := hpages₂ hslash₂' q₂ hq₂
  rw [hcode] at hyields₂
  obtain ⟨hwide, hn⟩ := Prod.mk.inj (hyields₂.unique (hsame.localizeSource hyields))
  obtain rfl := WideText.wide_inj hwide
  exact ⟨hn, htext₂.trans htext.symm⟩

namespace Bilingual

variable {page zh : Text} {n : ℕ} {t : FileTree}

theorem yields_languagesIn (h : Bilingual page t) (output : Setting) :
    (languagesIn .here (settingsOf output)).Yields t railLanguages :=
  have hread := h.readFrom output (.text "site".toList) rfl
  hread.data.bind hread.languages

theorem yields_localizeSource_zh (h : Bilingual page t) (output : Setting)
    (hzh : Page.localizeFrom railDue .standard (fun _ => 0)
      (Page.setLanguage "en".toList "zh".toList page).wide = (zh.wide, n)) :
    (localizeSource .here "zh".toList (settingsOf output)).Yields t (zh.wide, n) :=
  (h.readFrom output (.text "site".toList) rfl).localizeSource rfl (h.localizeFrom_zh _ _ hzh)

end Bilingual

def railPage : Text :=
  "<html lang=\"en\"><td>Rail</td>".toList

def railPageZh : Text :=
  "<html lang=\"zh\"><td>轨</td>".toList

def railTree : FileTree :=
  bilingualWith [("droptables-en.html", .file (Text.Utf8.encode railPage))]

/-- A publication in the root itself, where a page is written over the source page. -/
def inPlace : Settings :=
  settingsOf (.text ".".toList)

theorem bilingual_railTree : Bilingual railPage railTree :=
  ⟨rfl, rfl, rfl, rfl⟩

theorem railPage_zh : Page.localizeFrom railDue .standard (fun _ => 0)
    (Page.setLanguage "en".toList "zh".toList railPage).wide = (railPageZh.wide, 1) := by
  decide +kernel

theorem runOn_publish_railTree (directory : Option Setting) {part : Text} {t' : FileTree}
    (hpart : (directory.getD inPlace.outputDirectory).part = .ok part)
    (hwrites : writeSite (Path.here.join part)
      (railFiles (Path.here.join part) railPage railPageZh) railTree = .ok t') :
    ∃ p w', (publish .here directory inPlace).runOn { tree := railTree } = (.ok p, w') := by
  have hen : Page.setLanguage "en".toList "en".toList railPage = railPage := by decide +kernel
  obtain ⟨p, hp⟩ := bilingual_railTree.publish_does_bilingual _ directory hpart railPage_zh
    hen hwrites
  obtain ⟨w', hrun, -⟩ := hp { tree := railTree } rfl
  exact ⟨p, w', hrun⟩

theorem publish_twice_inPlace : ∃ p w' p₂ w₂',
    (publish .here none inPlace).runOn { tree := railTree } = (.ok p, w')
      ∧ (publish .here (some (.text "site".toList)) inPlace).runOn { tree := railTree }
        = (.ok p₂, w₂')
      ∧ p.pages.map WrittenPage.code = ["zh".toList, "en".toList, "zh".toList]
      ∧ ∀ q ∈ p.pages,
        (q.code = "zh".toList → q.replacements = 1
          ∧ w'.tree.read q.path = .ok (Text.Utf8.encode railPageZh))
        ∧ (q.code = "en".toList → q.replacements = 0
          ∧ w'.tree.read q.path = .ok (Text.Utf8.encode railPage))
        ∧ ∀ q₂ ∈ p₂.pages, q₂.code = q.code →
          q₂.replacements = q.replacements ∧ w₂'.tree.read q₂.path = w'.tree.read q.path := by
  obtain ⟨p, w', hrun⟩ := runOn_publish_railTree none rfl rfl
  obtain ⟨p₂, w₂', hrun₂⟩ := runOn_publish_railTree (some (.text "site".toList)) rfl rfl
  have hlanguages : ((languagesIn .here inPlace).runOn { tree := railTree }).1
      = .ok railLanguages := (bilingual_railTree.yields_languagesIn _).result rfl
  have hzh := bilingual_railTree.yields_localizeSource_zh inPlace.outputDirectory railPage_zh
  have hread := bilingual_railTree.readFrom inPlace.outputDirectory inPlace.outputDirectory rfl
  have hfrom : (localizeFrom inPlace .standard (sourceOf .here railPage) "en".toList).Yields
      railTree (railPage.wide, 0) := Action.yields_pure.2 (by decide +kernel)
  have hen := hread.localizeSource rfl hfrom
  obtain ⟨languages₁, hlanguages₁, -, hcodes, hpages⟩ := publish_eq_localizeSource hrun
  obtain ⟨languages₂, hlanguages₂, -, hcodes₂, -⟩ := publish_eq_localizeSource hrun₂
  obtain rfl := Except.ok.inj (hlanguages.symm.trans hlanguages₁)
  obtain rfl := Except.ok.inj (hlanguages.symm.trans hlanguages₂)
  have hslash : ∀ l ∈ railLanguages, '/' ∉ l.code := by decide
  have hslash₂ : ∀ r ∈ p₂.pages, '/' ∉ r.code := by
    intro r hr
    obtain ⟨l, hl, hcode⟩ := List.mem_map.1 (hcodes₂ ▸ List.mem_map_of_mem hr)
    exact hcode ▸ hslash l hl
  refine ⟨p, w', p₂, w₂', hrun, hrun₂, hcodes, fun q hq => ?_⟩
  obtain ⟨-, ⟨text, htext, hfile⟩, hother⟩ := hpages hslash q hq
  have hpage : ∀ {page : Text} {n : ℕ},
      (localizeSource .here q.code inPlace).Yields railTree (page.wide, n) →
        q.replacements = n ∧ w'.tree.read q.path = .ok (Text.Utf8.encode page) := by
    intro page n hyields
    obtain ⟨hwide, hn⟩ := Prod.mk.inj (Except.ok.inj (htext.symm.trans (hyields.result rfl)))
    exact ⟨hn, WideText.wide_inj hwide ▸ hfile⟩
  exact ⟨fun hcode => hpage (hcode ▸ hzh), fun hcode => hpage (hcode ▸ hen),
    hother _ _ _ _ hrun₂ hslash₂ ⟨fun _ _ => rfl, fun _ _ _ => rfl⟩⟩

end Phrasebook.Publication
