import Phrasebook.Proofs.Actions
import Phrasebook.Publication

/-!
# What a publication writes

A publication writes an index page, an empty file and a page for each language (`IsOutput`), none of
which is a vocabulary or the table of languages, wherever its directory lies. So what it reads while
it writes is what was there before (`ReadFrom.localizeFrom_before`), and behind it the page of each
language stands, made for the files as they were (`stands_mapM_writePage`). What it does step by
step when it succeeds is `publish_ok`.
-/

namespace Phrasebook

namespace Publication

open IndexPage (pageName)

theorem pageName_eq (code : Text) : pageName code =
    ['d', 'r', 'o', 'p', 't', 'a', 'b', 'l', 'e', 's', '-'] ++ code ++ ['.', 'h', 't', 'm', 'l'] :=
  rfl

theorem vocabularyName_eq (code : Text) : vocabularyName code =
    ['d', 'i', 'c', 't', '.'] ++ code ++ ['.', 'j', 's', 'o', 'n'] := rfl

theorem pageName_inj {code other : Text} (h : pageName code = pageName other) : code = other := by
  simpa only [pageName_eq, List.append_left_inj, List.append_right_inj] using h

theorem isName_pageName {code : Text} (h : '/' ∉ code) : Path.IsName (pageName code) := by
  constructor <;> simp [pageName_eq, Place.back, h]

theorem isName_index : Path.IsName "index.html".toList :=
  ⟨by decide, by decide, by decide, by decide⟩

theorem isName_noJekyll : Path.IsName ".nojekyll".toList :=
  ⟨by decide, by decide, by decide, by decide⟩

theorem isName_vocabularyName {code : Text} (h : '/' ∉ code) :
    Path.IsName (vocabularyName code) := by
  constructor <;> simp [vocabularyName_eq, Place.back, h]

theorem pageName_ne_index (code : Text) : pageName code ≠ "index.html".toList := by
  simp [pageName_eq]

theorem pageName_ne_noJekyll (code : Text) : pageName code ≠ ".nojekyll".toList := by
  simp [pageName_eq]

/-- Files of a publication: its index page, an empty file, and the pages of languages. -/
inductive IsOutput (directory : Path) (codes : List Text) (here : Place) : Place → Prop
  | index : IsOutput directory codes here ((directory.join "index.html".toList).place here)
  | noJekyll : IsOutput directory codes here ((directory.join ".nojekyll".toList).place here)
  | page (code : Text) (h : code ∈ codes) :
    IsOutput directory codes here ((directory.join (pageName code)).place here)

section Names

variable {directory : Path} {codes others : List Text} {here : Place} {q : Place}

theorem IsOutput.mono (h : ∀ code ∈ codes, code ∈ others) :
    IsOutput directory codes here q → IsOutput directory others here q
  | .index => .index
  | .noJekyll => .noJekyll
  | .page code hcode => .page code (h code hcode)

theorem IsOutput.getLast?_name : IsOutput directory codes here q → q.name.getLast? = some 'l'
  | .index => directory.getLast?_name_join here "index.htm".toList (by decide) (by decide)
  | .noJekyll => directory.getLast?_name_join here ".nojekyl".toList (by decide) (by decide)
  | .page code _ => by
    have hname : pageName code = "droptables-".toList ++ code ++ ".htm".toList ++ ['l'] := by
      simp [pageName_eq]
    rw [hname]
    exact directory.getLast?_name_join here _ (by decide) (by decide)

/-- What a publication writes lies in its directory, if no code leads elsewhere. -/
theorem IsOutput.exists_name (hslash : ∀ code ∈ codes, '/' ∉ code) :
    IsOutput directory codes here q → ∃ name, q = directory.place here ++ [name]
  | .index => ⟨_, isName_index.place_join _⟩
  | .noJekyll => ⟨_, isName_noJekyll.place_join _⟩
  | .page code hcode => ⟨_, (isName_pageName (hslash code hcode)).place_join _⟩

theorem getLast?_name_languages (here : Place) (data : Path) :
    ((data.join languagesPath).place here).name.getLast? = some 'v' :=
  data.getLast?_name_join here "supplementals/languages.cs".toList (by decide) (by decide)

theorem getLast?_name_vocabulary (here : Place) (data : Path) (code : Text) :
    ((data.join (vocabularyName code)).place here).name.getLast? = some 'n' := by
  have hname : vocabularyName code = "dict.".toList ++ code ++ ".jso".toList ++ ['n'] := by
    simp [vocabularyName_eq]
  rw [hname]
  exact data.getLast?_name_join here _ (by decide) (by decide)

/-- No vocabulary is written over, wherever the publication lies. -/
theorem not_isOutput_vocabulary (directory data : Path) (codes : List Text) (here there : Place)
    (code : Text) :
    ¬ IsOutput directory codes here ((data.join (vocabularyName code)).place there) := by
  intro h
  have hlast := h.getLast?_name
  rw [getLast?_name_vocabulary] at hlast
  cases hlast

/-- Nor is the table of languages. -/
theorem not_isOutput_languages (directory data : Path) (codes : List Text) (here there : Place) :
    ¬ IsOutput directory codes here ((data.join languagesPath).place there) := by
  intro h
  have hlast := h.getLast?_name
  rw [getLast?_name_languages] at hlast
  cases hlast

end Names

/-! ## Reading -/

theorem reading_vocabularyAt (p : Path) : Action.Reading (vocabularyAt p) :=
  (Action.reading_report _).bind fun _ =>
    (Action.reading_bytesAt p).bind fun _ => Action.reading_ofExcept _ _

theorem yields_vocabularyAt {p : Path} {t : FileTree} {vocabulary : Vocabulary} :
    (vocabularyAt p).Yields t vocabulary
      ↔ ∃ bytes, t.read p = .ok bytes ∧ Vocabulary.ofBytes bytes = .ok vocabulary := by
  have hbytes : Action.Reading (do
      let bytes ← Action.bytesAt p
      Action.ofExcept (Failure.ofVocabulary p) (Vocabulary.ofBytes bytes)) :=
    (Action.reading_bytesAt p).bind fun _ => Action.reading_ofExcept _ _
  rw [vocabularyAt, Action.yields_bind (Action.reading_report _) fun _ => hbytes]
  simp only [Action.yields_bind (Action.reading_bytesAt p) fun _ => Action.reading_ofExcept _ _,
    Action.yields_bytesAt, Action.yields_ofExcept]
  exact ⟨fun ⟨_, _, h⟩ => h, fun h => ⟨(), Action.yields_report _ t (), h⟩⟩

theorem reading_languagesAt (p : Path) : Action.Reading (languagesAt p) :=
  (Action.reading_bytesAt p).bind fun _ => Action.reading_ofExcept _ _

theorem yields_languagesAt {p : Path} {t : FileTree} {languages : List Language} :
    (languagesAt p).Yields t languages
      ↔ ∃ bytes, t.read p = .ok bytes ∧ Language.ofBytes bytes = .ok languages := by
  rw [languagesAt, Action.yields_bind (Action.reading_bytesAt p) fun _ =>
    Action.reading_ofExcept _ _]
  simp only [Action.yields_bytesAt, Action.yields_ofExcept]

/-- A page is localized, and what there is to note is reported. -/
theorem runOn_localize (elements : Html.Elements) (scanner : Scanner) (glossary : Glossary)
    (page : WideText) (w : World) : (localize elements scanner glossary page).runOn w =
      let l := Page.localize scanner glossary elements page
      (.ok (l.page, l.replacements),
        { w with events := w.events ++ l.notices.map Event.notice }) := by
  unfold localize
  rw [Action.runOn_bind, Action.runOn_forIn_report]
  rfl

theorem reading_localize (elements : Html.Elements) (scanner : Scanner) (glossary : Glossary)
    (page : WideText) : Action.Reading (localize elements scanner glossary page) :=
  ⟨fun w w' _ => by rw [runOn_localize, runOn_localize], fun w => by rw [runOn_localize]⟩

theorem yields_localize {elements : Html.Elements} {scanner : Scanner} {glossary : Glossary}
    {page : WideText} {t : FileTree} {result : WideText × Nat} :
    (localize elements scanner glossary page).Yields t result ↔
      let l := Page.localize scanner glossary elements page
      (l.page, l.replacements) = result := by
  have h : (localize elements scanner glossary page).Yields t
      (let l := Page.localize scanner glossary elements page
      (l.page, l.replacements)) := fun w ht => ⟨_, runOn_localize _ _ _ _ w, ht⟩
  exact ⟨h.unique, fun heq => heq ▸ h⟩

theorem reading_indexPage (settings : Settings) (languages : List Language) :
    Action.Reading (indexPage settings languages) :=
  (Action.reading_ofExcept _ _).bind fun _ => Action.reading_pure _

/-- A text in another language, made from the vocabularies in a directory. -/
def localizeText (settings : Settings) (data : Path) (code text : Text) :
    Action (WideText × Nat) :=
  if settings.sourceLanguage.isText code then pure (setLanguage settings code text, 0)
  else do
    let source ← sourceVocabulary settings data
    let target ← vocabularyAt (data.join (vocabularyName code))
    let elements ← Action.fitting settings.elements
    localize elements (scannerOf source) (.ofVocabularies source target)
      (setLanguage settings code text)

theorem reading_localizeText (settings : Settings) (data : Path) (code text : Text) :
    Action.Reading (localizeText settings data code text) := by
  unfold localizeText
  split_ifs
  · exact Action.reading_pure _
  · exact (reading_vocabularyAt _).bind fun _ => (reading_vocabularyAt _).bind fun _ =>
      (Action.reading_ofExcept _ _).bind fun _ => reading_localize _ _ _ _

theorem localizeOne_eq (page : Path) (code : Text) (root : Path) (settings : Settings) :
    localizeOne page code root settings = (do
      let data ← Action.joined root settings.dataDirectory
      let text ← Action.textAt page
      localizeText settings data code text) := rfl

/-- The source page in another language. -/
def localizeSource (root : Path) (code : Text) (settings : Settings) :
    Action (WideText × Nat) := do
  let page ← Action.joined root settings.sourcePage
  localizeOne page code root settings

theorem yields_localizeSource {root : Path} {code : Text} {settings : Settings} {t : FileTree}
    {result : WideText × Nat} : (localizeSource root code settings).Yields t result ↔
      ∃ page, (Action.joined root settings.sourcePage).Yields t page
        ∧ ∃ data, (Action.joined root settings.dataDirectory).Yields t data
        ∧ ∃ text, (Action.textAt page).Yields t text
          ∧ (localizeText settings data code text).Yields t result := by
  have htext : ∀ page data, Action.Reading (do
      let text ← Action.textAt page
      localizeText settings data code text) := fun _ _ =>
    (Action.reading_textAt _).bind fun _ => reading_localizeText _ _ _ _
  simp only [localizeSource, localizeOne_eq]
  rw [Action.yields_bind (Action.reading_joined _ _) fun page =>
    (Action.reading_joined _ _).bind (htext page)]
  simp only [Action.yields_bind (Action.reading_joined _ _) (htext _),
    Action.yields_bind (Action.reading_textAt _) fun _ => reading_localizeText _ _ _ _]

/-- The page of a language, made from what is read once for all languages. -/
def localizeFrom (settings : Settings) (elements : Html.Elements) (s : Source) (code : Text) :
    Action (WideText × Nat) :=
  if settings.sourceLanguage.isText code then pure (setLanguage settings code s.page, 0)
  else do
    let target ← vocabularyAt (s.data.join (vocabularyName code))
    localize elements s.scanner (.ofVocabularies s.vocabulary target)
      (setLanguage settings code s.page)

theorem yields_localizeFrom {settings : Settings} {elements : Html.Elements} {s : Source}
    {code : Text} {t : FileTree} {result : WideText × Nat}
    (h : ¬ settings.sourceLanguage.isText code = true) :
    (localizeFrom settings elements s code).Yields t result ↔
      ∃ target, (vocabularyAt (s.data.join (vocabularyName code))).Yields t target
        ∧ (localize elements s.scanner (.ofVocabularies s.vocabulary target)
          (setLanguage settings code s.page)).Yields t result := by
  rw [localizeFrom, if_neg h,
    Action.yields_bind (reading_vocabularyAt _) fun _ => reading_localize _ _ _ _]

/-- What has been read of a tree of files before any page is written. -/
structure ReadFrom (root : Path) (directory : Setting) (settings : Settings) (t : FileTree)
    (languages : List Language) (s : Source) : Prop where
  data : (Action.joined root settings.dataDirectory).Yields t s.data
  directory : (Action.joined root directory).Yields t s.directory
  languages : (languagesAt (s.data.join languagesPath)).Yields t languages
  page : ∃ page, (Action.joined root settings.sourcePage).Yields t page
    ∧ (Action.textAt page).Yields t s.page
  vocabulary : (sourceVocabulary settings s.data).Yields t s.vocabulary
  scanner : s.scanner = scannerOf s.vocabulary

theorem readFrom_of_ok {root : Path} {directory : Setting} {settings : Settings} {w w' : World}
    {languages : List Language} {s : Source}
    (h : (readSource root directory settings).runOn w = (.ok (languages, s), w')) :
    ReadFrom root directory settings w.tree languages s ∧ w'.tree = w.tree := by
  unfold readSource at h
  obtain ⟨data, w₁, hdata, ht₁, h⟩ := (Action.reading_joined _ _).bind_ok rfl h
  obtain ⟨dir, w₂, hdir, ht₂, h⟩ := (Action.reading_joined _ _).bind_ok ht₁ h
  obtain ⟨languages, w₃, hlanguages, ht₃, h⟩ := (reading_languagesAt _).bind_ok ht₂ h
  obtain ⟨page, w₄, hpage, ht₄, h⟩ := (Action.reading_joined _ _).bind_ok ht₃ h
  obtain ⟨text, w₅, htext, ht₅, h⟩ := (Action.reading_textAt _).bind_ok ht₄ h
  obtain ⟨vocabulary, w₆, hvocabulary, ht₆, h⟩ := (reading_vocabularyAt _).bind_ok ht₅ h
  obtain ⟨⟨⟩, w₇, -, ht₇, h⟩ := (Action.reading_report _).bind_ok ht₆ h
  obtain ⟨heq, rfl⟩ := Prod.mk.inj h
  obtain ⟨rfl, rfl⟩ := Prod.mk.inj (Except.ok.inj heq)
  exact ⟨⟨hdata, hdir, hlanguages, ⟨page, hpage, htext⟩, hvocabulary, rfl⟩, ht₇⟩

section ReadFrom

variable {root : Path} {directory : Setting} {settings : Settings} {t : FileTree}
  {languages : List Language} {s : Source} {elements : Html.Elements} {code : Text}
  {result : WideText × Nat}

/-- A page made from what was read for all languages is the page made by itself. -/
theorem ReadFrom.localizeSource (h : ReadFrom root directory settings t languages s)
    (helements : settings.elements = .ok elements)
    (hpage : (localizeFrom settings elements s code).Yields t result) :
    (localizeSource root code settings).Yields t result := by
  obtain ⟨page, hjoined, htext⟩ := h.page
  refine yields_localizeSource.2 ⟨page, hjoined, s.data, h.data, s.page, htext, ?_⟩
  unfold localizeText
  by_cases hsource : settings.sourceLanguage.isText code = true
  · rw [localizeFrom, if_pos hsource] at hpage
    rwa [if_pos hsource]
  · obtain ⟨target, htarget, hlocalize⟩ := (yields_localizeFrom hsource).1 hpage
    rw [h.scanner] at hlocalize
    rw [if_neg hsource]
    exact h.vocabulary.bind (htarget.bind ((Action.yields_ofExcept.2 helements).bind hlocalize))

/-- The way to the directory of data was open, for the table of languages was read. -/
theorem ReadFrom.way (h : ReadFrom root directory settings t languages s) (name : Text) :
    t.Way (s.data.start.place t.here) (s.data.names ++ [name]) := by
  obtain ⟨bytes, hbytes, -⟩ := yields_languagesAt.1 h.languages
  obtain ⟨⟨-, hway⟩, -⟩ := FileTree.read_eq_ok.1 hbytes
  rw [s.data.join_of_relative (t := languagesPath) (by decide)] at hway
  have hbelow : (Path.ofText languagesPath).names ≠ [] := by decide
  exact hway.sibling hbelow name

/-- A vocabulary that can be read when some files of the publication have been written could be read
before. -/
theorem ReadFrom.vocabulary_before (h : ReadFrom root directory settings t languages s)
    {codes : List Text} {t' : FileTree} {vocabulary : Vocabulary}
    (hkeeps : FileTree.Keeps (IsOutput s.directory codes t.here) t t') (hcode : '/' ∉ code)
    (hvocabulary : (vocabularyAt (s.data.join (vocabularyName code))).Yields t' vocabulary) :
    (vocabularyAt (s.data.join (vocabularyName code))).Yields t vocabulary := by
  obtain ⟨bytes, hbytes, hof⟩ := yields_vocabularyAt.1 hvocabulary
  refine yields_vocabularyAt.2 ⟨bytes, ?_, hof⟩
  refine hkeeps.read_before (not_isOutput_vocabulary _ _ codes _ _ code) ?_ hbytes
  rw [(isName_vocabularyName hcode).join]
  exact h.way _

/-- What is written before a page is made does not change the page. -/
theorem ReadFrom.localizeFrom_before (h : ReadFrom root directory settings t languages s)
    {codes : List Text} {t' : FileTree}
    (hkeeps : FileTree.Keeps (IsOutput s.directory codes t.here) t t') (hcode : '/' ∉ code)
    (hpage : (localizeFrom settings elements s code).Yields t' result) :
    (localizeFrom settings elements s code).Yields t result := by
  by_cases hsource : settings.sourceLanguage.isText code = true
  · rw [localizeFrom, if_pos hsource] at hpage ⊢
    exact Action.yields_pure.2 (Action.yields_pure.1 hpage)
  · obtain ⟨target, htarget, hlocalize⟩ := (yields_localizeFrom hsource).1 hpage
    exact (yields_localizeFrom hsource).2 ⟨target, h.vocabulary_before hkeeps hcode htarget,
      yields_localize.2 (yields_localize.1 hlocalize)⟩

end ReadFrom

/-! ## Writing -/

/-- A glossary without phrases is reported. -/
def warnOfEmpty (glossary : Glossary) (code : Text) : Action Unit :=
  if glossary.size = 0 then Action.report (.emptyGlossary code) else pure ()

theorem reading_warnOfEmpty (glossary : Glossary) (code : Text) :
    Action.Reading (warnOfEmpty glossary code) := by
  unfold warnOfEmpty
  split_ifs
  · exact Action.reading_report _
  · exact Action.reading_pure _

/-- Writes the page of a language that is not the source language. -/
def writeLocalized (settings : Settings) (elements : Html.Elements) (s : Source) (code : Text)
    (glossary : Glossary) : Action WrittenPage := do
  let localized ← localize elements s.scanner glossary (setLanguage settings code s.page)
  Action.putText (s.directory.join (pageName code)) localized.1
  Action.report (.wrotePage (s.directory.join (pageName code)).name localized.2)
  return ⟨code, s.directory.join (pageName code), glossary.size, localized.2⟩

theorem writePage_eq (settings : Settings) (elements : Html.Elements) (s : Source) (code : Text) :
    writePage settings elements s code = (do
      if settings.sourceLanguage.isText code then
        Action.putText (s.directory.join (pageName code)) (setLanguage settings code s.page)
        return ⟨code, s.directory.join (pageName code), 0, 0⟩
      else
        let target ← vocabularyAt (s.data.join (vocabularyName code))
        warnOfEmpty (.ofVocabularies s.vocabulary target) code
        writeLocalized settings elements s code (.ofVocabularies s.vocabulary target)) := by
  unfold writePage warnOfEmpty
  split_ifs
  · rfl
  · dsimp only
    refine congrArg _ (funext fun target => ?_)
    split_ifs
    · rfl
    · rw [pure_bind]
      rfl

theorem writePage_ok {settings : Settings} {elements : Html.Elements} {s : Source} {code : Text}
    {w w' : World} {q : WrittenPage}
    (h : (writePage settings elements s code).runOn w = (.ok q, w')) :
    q.code = code ∧ q.path = s.directory.join (pageName code) ∧ ∃ text : Text,
      (localizeFrom settings elements s code).Yields w.tree (text.wide, q.replacements)
      ∧ w.tree.write q.path (Text.Utf8.encode text) = .ok w'.tree := by
  rw [writePage_eq] at h
  unfold localizeFrom
  split_ifs at h ⊢ with hsource
  · obtain ⟨⟨⟩, w₁, hput, h⟩ := Action.runOn_bind_ok.1 h
    obtain ⟨heq, rfl⟩ := Prod.mk.inj h
    obtain rfl := Except.ok.inj heq
    exact ⟨rfl, rfl, _, Action.yields_pure.2 rfl, Action.putText_wide_ok hput⟩
  · obtain ⟨target, w₁, htarget, ht₁, h⟩ := (reading_vocabularyAt _).bind_ok rfl h
    obtain ⟨⟨⟩, w₂, -, ht₂, h⟩ := (reading_warnOfEmpty _ _).bind_ok ht₁ h
    obtain ⟨⟨text, n⟩, w₃, hlocalize, ht₃, h⟩ := (reading_localize _ _ _ _).bind_ok ht₂ h
    obtain ⟨⟨⟩, w₄, hput, h⟩ := Action.runOn_bind_ok.1 h
    obtain ⟨⟨⟩, w₅, -, ht₅, h⟩ := (Action.reading_report _).bind_ok rfl h
    obtain ⟨heq, rfl⟩ := Prod.mk.inj h
    obtain rfl := Except.ok.inj heq
    obtain ⟨text, rfl, hwrite⟩ := Action.putText_ok hput
    refine ⟨rfl, rfl, text, htarget.bind hlocalize, ?_⟩
    rw [← ht₃, ht₅]
    exact hwrite

theorem writesOnly_putIndex (directory : Path) (codes : List Text) (index : WideText) :
    Action.WritesOnly (IsOutput directory codes)
      (Action.putText (directory.join "index.html".toList) index) :=
  (Action.writesOnly_putText _ _).mono <| by
    rintro here q rfl
    exact .index

theorem writesOnly_putNoJekyll (directory : Path) (codes : List Text) :
    Action.WritesOnly (IsOutput directory codes)
      (Action.putText (directory.join ".nojekyll".toList) []) :=
  (Action.writesOnly_putText _ _).mono <| by
    rintro here q rfl
    exact .noJekyll

theorem writesOnly_putPage (directory : Path) {codes : List Text} {code : Text}
    (hcode : code ∈ codes) (page : WideText) : Action.WritesOnly (IsOutput directory codes)
      (Action.putText (directory.join (pageName code)) page) :=
  (Action.writesOnly_putText _ _).mono <| by
    rintro here q rfl
    exact .page code hcode

theorem mapM_writePage_cons {settings : Settings} {elements : Html.Elements} {s : Source}
    {l : Language} {ls : List Language} {w w' : World} {pages : List WrittenPage}
    (h : ((l :: ls).mapM fun l => writePage settings elements s l.code).runOn w
      = (.ok pages, w')) : ∃ q qs, ∃ w₁ : World, pages = q :: qs
        ∧ (writePage settings elements s l.code).runOn w = (.ok q, w₁)
        ∧ (ls.mapM fun l => writePage settings elements s l.code).runOn w₁ = (.ok qs, w') := by
  rw [List.mapM_cons] at h
  obtain ⟨q, w₁, hq, h⟩ := Action.runOn_bind_ok.1 h
  obtain ⟨qs, w₂, hqs, h⟩ := Action.runOn_bind_ok.1 h
  obtain ⟨hpages, rfl⟩ := Prod.mk.inj h
  exact ⟨q, qs, w₁, (Except.ok.inj hpages).symm, hq, hqs⟩

/-- The pages are those of the languages, in their order. -/
theorem codes_mapM_writePage {settings : Settings} {elements : Html.Elements} {s : Source} :
    ∀ (ls : List Language) {w w' : World} {pages : List WrittenPage},
    (ls.mapM fun l => writePage settings elements s l.code).runOn w = (.ok pages, w') →
      pages.map WrittenPage.code = ls.map Language.code
  | [], w, w', pages, h => by
    rw [List.mapM_nil] at h
    obtain rfl := Except.ok.inj (Prod.mk.inj h).1
    rfl
  | l :: ls, w, w', pages, h => by
    obtain ⟨q, qs, w₁, rfl, hq, hqs⟩ := mapM_writePage_cons h
    rw [List.map_cons, List.map_cons, codes_mapM_writePage ls hqs, (writePage_ok hq).1]

/-! ## The pages of all languages -/

section Pages

variable {root : Path} {directory : Setting} {settings : Settings} {t : FileTree}
  {languages : List Language} {s : Source} {elements : Html.Elements} {codes : List Text}

/-- Where the page of a language stands there is what was to be written for the files `t`, with so
many replacements. -/
def Stands (settings : Settings) (elements : Html.Elements) (s : Source) (t t' : FileTree)
    (code : Text) (n : Nat) : Prop :=
  ∃ text : Text, (localizeFrom settings elements s code).Yields t (text.wide, n)
    ∧ t'.read (s.directory.join (pageName code)) = .ok (Text.Utf8.encode text)

variable (h : ReadFrom root directory settings t languages s) (hcodes : ∀ code ∈ codes, '/' ∉ code)

include h hcodes

/-- Writing the page of a language leaves it there, and it leaves the pages of others there too. -/
theorem stands_writePage {code : Text} (hcode : code ∈ codes) {w w' : World} {q : WrittenPage}
    (hkeeps : FileTree.Keeps (IsOutput s.directory codes t.here) t w.tree)
    (hrun : (writePage settings elements s code).runOn w = (.ok q, w')) :
    FileTree.Keeps (IsOutput s.directory codes t.here) t w'.tree
      ∧ Stands settings elements s t w'.tree code q.replacements
      ∧ ∀ other n, '/' ∉ other → Stands settings elements s t w.tree other n →
        Stands settings elements s t w'.tree other n := by
  obtain ⟨-, hpath, text, hyields, hwrite⟩ := writePage_ok hrun
  rw [hpath] at hwrite
  have hpage := h.localizeFrom_before hkeeps (hcodes code hcode) hyields
  have hwritten := FileTree.keeps_write hwrite
  refine ⟨hkeeps.trans (hwritten.mono ?_), ⟨text, hpage, FileTree.read_write hwrite⟩, ?_⟩
  · rintro q rfl
    rw [FileTree.place, hkeeps.here]
    exact .page code hcode
  · rintro other n hother ⟨text', hyields', hread⟩
    by_cases heq : other = code
    · subst heq
      obtain ⟨-, rfl⟩ := Prod.mk.inj (hpage.unique hyields')
      exact ⟨text, hpage, FileTree.read_write hwrite⟩
    · refine ⟨text', hyields', hwritten.read ?_ hread⟩
      exact (isName_pageName hother).place_join_ne (isName_pageName (hcodes code hcode))
        (fun hname => heq (pageName_inj hname)) s.directory

theorem stands_mapM_writePage : ∀ (ls : List Language), (∀ l ∈ ls, l.code ∈ codes) →
    ∀ {w w' : World} {pages : List WrittenPage},
    FileTree.Keeps (IsOutput s.directory codes t.here) t w.tree →
    (ls.mapM fun l => writePage settings elements s l.code).runOn w = (.ok pages, w') →
    (∀ q ∈ pages, q.path = s.directory.join (pageName q.code)
        ∧ Stands settings elements s t w'.tree q.code q.replacements)
      ∧ ∀ other n, '/' ∉ other → Stands settings elements s t w.tree other n →
        Stands settings elements s t w'.tree other n
  | [], _, w, w', pages, _, hrun => by
    rw [List.mapM_nil] at hrun
    obtain ⟨hpages, rfl⟩ := Prod.mk.inj hrun
    obtain rfl := Except.ok.inj hpages
    exact ⟨by simp, fun _ _ _ hs => hs⟩
  | l :: ls, hls, w, w', pages, hkeeps, hrun => by
    obtain ⟨q, qs, w₁, rfl, hq, hqs⟩ := mapM_writePage_cons hrun
    have hl := hls l List.mem_cons_self
    obtain ⟨hcode, hpath, -⟩ := writePage_ok hq
    obtain ⟨hkeeps₁, hstands, hothers⟩ := stands_writePage h hcodes hl hkeeps hq
    obtain ⟨hpages, hothers'⟩ := stands_mapM_writePage ls
      (fun l hl => hls l (List.mem_cons_of_mem _ hl)) hkeeps₁ hqs
    refine ⟨fun r hr => ?_, fun other n hother hs =>
      hothers' other n hother (hothers other n hother hs)⟩
    rcases List.mem_cons.1 hr with rfl | hr
    · rw [hcode]
      exact ⟨hpath, hothers' _ _ (hcodes _ hl) hstands⟩
    · exact hpages r hr

end Pages

/-! ## The whole publication -/

section Publish

variable {root : Path} {directory : Option Setting} {settings : Settings} {w w' : World}
  {languages : List Language} {s : Source} {elements : Html.Elements}

theorem yields_indexPage {t : FileTree} {text : Text} :
    (indexPage settings languages).Yields t text ↔
      ∃ lang, settings.defaultLanguage.attributeValue = .ok lang
        ∧ IndexPage.renderIn lang settings.defaultLanguage.display languages = text := by
  rw [indexPage, Action.fitting,
    Action.yields_bind (Action.reading_ofExcept _ _) fun _ => Action.reading_pure _]
  simp only [Action.yields_ofExcept, Action.yields_pure]

theorem writesOnly_openSite (settings : Settings) (languages : List Language) (s : Source) :
    Action.WritesOnly (IsOutput s.directory []) (openSite settings languages s) :=
  (Action.writesOnly_makeDirectories _ _).bind fun _ =>
    ((reading_indexPage _ _).writesOnly _).bind fun _ =>
      (writesOnly_putIndex _ _ _).bind fun _ => (writesOnly_putNoJekyll _ _).bind fun _ =>
        (Action.reading_ofExcept _ _).writesOnly _

/-- When the site is open its directory stands, with the index page in it. -/
theorem openSite_ok (h : (openSite settings languages s).runOn w = (.ok elements, w')) :
    settings.elements = .ok elements ∧ w'.tree.contains s.directory = .ok true
      ∧ ∃ text, (∀ t, (indexPage settings languages).Yields t text)
        ∧ w'.tree.read (s.directory.join "index.html".toList) = .ok (Text.Utf8.encode text) := by
  unfold openSite at h
  obtain ⟨⟨⟩, w₁, hmake, h⟩ := Action.runOn_bind_ok.1 h
  obtain ⟨index, w₂, hindex, ht₂, h⟩ := (reading_indexPage _ _).bind_ok rfl h
  obtain ⟨⟨⟩, w₃, hput, h⟩ := Action.runOn_bind_ok.1 h
  obtain ⟨⟨⟩, w₄, hput', h⟩ := Action.runOn_bind_ok.1 h
  have hyields := (Action.reading_ofExcept _ _).yields rfl (congrArg Prod.fst h)
  have hindex' := (Action.writesOnly_putText _ _).of_ok hput
  have hempty := (Action.writesOnly_putText _ _).of_ok hput'
  rw [(Action.reading_ofExcept _ _).tree_eq h]
  refine ⟨Action.yields_ofExcept.1 hyields, hempty.contains (hindex'.contains ?_), index,
    fun t => yields_indexPage.2 (yields_indexPage.1 hindex), ?_⟩
  · rw [ht₂]
    exact Action.makeDirectories_ok hmake
  · refine hempty.read ?_ (FileTree.read_write (Action.putText_wide_ok hput))
    exact isName_index.place_join_ne isName_noJekyll (by decide) _

/-- What a publication does that succeeds: it reads, opens its site, and then writes the page of
each language. -/
theorem publish_ok {p : Publication}
    (h : (publish root directory settings).runOn w = (.ok p, w')) :
    ∃ languages s elements, ∃ w₁ : World,
      ReadFrom root (directory.getD settings.outputDirectory) settings w.tree languages s
      ∧ settings.elements = .ok elements ∧ p.directory = s.directory
      ∧ FileTree.Keeps (IsOutput s.directory [] w.tree.here) w.tree w₁.tree
      ∧ w₁.tree.contains s.directory = .ok true
      ∧ (languages.mapM fun l => writePage settings elements s l.code).runOn w₁
        = (.ok p.pages, w') := by
  unfold publish at h
  obtain ⟨⟨languages, s⟩, w₁, hsource, h⟩ := Action.runOn_bind_ok.1 h
  obtain ⟨elements, w₂, hopen, h⟩ := Action.runOn_bind_ok.1 h
  obtain ⟨pages, w₃, hpages, h⟩ := Action.runOn_bind_ok.1 h
  obtain ⟨heq, rfl⟩ := Prod.mk.inj h
  obtain rfl := Except.ok.inj heq
  obtain ⟨hread, ht₁⟩ := readFrom_of_ok hsource
  obtain ⟨helements, hsite, -⟩ := openSite_ok hopen
  have hkeeps := (writesOnly_openSite settings languages s).of_ok hopen
  rw [ht₁] at hkeeps
  exact ⟨languages, s, elements, w₂, hread, helements, rfl, hkeeps, hsite, hpages⟩

end Publish

end Publication

end Phrasebook
