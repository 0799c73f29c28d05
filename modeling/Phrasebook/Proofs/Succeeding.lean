import Mathlib.Data.List.Permutation
import Phrasebook.Proofs.Encoding
import Phrasebook.Proofs.FirstGlosses
import Phrasebook.Proofs.Localizing
import Phrasebook.Proofs.Publishing

/-!
# When a publication succeeds

A publication succeeds if its source can be read, its directory made, and each page made, encoded
and written (`publish_does`). The pages may be made for the files as they were before, since nothing
that is written is a vocabulary (`localizeFrom_of_keeps`). What it leaves behind is the tree with
these files written one after the other (`writeAll`).

So it succeeds on a page and the vocabularies of two languages (`publish_does_bilingual`).
-/

namespace Phrasebook.Publication

open IndexPage (pageName)

theorem ReadFrom.yields_readSource {root : Path} {directory : Setting} {settings : Settings}
    {t : FileTree} {languages : List Language} {s : Source}
    (h : ReadFrom root directory settings t languages s) :
    (readSource root directory settings).Yields t (languages, s) := by
  obtain ⟨data, directory', page, vocabulary, scanner⟩ := s
  obtain ⟨path, hpath, htext⟩ := h.page
  obtain rfl : scanner = scannerOf vocabulary := h.scanner
  refine h.data.bind (h.directory.bind (h.languages.bind (hpath.bind (htext.bind
    (h.vocabulary.bind ((Action.yields_report _ t ()).bind ?_))))))
  exact Action.yields_pure.2 rfl

/-! ## Writing a site -/

theorem bind_eq_ok {ε α β : Type} {x : Except ε α} {f : α → Except ε β} {b : β} :
    x >>= f = .ok b ↔ ∃ a, x = .ok a ∧ f a = .ok b := by
  rcases x with e | a <;> simp [bind, Except.bind]

/-- The tree with some files written one after the other. -/
def writeAll : List (Path × Text) → FileTree → Except FileTree.Problem FileTree
  | [], t => .ok t
  | f :: fs, t => t.write f.1 (Text.Utf8.encode f.2) >>= writeAll fs

/-- The tree with a directory made and some files written. -/
def writeSite (directory : Path) (files : List (Path × Text)) (t : FileTree) :
    Except FileTree.Problem FileTree :=
  t.makeDirectory directory >>= writeAll files

/-- The pages of some codes as files. -/
def pageFiles (directory : Path) (page : Text → Text) (codes : List Text) : List (Path × Text) :=
  codes.map fun code => (directory.join (pageName code), page code)

/-- The files of a site: its index page, an empty file and the pages of some codes. -/
def siteFiles (directory : Path) (index : Text) (page : Text → Text) (codes : List Text) :
    List (Path × Text) :=
  (directory.join "index.html".toList, index) :: (directory.join ".nojekyll".toList, [])
    :: pageFiles directory page codes

section Pages

variable {settings : Settings} {elements : Html.Elements} {s : Source} {t t' : FileTree}
  {codes : List Text}

/-- What a publication writes takes no page away that could be made before. -/
theorem localizeFrom_of_keeps (hkeeps : FileTree.Keeps (IsOutput s.directory codes t.here) t t')
    {code : Text} {result : WideText × Nat}
    (h : (localizeFrom settings elements s code).Yields t result) :
    (localizeFrom settings elements s code).Yields t' result := by
  by_cases hsource : settings.sourceLanguage.isText code = true
  · rw [localizeFrom, if_pos hsource] at h ⊢
    exact Action.yields_pure.2 (Action.yields_pure.1 h)
  · obtain ⟨target, htarget, hlocalize⟩ := (yields_localizeFrom hsource).1 h
    obtain ⟨bytes, hbytes, hof⟩ := yields_vocabularyAt.1 htarget
    exact (yields_localizeFrom hsource).2 ⟨target, yields_vocabularyAt.2
      ⟨bytes, hkeeps.read (not_isOutput_vocabulary _ _ _ _ _ code) hbytes, hof⟩,
      yields_localize.2 (yields_localize.1 hlocalize)⟩

theorem writePage_does {code text : Text} {n : Nat}
    (hpage : (localizeFrom settings elements s code).Yields t (text.wide, n))
    (hwrite : t.write (s.directory.join (pageName code)) (Text.Utf8.encode text) = .ok t') :
    ∃ q, (writePage settings elements s code).Does t q t' := by
  rw [writePage_eq]
  have hput := Action.does_putText_wide hwrite
  by_cases hsource : settings.sourceLanguage.isText code = true
  · rw [localizeFrom, if_pos hsource] at hpage
    obtain ⟨hwide, -⟩ := Prod.mk.inj (Action.yields_pure.1 hpage)
    rw [if_pos hsource, hwide]
    exact ⟨_, hput.bind (Action.yields_pure.2 rfl).does⟩
  · obtain ⟨target, htarget, hlocalize⟩ := (yields_localizeFrom hsource).1 hpage
    have hwarn : (warnOfEmpty (.ofVocabularies s.vocabulary target) code).Yields t () := by
      unfold warnOfEmpty
      split_ifs
      · exact Action.yields_report _ t ()
      · exact Action.yields_pure.2 rfl
    rw [if_neg hsource]
    exact ⟨_, htarget.does.bind (hwarn.does.bind (hlocalize.does.bind (hput.bind
      ((Action.yields_report _ t' ()).does.bind (Action.yields_pure.2 rfl).does))))⟩

/-- Pages that can be made for the files `t` are written one after the other. -/
theorem mapM_writePage_does {page : Text → Text} : ∀ (ls : List Language) {t₁ t₂ : FileTree},
    (∀ l ∈ ls, l.code ∈ codes
      ∧ ∃ n, (localizeFrom settings elements s l.code).Yields t ((page l.code).wide, n)) →
    FileTree.Keeps (IsOutput s.directory codes t.here) t t₁ →
    writeAll (pageFiles s.directory page (ls.map Language.code)) t₁ = .ok t₂ →
    ∃ pages, (ls.mapM fun l => writePage settings elements s l.code).Does t₁ pages t₂
  | [], t₁, t₂, _, _, hwrites => by
    obtain rfl := Except.ok.inj hwrites
    rw [List.mapM_nil]
    exact ⟨[], (Action.yields_pure.2 rfl).does⟩
  | l :: ls, t₁, t₂, hpages, hkeeps, hwrites => by
    obtain ⟨⟨hcode, n, hpage⟩, hpages⟩ := List.forall_mem_cons.1 hpages
    obtain ⟨t', hwrite, hwrites⟩ := bind_eq_ok.1 hwrites
    obtain ⟨q, hq⟩ := writePage_does (localizeFrom_of_keeps hkeeps hpage) hwrite
    have hkeeps' : FileTree.Keeps (IsOutput s.directory codes t.here) t t' := by
      refine hkeeps.trans ((FileTree.keeps_write hwrite).mono ?_)
      rintro _ rfl
      rw [FileTree.place, hkeeps.here]
      exact .page l.code hcode
    obtain ⟨qs, hqs⟩ := mapM_writePage_does ls hpages hkeeps' hwrites
    rw [List.mapM_cons]
    exact ⟨q :: qs, hq.bind (hqs.bind (Action.yields_pure.2 rfl).does)⟩

end Pages

/-- A publication succeeds whose source can be read, and whose files can be written, with pages that
can be made for the files as they are. -/
theorem publish_does {root : Path} {directory : Option Setting} {settings : Settings}
    {t t' : FileTree} {languages : List Language} {s : Source} {elements : Html.Elements}
    {index : Text} {page : Text → Text}
    (hread : ReadFrom root (directory.getD settings.outputDirectory) settings t languages s)
    (helements : settings.elements = .ok elements)
    (hindex : ∀ t, (indexPage settings languages).Yields t index)
    (hpages : ∀ l ∈ languages, ∃ n,
      (localizeFrom settings elements s l.code).Yields t ((page l.code).wide, n))
    (hwrites : writeSite s.directory
      (siteFiles s.directory index page (languages.map Language.code)) t = .ok t') :
    ∃ p, (publish root directory settings).Does t p t' := by
  obtain ⟨t₁, hmake, hwrites⟩ := bind_eq_ok.1 hwrites
  obtain ⟨t₂, hput, hwrites⟩ := bind_eq_ok.1 hwrites
  obtain ⟨t₃, hempty, hwrites⟩ := bind_eq_ok.1 hwrites
  have hnoJekyll := Action.does_putText_wide hempty
  have hopen : (openSite settings languages s).Does t elements t₃ :=
    (Action.does_makeDirectories hmake).bind ((hindex t₁).does.bind
      ((Action.does_putText_wide hput).bind (hnoJekyll.bind
        (Action.yields_ofExcept.2 helements).does)))
  obtain ⟨w', hrun, rfl⟩ := hopen { tree := t } rfl
  have hkeeps := (writesOnly_openSite settings languages s).of_ok hrun
  obtain ⟨pages, hpages⟩ := mapM_writePage_does languages
    (fun l hl => ⟨List.mem_map_of_mem hl, hpages l hl⟩)
    (hkeeps.mono fun _ => IsOutput.mono (by simp)) hwrites
  exact ⟨_, hread.yields_readSource.does.bind (hopen.bind (hpages.bind
    (Action.yields_pure.2 rfl).does))⟩

/-! ## A site in two languages -/

def rail : Vocabulary :=
  .ofMembers [(.ofString "/a", .text (.ofString "Rail"))]

def railFile : Text :=
  "\x7b\"/a\": \"Rail\"\x7d".toList

def railZh : Vocabulary :=
  .ofMembers [(.ofString "/a", .text (.ofString "轨"))]

def railFileZh : Text :=
  "\x7b\"/a\": \"轨\"\x7d".toList

/-- The table lists one of the languages twice. -/
def railLanguages : List Language :=
  ["zh", "en", "zh"].map fun code => ⟨code.toList, code.toList, code.toList⟩

def railTable : Text :=
  "code\nzh\nen\nzh\n".toList

/-- A page and the vocabularies of two languages. -/
structure Bilingual (page : Text) (t : FileTree) : Prop where
  table : t.read (.ofString "data/supplementals/languages.csv")
    = .ok (Text.Utf8.encode railTable)
  source : t.read (.ofString "data/dict.en.json") = .ok (Text.Utf8.encode railFile)
  target : t.read (.ofString "data/dict.zh.json") = .ok (Text.Utf8.encode railFileZh)
  page : t.read (.ofString "droptables-en.html") = .ok (Text.Utf8.encode page)

/-- Files with the vocabularies, and some more. -/
def bilingualWith (more : List (String × FileTree.Entry)) : FileTree :=
  .ofEntries ["work".toList] ([("data", .directory), ("data/supplementals", .directory),
    ("data/supplementals/languages.csv", .file (Text.Utf8.encode railTable)),
    ("data/dict.en.json", .file (Text.Utf8.encode railFile)),
    ("data/dict.zh.json", .file (Text.Utf8.encode railFileZh))] ++ more)

/-- The settings of a site in some directory. -/
def settingsOf (output : Setting) : Settings where
  dataDirectory := .text "data".toList
  outputDirectory := output

def sourceOf (directory : Path) (page : Text) : Source :=
  ⟨.ofString "data", directory, page, rail, scannerOf rail⟩

/-- The files of a site whose page is `zh` in one of the languages. -/
def railFiles (directory : Path) (page zh : Text) : List (Path × Text) :=
  siteFiles directory (IndexPage.render "zh".toList railLanguages)
    (fun code => if code = "zh".toList then zh else page) (railLanguages.map Language.code)

def railDue : Replacer.Due :=
  Replacer.dueBehind [.ofString "Rail"] fun w =>
    if w = .ofString "Rail" then some (.ofString "轨") else none

theorem ofBytes_encode {t : Text} {members : List (WideText × Json)}
    (h : Json.parse t.withLineFeeds = .ok (.object members)) :
    Vocabulary.ofBytes (Text.Utf8.encode t) = .ok (.ofMembers members) := by
  simp only [Vocabulary.ofBytes, Text.Utf8.decode_encode, Vocabulary.ofText, h]

theorem ofBytes_railFile : Vocabulary.ofBytes (Text.Utf8.encode railFile) = .ok rail := by
  have hparse : Json.parse railFile
      = .ok (.object [(.ofString "/a", .text (.ofString "Rail"))]) := by
    cbv
  exact ofBytes_encode hparse

theorem ofBytes_railFileZh : Vocabulary.ofBytes (Text.Utf8.encode railFileZh) = .ok railZh := by
  have hparse : Json.parse railFileZh
      = .ok (.object [(.ofString "/a", .text (.ofString "轨"))]) := by
    cbv
  exact ofBytes_encode hparse

theorem entries_ofMembers_singleton (e : WideText × Json) :
    (Vocabulary.ofMembers [e]).entries = [e] :=
  Keyed.entries_ofLasts (List.nodup_singleton _)

theorem mem_collect_rail {w : WideText} :
    w ∈ Phrase.collect rail.values ↔ w ∈ [WideText.ofString "Rail"] := by
  have h : ([Value.text (WideText.ofString "Rail")].filterMap Value.text?).filter Phrase.isUseful
      = [.ofString "Rail"] := by
    decide +kernel
  rw [Phrase.mem_collect, Keyed.values, rail, entries_ofMembers_singleton, List.map_singleton, h]

theorem get?_ofVocabularies_rail (w : WideText) : (Glossary.ofVocabularies rail railZh).get? w
    = if w = .ofString "Rail" then some (.ofString "轨") else none := by
  rw [Glossary.get?_ofVocabularies, Glossary.first?, rail, entries_ofMembers_singleton,
    List.findSome?_cons]
  by_cases hw : w = .ofString "Rail"
  · subst hw
    rw [Glossary.said?, railZh, entries_ofMembers_singleton]
    decide +kernel
  · have hsaid : Glossary.said? railZh w (.ofString "/a", .text (.ofString "Rail")) = none :=
      if_neg fun h => hw (Option.some.inj h).symm
    rw [hsaid, if_neg hw]
    rfl

theorem localize_rail (page : WideText) :
    let l := Page.localize (scannerOf rail) (.ofVocabularies rail railZh) .standard page
    (l.page, l.replacements) = Page.localizeFrom railDue .standard (fun _ => 0) page := by
  rw [railDue, ← funext get?_ofVocabularies_rail,
    ← Replacer.dueBehind_congr fun _ => mem_collect_rail]
  exact Page.localizeBy_eq .standard
    (fun _ => Replacer.replace_eq rfl rfl (Glossary.get?_ne_empty _)) page

namespace Bilingual

variable {part page zh : Text} {n : ℕ} {t t' : FileTree}

theorem readFrom (h : Bilingual page t) (output directory : Setting)
    (hpart : directory.part = .ok part) :
    ReadFrom .here directory (settingsOf output) t railLanguages
      (sourceOf (Path.here.join part) page) where
  data := Action.yields_joined.2 ⟨_, rfl, rfl⟩
  directory := Action.yields_joined.2 ⟨part, hpart, rfl⟩
  languages := yields_languagesAt.2 ⟨_, h.table, by rfl⟩
  page := ⟨_, Action.yields_joined.2 ⟨_, rfl, rfl⟩,
    Action.yields_textAt.2 ⟨_, h.page, Text.Utf8.decode_encode page⟩⟩
  vocabulary := yields_vocabularyAt.2 ⟨_, h.source, ofBytes_railFile⟩
  scanner := rfl

theorem localizeFrom_zh (h : Bilingual page t) (output : Setting) (directory : Path)
    (hzh : Page.localizeFrom railDue .standard (fun _ => 0)
      (Page.setLanguage "en".toList "zh".toList page).wide = (zh.wide, n)) :
    (localizeFrom (settingsOf output) .standard (sourceOf directory page) "zh".toList).Yields t
      (zh.wide, n) := by
  have hother : Setting.isText "zh".toList (.text "en".toList) = false := by decide
  exact (yields_localizeFrom (Bool.eq_false_iff.1 hother)).2 ⟨railZh,
    yields_vocabularyAt.2 ⟨_, h.target, ofBytes_railFileZh⟩,
    yields_localize.2 ((localize_rail _).trans hzh)⟩

theorem publish_does_bilingual (h : Bilingual page t) (output : Setting)
    (directory : Option Setting) (hpart : (directory.getD output).part = .ok part)
    (hzh : Page.localizeFrom railDue .standard (fun _ => 0)
      (Page.setLanguage "en".toList "zh".toList page).wide = (zh.wide, n))
    (hen : Page.setLanguage "en".toList "en".toList page = page)
    (hwrites : writeSite (Path.here.join part) (railFiles (Path.here.join part) page zh) t
      = .ok t') :
    ∃ p, (publish .here directory (settingsOf output)).Does t p t' := by
  have hpageZh := h.localizeFrom_zh output (Path.here.join part) hzh
  have hpageEn : (localizeFrom (settingsOf output) .standard
      (sourceOf (Path.here.join part) page) "en".toList).Yields t (page.wide, 0) :=
    Action.yields_pure.2 (congrArg (fun t => (Text.wide t, 0)) hen)
  refine publish_does (h.readFrom output _ hpart) rfl (fun _ => yields_indexPage.2 ⟨_, rfl, rfl⟩)
    (fun l hl => ?_) hwrites
  rcases hl with _ | ⟨_, _ | ⟨_, _ | ⟨_, hl⟩⟩⟩
  · exact ⟨n, hpageZh⟩
  · exact ⟨0, hpageEn⟩
  · exact ⟨n, hpageZh⟩
  · cases hl

end Bilingual

end Phrasebook.Publication
