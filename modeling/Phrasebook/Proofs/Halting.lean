import Phrasebook.Proofs.Footprint

/-!
# Publications that come to a halt

A publication reads its source, opens its site, and then reads a vocabulary and writes a page for
one language after the other (`publish_eq_publishFirst`). So the place where it fails says what it
leaves behind. If it cannot read its source nothing is written at all. If it cannot read the
vocabulary of a language, the index page and the pages before that one are those of a publication
that succeeds, and the other pages are as they were (`HaltedAt`, `publish_effects`).
-/

namespace Phrasebook.Publication

open IndexPage (pageName)

/-- The vocabulary of a language below a root. -/
def vocabularyIn (root : Path) (settings : Settings) (code : Text) : Action Vocabulary := do
  let data ← Action.joined root settings.dataDirectory
  vocabularyAt (data.join (vocabularyName code))

/-- The source page below a root. -/
def pageIn (root : Path) (settings : Settings) : Action Text := do
  let page ← Action.joined root settings.sourcePage
  Action.textAt page

/-- Something that every page is made from cannot be read. -/
inductive Unreadable (root : Path) (settings : Settings) (t : FileTree) : Prop
  | languages (h : ∀ languages, ¬ (languagesIn root settings).Yields t languages)
  | page (h : ∀ text, ¬ (pageIn root settings).Yields t text)
  | vocabulary
    (h : ∀ v, ¬ (vocabularyIn root settings settings.sourceLanguage.display).Yields t v)

/-- The files of the publication in the directory that the settings name. -/
def IsOwn (root : Path) (directory : Option Setting) (settings : Settings) (t : FileTree)
    (q : Place) : Prop :=
  ∃ site, (Action.joined root (directory.getD settings.outputDirectory)).Yields t site
    ∧ IsPublished root site settings t q

/-- The files have the same source page, and the same vocabularies of the source language and of one
other. -/
structure SamePage (root : Path) (settings : Settings) (code : Text) (t t' : FileTree) : Prop where
  page : ∀ page, settings.sourcePage.part = .ok page →
    t'.read (root.join page) = t.read (root.join page)
  vocabulary : ∀ data, settings.dataDirectory.part = .ok data →
    ∀ c, c = settings.sourceLanguage.display ∨ c = code →
      t'.read ((root.join data).join (vocabularyName c))
        = t.read ((root.join data).join (vocabularyName c))

theorem SamePage.localizeSource {root : Path} {settings : Settings} {t t' : FileTree} {code : Text}
    (h : SamePage root settings code t t') {result : WideText × Nat}
    (hpage : (localizeSource root code settings).Yields t result) :
    (localizeSource root code settings).Yields t' result :=
  localizeSource_of_reads (fun part hpart _ hbytes => (h.page part hpart).trans hbytes)
    (fun data hdata c hc _ hbytes => (h.vocabulary data hdata c hc).trans hbytes) hpage

/-- What a publication leaves behind that comes no further than the first `k` languages. -/
structure HaltedAt (root site : Path) (settings : Settings) (t t' : FileTree)
    (languages : List Language) (k : Nat) : Prop where
  /-- The index page has all languages. -/
  index : ∃ text, (indexPage settings languages).Yields t text
    ∧ t'.read (site.join "index.html".toList) = .ok (Text.Utf8.encode text)
    ∧ ∀ l ∈ languages, IndexPage.item l <:+: text
  /-- The first pages are those made by themselves, and those of any publication that succeeds. -/
  pages : ∀ l ∈ languages.take k, ∃ (text : Text) (n : Nat),
    (localizeSource root l.code settings).Yields t (text.wide, n)
      ∧ t'.read (site.join (pageName l.code)) = .ok (Text.Utf8.encode text)
      ∧ ∀ directory w w' p, (publish root directory settings).runOn w = (.ok p, w') →
        SamePage root settings l.code t w.tree → (∀ q ∈ p.pages, '/' ∉ q.code) →
          ∀ q ∈ p.pages, q.code = l.code → w'.tree.read q.path = .ok (Text.Utf8.encode text)
  /-- The files of the other pages are as they were. -/
  others : ∀ l ∈ languages.drop k, l.code ∉ (languages.take k).map Language.code →
    t'.fileAt? (site.join (pageName l.code)) = t.fileAt? (site.join (pageName l.code))

/-! ## As far as some of the languages -/

/-- A publication on its way: what it was made from, and the pages written so far. -/
structure Begun where
  languages : List Language
  source : Source
  elements : Html.Elements
  pages : List WrittenPage

/-- A publication as far as the pages of the first `k` languages. -/
def publishFirst (root : Path) (directory : Option Setting) (settings : Settings) (k : Nat) :
    Action Begun := do
  let (languages, s) ← readSource root (directory.getD settings.outputDirectory) settings
  let elements ← openSite settings languages s
  let pages ← (languages.take k).mapM fun l => writePage settings elements s l.code
  return ⟨languages, s, elements, pages⟩

/-- The publication writes the pages of the first `k` languages, and the vocabulary of the next is
not to be read. -/
structure LacksNext (root : Path) (directory : Option Setting) (settings : Settings) (k : Nat)
    (w w' : World) (b : Begun) (l : Language) : Prop where
  first : (publishFirst root directory settings k).runOn w = (.ok b, w')
  next : b.languages[k]? = some l
  foreign : settings.sourceLanguage.isText l.code = false
  lacking : ∀ v, ¬ (vocabularyIn root settings l.code).Yields w.tree v

/-- A publication goes on from wherever it has come to. -/
theorem publish_eq_publishFirst (root : Path) (directory : Option Setting) (settings : Settings)
    (k : Nat) : publish root directory settings = (do
      let b ← publishFirst root directory settings k
      let pages ← (b.languages.drop k).mapM fun l => writePage settings b.elements b.source l.code
      return ⟨b.source.directory, b.source.scanner.phrases.size, b.pages ++ pages⟩) := by
  simp only [publish, publishFirst, bind_assoc, pure_bind]
  refine congrArg _ (funext fun r => ?_)
  refine congrArg _ (funext fun elements => ?_)
  conv_lhs => rw [← List.take_append_drop k r.1]
  simp only [List.mapM_append, bind_assoc, pure_bind]

/-! ## What is left alone -/

section Leaving

variable {γ : Type} {view : World → γ} {settings : Settings} {s : Source}

theorem leaves_indexPage (settings : Settings) (languages : List Language) :
    Action.Leaves view (indexPage settings languages) :=
  (Action.leaves_ofExcept _ _).bind fun _ => Action.leaves_pure _

theorem leaves_openSite (languages : List Language)
    (hmake : Action.Leaves view (Action.makeDirectories s.directory))
    (hindex : ∀ t, Action.Leaves view (Action.putText (s.directory.join "index.html".toList) t))
    (hempty : ∀ t, Action.Leaves view (Action.putText (s.directory.join ".nojekyll".toList) t)) :
    Action.Leaves view (openSite settings languages s) :=
  hmake.bind fun _ => (leaves_indexPage _ _).bind fun _ => (hindex _).bind fun _ =>
    (hempty _).bind fun _ => Action.leaves_ofExcept _ _

variable (hview : ∀ w events, view { w with events } = view w)

include hview

theorem leaves_vocabularyAt (p : Path) : Action.Leaves view (vocabularyAt p) :=
  (Action.leaves_report hview _).bind fun _ => (Action.leaves_bytesAt p).bind fun _ =>
    Action.leaves_ofExcept _ _

theorem leaves_readSource (root : Path) (directory : Setting) (settings : Settings) :
    Action.Leaves view (readSource root directory settings) :=
  (Action.leaves_joined _ _).bind fun _ => (Action.leaves_joined _ _).bind fun _ =>
    ((Action.leaves_bytesAt _).bind fun _ => Action.leaves_ofExcept _ _).bind fun _ =>
      (Action.leaves_joined _ _).bind fun _ => (Action.leaves_textAt _).bind fun _ =>
        (leaves_vocabularyAt hview _).bind fun _ =>
          (Action.leaves_report hview _).bind fun _ => Action.leaves_pure _

theorem leaves_localize (elements : Html.Elements) (scanner : Scanner) (glossary : Glossary)
    (page : WideText) : Action.Leaves view (localize elements scanner glossary page) := by
  intro w
  rw [runOn_localize]
  exact hview w _

theorem leaves_warnOfEmpty (glossary : Glossary) (code : Text) :
    Action.Leaves view (warnOfEmpty glossary code) := by
  unfold warnOfEmpty
  split_ifs
  · exact Action.leaves_report hview _
  · exact Action.leaves_pure _

theorem leaves_writePage (elements : Html.Elements) {code : Text}
    (hput : ∀ t, Action.Leaves view (Action.putText (s.directory.join (pageName code)) t)) :
    Action.Leaves view (writePage settings elements s code) := by
  rw [writePage_eq]
  split_ifs
  · exact (hput _).bind fun _ => Action.leaves_pure _
  · refine (leaves_vocabularyAt hview _).bind fun target => ?_
    refine (leaves_warnOfEmpty hview _ _).bind fun _ => ?_
    refine (leaves_localize hview _ _ _ _).bind fun localized => ?_
    exact (hput _).bind fun _ => (Action.leaves_report hview _).bind fun _ => Action.leaves_pure _

theorem leaves_publish (root : Path) (directory : Option Setting) (settings : Settings)
    (hmake : ∀ p, Action.Leaves view (Action.makeDirectories p))
    (hput : ∀ p t, Action.Leaves view (Action.putText p t)) :
    Action.Leaves view (publish root directory settings) := by
  have hopen : ∀ languages s, Action.Leaves view (openSite settings languages s) :=
    fun languages s => leaves_openSite languages (hmake _) (hput _) (hput _)
  have hpages : ∀ elements s (ls : List Language), Action.Leaves view
      (ls.mapM fun l => writePage settings elements s l.code) := fun elements s ls =>
    Action.Leaves.mapM ls fun _ _ => leaves_writePage hview elements (hput _)
  rw [publish_eq_publishFirst root directory settings 0]
  refine Action.Leaves.bind ?_ fun b => (hpages _ _ _).bind fun _ => Action.leaves_pure _
  exact (leaves_readSource hview _ _ _).bind fun _ => (hopen _ _).bind fun _ =>
    (hpages _ _ _).bind fun _ => Action.leaves_pure _

end Leaving

/-! ## Where it halts -/

section Halting

variable {root : Path} {directory : Option Setting} {settings : Settings} {w w' : World}
  {languages : List Language} {s : Source} {elements : Html.Elements}

theorem item_infix_of_yields_indexPage {t : FileTree} {text : Text}
    (h : (indexPage settings languages).Yields t text) {l : Language} (hl : l ∈ languages) :
    IndexPage.item l <:+: text := by
  obtain ⟨lang, -, rfl⟩ := yields_indexPage.1 h
  have hitem : IndexPage.item l <:+: languages.flatMap IndexPage.item :=
    List.infix_of_mem_flatten (List.mem_map_of_mem hl)
  unfold IndexPage.renderIn
  exact hitem.trans (List.infix_append _ _ _)

/-- Pages of other languages leave the page of a language alone. -/
theorem leaves_page_mapM_writePage {code : Text} (hcode : '/' ∉ code) (elements : Html.Elements)
    (ls : List Language) (hls : ∀ l ∈ ls, '/' ∉ l.code) (hother : code ∉ ls.map Language.code) :
    Action.Leaves (fun w => w.tree.fileAt? (s.directory.join (pageName code)))
      (ls.mapM fun l => writePage settings elements s l.code) := by
  refine Action.Leaves.mapM ls fun l hl => leaves_writePage (fun _ _ => rfl) elements fun t => ?_
  have hne : pageName code ≠ pageName l.code := fun h =>
    hother (pageName_inj h ▸ List.mem_map_of_mem hl)
  exact Action.leaves_putText_of_ne (fun here =>
    (isName_pageName hcode).place_join_ne (isName_pageName (hls l hl)) hne _) t

theorem leaves_page_openSite {code : Text} (hcode : '/' ∉ code) (languages : List Language) :
    Action.Leaves (fun w => w.tree.fileAt? (s.directory.join (pageName code)))
      (openSite settings languages s) := by
  have hname := isName_pageName hcode
  refine leaves_openSite languages (Action.leaves_file_makeDirectories _ _)
    (Action.leaves_putText_of_ne fun here => ?_) (Action.leaves_putText_of_ne fun here => ?_)
  · exact hname.place_join_ne isName_index (pageName_ne_index _) _
  · exact hname.place_join_ne isName_noJekyll (pageName_ne_noJekyll _) _

theorem writePage_of_unreadable {code : Text} {e : Failure}
    (hsource : settings.sourceLanguage.isText code = false)
    (h : (vocabularyAt (s.data.join (vocabularyName code))).runOn w = (.error e, w')) :
    (writePage settings elements s code).runOn w = (.error e, w') := by
  rw [writePage_eq, hsource, if_neg Bool.false_ne_true]
  exact Action.runOn_bind_of_error h

/-- A publication fails at its source and changes nothing, or it has read its source. -/
theorem unread_or_readFrom {result : Except Failure Publication}
    (h : (publish root directory settings).runOn w = (result, w')) :
    ((∃ e, result = .error e) ∧ w'.tree = w.tree) ∨ ∃ languages s,
      ReadFrom root (directory.getD settings.outputDirectory) settings w.tree languages s := by
  rcases hread : (readSource root (directory.getD settings.outputDirectory) settings).runOn w
    with ⟨e | ⟨languages, s⟩, w₁⟩
  · rw [publish_eq, Action.runOn_bind_of_error hread] at h
    obtain ⟨rfl, rfl⟩ := Prod.mk.inj h
    exact .inl ⟨⟨e, rfl⟩, (reading_readSource _ _ _).tree_eq hread⟩
  · exact .inr ⟨languages, s, (readFrom_of_ok hread).1⟩

theorem ReadFrom.not_unreadable {t : FileTree} {directory : Setting}
    (h : ReadFrom root directory settings t languages s) : ¬ Unreadable root settings t := by
  obtain ⟨page, hpage, htext⟩ := h.page
  rintro (hnot | hnot | hnot)
  · exact hnot _ (h.data.bind h.languages)
  · exact hnot _ (hpage.bind htext)
  · exact hnot _ (h.data.bind h.vocabulary)

/-- A page of another language has been made from the vocabulary of that language. -/
theorem ReadFrom.vocabularyIn_of_stands {t t' : FileTree} {directory : Setting} {code : Text}
    {n : Nat} (h : ReadFrom root directory settings t languages s)
    (hsource : settings.sourceLanguage.isText code = false)
    (hstands : Stands settings elements s t t' code n) :
    ∃ v, (vocabularyIn root settings code).Yields t v := by
  obtain ⟨text, hyields, -⟩ := hstands
  obtain ⟨v, hv, -⟩ := (yields_localizeFrom (by simp [hsource])).1 hyields
  exact ⟨v, h.data.bind hv⟩

/-- A publication that succeeds has the page of a language as it is made by itself. -/
theorem read_of_publish {p : Publication} {q : WrittenPage} {text : Text} {n : Nat}
    (h : (publish root directory settings).runOn w = (.ok p, w'))
    (hslash : ∀ q ∈ p.pages, '/' ∉ q.code) (hq : q ∈ p.pages)
    (hpage : (localizeSource root q.code settings).Yields w.tree (text.wide, n)) :
    w'.tree.read q.path = .ok (Text.Utf8.encode text) := by
  obtain ⟨languages, -, -, hcodes, hpages⟩ := publish_stands h
  have hslash' : ∀ l ∈ languages, '/' ∉ l.code := by
    intro l hl
    obtain ⟨r, hr, heq⟩ := List.mem_map.1 (hcodes ▸ List.mem_map_of_mem hl)
    exact heq ▸ hslash r hr
  obtain ⟨-, text', hyields, hread⟩ := hpages hslash' q hq
  obtain ⟨hwide, -⟩ := Prod.mk.inj (hyields.unique hpage)
  rw [← WideText.wide_inj hwide]
  exact hread

section Begun

variable {k : Nat} {b : Begun} {w₀ w₁ : World}

/-- What a publication has done that has come as far as the first `k` languages. -/
structure RanFirst (root : Path) (directory : Option Setting) (settings : Settings) (k : Nat)
    (b : Begun) (w w₀ w₁ w' : World) : Prop where
  source : ReadFrom root (directory.getD settings.outputDirectory) settings w.tree b.languages
    b.source
  same : w₀.tree = w.tree
  site : (openSite settings b.languages b.source).runOn w₀ = (.ok b.elements, w₁)
  pages : ((b.languages.take k).mapM fun l => writePage settings b.elements b.source l.code).runOn
    w₁ = (.ok b.pages, w')

theorem publishFirst_ok (h : (publishFirst root directory settings k).runOn w = (.ok b, w')) :
    ∃ w₀ w₁, RanFirst root directory settings k b w w₀ w₁ w' := by
  unfold publishFirst at h
  obtain ⟨⟨languages, s⟩, w₀, hsource, h⟩ := Action.runOn_bind_ok.1 h
  obtain ⟨elements, w₁, hsite, h⟩ := Action.runOn_bind_ok.1 h
  obtain ⟨pages, w₂, hpages, h⟩ := Action.runOn_bind_ok.1 h
  obtain ⟨heq, rfl⟩ := Prod.mk.inj h
  obtain rfl := Except.ok.inj heq
  obtain ⟨hread, htree⟩ := readFrom_of_ok hsource
  exact ⟨w₀, w₁, hread, htree, hsite, hpages⟩

variable (h : RanFirst root directory settings k b w w₀ w₁ w')

include h

theorem RanFirst.keeps_site :
    FileTree.Keeps (IsOutput b.source.directory (b.languages.map Language.code) w.tree.here)
      w.tree w₁.tree := by
  rw [← h.same]
  exact ((writesOnly_openSite _ _ _).of_ok h.site).mono fun _ => IsOutput.mono (by simp)

theorem RanFirst.keeps_pages :
    FileTree.Keeps (IsOutput b.source.directory (b.languages.map Language.code) w.tree.here)
      w₁.tree w'.tree := by
  rw [← h.keeps_site.here]
  refine (Action.WritesOnly.mapM _ fun l hl => ?_).of_ok h.pages
  exact writesOnly_writePage _ _ _ (List.mem_map_of_mem (List.mem_of_mem_take hl))

variable (hslash : ∀ l ∈ b.languages, '/' ∉ l.code)

include hslash

theorem RanFirst.stands {l : Language} (hl : l ∈ b.languages.take k) :
    ∃ n, Stands settings b.elements b.source w.tree w'.tree l.code n := by
  obtain ⟨hpages, -⟩ := stands_mapM_writePage h.source (List.forall_mem_map.2 hslash)
    (b.languages.take k) (fun l hl => List.mem_map_of_mem (List.mem_of_mem_take hl))
    h.keeps_site h.pages
  have hcode : l.code ∈ b.pages.map WrittenPage.code := by
    rw [codes_mapM_writePage _ h.pages]
    exact List.mem_map_of_mem hl
  obtain ⟨q, hq, hqcode⟩ := List.mem_map.1 hcode
  exact ⟨q.replacements, hqcode ▸ (hpages q hq).2⟩

theorem RanFirst.haltedAt :
    HaltedAt root b.source.directory settings w.tree w'.tree b.languages k := by
  obtain ⟨helements, -, text, hindex, hread⟩ := openSite_ok h.site
  refine ⟨⟨text, hindex _, ?_, fun l hl => item_infix_of_yields_indexPage (hindex w.tree) hl⟩,
    fun l hl => ?_, fun l hl hother => ?_⟩
  · have hleaves : Action.Leaves
        (fun w => w.tree.fileAt? (b.source.directory.join "index.html".toList))
        ((b.languages.take k).mapM fun l => writePage settings b.elements b.source l.code) :=
      Action.Leaves.mapM _ fun l hl => leaves_writePage (fun _ _ => rfl) _
        (Action.leaves_putText_of_ne fun here => isName_index.place_join_ne
          (isName_pageName (hslash l (List.mem_of_mem_take hl))) (pageName_ne_index _).symm _)
    exact h.keeps_pages.read_of_fileAt? (hleaves.of_run h.pages) hread
  · obtain ⟨n, text, hyields, hread⟩ := h.stands hslash hl
    have hpage := h.source.localizeSource helements hyields
    refine ⟨text, n, hpage, hread, fun directory w₂ w₂' p hpublish hsame hslash₂ q hq hcode => ?_⟩
    exact read_of_publish hpublish hslash₂ hq (hcode ▸ hsame.localizeSource hpage)
  · have hcode := hslash l (List.mem_of_mem_drop hl)
    have hpages := (leaves_page_mapM_writePage hcode b.elements _
      (fun m hm => hslash m (List.mem_of_mem_take hm)) hother).of_run h.pages
    have hsite := (leaves_page_openSite hcode b.languages).of_run h.site
    rw [h.same] at hsite
    exact hpages.trans hsite

/-- Without the vocabulary of the next language the publication fails there. -/
theorem RanFirst.publish_fails {l : Language}
    (hlacks : LacksNext root directory settings k w w' b l) :
    ∃ e w₂, (publish root directory settings).runOn w = (.error e, w₂) ∧ w₂.tree = w'.tree := by
  obtain ⟨hk, rfl⟩ := List.getElem?_eq_some_iff.1 hlacks.next
  rcases hrun : (vocabularyAt (b.source.data.join (vocabularyName b.languages[k].code))).runOn w'
    with ⟨e | v, w₂⟩
  · refine ⟨e, w₂, ?_, (reading_vocabularyAt _).tree_eq hrun⟩
    rw [publish_eq_publishFirst root directory settings k, Action.runOn_bind_of_ok hlacks.first,
      List.drop_eq_getElem_cons hk, List.mapM_cons, bind_assoc]
    exact Action.runOn_bind_of_error (writePage_of_unreadable hlacks.foreign hrun)
  · have hyields := (reading_vocabularyAt _).yields rfl (congrArg Prod.fst hrun)
    have hbefore := h.source.vocabulary_before (h.keeps_site.trans h.keeps_pages)
      (hslash _ (List.getElem_mem hk)) hyields
    exact absurd (h.source.data.bind hbefore) (hlacks.lacking v)

theorem RanFirst.not_mem_of_lacksNext {l : Language}
    (hlacks : LacksNext root directory settings k w w' b l) :
    l.code ∉ (b.languages.take k).map Language.code := by
  intro hmem
  obtain ⟨m, hm, hcode⟩ := List.mem_map.1 hmem
  obtain ⟨n, hstands⟩ := h.stands hslash hm
  rw [hcode] at hstands
  obtain ⟨v, hv⟩ := h.source.vocabularyIn_of_stands hlacks.foreign hstands
  exact hlacks.lacking v hv

end Begun

/-- What a publication leaves behind, whether it succeeds or not. It writes its own files only, and
nothing at all if it cannot read its source. If it lacks the vocabulary of the language behind the
first `k`, it fails with all of the index page, with the pages of those `k` languages, and with the
other pages as they were. -/
theorem publish_effects {result : Except Failure Publication}
    (h : (publish root directory settings).runOn w = (result, w')) :
    FileTree.Keeps (IsOwn root directory settings w.tree) w.tree w'.tree
      ∧ (Unreadable root settings w.tree → (∃ e, result = .error e) ∧ w'.tree = w.tree)
      ∧ ∀ k w₁ b l, LacksNext root directory settings k w w₁ b l →
        (∀ m ∈ b.languages, '/' ∉ m.code) → (∃ e, result = .error e)
          ∧ (languagesIn root settings).Yields w.tree b.languages
          ∧ l.code ∉ (b.languages.take k).map Language.code
          ∧ ∃ site, (Action.joined root (directory.getD settings.outputDirectory)).Yields w.tree
            site ∧ HaltedAt root site settings w.tree w'.tree b.languages k := by
  refine ⟨?_, fun hun => ?_, fun k w₁ b l hlacks hslash => ?_⟩
  · rcases unread_or_readFrom h with ⟨-, htree⟩ | ⟨languages, s, hread⟩
    · rw [htree]
      exact .refl _ _
    · exact (publish_keeps directory hread.directory h).mono
        fun q hq => ⟨s.directory, hread.directory, hq⟩
  · rcases unread_or_readFrom h with hfails | ⟨languages, s, hread⟩
    · exact hfails
    · exact absurd hun hread.not_unreadable
  · obtain ⟨w₀, w₂, hran⟩ := publishFirst_ok hlacks.first
    obtain ⟨e, w₃, hfails, htree⟩ := hran.publish_fails hslash hlacks
    obtain ⟨rfl, rfl⟩ := Prod.mk.inj (h.symm.trans hfails)
    rw [htree]
    exact ⟨⟨e, rfl⟩, hran.source.data.bind hran.source.languages,
      hran.not_mem_of_lacksNext hslash hlacks, b.source.directory, hran.source.directory,
      hran.haltedAt hslash⟩

end Halting

/-- Files whose table lists a language without a vocabulary, for which there is an older page. -/
def lacking : FileTree :=
  .ofEntries ["work".toList] [("data", .directory), ("data/supplementals", .directory),
    ("data/supplementals/languages.csv",
      .file (Text.Utf8.encode "code\nen\nzh\n".toList)),
    ("data/dict.en.json", .file (Text.Utf8.encode "\x7b\"/a\": \"Rail\"\x7d".toList)),
    ("droptables-en.html", .file (Text.Utf8.encode "<td>Rail</td>".toList)),
    ("out", .directory),
    ("out/droptables-zh.html", .file (Text.Utf8.encode "old".toList))]

def beside : Settings where
  dataDirectory := .text "data".toList
  outputDirectory := .text "out".toList

def english : Language :=
  ⟨"en".toList, "en".toList, "en".toList⟩

def chinese : Language :=
  ⟨"zh".toList, "zh".toList, "zh".toList⟩

theorem lacksNext_chinese : ∃ w₁ b, b.languages = [english, chinese]
    ∧ LacksNext .here none beside 1 { tree := lacking } w₁ b chinese := by
  have hlanguages : ((publishFirst .here none beside 1).runOn { tree := lacking }).1.toOption.map
      Begun.languages = some [english, chinese] := by
    decide +kernel
  have hnone : ((vocabularyIn .here beside chinese.code).runOn
      { tree := lacking }).1.toOption.isNone = true := by
    decide +kernel
  rcases hrun : (publishFirst .here none beside 1).runOn { tree := lacking } with ⟨e | b, w₁⟩
  · rw [hrun] at hlanguages
    cases hlanguages
  · rw [hrun] at hlanguages
    have hb : b.languages = [english, chinese] := Option.some.inj hlanguages
    refine ⟨w₁, b, hb, hrun, by rw [hb]; rfl, by decide, fun v hv => ?_⟩
    rw [hv.result rfl] at hnone
    cases hnone

/-- The first language has its page, and the older page of the second is still there. -/
theorem publish_effects_lacking : ∃ e w',
    (publish .here none beside).runOn { tree := lacking } = (.error e, w')
      ∧ w'.tree.read (.ofString "out/droptables-en.html")
        = .ok (Text.Utf8.encode "<td>Rail</td>".toList)
      ∧ w'.tree.fileAt? (.ofString "out/droptables-zh.html")
        = some (Text.Utf8.encode "old".toList) := by
  obtain ⟨w₁, b, hb, hlacks⟩ := lacksNext_chinese
  have hpage : ((localizeSource .here english.code beside).runOn { tree := lacking }).1.toOption.map
      Prod.fst = some (.ofString "<td>Rail</td>") := by
    decide +kernel
  rcases hrun : (publish .here none beside).runOn { tree := lacking } with ⟨result, w'⟩
  obtain ⟨⟨e, rfl⟩, -, -, site, hsite, hhalted⟩ :=
    (publish_effects hrun).2.2 1 w₁ b chinese hlacks (by rw [hb]; decide)
  obtain ⟨part, hpart, rfl⟩ := Action.yields_joined.1 hsite
  obtain rfl : "out".toList = part := Except.ok.inj hpart
  refine ⟨e, w', rfl, ?_, ?_⟩
  · obtain ⟨text, n, hyields, hread, -⟩ := hhalted.pages english (by rw [hb]; decide)
    rw [hyields.result rfl] at hpage
    rw [← WideText.wide_inj (Option.some.inj hpage)]
    exact hread
  · exact hhalted.others chinese (by rw [hb]; decide) (by rw [hb]; decide)

end Phrasebook.Publication
