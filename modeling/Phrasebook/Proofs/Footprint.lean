import Phrasebook.Proofs.Agreement

/-!
# What a publication reads and writes

Whether it succeeds or not, a publication writes to its own files only (`publish_keeps`), and when
it succeeds its directory stands. Conversely the languages and the localized pages depend on the
inputs alone, so that they stay what they are as long as no input is written to
(`languagesIn_of_keeps`, `localizeSource_of_keeps`).
-/

namespace Phrasebook.Publication

open IndexPage (pageName)

/-- The files that the pages of a publication are made from. -/
inductive IsInput (root : Path) (settings : Settings) (t : FileTree) : Place → Prop
  | page {part : Text} (h : settings.sourcePage.part = .ok part) :
    IsInput root settings t (t.place (root.join part))
  | languages {data : Text} (h : settings.dataDirectory.part = .ok data) :
    IsInput root settings t (t.place ((root.join data).join languagesPath))
  | source {data : Text} (h : settings.dataDirectory.part = .ok data) :
    IsInput root settings t
      (t.place ((root.join data).join (vocabularyName settings.sourceLanguage.display)))
  | target {data : Text} (h : settings.dataDirectory.part = .ok data) {languages : List Language}
    (hlanguages : (languagesIn root settings).Yields t languages) {l : Language}
    (hl : l ∈ languages) :
    IsInput root settings t (t.place ((root.join data).join (vocabularyName l.code)))

/-- The page apart, the inputs are the table of languages and vocabularies. -/
theorem IsInput.getLast?_name {root : Path} {settings : Settings} {t : FileTree} {q : Place} :
    IsInput root settings t q →
      (∃ part, settings.sourcePage.part = .ok part ∧ q = t.place (root.join part))
        ∨ q.name.getLast? = some 'v' ∨ q.name.getLast? = some 'n'
  | .page h => .inl ⟨_, h, rfl⟩
  | .languages _ => .inr (.inl (getLast?_name_languages _ _))
  | .source _ => .inr (.inr (getLast?_name_vocabulary _ _ _))
  | .target _ _ _ => .inr (.inr (getLast?_name_vocabulary _ _ _))

/-- The files of a publication in a directory, with a page for each language of the table. -/
def IsPublished (root site : Path) (settings : Settings) (t : FileTree) (q : Place) : Prop :=
  ∃ languages, (languagesIn root settings).Yields t languages
    ∧ IsOutput site (languages.map Language.code) t.here q

section Reading

variable {root site : Path} {settings : Settings} {t t' : FileTree} {written : Place → Prop}
  {languages : List Language}

theorem yields_languagesIn : (languagesIn root settings).Yields t languages ↔
    ∃ data, settings.dataDirectory.part = .ok data ∧ ∃ bytes,
      t.read ((root.join data).join languagesPath) = .ok bytes
        ∧ Language.ofBytes bytes = .ok languages := by
  rw [languagesIn, Action.yields_bind (Action.reading_joined _ _) fun _ => reading_languagesAt _]
  simp only [Action.yields_joined, yields_languagesAt]
  constructor
  · rintro ⟨_, ⟨data, hdata, rfl⟩, h⟩
    exact ⟨data, hdata, h⟩
  · rintro ⟨data, hdata, h⟩
    exact ⟨_, ⟨data, hdata, rfl⟩, h⟩

/-- The languages stay the same as long as their table is not written to. -/
theorem languagesIn_of_keeps (h : FileTree.Keeps written t t')
    (htable : ∀ data, settings.dataDirectory.part = .ok data →
      ¬ written (t.place ((root.join data).join languagesPath)))
    (hlanguages : (languagesIn root settings).Yields t languages) :
    (languagesIn root settings).Yields t' languages := by
  obtain ⟨data, hdata, bytes, hbytes, hof⟩ := yields_languagesIn.1 hlanguages
  exact yields_languagesIn.2 ⟨data, hdata, bytes, h.read (htable data hdata) hbytes, hof⟩

/-- The inputs stay the same as long as the table of languages is not written to. -/
theorem IsInput.of_keeps (h : FileTree.Keeps written t t')
    (htable : ∀ data, settings.dataDirectory.part = .ok data →
      ¬ written (t.place ((root.join data).join languagesPath))) {q : Place} :
    IsInput root settings t q → IsInput root settings t' q
  | .page hpart => h.place _ ▸ .page hpart
  | .languages hdata => h.place _ ▸ .languages hdata
  | .source hdata => h.place _ ▸ .source hdata
  | .target hdata hlanguages hl =>
    h.place _ ▸ .target hdata (languagesIn_of_keeps h htable hlanguages) hl

/-- The page of a language stays the same as long as no input is written to. -/
theorem localizeSource_of_keeps (h : FileTree.Keeps written t t')
    (hinput : ∀ q, IsInput root settings t q → ¬ written q)
    (hlanguages : (languagesIn root settings).Yields t languages) {l : Language}
    (hl : l ∈ languages) {result : WideText × Nat}
    (hpage : (localizeSource root l.code settings).Yields t result) :
    (localizeSource root l.code settings).Yields t' result := by
  refine localizeSource_of_reads (fun part hpart bytes => h.read (hinput _ (.page hpart))) ?_ hpage
  rintro data hdata c (rfl | rfl) bytes
  · exact h.read (hinput _ (.source hdata))
  · exact h.read (hinput _ (.target hdata hlanguages hl))

/-- The files of a publication stay the same as long as the table of languages is not written to. -/
theorem IsPublished.of_keeps (h : FileTree.Keeps written t t')
    (htable : ∀ data, settings.dataDirectory.part = .ok data →
      ¬ written (t.place ((root.join data).join languagesPath))) {q : Place}
    (hq : IsPublished root site settings t q) : IsPublished root site settings t' q := by
  obtain ⟨languages, hlanguages, hout⟩ := hq
  rw [← h.here] at hout
  exact ⟨languages, languagesIn_of_keeps h htable hlanguages, hout⟩

end Reading

section Writing

variable {root site : Path} {directory : Option Setting} {settings : Settings} {w w' : World}

theorem writesOnly_writePage (settings : Settings) (elements : Html.Elements) (s : Source)
    {codes : List Text} {code : Text} (hcode : code ∈ codes) :
    Action.WritesOnly (IsOutput s.directory codes) (writePage settings elements s code) := by
  have hput := writesOnly_putPage s.directory hcode
  have hread : ∀ {α : Type} {x : Action α}, Action.Reading x →
      Action.WritesOnly (IsOutput s.directory codes) x := fun hx => hx.writesOnly _
  rw [writePage_eq]
  split_ifs
  · exact (hput _).bind fun _ => hread (Action.reading_pure _)
  · refine (hread (reading_vocabularyAt _)).bind fun target => ?_
    refine (hread (reading_warnOfEmpty _ _)).bind fun _ => ?_
    refine (hread (reading_localize _ _ _ _)).bind fun localized => ?_
    exact (hput _).bind fun _ => (hread (Action.reading_report _)).bind fun _ =>
      hread (Action.reading_pure _)

/-- What a publication does with what it has read. -/
def publishFrom (settings : Settings) (languages : List Language) (s : Source) :
    Action Publication := do
  let elements ← openSite settings languages s
  let pages ← languages.mapM fun l => writePage settings elements s l.code
  return ⟨s.directory, s.scanner.phrases.size, pages⟩

theorem publish_eq (root : Path) (directory : Option Setting) (settings : Settings) :
    publish root directory settings
      = readSource root (directory.getD settings.outputDirectory) settings
        >>= fun r => publishFrom settings r.1 r.2 := rfl

theorem writesOnly_publishFrom (settings : Settings) (languages : List Language) (s : Source) :
    Action.WritesOnly (IsOutput s.directory (languages.map Language.code))
      (publishFrom settings languages s) :=
  ((writesOnly_openSite _ _ _).mono fun _ _ => IsOutput.mono (by simp)).bind fun _ =>
    (Action.WritesOnly.mapM languages fun _ hl =>
      writesOnly_writePage _ _ _ (List.mem_map_of_mem hl)).bind fun _ =>
        (Action.reading_pure _).writesOnly _

theorem reading_readSource (root : Path) (directory : Setting) (settings : Settings) :
    Action.Reading (readSource root directory settings) :=
  (Action.reading_joined _ _).bind fun _ => (Action.reading_joined _ _).bind fun _ =>
    (reading_languagesAt _).bind fun _ => (Action.reading_joined _ _).bind fun _ =>
      (Action.reading_textAt _).bind fun _ => (reading_vocabularyAt _).bind fun _ =>
        (Action.reading_report _).bind fun _ => Action.reading_pure _

/-- A publication writes to its own files only, also when it fails. -/
theorem publish_keeps (directory : Option Setting)
    (hsite : (Action.joined root (directory.getD settings.outputDirectory)).Yields w.tree site)
    {result : Except Failure Publication}
    (h : (publish root directory settings).runOn w = (result, w')) :
    FileTree.Keeps (IsPublished root site settings w.tree) w.tree w'.tree := by
  rw [publish_eq] at h
  rcases hread : (readSource root (directory.getD settings.outputDirectory) settings).runOn w
    with ⟨e | ⟨languages, s⟩, w₁⟩
  · rw [Action.runOn_bind_of_error hread] at h
    obtain ⟨-, rfl⟩ := Prod.mk.inj h
    rw [(reading_readSource _ _ _).tree_eq hread]
    exact .refl _ _
  · rw [Action.runOn_bind_of_ok hread] at h
    obtain ⟨hfrom, htree⟩ := readFrom_of_ok hread
    have hkeeps := writesOnly_publishFrom settings languages s w₁
    rw [h, htree, hfrom.directory.unique hsite] at hkeeps
    exact hkeeps.mono fun q hq => ⟨languages, hfrom.data.bind hfrom.languages, hq⟩

/-- The files that a publication writes are still those of a publication behind it. -/
theorem publish_keeps_after (directory : Option Setting)
    (hsite : (Action.joined root (directory.getD settings.outputDirectory)).Yields w.tree site)
    {result : Except Failure Publication}
    (h : (publish root directory settings).runOn w = (result, w')) :
    FileTree.Keeps (IsPublished root site settings w'.tree) w.tree w'.tree := by
  have hkeeps := publish_keeps directory hsite h
  refine hkeeps.mono fun q hq => hq.of_keeps hkeeps ?_
  rintro data - ⟨languages, -, hout⟩
  exact not_isOutput_languages _ _ _ _ _ hout

theorem contains_of_publish {p : Publication}
    (h : (publish root directory settings).runOn w = (.ok p, w')) :
    w'.tree.contains p.directory = .ok true := by
  obtain ⟨languages, s, elements, w₁, -, -, hdirectory, -, hsite, hrun⟩ := publish_ok h
  rw [hdirectory]
  have hpages := Action.WritesOnly.mapM languages fun l hl =>
    writesOnly_writePage settings elements s (List.mem_map_of_mem (f := Language.code) hl)
  exact (hpages.of_ok hrun).contains hsite

end Writing

end Phrasebook.Publication
