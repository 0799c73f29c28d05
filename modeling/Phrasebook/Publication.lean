import Phrasebook.Action
import Phrasebook.IndexPage
import Phrasebook.Page
import Phrasebook.Phrase

/-!
# Publications

A page is published in many languages. Below a root directory lie the source page and a directory of
data: the table of languages and a vocabulary for each of them. The publication is a directory with
an index page and a localized page for each language of the table. The scanner is made once, from
the vocabulary of the source language.
-/

namespace Phrasebook

/-- The page of a language as it was written. -/
structure WrittenPage where
  code : Text
  path : Path
  glosses : Nat
  replacements : Nat

structure Publication where
  directory : Path
  phrases : Nat
  pages : List WrittenPage

namespace Publication

/-- The path of the table of languages below the directory of data. -/
def languagesPath : Text :=
  "supplementals/languages.csv".toList

def vocabularyName (code : Text) : Text :=
  "dict.".toList ++ code ++ ".json".toList

def vocabularyAt (p : Path) : Action Vocabulary := do
  Action.report (.readingVocabulary p)
  let bytes ← Action.bytesAt p
  Action.ofExcept (Failure.ofVocabulary p) (Vocabulary.ofBytes bytes)

def languagesAt (p : Path) : Action (List Language) := do
  let bytes ← Action.bytesAt p
  Action.ofExcept (Failure.ofLanguages p) (Language.ofBytes bytes)

/-- The scanner of the phrases of a vocabulary. -/
def scannerOf (source : Vocabulary) : Scanner :=
  .ofPhrases (Phrase.collect source.values)

/-- The page with its phrases replaced; what there is to note about its tags is reported. -/
def localize (elements : Html.Elements) (scanner : Scanner) (glossary : Glossary)
    (page : WideText) : Action (WideText × Nat) := do
  let l := Page.localize scanner glossary elements page
  for notice in l.notices do
    Action.report (.notice notice)
  return (l.page, l.replacements)

/-- The page with the language of its opening tag changed. -/
def setLanguage (settings : Settings) (code page : Text) : WideText :=
  (Page.setLanguage settings.sourceLanguage.display code page).wide

/-- The vocabulary of the language that is published from. -/
def sourceVocabulary (settings : Settings) (data : Path) : Action Vocabulary :=
  vocabularyAt (data.join (vocabularyName settings.sourceLanguage.display))

/-- A single page in another language, and the number of its replacements. -/
def localizeOne (page : Path) (code : Text) (root : Path) (settings : Settings) :
    Action (WideText × Nat) := do
  let data ← Action.joined root settings.dataDirectory
  let text ← Action.textAt page
  let text := setLanguage settings code text
  if settings.sourceLanguage.isText code then return (text, 0)
  let source ← sourceVocabulary settings data
  let target ← vocabularyAt (data.join (vocabularyName code))
  let elements ← Action.fitting settings.elements
  localize elements (scannerOf source) (.ofVocabularies source target) text

/-- What the pages of a publication are made from, and the directory they are written to. -/
structure Source where
  data : Path
  directory : Path
  page : Text
  vocabulary : Vocabulary
  scanner : Scanner

/-- Writes the page of a language. -/
def writePage (settings : Settings) (elements : Html.Elements) (s : Source) (code : Text) :
    Action WrittenPage := do
  let path := s.directory.join (IndexPage.pageName code)
  let text := setLanguage settings code s.page
  if settings.sourceLanguage.isText code then
    Action.putText path text
    return ⟨code, path, 0, 0⟩
  let target ← vocabularyAt (s.data.join (vocabularyName code))
  let glossary := Glossary.ofVocabularies s.vocabulary target
  if glossary.size = 0 then
    Action.report (.emptyGlossary code)
  let (text, replacements) ← localize elements s.scanner glossary text
  Action.putText path text
  Action.report (.wrotePage path.name replacements)
  return ⟨code, path, glossary.size, replacements⟩

/-- Reads what a publication is made from: the languages first, then the page, then the
vocabulary. -/
def readSource (root : Path) (directory : Setting) (settings : Settings) :
    Action (List Language × Source) := do
  let data ← Action.joined root settings.dataDirectory
  let directory ← Action.joined root directory
  let languages ← languagesAt (data.join languagesPath)
  let page ← Action.textAt (← Action.joined root settings.sourcePage)
  let vocabulary ← sourceVocabulary settings data
  let scanner := scannerOf vocabulary
  Action.report (.indexed scanner.phrases.size scanner.size)
  return (languages, ⟨data, directory, page, vocabulary, scanner⟩)

/-- The index page of some languages, which leads on to the page of the default language. -/
def indexPage (settings : Settings) (languages : List Language) : Action Text := do
  let lang ← Action.fitting settings.defaultLanguage.attributeValue
  return IndexPage.renderIn lang settings.defaultLanguage.display languages

/-- Makes the directory of a publication, with an index page of its languages and without a page of
any. -/
def openSite (settings : Settings) (languages : List Language) (s : Source) :
    Action Html.Elements := do
  Action.makeDirectories s.directory
  let index ← indexPage settings languages
  Action.putText (s.directory.join "index.html".toList) index.wide
  Action.putText (s.directory.join ".nojekyll".toList) []
  Action.fitting settings.elements

/-- Publishes the source page in a directory, by default the one that the settings name, which is
followed from the root on. -/
def publish (root : Path) (directory : Option Setting) (settings : Settings) :
    Action Publication := do
  let (languages, s) ← readSource root (directory.getD settings.outputDirectory) settings
  let elements ← openSite settings languages s
  let pages ← languages.mapM fun l => writePage settings elements s l.code
  return ⟨s.directory, s.scanner.phrases.size, pages⟩

end Publication

end Phrasebook
