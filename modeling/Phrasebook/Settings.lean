import Phrasebook.Html.Elements
import Phrasebook.Setting

/-!
# Settings

The settings say which elements hold phrases, where the files of a publication lie, and from which
language it starts. Each has a name and a default, and may be given another value under its name.
-/

namespace Phrasebook

/-- Names that are no setting's. -/
structure UnknownSettings where
  names : List Text

def UnknownSettings.message (u : UnknownSettings) : Text :=
  "Unknown configuration keys: ".toList ++ List.intercalate ", ".toList u.names

structure Settings where
  allowed : Setting := .ofNames Html.Elements.standardAllowed
  void : Setting := .ofNames Html.Elements.standardVoid
  sourceLanguage : Setting := .text "en".toList
  defaultLanguage : Setting := .text "zh".toList
  dataDirectory : Setting := .text "warframe-public-export-plus".toList
  sourcePage : Setting := .text "droptables-en.html".toList
  outputDirectory : Setting := .text "site".toList
  url : Setting := .text "https://www.warframe.com/droptables".toList

namespace Settings

/-- The settings under their names. -/
def table (s : Settings) : List (Text × Setting) :=
  [("allowed_tags".toList, s.allowed), ("void_tags".toList, s.void),
    ("source_language".toList, s.sourceLanguage), ("default_language".toList, s.defaultLanguage),
    ("data_dir".toList, s.dataDirectory), ("source_page".toList, s.sourcePage),
    ("output_dir".toList, s.outputDirectory), ("url".toList, s.url)]

/-- The names among the given ones that are no setting's, in order. -/
def unknown (names : List Text) : List Text :=
  let known := (table {}).map Prod.fst
  (names.filter fun name => !known.contains name).mergeSort fun a b => !decide (b < a)

/-- The settings with some values given under their names. -/
def ofGiven (given : List (Text × Setting)) : Except UnknownSettings Settings :=
  match unknown (given.map Prod.fst) with
  | [] =>
    let value name default := (given.lookup (String.toList name)).getD default
    let s : Settings := {}
    .ok
      { allowed := value "allowed_tags" s.allowed
        void := value "void_tags" s.void
        sourceLanguage := value "source_language" s.sourceLanguage
        defaultLanguage := value "default_language" s.defaultLanguage
        dataDirectory := value "data_dir" s.dataDirectory
        sourcePage := value "source_page" s.sourcePage
        outputDirectory := value "output_dir" s.outputDirectory
        url := value "url" s.url }
  | names => .error ⟨names⟩

/-- The sets of element names, the allowed ones looked at first. -/
def elements (s : Settings) : Except Setting.Misfit Html.Elements := do
  let allowed ← s.allowed.names
  return .ofNames allowed (← s.void.names)

end Settings

end Phrasebook
