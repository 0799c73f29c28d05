import Phrasebook.Glossary
import Phrasebook.Html.Elements
import Phrasebook.Replacer

/-!
# Localized pages

A page is localized by replacing the phrases in its text by their glosses and by naming the language
in its first tag of the form `<html lang="...">`.
-/

namespace Phrasebook.Page

/-- The tag that opens a document in a language. -/
def openingTag (code : Text) : Text :=
  "<html lang=\"".toList ++ code ++ "\">".toList

/-- The page with the language of its opening tag changed. -/
def setLanguage (source code page : Text) : Text :=
  Text.replaceFirst (openingTag source) (openingTag code) page

/-- A localized page, the number of its replacements, and what there is to note about its tags. -/
structure Localized where
  page : WideText
  replacements : Nat
  notices : List Html.Notice

/-- The page with its phrases replaced by glosses from anywhere. -/
def localizeBy (scanner : Scanner) (glosses : WideText → Option WideText)
    (elements : Html.Elements) (page : WideText) : Localized :=
  let replacer : Replacer := { scanner, glosses }
  let ((page, notices), replacements) := elements.mapText replacer.replaceCounting page 0
  ⟨page, replacements, notices⟩

/-- The page with its phrases replaced by their glosses. -/
def localize (scanner : Scanner) (glossary : Glossary) (elements : Html.Elements)
    (page : WideText) : Localized :=
  localizeBy scanner glossary.get? elements page

end Phrasebook.Page
