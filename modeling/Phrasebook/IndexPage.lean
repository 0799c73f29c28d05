import Phrasebook.Language

/-!
# The index page

The index page links to the page of each language and leads on to the page of the default language.
Names and codes are escaped, so that no text of the table of languages can become markup.
-/

namespace Phrasebook.IndexPage

/-- The name of the page of a language. -/
def pageName (code : Text) : Text :=
  "droptables-".toList ++ code ++ ".html".toList

def escapeChar (c : Char) : Text :=
  if c = '&' then "&amp;".toList
  else if c = '<' then "&lt;".toList
  else if c = '>' then "&gt;".toList
  else [c]

/-- A text as it stands between tags. -/
def escape (t : Text) : Text :=
  t.flatMap escapeChar

def escapeQuote (c : Char) : Text :=
  if c = '"' then "&quot;".toList else [c]

/-- A text as the value of an attribute. It stands between double quotes; between single ones if it
holds only double ones; and if it holds both, its double quotes are escaped. -/
def quotedValue (t : Text) : Text :=
  let t := escape t
  if !t.contains '"' then '"' :: t ++ ['"']
  else if !t.contains '\'' then '\'' :: t ++ ['\'']
  else '"' :: t.flatMap escapeQuote ++ ['"']

/-- The address that the page leads on to, as the value of an attribute. -/
def refresh (code : Text) : Text :=
  quotedValue ("0; url=".toList ++ pageName code)

/-- The item of a language. -/
def item (l : Language) : Text :=
  "\n<li><a href=".toList ++ quotedValue (pageName l.code) ++ ['>'] ++ escape l.native
    ++ "</a></li>".toList

/-- The index page of some languages, which leads on to the page of a code; `lang` is the value of
the attribute that says in which language the page is. -/
def renderIn (lang : Option Text) (code : Text) (languages : List Language) : Text :=
  "<!DOCTYPE html>\n\n<html lang".toList ++ (lang.map fun t => '=' :: quotedValue t).getD []
    ++ ">\n<head>\n<meta charset=\"utf-8\"/>\n<meta content=".toList ++ refresh code
    ++ (" http-equiv=\"refresh\"/>\n<title>Warframe PC Drops (Languages)</title>\n</head>\n"
      ++ "<body>\n<p>Language / 语言：</p>\n<ul>\n").toList
    ++ languages.flatMap item ++ "\n</ul>\n</body>\n</html>\n".toList

/-- The index page of some languages. -/
def render (default : Text) (languages : List Language) : Text :=
  renderIn (some default) default languages

end Phrasebook.IndexPage
