import Phrasebook.CommandLine.Grammar
import Phrasebook.FileTree.Path
import Phrasebook.Settings

/-!
# Commands

The first argument of a command line names a command: to publish the source page in all languages,
to refresh it first, or to localize a single page. What stands behind it is read by the command's
own grammar.
-/

namespace Phrasebook.CommandLine

inductive Verb
  | build
  | update
  | localize
  deriving DecidableEq

structure BuildOptions where
  root : Setting
  directory : Setting
  defaultLanguage : Setting
  summary : Bool
  quiet : Bool

structure UpdateOptions where
  root : Setting
  url : Setting
  directory : Setting
  force : Bool

structure LocalizeOptions where
  page : Path
  language : Setting
  root : Setting
  output : Option Setting
  quiet : Bool

inductive Command
  | build (o : BuildOptions)
  | update (o : UpdateOptions)
  | localize (o : LocalizeOptions)

namespace Verb

def all : List Verb :=
  [build, update, localize]

def name : Verb → Text
  | build => "build".toList
  | update => "update".toList
  | localize => "localize".toList

def switch (name : String) : Flag :=
  { names := [name.toList] }

def option (name : String) : Flag :=
  { names := [name.toList], takesValue := true }

def grammar : Verb → Grammar
  | build =>
    ⟨[option "--repo-root", option "--output-dir", option "--default-language",
      switch "--summary", switch "--quiet"], []⟩
  | update =>
    ⟨[option "--repo-root", option "--url", option "--output-dir", switch "--force"], []⟩
  | localize =>
    ⟨[{ option "--lang" with required := true }, option "--repo-root", option "--output",
      switch "--quiet"], [⟨"page".toList, .one, true⟩]⟩

/-- The value of an option: the word given to it, or an empty list without one. -/
def value? (p : Parsed) (name : String) : Option Setting :=
  (p.option? name).map fun
    | [t] => .text t
    | ts => .ofNames ts

/-- The command that a parsed command line stands for. What is not given has its default. -/
def command (p : Parsed) : Verb → Command
  | build => .build
    { root := (value? p "--repo-root").getD (.text ['.'])
      directory := (value? p "--output-dir").getD ({} : Settings).outputDirectory
      defaultLanguage := (value? p "--default-language").getD ({} : Settings).defaultLanguage
      summary := p.has "--summary"
      quiet := p.has "--quiet" }
  | update => .update
    { root := (value? p "--repo-root").getD (.text ['.'])
      url := (value? p "--url").getD ({} : Settings).url
      directory := (value? p "--output-dir").getD ({} : Settings).outputDirectory
      force := p.has "--force" }
  | localize => .localize
    { page := .ofText (((p.argument? "page").bind List.head?).getD [])
      language := (value? p "--lang").getD (.text [])
      root := (value? p "--repo-root").getD (.text ['.'])
      output := value? p "--output"
      quiet := p.has "--quiet" }

end Verb

/-- The grammar of the whole command line: an argument that takes the command and all behind it. -/
def topGrammar : Grammar :=
  ⟨[], [⟨"command".toList, .rest, false⟩]⟩

/-- What a command line asks for. The verb says whose help or usage text is shown; without one it is
that of the program. -/
inductive Request
  | nothing
  | help (verb : Option Verb)
  | misuse (verb : Option Verb) (m : Misuse)
  | command (c : Command)

def Request.ofStop (verb : Option Verb) : Stop → Request
  | .help => help verb
  | .misuse m => misuse verb m

/-- The request, unless words are left over. -/
def Request.unlessSurplus (surplus : List Text) (r : Request) : Request :=
  if surplus.isEmpty then r else misuse none (.unrecognized surplus)

/-- What a list of words asks for. -/
def Request.ofWords (ts : List Text) : Request :=
  match topGrammar.parse ts with
  | .error stop => ofStop none stop
  | .ok top => match top.argument? "command" with
    | none | some [] => unlessSurplus top.surplus nothing
    | some (name :: ts) => match Verb.all.find? (·.name = name) with
      | none => misuse none (.unknownCommand name (Verb.all.map Verb.name))
      | some verb => match verb.grammar.parse ts with
        | .error stop => ofStop (some verb) stop
        | .ok p => unlessSurplus (top.surplus ++ p.surplus) (command (verb.command p))

end Phrasebook.CommandLine
