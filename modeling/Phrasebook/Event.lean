import Phrasebook.FileTree.Path
import Phrasebook.Html.Elements

/-!
# Events

What a run reports as it goes on. An event has a level, and a quiet run leaves out the low ones.
-/

namespace Phrasebook

inductive Level
  | debug
  | info
  | warning
  deriving DecidableEq

namespace Level

def rank : Level → Nat
  | debug => 0
  | info => 1
  | warning => 2

def name : Level → Text
  | debug => "DEBUG".toList
  | info => "INFO".toList
  | warning => "WARNING".toList

end Level

inductive Event
  | readingVocabulary (path : Path)
  | notice (n : Html.Notice)
  | indexed (phrases nodes : Nat)
  | emptyGlossary (code : Text)
  | wrotePage (name : Text) (replacements : Nat)
  | fetching (url : Text)
  | pageChanged (name : Text)
  | published (pages : Nat) (directory : Path)

namespace Event

def level : Event → Level
  | readingVocabulary _ | notice _ => .debug
  | emptyGlossary _ => .warning
  | indexed .. | wrotePage .. | fetching _ | pageChanged _ | published .. => .info

def message : Event → Text
  | readingVocabulary path => "Loading dictionary '".toList ++ path.toText ++ "' ...".toList
  | notice n => n.message
  | indexed phrases nodes =>
    "Indexed ".toList ++ Text.decimal phrases ++ " patterns (".toList ++ Text.decimal nodes
      ++ " automaton nodes).".toList
  | emptyGlossary code => "No translations found for language '".toList ++ code ++ "'.".toList
  | wrotePage name replacements =>
    "Wrote ".toList ++ name ++ " (".toList ++ Text.decimal replacements ++ " replacements).".toList
  | fetching url => "Downloading ".toList ++ url ++ " ...".toList
  | pageChanged name => "Source page changed, writing ".toList ++ name ++ ".".toList
  | published pages directory =>
    "Built ".toList ++ Text.decimal pages ++ " pages in ".toList ++ directory.toText
      ++ ".".toList

/-- The event is at or above a level. -/
def reaches (level : Level) (e : Event) : Bool :=
  level.rank ≤ e.level.rank

end Event

end Phrasebook
