import Phrasebook.Json.Parser
import Phrasebook.Text.Line

/-!
# Vocabularies

The vocabulary of a language maps identifiers to values, most of them phrases. Its file is a JSON
object in UTF-8.
-/

namespace Phrasebook

abbrev Vocabulary := Keyed Json

namespace Vocabulary

/-- Why bytes are no vocabulary. -/
inductive Fault
  | encoding (m : Text.Utf8.Malformed)
  | json (e : Json.Error)
  | notObject

/-- The vocabulary of a list of members. The last value of an identifier counts. -/
def ofMembers (members : List (WideText × Json)) : Vocabulary :=
  .ofLasts members

def ofText (t : Text) : Except Fault Vocabulary :=
  match Json.parse t.withLineFeeds with
  | .error e => .error (.json e)
  | .ok (.object members) => .ok (ofMembers members)
  | .ok _ => .error .notObject

def ofBytes (bytes : Bytes) : Except Fault Vocabulary :=
  match Text.Utf8.decode bytes with
  | .error m => .error (.encoding m)
  | .ok t => ofText t

end Vocabulary

end Phrasebook
