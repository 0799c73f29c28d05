import Phrasebook.Vocabulary
import Phrasebook.FileTree.Basic
import Phrasebook.Http
import Phrasebook.Language
import Phrasebook.Settings
import Phrasebook.Styled.Basic

/-!
# Failures

Why an operation on files or the network failed, and how the user is told.
-/

namespace Phrasebook

inductive Failure
  | file (problem : FileTree.Problem) (path : Text)
  | encoding (m : Text.Utf8.Malformed)
  | unencodable (halves : WideText.Halves)
  | json (e : Json.Error)
  | notObject (path : Path)
  | noCodeColumn (path : Path)
  | fieldTooLong
  | settings (unknown : UnknownSettings)
  | setting (misfit : Setting.Misfit)
  | styled (fault : Styled.Fault)
  | http (fault : Http.Fault)

namespace Failure

/-- The failure to read the vocabulary at a path. -/
def ofVocabulary (path : Path) : Vocabulary.Fault → Failure
  | .encoding m => encoding m
  | .json e => json e
  | .notObject => notObject path

/-- The failure to read the table of languages at a path. -/
def ofLanguages (path : Path) : Language.Fault → Failure
  | .noCodeColumn => noCodeColumn path
  | .table .fieldTooLong => fieldTooLong
  | .encoding m => encoding m

/-- The number of a problem and what it says. -/
def problemText : FileTree.Problem → Text
  | .missing => "[Errno 2] No such file or directory: ".toList
  | .exists => "[Errno 17] File exists: ".toList
  | .notDirectory => "[Errno 20] Not a directory: ".toList
  | .isDirectory => "[Errno 21] Is a directory: ".toList
  | .nameTooLong => "[Errno 36] File name too long: ".toList
  | .nullCharacter => "embedded null byte".toList

def message : Failure → Text
  | file .nullCharacter _ => problemText .nullCharacter
  | file problem path => problemText problem ++ path.quoted
  | encoding m => m.message
  | unencodable halves => halves.message
  | json e => e.message
  | notObject path =>
    "Dictionary ".toList ++ path.toText ++ " must contain a JSON object.".toList
  | noCodeColumn path => "languages.csv missing 'code' column: ".toList ++ path.toText
  | fieldTooLong => "field larger than field limit (".toList ++ Text.decimal Csv.maxField ++ [')']
  | settings unknown => unknown.message
  | setting misfit => misfit.message
  | styled fault => fault.message
  | http fault => fault.message

end Failure

end Phrasebook
