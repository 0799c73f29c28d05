import Phrasebook.Csv
import Phrasebook.Text.Blank

/-!
# The table of languages

Each record of the table describes a language: its code, its name in the language itself and its
name in English. The first record names the columns, in any order and among others. A language
without a name goes by its code; a record without a code is skipped.
-/

namespace Phrasebook

structure Language where
  code : Text
  native : Text
  english : Text
  deriving DecidableEq, Repr

namespace Language

def codeColumn : Text :=
  "code".toList

def nativeColumn : Text :=
  "native name".toList

def englishColumn : Text :=
  "english name".toList

/-- The field of a record in the last column of a name, if the record goes that far. -/
def field? (header record : List Text) (column : Text) : Option Text :=
  (header.zipIdx.reverse.find? (·.1 == column)).bind fun c => record[c.2]?

/-- The language that a record describes. -/
def ofRecord? (header record : List Text) : Option Language :=
  let field column := Text.strip ((field? header record column).getD [])
  let code := field codeColumn
  let orCode name := if name.isEmpty then code else name
  if code.isEmpty then none
  else some ⟨code, orCode (field nativeColumn), orCode (field englishColumn)⟩

/-- Why bytes are no table of languages. -/
inductive Fault
  | noCodeColumn
  | table (fault : Csv.Fault)
  | encoding (m : Text.Utf8.Malformed)

/-- The languages of a list of records. A missing column is noticed before anything that is wrong
with the records behind the first. -/
def ofRecords (records : List (List Text)) (fault : Option Fault) :
    Except Fault (List Language) :=
  match records, fault with
  | [], some fault => .error fault
  | [], none => .error .noCodeColumn
  | first :: records, fault =>
    let header := first.map Text.strip
    if !header.contains codeColumn then .error .noCodeColumn
    else match fault with
      | some fault => .error fault
      | none => .ok (records.filterMap (ofRecord? header))

/-- The languages of a table. -/
def ofText (t : Text) : Except Fault (List Language) :=
  let (records, fault) := Csv.records t
  ofRecords records (fault.map .table)

/-- The languages of a file, whose lines are read one after the other. -/
def ofBytes (bytes : Bytes) : Except Fault (List Language) :=
  match Text.Utf8.readLines bytes with
  | ⟨text, none⟩ => ofText text
  | ⟨text, some m⟩ =>
    let (records, fault) := Csv.endedRecords text
    ofRecords records (some ((fault.map .table).getD (.encoding m)))

end Language

end Phrasebook
