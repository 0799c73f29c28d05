import Phrasebook.Text.Line

/-!
# Comma-separated tables

A table is a list of records, one a line, and a record a list of fields set apart by commas. Spaces
before a field are skipped. A field between double quotes may hold commas and line breaks, and
quotes written twice; what follows its last quote is added to it. A line ends with a line feed, a
carriage return or both.
-/

namespace Phrasebook.Csv

/-- The most characters that a field may have. -/
def maxField : Nat := 131072

/-- What the next character continues. -/
inductive Place
  | line
  /-- A line behind a carriage return, which a line feed still belongs to. -/
  | lineAfterReturn
  | field
  | plain
  | quoted
  /-- A quoted field behind a quote, which may be its last character or the first of two. -/
  | quote
  deriving DecidableEq

/-- A field has grown too long. -/
inductive Fault
  | fieldTooLong

/-- A reader's place, the field begun and the number of its characters, the fields of the line
before it, and the records before the line, each with the last part first. -/
structure Reader where
  place : Place := .line
  field : Text := []
  length : Nat := 0
  fields : List Text := []
  records : List (List Text) := []

namespace Reader

def add (r : Reader) (place : Place) (c : Char) : Except Fault Reader :=
  if maxField ≤ r.length then .error .fieldTooLong
  else .ok { r with place, field := c :: r.field, length := r.length + 1 }

/-- Ends the field begun. -/
def save (r : Reader) (place : Place) : Reader :=
  { r with place, field := [], length := 0, fields := r.field.reverse :: r.fields }

/-- Ends the line; `c` is the line break. -/
def endLine (r : Reader) (c : Char) : Reader :=
  { r with
    place := if c = '\r' then .lineAfterReturn else .line
    fields := []
    records := r.fields.reverse :: r.records }

/-- Reads a character where a field may begin. -/
def readField (r : Reader) (c : Char) : Except Fault Reader :=
  if Text.isLineBreak c then .ok ((r.save .field).endLine c)
  else if c = '"' then .ok { r with place := .quoted }
  else if c = ' ' then .ok { r with place := .field }
  else if c = ',' then .ok (r.save .field)
  else r.add .plain c

/-- Reads a character where a line may begin. -/
def readLine (r : Reader) (c : Char) : Except Fault Reader :=
  if Text.isLineBreak c then .ok (r.endLine c) else r.readField c

def read (r : Reader) (c : Char) : Except Fault Reader :=
  match r.place with
  | .line => r.readLine c
  | .lineAfterReturn => if c = '\n' then .ok { r with place := .line } else r.readLine c
  | .field => r.readField c
  | .plain =>
    if Text.isLineBreak c then .ok ((r.save .field).endLine c)
    else if c = ',' then .ok (r.save .field)
    else r.add .plain c
  | .quoted => if c = '"' then .ok { r with place := .quote } else r.add .quoted c
  | .quote =>
    if Text.isLineBreak c then .ok ((r.save .field).endLine c)
    else if c = ',' then .ok (r.save .field)
    else r.add (if c = '"' then .quoted else .plain) c

/-- Reads the end of the table, which ends a line that has begun. -/
def finish (r : Reader) : Reader :=
  match r.place with
  | .line | .lineAfterReturn => r
  | _ => (r.save .field).endLine '\n'

/-- Reads a text up to the first fault. -/
def readAll (r : Reader) : Text → Reader × Option Fault
  | [] => (r, none)
  | c :: t => match r.read c with
    | .error e => (r, some e)
    | .ok r => r.readAll t

end Reader

/-- The records that end within a text, and the fault that cuts it short. -/
def endedRecords (t : Text) : List (List Text) × Option Fault :=
  let (r, fault) := Reader.readAll {} t
  (r.records.reverse, fault)

/-- The records of a table, and the fault that cuts it short. -/
def records (t : Text) : List (List Text) × Option Fault :=
  match Reader.readAll {} t with
  | (r, none) => (r.finish.records.reverse, none)
  | (r, some fault) => (r.records.reverse, some fault)

end Phrasebook.Csv
