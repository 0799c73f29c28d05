import Phrasebook.Json.Basic
import Phrasebook.Text.Quoted

/-!
# The value of a setting

Most settings are texts, and two are lists of names, but a value of any kind may be given for each.
Where a setting is used, a value of an unfit kind is refused with a message that names the kind; a
text is wanted in many places only to be shown, and there every value is shown as what it is.
-/

namespace Phrasebook

/-- A setting may be given any value that can be written in JSON. -/
abbrev Setting := Value Text

namespace Setting

/-- The kind of a value as messages name it. -/
def kind : Setting → Text
  | .null => "NoneType".toList
  | .bool _ => "bool".toList
  | .int _ => "int".toList
  | .decimal _ => "float".toList
  | .text _ => "str".toList
  | .array _ => "list".toList
  | .object _ => "dict".toList

/-! ## Showing a value -/

mutual

/-- The value as it is shown inside of others, where texts stand between quotes. -/
def quoted : Setting → Text
  | .null => "None".toList
  | .bool b => if b then "True".toList else "False".toList
  | .int n => Text.integer n
  | .decimal d => d.toText
  | .text t => t.quoted
  | .array items => '[' :: List.intercalate ", ".toList (quotedItems items) ++ [']']
  | .object members => '\x7b' :: List.intercalate ", ".toList (quotedMembers members) ++ ['\x7d']

def quotedItems : List Setting → List Text
  | [] => []
  | s :: items => s.quoted :: quotedItems items

def quotedMembers : List (Text × Setting) → List Text
  | [] => []
  | (name, s) :: members => (name.quoted ++ ": ".toList ++ s.quoted) :: quotedMembers members

end

/-- The value as it is shown by itself. -/
def display : Setting → Text
  | .text t => t
  | s => s.quoted

/-! ## Using a value -/

/-- A value that has nothing in it stands for no value in some places. -/
def isEmpty : Setting → Bool
  | .null => true
  | .bool b => !b
  | .int n => n = 0
  | .decimal d => d.isZero
  | .text t => t.isEmpty
  | .array items => items.isEmpty
  | .object members => members.isEmpty

/-- The value is this very text. -/
def isText (t : Text) : Setting → Bool
  | .text u => u = t
  | _ => false

/-- Why a value cannot be used where it was given. -/
inductive Misfit
  /-- Neither a path nor a text that names one. -/
  | noPath (value : Setting)
  /-- Nothing that could be followed from a path on. -/
  | noPart (value : Setting)
  /-- Nothing that holds names. -/
  | noNames (value : Setting)
  /-- Among names, but none. -/
  | noName (value : Setting)
  /-- Among texts to be joined, at some position, but none. -/
  | noText (position : Nat) (value : Setting)

def Misfit.message : Misfit → Text
  | noPath v => "expected str, bytes or os.PathLike object, not ".toList ++ v.kind
  | noPart v => "unsupported operand type(s) for /: 'PosixPath' and '".toList ++ v.kind ++ ['\'']
  | noNames v => '\'' :: v.kind ++ "' object is not iterable".toList
  | noName v => '\'' :: v.kind ++ "' object has no attribute 'lower'".toList
  | noText position v =>
    "sequence item ".toList ++ Text.decimal position ++ ": expected str instance, ".toList
      ++ v.kind ++ " found".toList

/-- The text that names a path by itself. -/
def path : Setting → Except Misfit Text
  | .text t => .ok t
  | s => .error (.noPath s)

/-- The text that names a path to be followed from another one on. -/
def part : Setting → Except Misfit Text
  | .text t => .ok t
  | s => .error (.noPart s)

def name : Setting → Except Misfit Text
  | .text t => .ok t
  | s => .error (.noName s)

/-- The names that a value holds: the characters of a text, the items of a list, the names of a
table's members. -/
def names : Setting → Except Misfit (List Text)
  | .text t => .ok (t.map ([·]))
  | .array items => items.mapM name
  | .object members => .ok (members.map Prod.fst)
  | s => .error (.noNames s)

/-- A list of names. -/
def ofNames (ns : List Text) : Setting :=
  .array (ns.map .text)

theorem mapM_name_map_text : ∀ ns : List Text, (ns.map Value.text).mapM name = .ok ns
  | [] => rfl
  | n :: ns => by
    rw [List.map_cons, List.mapM_cons, mapM_name_map_text ns]
    rfl

/-- The texts among which the first is the one at a position. -/
def texts (position : Nat) : List Setting → Except Misfit (List Text)
  | [] => .ok []
  | .text t :: items => (t :: ·) <$> texts (position + 1) items
  | s :: _ => .error (.noText position s)

/-- The value of an attribute: nothing for no value, the texts of a list with blanks between them,
and any other value as it is shown. -/
def attributeValue : Setting → Except Misfit (Option Text)
  | .null => .ok none
  | .array items => (fun ts => some (List.intercalate [' '] ts)) <$> texts 0 items
  | s => .ok (some s.display)

end Setting

end Phrasebook
