import Phrasebook.FileTree.Path
import Phrasebook.Text.Utf8

/-!
# File trees

A file tree says what stands at each place: a directory, or a file with its bytes. A path is gone
from its start on, name by name, and leads through directories only; neither a name nor a whole path
may be too long. An operation that cannot be carried out says why and changes nothing.
-/

namespace Phrasebook

inductive FileTree.Entry
  | directory
  | file (content : Bytes)
  deriving DecidableEq

structure FileTree where
  /-- The working directory. -/
  here : Place := []
  entries : List (Place × FileTree.Entry)

namespace FileTree

/-- Why an operation on a path cannot be carried out. -/
inductive Problem
  | missing
  | exists
  | notDirectory
  | isDirectory
  | nameTooLong
  /-- A name holds the null character. -/
  | nullCharacter
  deriving DecidableEq

def empty (here : Place) : FileTree :=
  ⟨here, []⟩

/-- What stands at a place. The working directory and those that it lies in are always there. -/
def get? (t : FileTree) (q : Place) : Option Entry :=
  if q.isPrefixOf t.here then some .directory else t.entries.lookup q

/-- The tree with something put at a place. -/
def put (t : FileTree) (q : Place) (e : Entry) : FileTree :=
  ⟨t.here, (q, e) :: t.entries.filter fun f => f.1 != q⟩

/-- The most bytes of a name, and of a path as it is written. -/
def maxName : Nat := 255

def maxPath : Nat := 4095

/-- The place that some names lead to from the place `q`, if the way there is open. -/
def locateFrom (t : FileTree) (q : Place) : List Text → Except Problem Place
  | [] => .ok q
  | name :: names => match t.get? q with
    | some .directory =>
      if maxName < Text.Utf8.size name then .error .nameTooLong
      else t.locateFrom (q.step name) names
    | some (.file _) => .error .notDirectory
    | none => .error .missing

/-- The place that a path leads to, if the way there is open. -/
def locate (t : FileTree) (p : Path) : Except Problem Place :=
  if p.names.any (·.contains '\x00') then .error .nullCharacter
  else if maxPath < Text.Utf8.size p.toText then .error .nameTooLong
  else t.locateFrom (p.start.place t.here) p.names

/-- What stands where a path leads to. -/
def find (t : FileTree) (p : Path) : Except Problem (Option Entry) :=
  t.get? <$> t.locate p

def read (t : FileTree) (p : Path) : Except Problem Bytes :=
  match t.find p with
  | .error e => .error e
  | .ok none => .error .missing
  | .ok (some .directory) => .error .isDirectory
  | .ok (some (.file content)) => .ok content

/-- The tree with a file's bytes replaced by `change` of them; a file that is not there has none. -/
def update (t : FileTree) (p : Path) (change : Bytes → Bytes) : Except Problem FileTree :=
  match t.locate p with
  | .error e => .error e
  | .ok q => match t.get? q with
    | none => .ok (t.put q (.file (change [])))
    | some .directory => .error .isDirectory
    | some (.file content) => .ok (t.put q (.file (change content)))

def write (t : FileTree) (p : Path) (content : Bytes) : Except Problem FileTree :=
  t.update p fun _ => content

def append (t : FileTree) (p : Path) (content : Bytes) : Except Problem FileTree :=
  t.update p (· ++ content)

/-- The bytes are appended to the file that a text names. A text that names a directory by its form
is refused. -/
def appendNamed (t : FileTree) (name : Text) (content : Bytes) : Except Problem FileTree :=
  if maxPath < Text.Utf8.size name then .error .nameTooLong
  else match Path.directoryNamed? name with
    | none => t.append (.ofText name) content
    | some p => match t.find p with
      | .error e => .error e
      | .ok none => .error .missing
      | .ok (some .directory) => .error .isDirectory
      | .ok (some (.file _)) => .error .notDirectory

/-- Whether something stands at a path. Nothing does where no way can lead; only a name that is too
long is a problem here too. -/
def contains (t : FileTree) (p : Path) : Except Problem Bool :=
  match t.find p with
  | .ok e => .ok e.isSome
  | .error .nameTooLong => .error .nameTooLong
  | .error _ => .ok false

/-- The tree with a directory at a path, where one may stand already. -/
def makeDirectory (t : FileTree) (p : Path) : Except Problem FileTree :=
  match t.locate p with
  | .error e => .error e
  | .ok q => match t.get? q with
    | none => .ok (t.put q .directory)
    | some .directory => .ok t
    | some (.file _) => .error .exists

/-- The tree without what stands at a path and below it. -/
def remove (t : FileTree) (p : Path) : Except Problem FileTree :=
  match t.locate p with
  | .error e => .error e
  | .ok q => match t.get? q with
    | none => .error .missing
    | some _ => .ok ⟨t.here, t.entries.filter fun f => !q.isPrefixOf f.1⟩

/-- The files and directories, each in the order of their places as written. -/
def files (t : FileTree) : List (Place × Bytes) :=
  (t.entries.filterMap fun f => match f.2 with
    | .file content => some (f.1, content)
    | .directory => none).mergeSort fun a b => !decide (b.1.toText < a.1.toText)

def directories (t : FileTree) : List Place :=
  (t.entries.filterMap fun f => match f.2 with
    | .directory => some f.1
    | .file _ => none).mergeSort fun a b => !decide (b.toText < a.toText)

/-- The files that are in `after` with bytes that `before` does not have for them. -/
def changed (before after : FileTree) : List (Place × Bytes) :=
  let old := before.files
  after.files.filter fun f => old.lookup f.1 != some f.2

/-- The files of `before` that are not in `after`. -/
def removed (before after : FileTree) : List Place :=
  let new := after.files
  (before.files.filter fun f => (new.lookup f.1).isNone).map Prod.fst

end FileTree

end Phrasebook
