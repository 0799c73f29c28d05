import Phrasebook.Text.Basic

/-!
# Paths

A path is a list of names that is followed from a start, which is the working directory or the root
of all files. Written out, names are set apart by slashes; empty names and single dots say nothing
and are dropped, and the working directory itself is written as a dot. The name `..` stays where it
is written: what it leads back from may turn out to be no directory.
-/

namespace Phrasebook

/-- Where a path starts. Two slashes at the beginning are kept as they are, and lead to the root as
one does. -/
inductive Path.Start
  | here
  | root
  | doubleRoot
  deriving DecidableEq, Hashable

structure Path where
  start : Path.Start
  names : List Text
  deriving DecidableEq, Hashable

namespace Path

/-- The start that a text names with the slashes at its beginning. -/
def Start.ofText (t : Text) : Start :=
  match (t.takeWhile (· = '/')).length with
  | 0 => .here
  | 2 => .doubleRoot
  | _ => .root

def Start.toText : Start → Text
  | .here => []
  | .root => ['/']
  | .doubleRoot => ['/', '/']

/-- The names and dots in a text. -/
def steps (t : Text) : List Text :=
  (Text.cut (· = '/') t).filter (!·.isEmpty)

def ofText (t : Text) : Path :=
  ⟨.ofText t, (steps t).filter (· ≠ ['.'])⟩

def ofString (s : String) : Path :=
  ofText s.toList

/-- The path to the working directory. -/
def here : Path :=
  ⟨.here, []⟩

def toText (p : Path) : Text :=
  if p = here then ['.'] else p.start.toText ++ List.intercalate ['/'] p.names

/-- The path `q`, followed from `p` on if it does not start at the root. -/
def append (p q : Path) : Path :=
  if q.start = .here then ⟨p.start, p.names ++ q.names⟩ else q

/-- The path that a text names, followed from `p` on. -/
def join (p : Path) (t : Text) : Path :=
  p.append (ofText t)

/-- The last name of a path, empty where there is none. -/
def name (p : Path) : Text :=
  p.names.getLast?.getD []

/-- The path without its last name. -/
def parent (p : Path) : Path :=
  ⟨p.start, p.names.dropLast⟩

/-- The directory that a text names by its form alone, if it does: a dot at the end stands for the
directory before it, and a slash says that a directory is named, which lies in another one. -/
def directoryNamed? (t : Text) : Option Path :=
  if (steps t).getLast? = some ['.'] then some (ofText t)
  else if t.getLast? = some '/' then some (ofText t).parent
  else none

end Path

/-- A place is the list of names on the way to it from the root of all files. -/
abbrev Place := List Text

namespace Place

/-- The name that leads back to the directory that a place lies in. -/
def back : Text :=
  ['.', '.']

/-- The place that a name leads to. Nothing lies behind the root. -/
def step (q : Place) (name : Text) : Place :=
  if name = back then q.dropLast else q ++ [name]

/-- The place that some names lead to. -/
def follow (q : Place) (names : List Text) : Place :=
  names.foldl step q

/-- A place as it is written from the root on. -/
def toText (q : Place) : Text :=
  '/' :: List.intercalate ['/'] q

end Place

/-- The place where a path starts when `here` is the working directory. -/
def Path.Start.place (here : Place) : Path.Start → Place
  | .here => here
  | .root | .doubleRoot => []

/-- The place that a path leads to. -/
def Path.place (here : Place) (p : Path) : Place :=
  (p.start.place here).follow p.names

end Phrasebook
