import Phrasebook.Event
import Phrasebook.Failure

/-!
# Actions

An action works on a tree of files and a session with a server, reports events as it goes on, and
may fail. What was done before a failure stays done.
-/

namespace Phrasebook

/-- What actions work on: the files, the events reported and the calls made so far. -/
structure World where
  tree : FileTree
  events : List Event := []
  calls : List Http.Call := []

abbrev Action := ExceptT Failure (StateM World)

namespace Action

/-- The result of an action and the world behind it. -/
def runOn {α : Type} (action : Action α) (w : World) : Except Failure α × World :=
  action.run w

/-- The result of an action, failed or not. -/
def attempt {α : Type} (action : Action α) : Action (Except Failure α) := fun w =>
  let (result, w) := action.runOn w
  (.ok result, w)

/-- The action without the events below a level. -/
def reportingFrom {α : Type} (level : Level) (action : Action α) : Action α := fun w =>
  let (result, after) := action.runOn { w with events := [] }
  (result, { after with events := w.events ++ after.events.filter (Event.reaches level) })

def report (e : Event) : Action Unit :=
  modify fun w => { w with events := w.events ++ [e] }

def call (c : Http.Call) : Action Unit :=
  modify fun w => { w with calls := w.calls ++ [c] }

/-- The value, or the failure made from an error. -/
def ofExcept {ε α : Type} (failure : ε → Failure) : Except ε α → Action α
  | .ok a => pure a
  | .error e => throw (failure e)

/-- The value that a setting stands for, if it fits. -/
def fitting {α : Type} (value : Except Setting.Misfit α) : Action α :=
  ofExcept .setting value

/-- The path that a setting names. -/
def pathOf (s : Setting) : Action Path :=
  return .ofText (← fitting s.path)

/-- The path that a setting names, followed from `p` on. -/
def joined (p : Path) (s : Setting) : Action Path :=
  return p.join (← fitting s.part)

/-- A change of the tree of files. The failure names the path as the user wrote it. -/
def change (path : Text) (f : FileTree → Except FileTree.Problem FileTree) : Action Unit := do
  let w ← get
  match f w.tree with
  | .ok tree => set { w with tree }
  | .error problem => throw (.file problem path)

def bytesAt (p : Path) : Action Bytes := do
  let w ← get
  ofExcept (.file · p.toText) (w.tree.read p)

/-- The text of a file, with its line ends as they are. -/
def textAt (p : Path) : Action Text := do
  let bytes ← bytesAt p
  ofExcept .encoding (Text.Utf8.decode bytes)

def putBytes (p : Path) (content : Bytes) : Action Unit :=
  change p.toText (·.write p content)

/-- Writes a text to a file. The file is opened, and so emptied, before the text is encoded; a text
that is not narrow leaves it empty. -/
def putText (p : Path) (t : WideText) : Action Unit :=
  match t.narrow with
  | .ok t => putBytes p (Text.Utf8.encode t)
  | .error halves => do
    putBytes p []
    throw (.unencodable halves)

/-- Adds a text at the end of the file that the user named. -/
def addText (path : Text) (t : Text) : Action Unit :=
  change path fun tree => tree.appendNamed path (Text.Utf8.encode t)

/-- Makes the directory at the end of a way, whose names are given last one first. Those on the way
are made before it where they are missing, and stay when it cannot be made. -/
def makeWay (start : Path.Start) : List Text → Action Unit
  | [] => pure ()
  | name :: names => do
    let p : Path := ⟨start, (name :: names).reverse⟩
    let w ← get
    match w.tree.makeDirectory p with
    | .error .missing => makeWay start names
    | _ => pure ()
    change p.toText (·.makeDirectory p)

/-- Makes a directory and those on the way to it. -/
def makeDirectories (p : Path) : Action Unit :=
  makeWay p.start p.names.reverse

/-- Whether something stands at a path. -/
def contains (p : Path) : Action Bool := do
  let w ← get
  ofExcept (.file · p.toText) (w.tree.contains p)

end Action

end Phrasebook
