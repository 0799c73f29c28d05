import Phrasebook.Digest.Sha256
import Phrasebook.Publication

/-!
# Refreshing the source page

A refresh fetches the source page, stores it if it differs from the stored one, and publishes it if
it changed, if asked to, or if there is no publication yet. Pages are compared by their digests.
-/

namespace Phrasebook

namespace Refresh

/-- What is asked of a refresh. -/
structure Request where
  url : Option Setting := none
  directory : Option Setting := none
  force : Bool := false
  /-- Whether the session is opened for this refresh alone, and so has to be closed. -/
  ownSession : Bool := true
  timeout : Setting := .int 60
  /-- The file to which a line is added that says whether the page changed. -/
  outputFile : Option Text := none

structure Report where
  changed : Bool
  oldHash : Option Text
  freshHash : Text
  published : Bool

/-- Fetches a page. A malformed sequence of bytes is read as U+FFFD. -/
def fetch (answer : Http.Answer) (url : Setting) (ownSession : Bool) (timeout : Setting) :
    Action Text := do
  Action.report (.fetching url.display)
  Action.call (.get url timeout)
  if ownSession then
    Action.call .close
  let content ← Action.ofExcept .http (answer.content url.display)
  return Text.Utf8.decodeLenient content

/-- The digest of the stored page, if there is one. -/
def storedHash (page : Path) : Action (Option Text) := do
  if ← Action.contains page then
    let stored ← Action.textAt page
    return some (Digest.Sha256.ofText stored)
  else
    return none

/-- The line that says whether the page changed. -/
def outputLine (changed : Bool) : Text :=
  "changed=".toList ++ (if changed then "true\n" else "false\n").toList

/-- The address of the page; an empty one stands for the one of the settings. -/
def address (settings : Settings) (r : Request) : Setting :=
  (r.url.filter (!·.isEmpty)).getD settings.url

def run (answer : Http.Answer) (root : Path) (r : Request) (settings : Settings) :
    Action Report := do
  let page ← Action.joined root settings.sourcePage
  let directory := r.directory.getD settings.outputDirectory
  let published ← Action.joined root directory
  let fresh ← fetch answer (address settings r) r.ownSession r.timeout
  let freshHash := Digest.Sha256.ofText fresh
  let oldHash ← storedHash page
  let changed := oldHash != some freshHash
  if changed then
    Action.report (.pageChanged page.name)
    Action.putText page fresh.wide
  let due ← if changed || r.force then pure true else (!·) <$> Action.contains published
  if due then
    let publication ← Publication.publish root (some directory) settings
    Action.report (.published publication.pages.length publication.directory)
  match r.outputFile with
  | some (c :: t) => Action.addText (c :: t) (outputLine changed)
  | _ => pure ()
  return ⟨changed, oldHash, freshHash, due⟩

end Refresh

end Phrasebook
