import Phrasebook.CommandLine.Usage
import Phrasebook.Refresh
import Phrasebook.SummaryTable

/-!
# Running a command line

A command line is read, and what it asks for is done. A failure of a command is told on the error
stream and ends the run with code one; so does a command line without a command, which shows the
help text. Help that is asked for, and misuse, end the run before any command.
-/

namespace Phrasebook.CommandLine

/-- How a run ends: behind a command with its code, or before any command. -/
inductive Ending
  | returned (code : Nat)
  | exited (code : Nat)

/-- A run as it is seen from outside: its ending, and the texts on its two streams. -/
structure Outcome where
  ending : Ending
  output : Text := []
  errors : Text := []

/-- What a run finds around it: a server, and the file to which a refresh adds a line. -/
structure Surroundings where
  answer : Http.Answer
  outputFile : Option Text

/-- The outcome of a command that failed. -/
def Outcome.ofFailure (f : Failure) : Outcome :=
  ⟨.returned 1, [], "Error: ".toList ++ f.message ++ ['\n']⟩

/-- The outcome of a command that attempts something and finishes with what comes of it. A failure
of the attempt is told; one in the finish is left to the caller. -/
def attempting {α : Type} (x : Action α) (finish : α → Action Text) : Action Outcome := do
  match ← x.attempt with
  | .error f => return .ofFailure f
  | .ok a => return ⟨.returned 0, ← finish a, []⟩

/-- The publication that is asked for. -/
def BuildOptions.publication (o : BuildOptions) : Action Publication := do
  Publication.publish (← Action.pathOf o.root) none
    { outputDirectory := o.directory, defaultLanguage := o.defaultLanguage }

/-- Shows the table of a publication if it is asked for, and names the directory. -/
def BuildOptions.finish (o : BuildOptions) (publication : Publication) : Action Text := do
  let table ← if o.summary then Action.ofExcept .styled (SummaryTable.render publication)
    else pure []
  let note :=
    if o.quiet then []
    else "Generated site: ".toList ++ publication.directory.toText ++ ['\n']
  return table ++ note

/-- A member of the report of a refresh, as a line of a JSON object. -/
def reportLine (name : String) (value : Text) : Text :=
  "  \"".toList ++ name.toList ++ "\": ".toList ++ value

def showBool (b : Bool) : Text :=
  if b then "true".toList else "false".toList

/-- A digest between double quotes; nothing in it needs to be escaped. -/
def showHash (hash : Text) : Text :=
  '"' :: hash ++ ['"']

/-- The report of a refresh as a JSON object. -/
def showReport (r : Refresh.Report) : Text :=
  let members :=
    [reportLine "changed" (showBool r.changed),
      reportLine "old_hash" ((r.oldHash.map showHash).getD "null".toList),
      reportLine "fresh_hash" (showHash r.freshHash), reportLine "built" (showBool r.published)]
  "\x7b\n".toList ++ List.intercalate ",\n".toList members ++ "\n\x7d\n".toList

/-- The refresh that is asked for. -/
def UpdateOptions.report (s : Surroundings) (o : UpdateOptions) : Action Refresh.Report := do
  Refresh.run s.answer (← Action.pathOf o.root)
    { url := some o.url, directory := some o.directory, force := o.force,
      outputFile := s.outputFile } {}

/-- The page that is asked for, and the number of its replacements. -/
def LocalizeOptions.localized (o : LocalizeOptions) : Action (WideText × Nat) := do
  Publication.localizeOne o.page o.language.display (← Action.pathOf o.root) {}

/-- Shows a localized page, or writes it to the file that is named for it. -/
def LocalizeOptions.finish (o : LocalizeOptions) (localized : WideText × Nat) : Action Text :=
  match o.output with
  | none => Action.ofExcept .unencodable localized.1.narrow
  | some output => do
    let path ← Action.pathOf output
    Action.putText path localized.1
    return if o.quiet then []
      else "Localized ".toList ++ o.page.toText ++ " → ".toList ++ path.toText ++ " (".toList
        ++ Text.decimal localized.2 ++ " replacement(s))\n".toList

/-- The least level of the events that a run reports. -/
def levelOf (quiet : Bool) : Level :=
  if quiet then .warning else .info

def Command.perform (s : Surroundings) : Command → Action Outcome
  | .build o => Action.reportingFrom (levelOf o.quiet) (attempting o.publication o.finish)
  | .update o =>
    Action.reportingFrom (levelOf false)
      (attempting (o.report s) fun report => return showReport report)
  | .localize o => Action.reportingFrom (levelOf o.quiet) (attempting o.localized o.finish)

def Request.perform (s : Surroundings) : Request → Action Outcome
  | .nothing => return ⟨.returned 1, [], helpText none⟩
  | .help verb => return ⟨.exited 0, helpText verb, []⟩
  | .misuse verb m => return ⟨.exited 2, [], complaint verb m⟩
  | .command c => c.perform s

/-- Does what a list of words asks for. -/
def run (s : Surroundings) (ts : List Text) : Action Outcome :=
  (Request.ofWords ts).perform s

end Phrasebook.CommandLine
