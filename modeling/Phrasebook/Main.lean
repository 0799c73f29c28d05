import Phrasebook.CommandLine.Run

/-!
# The program

The files below the working directory, and those that the command line names, are read into a tree,
the command line is run on it, and what it changed is written back. There is no network here: a
request is always refused.
-/

namespace Phrasebook

/-- A place on disk. -/
def onDisk (q : Place) : IO.FS.DirEntry :=
  ⟨String.ofList q.toText, ""⟩

/-- Adds what stands at a place on disk, and what lies below it, to a tree. -/
partial def loadPlace (tree : FileTree) (q : Place) : IO FileTree := do
  let path := (onDisk q).root
  if ← path.isDir then
    let mut tree := tree.put q .directory
    for entry in ← path.readDir do
      tree ← loadPlace tree (q ++ [entry.fileName.toList])
    return tree
  else if ← path.pathExists then
    return tree.put q (.file (← IO.FS.readBinFile path).toList)
  else
    return tree

/-- The same with the directories on the way to the place. -/
def loadWay (tree : FileTree) (q : Place) : IO FileTree := do
  let mut tree := tree
  for n in List.range q.length do
    let above := q.take n
    if ← (onDisk above).root.isDir then
      tree := tree.put above .directory
  loadPlace tree q

/-- The tree below the working directory, with what some words name elsewhere. A word may name it
behind an equals sign. -/
def loadTree (words : List Text) : IO FileTree := do
  let here := (Path.ofString (← IO.currentDir).toString).names
  let mut tree ← loadPlace (.empty here) here
  for word in words do
    for named in [word, (word.dropWhile (· ≠ '=')).drop 1] do
      let q := (Path.ofText named).place here
      unless here.isPrefixOf q do
        tree ← loadWay tree q
  return tree

/-- Writes the directories and the changed files of a tree. -/
def saveTree (before after : FileTree) : IO Unit := do
  for q in after.directories do
    IO.FS.createDirAll (onDisk q).root
  for (q, content) in FileTree.changed before after do
    IO.FS.writeBinFile (onDisk q).root ⟨content.toArray⟩

def printText (t : Text) : IO Unit :=
  IO.print (String.ofList t)

def printError (t : Text) : IO Unit :=
  IO.eprint (String.ofList t)

/-- Shows a run, and gives the code with which the program ends. -/
def present (outcome : CommandLine.Outcome) : IO UInt32 := do
  printText outcome.output
  printError outcome.errors
  match outcome.ending with
  | .returned code | .exited code => return code.toUInt32

end Phrasebook

open Phrasebook in
def main (words : List String) : IO UInt32 := do
  let outputFile := (← IO.getEnv "GITHUB_OUTPUT").map String.toList
  let words := words.map String.toList
  let tree ← loadTree (words ++ outputFile.toList)
  let refused : Http.Answer := .refused "The network cannot be reached.".toList
  let run := CommandLine.run ⟨refused, outputFile⟩ words
  let (result, world) := run.runOn { tree }
  saveTree tree world.tree
  for event in world.events do
    printError (event.level.name ++ ' ' :: event.message ++ ['\n'])
  match result with
  | .ok outcome => present outcome
  | .error failure =>
    printError (failure.message ++ ['\n'])
    return 1
