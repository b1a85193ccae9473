import WatchTrial.CommandLine
import WatchTrial.Shell.Launch

set_option autoImplicit false

/- The command. What is in the working directory is read in, the trial is run on it, and what the
trial has changed is written back. -/

namespace WatchTrial.Main

/-- A file is taken to be executable if it names its interpreter. -/
def isExecutable (content : Octets) : Bool := content.take 2 == [35, 33]

/-- All that is in a directory, each entry in front of what is below it. -/
partial def readEntries (directory : IO.FS.DirEntry) (location : Location) :
    IO (List (Location × Entry)) := do
  let mut entries := #[]
  for found in ← directory.path.readDir do
    let place := location ++ [found.fileName.toList]
    if ← found.path.isDir then
      entries := entries.push (place, Entry.directory) ++ (← readEntries found place)
    else
      let content := (← IO.FS.readBinFile found.path).toList
      entries := entries.push (place, Entry.file content (isExecutable content))
  return entries.toList

/-- The directories that lead to a location, and the location itself. -/
def directoriesTo (location : Location) : List (Location × Entry) :=
  (List.range location.length).map fun n => (location.take (n + 1), Entry.directory)

def pathOf (location : Location) : String := "/" ++ String.ofList (Text.join '/' location)

def isDirectory : Option Entry → Bool
  | some .directory => true
  | _ => false

/-- Removes what is no longer there, or no longer of the same kind. -/
def removeOld (before after : Tree) : IO Unit := do
  for (location, entry) in before.entries.reverse do
    let kept := after.get? location
    if isDirectory (some entry) then
      if !isDirectory kept then IO.FS.removeDirAll (pathOf location)
    else if kept.isNone || isDirectory kept then IO.FS.removeFile (pathOf location)

/-- Makes what is new and writes what has changed. -/
def writeNew (before after : Tree) : IO Unit := do
  for (location, entry) in after.entries.mergeSort fun a b => a.1.length ≤ b.1.length do
    if before.get? location != some entry then
      match entry with
      | .directory => IO.FS.createDirAll (pathOf location)
      | .file content _ => IO.FS.writeBinFile (pathOf location) ⟨content.toArray⟩

/-- Runs the command in the working directory. -/
def run (arguments : List String) : IO UInt32 := do
  let directory ← IO.currentDir
  let here := (Path.ofString directory.toString).names
  let found ← readEntries ⟨directory, "."⟩ here
  let before : Tree := { entries := directoriesTo here ++ found, here }
  let target := (← IO.getEnv Settings.targetVariable).getD ""
  let clock ← IO.monoNanosNow
  let (report, after) :=
    CommandLine.run Shell.launcher [(Settings.targetVariable, target)] arguments
      { tree := before, clock, timed := true }
  removeOld before after.tree
  writeNew before after.tree
  IO.print report.shown
  IO.eprint report.told
  if let some (.broken f) := report.stop then IO.eprintln f.message
  return report.status.toUInt32

end WatchTrial.Main

def main (arguments : List String) : IO UInt32 := WatchTrial.Main.run arguments
