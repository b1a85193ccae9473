import WatchTrial.CommandLine.Arguments
import WatchTrial.Trial

set_option autoImplicit false

namespace WatchTrial.CommandLine

/-- What a command comes to. -/
structure Report where
  status : Nat
  /-- What it shows. -/
  shown : String := ""
  /-- The lines of its log that are told. -/
  log : List String := []
  stop : Option Stop := none
  deriving DecidableEq

/-- What a failed command says in the end. -/
def complaint (message : String) : String := Text.Ansi.strip ("watcher-test: " ++ message)

/-- All that a command tells besides what it shows. -/
def Report.told (r : Report) : String :=
  Verdict.unlines
    (r.log ++
      match r.stop with
      | some (.failed f) => [complaint f.message]
      | _ => [])

/-- The status that a stop comes to. -/
def statusOf : Stop → Nat
  | .failed f => f.stage.status
  | .broken _ => 1

/-- The status for arguments that are not usable. -/
def unusable : Nat := 2

/-- What stands where an argument says. The name of a file does not end in a slash. -/
def find (t : Tree) (text : String) : Option Entry :=
  if text.isEmpty then none
  else
    match t.resolve (Path.ofString text) with
    | .ok (_, .file content executable) =>
        if [['/'], ['/', '.']].any fun ending => ending.isSuffixOf text.toList then none
        else some (.file content executable)
    | .ok (_, .directory) => some .directory
    | .error _ => none

def isFile (t : Tree) (text : String) : Bool :=
  match find t text with
  | some (.file ..) => true
  | _ => false

/-- What is wrong with arguments: they are not usable, or hold a NUL. -/
inductive Objection where
  | usage
  | nul
  deriving DecidableEq, Repr

/-- Checks one argument that names a file. -/
def check (acceptable : String → Bool) (text : String) : Except Objection Path :=
  if text.toList.contains '\x00' then .error .nul
  else if acceptable text then .ok (Path.ofString text)
  else .error .usage

/-- The request that arguments make, with the settings file. The settings file and the script have
to be there, and the results must not be a directory. -/
def request (t : Tree) (a : Arguments) : Except Objection (Option Path × Trial.Request) := do
  let settings ← a.settings.mapM (check (isFile t))
  match a.positional with
  | [] => .error .usage
  | script :: rest =>
      let script ← check (isFile t) script
      match rest with
      | [] => .error .usage
      | results :: rest =>
          let results ← check (fun text => find t text != some .directory) results
          match rest with
          | [base] =>
              return (settings,
                { script, results, base := Path.ofString base, build := !a.noBuild,
                  strict := a.strict, update := a.update })
          | _ => .error .usage

/-- The least level of what a command tells of its log. -/
def Arguments.level (a : Arguments) : Level := if a.verbose then .debug else .warning

/-- The log from a level on. -/
def told (least : Level) (log : List Record) : List String :=
  (log.filter fun r => least.rank ≤ r.level.rank).map Record.line

/-- Loads the settings and runs the trial. -/
def trial (launcher : Launcher) (environment : List (String × String)) (settings : Option Path)
    (r : Trial.Request) : Act Trial.Outcome := do
  let s ← Act.ofFunction fun w => (Settings.load w.tree settings environment, w)
  Trial.run launcher s r

/-- Runs the command with its arguments. -/
def run (launcher : Launcher) (environment : List (String × String)) (texts : List String)
    (w : World) : Report × World :=
  match Arguments.read texts with
  | none => ({ status := unusable }, w)
  | some a =>
      if a.help then ({ status := 0 }, w)
      else
        match request w.tree a with
        | .error .usage => ({ status := unusable }, w)
        | .error .nul => ({ status := 1, stop := some (.broken .nulCharacter) }, w)
        | .ok (settings, r) =>
            let (result, after) := (trial launcher environment settings r).run w
            let log := told a.level after.log
            match result with
            | .ok outcome => ({ status := outcome.status, shown := outcome.shown, log }, after)
            | .error s => ({ status := statusOf s, log, stop := some s }, after)

end WatchTrial.CommandLine
