import WatchTrial.Perform
import WatchTrial.Verdict.Expectation
import WatchTrial.Verdict.Report
import WatchTrial.Watcher

set_option autoImplicit false

/- A trial from end to end: the script is read, the watcher runs while its actions are performed,
and what the watcher reports is compared with what is expected, or becomes what is expected from
now on. Nothing is done before script and expected events have been read. -/

namespace WatchTrial.Trial

structure Request where
  script : Path
  results : Path
  /-- Script paths are seen from here; so many components of an event's path are dropped. -/
  base : Path
  build : Bool := true
  /-- Whether a mismatch shows in the status. -/
  strict : Bool := false
  /-- Whether the events become the expected ones instead of being compared. -/
  update : Bool := false

/-- What a trial comes to: its exit status and what it shows, without colours. -/
structure Outcome where
  status : Nat
  shown : String
  deriving DecidableEq, Repr

/-- The octets of a file. -/
def readFile (t : Tree) (p : Path) : Except Fault (Except SystemError Octets) :=
  if p.hasNul then .error .nulCharacter
  else .ok ((t.readFile p).mapError fun refusal => ⟨refusal, p.text, none⟩)

/-- The text of a file. -/
def readText (t : Tree) (p : Path) : Except Fault (List Char) := do
  match ← readFile t p with
  | .error e => .error (.system e)
  | .ok octets => (Text.Utf8.decode octets).mapError .undecodable

/-- The actions of a script file. -/
def readScript (script base : Path) : Act (List Action) := do
  let text ← Act.ofFunction fun w => ((readText w.tree script).mapError .broken, w)
  let actions ← Act.ofExcept
    ((Script.read base (Script.linesOf text)).mapError fun e => .failed (.script e))
  Act.note .debug .script
    ("Parsed " ++ toString actions.length ++ " actions from " ++ script.text)
  return actions

/-- The plan that the actions of a script make. -/
def plan (actions : List Action) : Act Script.Plan := do
  let plan ← Act.ofExcept
    ((Script.plan actions).mapError fun root => .failed (.setup (.lateRoot root)))
  if plan.roots.isEmpty then Act.note .warning .script "Script declares no watch roots"
  return plan

/-- The expected events in a file. -/
def readExpectation (t : Tree) (results : Path) : Except Fault (Except SystemError EventSet) := do
  match ← readFile t results with
  | .error e => return .error e
  | .ok octets => return .ok (← (Expectation.read octets).mapError .undecodable)

/-- The expected events in the file of a trial, which has to be readable. -/
def expectation (t : Tree) (results : Path) : Except Stop EventSet :=
  match readExpectation t results with
  | .error f => .error (.broken f)
  | .ok (.error e) => .error (.failed (.setup (.unreadableResults results e)))
  | .ok (.ok events) => .ok events

/-- Writes expected events to a file, in a directory that is made if it is missing. -/
def writeExpectation (t : Tree) (results : Path) (events : EventSet) : Except Fault Unit × Tree :=
  let above := results.parent
  if above.hasNul then (.error .nulCharacter, t)
  else
    match t.ensureDirectory above.names.length above with
    | (.error (refusal, p), left) => (.error (.system ⟨refusal, p.text, none⟩), left)
    | (.ok (), made) =>
        if results.hasNul then (.error .nulCharacter, made)
        else
          let changed := made.writeFile results (Expectation.write events)
          let result := changed.result.mapError fun refusal =>
            .system ⟨refusal, results.text, none⟩
          (result, changed.tree)

/-- What is settled before anything is done. -/
structure Preparation where
  plan : Script.Plan
  /-- The expected events, if there is to be a comparison. -/
  expected : Option EventSet

def prepare (s : Settings) (r : Request) : Act Preparation := do
  let plan ← plan (← readScript r.script r.base)
  if plan.roots.isEmpty && !s.allowEmptyRoots then Act.fail (.setup (.noRoots r.script))
  if r.update then return ⟨plan, none⟩
  let expected ← Act.ofFunction fun w => (expectation w.tree r.results, w)
  return ⟨plan, some expected⟩

/-- Performs the actions under the watcher and gives the lines that it wrote. -/
def observe (launcher : Launcher) (s : Settings) (r : Request) (plan : Script.Plan) :
    Act (List String) :=
  Act.followedBy
    (do
      if r.build then Watcher.build launcher s
      Watcher.start launcher s plan.roots
      let _ ← Action.performAll plan.actions
      Watcher.terminate s.terminateTimeout
      Act.look World.output)
    (Watcher.terminate s.terminateTimeout)

/-- The texts of the events that lines report. -/
def eventTexts (base : Path) (lines : List String) : Except Stop (List String) :=
  match Event.ofLines base lines with
  | .ok events => .ok (events.map Event.text)
  | .error line => .error (.failed (.output line))

/-- Compares events with the expected ones. -/
def judge (r : Request) (events : List String) (expected : EventSet) : Outcome :=
  let verdict := Verdict.compare events expected.members
  ⟨if r.strict && !verdict.passed then 1 else 0, verdict.report r.script.text r.results.text false⟩

/-- The message about new expected events. -/
def written (results : Path) : String := "Expected output written to " ++ results.text

/-- Makes events the expected ones. -/
def adopt (r : Request) (events : List String) : Act Outcome := do
  Act.ofFunction fun w =>
    let (result, tree) := writeExpectation w.tree r.results (EventSet.ofList events)
    (result.mapError .broken, { w with tree })
  return ⟨0, Text.Ansi.strip (Verdict.unlines [Text.Ansi.style .green false (written r.results)])⟩

/-- Runs a trial. -/
def run (launcher : Launcher) (s : Settings) (r : Request) : Act Outcome := do
  let ready ← prepare s r
  let lines ← observe launcher s r ready.plan
  Act.note .debug .trial ("Captured " ++ toString lines.length ++ " watcher lines")
  let events ← Act.ofExcept (eventTexts r.base lines)
  match ready.expected with
  | none => adopt r events
  | some expected => return judge r events expected

end WatchTrial.Trial
