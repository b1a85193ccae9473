import WatchTrial.Settings
import WatchTrial.World

set_option autoImplicit false

namespace WatchTrial.Watcher

def hasNul (word : String) : Bool := word.toList.contains '\x00'

/-- Starts a program. A word with a NUL is no argument. -/
def launch (launcher : Launcher) (purpose : Purpose) (words : List String)
    (refused : SystemError → LaunchFault) : Act Process :=
  Act.ofFunction fun w =>
    if words.any hasNul then (.error (.broken .nulCharacter), w)
    else
      match launcher w.tree words with
      | .error refusal => (.error (.failed (.launch (refused ⟨refusal, words.headD "", none⟩))), w)
      | .ok process => (.ok process, { w with launches := w.launches ++ [⟨purpose, words⟩] })

/-- What a program has written, as text with line feeds for all line ends. -/
def textOf (octets : Octets) : Except Stop (List Char) :=
  match Text.Utf8.decode octets with
  | .ok text => .ok (Text.unifyEnds text)
  | .error f => .error (.broken (.undecodable f))

/-- A build when all of its processes have ended, and the tree that they leave. -/
def finished (p : Process) (t : Tree) : Child × Tree :=
  let s := Scene.runUntil Child.isSettled none Scene.turns ⟨t, 0, .ofProcess p 0⟩
  (s.child, s.tree)

/-- How a program has ended; one of which the end was not awaited counts as killed. -/
def ending (c : Child) : Ending := c.main.process.ending?.getD (.signalled Task.kill)

/-- What an ended build comes to. All that it wrote is read, and has to be text, before its status
is looked at. -/
def judgeBuild (c : Child) : Except Stop Unit := do
  let _ ← textOf c.output
  let errors ← textOf c.errors
  let status := (ending c).status
  if status ≠ 0 then
    .error (.failed (.launch (.buildFailed status (String.ofList (Text.trim Text.isBlank errors)))))

/-- Builds the watcher, unless that has been done or there is nothing to run. -/
def build (launcher : Launcher) (s : Settings) : Act Unit := do
  let built ← Act.look fun w => w.built
  match s.buildCommand with
  | [] => return
  | program :: arguments =>
      if !built then
        let words := program :: arguments
        Act.note .info .watcher ("Building watcher: " ++ " ".intercalate words)
        let process ← launch launcher .build words (.buildRefused program)
        let ran ← Act.ofFunction fun w =>
          let (ran, tree) := finished process w.tree
          (.ok ran, { w with tree })
        Act.ofExcept (judgeBuild ran)
        Act.change fun w => { w with built := true }

/-- The words that start the watcher on the given directories. -/
def words (s : Settings) (roots : List Path) : List String := s.command ++ roots.map Path.text

/-- Gives a watcher that has just been started its time of grace. No stage answers for a pause that
the operating system refuses. -/
def grace (s : Settings) : Act Unit :=
  if s.startupGrace.isPositive then
    Act.nap (.grace s.startupGrace) fun refusal => .broken (.system ⟨refusal, none, none⟩)
  else pure ()

/-- Starts the watcher. -/
def start (launcher : Launcher) (s : Settings) (roots : List Path) : Act Unit := do
  if ← Act.look fun w => w.child.isSome then Act.fail (.launch .alreadyStarted)
  let words := words s roots
  Act.note .info .watcher ("Starting watcher: " ++ " ".intercalate words)
  let process ← launch launcher .watch words (.startRefused (words.headD ""))
  Act.change fun w =>
    { w with child := some (.ofProcess process w.clock), reading := true, writtenOff := false }
  grace s

/-- A number of seconds as a time limit; without one there is no end to waiting. -/
def limit (timeout : Binary64) (now : Nat) : Option Nat := timeout.billionths?.map (now + ·)

/-- Asks a running watcher to end and ends it if it does not within its time. -/
def halt (timeout : Binary64) (w : World) : World :=
  let asked := w.signalWatcher Process.termination
  if asked.isWatching then
    match limit timeout asked.clock with
    | none => asked.afterWatcher.signalWatcher Task.kill
    | some last =>
        let after := asked.advance (!·.isRunning) (some last)
        if after.isWatching then
          { after.signalWatcher Task.kill with
            clock := max after.clock last
            log := after.log ++ [⟨.warning, .watcher,
              "Watcher ignored SIGTERM for " ++ timeout.oneDecimal ++ "s, killing it"⟩] }
        else after
  else asked

/-- Waits for the rest of the output. A reader that is at work when it cannot be waited for is
written off. -/
def awaitReader (timeout : Binary64) (w : World) : Except Stop Unit × World :=
  match timeout.timeFault? with
  | some f => (.error (.broken f), { w with writtenOff := !w.child.all Child.isReleased })
  | none =>
      let last := w.clock + timeout.billionths?.getD 0
      let after := w.advance Child.isReleased (some last)
      if after.child.all Child.isReleased then (.ok (), { after with reading := false })
      else
        (.ok (), { after with
          clock := max after.clock last
          reading := false
          log := after.log ++ [⟨.warning, .watcher,
            "Watcher output reader did not finish; output may be partial"⟩] })

/-- Ends the watcher, if it has been started, and waits for its output. -/
def terminate (timeout : Binary64) : Act Unit :=
  Act.ofFunction fun w =>
    let halted := if w.isWatching then halt timeout w else w
    if halted.awaits then awaitReader timeout halted else (.ok (), halted)

theorem isWatching_halt (timeout : Binary64) (w : World) : (halt timeout w).isWatching = false := by
  simp only [halt]
  by_cases asked : (w.signalWatcher Process.termination).isWatching = true
  · simp only [asked, if_true]
    cases limit timeout (w.signalWatcher Process.termination).clock with
    | none => exact World.isWatching_kill _
    | some last =>
        by_cases deaf : ((w.signalWatcher Process.termination).advance
            (!·.isRunning) (some last)).isWatching = true
        · simp only [deaf, if_true]
          exact World.isWatching_kill _
        · simp [deaf]
  · simp [asked]

end WatchTrial.Watcher
