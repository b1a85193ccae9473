import WatchTrial.Action
import WatchTrial.Event
import WatchTrial.Fault
import WatchTrial.Script

set_option autoImplicit false

namespace WatchTrial

/-- The stages of a trial that can fail. -/
inductive Stage where
  | script
  | setup
  | launch
  | action
  | output
  | unspecified
  deriving DecidableEq, Repr

/-- The exit status of a command that fails in a stage. -/
def Stage.status : Stage → Nat
  | .script => 3
  | .setup => 4
  | .launch => 5
  | .action => 6
  | .output => 7
  | .unspecified => 4

/-- What is wrong with settings, with the declared roots or with the expected events. -/
inductive SetupFault where
  | unreadableSettings (file : Path) (e : SystemError)
  | malformedSettings (file : Path) (what : String)
  | settingsNotMapping (file : Path)
  | unknownKeys (keys : List String)
  | notText (key : String)
  | notTexts (key : String)
  | notDuration (key : String)
  | notBoolean (key : String)
  | lateRoot (root : Path)
  | noRoots (script : Path)
  | unreadableResults (file : Path) (e : SystemError)
  deriving DecidableEq

namespace SetupFault

def keyMessage (key what : String) : String := "\x27" ++ key ++ "\x27 must be " ++ what

/-- The message for settings that cannot be read as a document stops where its fault is told. -/
def malformedLead (file : Path) : String := "Failed to parse YAML for " ++ file.text

def message : SetupFault → String
  | .unreadableSettings file e => "Unable to read config file " ++ file.text ++ ": " ++ e.message
  | .malformedSettings file what => malformedLead file ++ ": " ++ what
  | .settingsNotMapping file => "Config root in " ++ file.text ++ " must be a mapping"
  | .unknownKeys keys => "Unknown configuration keys: " ++ ", ".intercalate keys
  | .notText key => keyMessage key "a string"
  | .notTexts key => keyMessage key "a list of strings"
  | .notDuration key => keyMessage key "a non-negative number"
  | .notBoolean key => keyMessage key "a boolean"
  | .lateRoot root => "WatchDir " ++ root.text ++ " must precede every other action"
  | .noRoots script => script.text ++ " declares no WatchDir roots"
  | .unreadableResults file e => "Unable to read expected output " ++ file.text ++ ": " ++ e.message

end SetupFault

/-- Why a watcher is not built or not started. -/
inductive LaunchFault where
  | buildRefused (program : String) (e : SystemError)
  | buildFailed (status : Int) (errors : String)
  | alreadyStarted
  | startRefused (program : String) (e : SystemError)
  deriving DecidableEq, Repr

def LaunchFault.message : LaunchFault → String
  | .buildRefused program e => "Unable to run build command " ++ program ++ ": " ++ e.message
  | .buildFailed status errors =>
      "Build command exited with status " ++ toString status ++ "\n" ++ errors
  | .alreadyStarted => "Watcher has already been started"
  | .startRefused program e => "Unable to start watcher " ++ program ++ ": " ++ e.message

inductive Failure where
  | script (e : Script.LineError)
  | setup (f : SetupFault)
  | launch (f : LaunchFault)
  | action (a : Action) (e : SystemError)
  /-- A line of the watcher's output that reports no event. -/
  | output (line : String)
  deriving DecidableEq

namespace Failure

def stage : Failure → Stage
  | .script _ => .script
  | .setup _ => .setup
  | .launch _ => .launch
  | .action .. => .action
  | .output _ => .output

/-- The message for an action that the operating system refuses. -/
def actionMessage (action cause : String) : String := action ++ " failed: " ++ cause

def message : Failure → String
  | .script e => e.message
  | .setup f => f.message
  | .launch f => f.message
  | .action a e => actionMessage a.text e.message
  | .output line => Event.malformedMessage line

end Failure

/-- What ends a trial before its time: a failure it answers for, or a fault it does not. -/
inductive Stop where
  | failed (f : Failure)
  | broken (f : Fault)
  deriving DecidableEq

theorem Stage.three_le_status (s : Stage) : 3 ≤ s.status := by cases s <;> decide

end WatchTrial
