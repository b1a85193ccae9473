import WatchTrial.Failure
import WatchTrial.Tree.Change
import WatchTrial.Text.Line
import WatchTrial.Verdict.EventSet
import WatchTrial.Yaml.Document

set_option autoImplicit false

/- Settings of a trial: how the watcher is built and run. They are read from a mapping, every entry
of which sets one of them; what is not mentioned has its usual value. -/

namespace WatchTrial

open Yaml (Datum)

structure Settings where
  targetDir : Path
  /-- Run once before the watcher starts; without words nothing is run. -/
  buildCommand : List String
  watcherCommand : Option (List String)
  /-- Seconds between the start of the watcher and the first action. -/
  startupGrace : Binary64
  /-- Seconds the watcher has for ending when it is asked to. -/
  terminateTimeout : Binary64
  /-- Whether a script may declare no directory to watch. -/
  allowEmptyRoots : Bool
  deriving DecidableEq

namespace Settings

/-- The settings where nothing is said. -/
def usual : Settings where
  targetDir := Path.ofString "target"
  buildCommand := ["cargo", "build", "--release", "--example", "event_print"]
  watcherCommand := none
  startupGrace := .zero
  terminateTimeout := .ofFraction false 5 1
  allowEmptyRoots := false

/-- Where a build leaves the watcher, seen from the target directory. -/
def binary : Path := Path.ofString "release/examples/event_print"

/-- The command that starts the watcher: the one that is set, unless it has no words. -/
def command (s : Settings) : List String :=
  match s.watcherCommand with
  | some (word :: rest) => word :: rest
  | _ => [(s.targetDir / binary).text]

inductive Key where
  | targetDir
  | buildCommand
  | watcherCommand
  | startupGrace
  | terminateTimeout
  | allowEmptyRoots
  deriving DecidableEq, Repr

namespace Key

def all : List Key :=
  [.targetDir, .buildCommand, .watcherCommand, .startupGrace, .terminateTimeout, .allowEmptyRoots]

def name : Key → String
  | .targetDir => "target_dir"
  | .buildCommand => "build_command"
  | .watcherCommand => "watcher_command"
  | .startupGrace => "startup_grace"
  | .terminateTimeout => "terminate_timeout"
  | .allowEmptyRoots => "allow_empty_roots"

def ofName? (name : String) : Option Key := all.find? fun key => key.name == name

theorem ofName?_name (key : Key) : ofName? key.name = some key := by cases key <;> rfl

/-- The key that a value of a mapping stands under. -/
def ofDatum? : Datum → Option Key
  | .text s => ofName? (String.ofList s)
  | _ => none

end Key

def refuse {α : Type} (f : SetupFault) : Except Stop α := .error (.failed (.setup f))

def text? : Datum → Option String
  | .text s => some (String.ofList s)
  | _ => none

def texts? : Datum → Option (List String)
  | .list items => items.mapM text?
  | .pairs [] => some []
  | _ => none

/-- A number of seconds, none of them less than zero. -/
def readSeconds (key : Key) : Datum → Except Stop Binary64
  | .int n =>
      if n < 0 then refuse (.notDuration key.name)
      else
        match Binary64.ofInt? n with
        | some x => .ok x
        | none => .error (.broken .numberTooLarge)
  | .float x => if x.isNegative then refuse (.notDuration key.name) else .ok x
  | _ => refuse (.notDuration key.name)

/-- Settings with the value under a key. -/
def assign (s : Settings) (key : Key) (value : Datum) : Except Stop Settings :=
  match key with
  | .targetDir =>
      match text? value with
      | some text => .ok { s with targetDir := Path.ofString text }
      | none => refuse (.notText key.name)
  | .buildCommand =>
      match texts? value with
      | some words => .ok { s with buildCommand := words }
      | none => refuse (.notTexts key.name)
  | .watcherCommand =>
      match value, texts? value with
      | .null, _ => .ok { s with watcherCommand := none }
      | _, some words => .ok { s with watcherCommand := some words }
      | _, none => refuse (.notTexts key.name)
  | .startupGrace => (readSeconds key value).map fun x => { s with startupGrace := x }
  | .terminateTimeout => (readSeconds key value).map fun x => { s with terminateTimeout := x }
  | .allowEmptyRoots =>
      match value with
      | .bool b => .ok { s with allowEmptyRoots := b }
      | _ => refuse (.notBoolean key.name)

/-- Kinds of values within which there is an order. -/
inductive Rank where
  | none
  | number
  | text
  | bytes
  | date
  | localMoment
  | moment
  deriving DecidableEq, Repr

def rank : Datum → Rank
  | .bool _ | .int _ | .float _ => .number
  | .text _ => .text
  | .bytes _ => .bytes
  | .date _ => .date
  | .moment m => if m.offset.isSome then .moment else .localMoment
  | _ => .none

/-- The first two neighbours without an order between them. -/
def firstUnordered? : List Datum → Option (Datum × Datum)
  | a :: b :: rest =>
      if rank a = rank b && rank a != .none then firstUnordered? (b :: rest) else some (a, b)
  | _ => none

/-- Why there is no order between two values, the second of which stands after the first. -/
def unordered (first second : Datum) : Fault :=
  match first, second with
  | .date _, .moment _ | .moment _, .date _ => .dateAndMoment
  | .moment _, .moment _ => .offsetOnOneSide
  | _, _ => .unordered second.kind first.kind

/-- The lesser of two numbers, the first unless the second is below it. -/
def lesser (a b : Datum) : Datum :=
  match a.number?, b.number? with
  | some x, some y => if y.below x then b else a
  | _, _ => a

/-- What is wrong with keys that are not known. Only texts can be listed, and only keys between
which there is an order can be put in order. -/
def unknown (keys : List Datum) : Stop :=
  match keys.mapM text?, firstUnordered? keys, keys with
  | some names, _, _ => .failed (.setup (.unknownKeys (EventSet.sort names)))
  | none, some (first, second), _ => .broken (unordered first second)
  | none, none, first :: rest => .broken (.notText 0 (rest.foldl lesser first).kind)
  | none, none, [] => .failed (.setup (.unknownKeys []))

/-- Sets one entry after the other. -/
def assignAll (s : Settings) : List (Datum × Datum) → Except Stop Settings
  | [] => .ok s
  | (key, value) :: rest =>
      match Key.ofDatum? key with
      | none => assignAll s rest
      | some known => do assignAll (← assign s known value) rest

/-- The settings that a mapping gives. A key that is not known is refused before any value is
looked at. -/
def ofMapping (mapping : List (Datum × Datum)) : Except Stop Settings :=
  let entries := Datum.lastOfEach mapping
  match (entries.map Prod.fst).filter fun key => (Key.ofDatum? key).isNone with
  | [] => assignAll usual entries
  | keys => .error (unknown keys)

/-- Settings are told by the mapping, the lists in it, and what stands in these. -/
def levels : Nat := 2

/-- The mapping in a settings file; a blank file has no entries. -/
def readFile (t : Tree) (file : Path) : Except Stop (List (Datum × Datum)) :=
  match t.readFile file with
  | .error refusal => refuse (.unreadableSettings file ⟨refusal, file.text, none⟩)
  | .ok content =>
      match Text.Utf8.decode content with
      | .error f => .error (.broken (.undecodable f))
      | .ok decoded =>
          let text := Text.unifyEnds decoded
          if Text.isBlankText text then .ok []
          else
            match Datum.ofText levels text with
            | .ok (.map entries) => .ok entries
            | .ok _ => refuse (.settingsNotMapping file)
            | .error (.malformed what) => refuse (.malformedSettings file what)
            | .error (.fault f) => .error (.broken f)

/-- The name under which the environment may give the target directory. -/
def targetVariable : String := "CARGO_TARGET_DIR"

/-- The settings of a file, if one is given, with the target directory of the environment if it
names one. -/
def load (t : Tree) (file : Option Path) (environment : List (String × String)) :
    Except Stop Settings := do
  let s ←
    match file with
    | none => pure usual
    | some file => ofMapping (← readFile t file)
  match environment.lookup targetVariable with
  | some (text : String) =>
      return if text.isEmpty then s else { s with targetDir := Path.ofString text }
  | none => return s

end Settings

end WatchTrial
