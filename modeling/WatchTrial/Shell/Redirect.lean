import WatchTrial.Shell.Expand
import WatchTrial.Shell.Tool

set_option autoImplicit false

/- Redirections: where a command writes to and what it reads. -/

namespace WatchTrial.Shell

namespace Redirect

/-- The file that is to be written, made if it is missing, emptied unless it is added to. -/
def openFile (text : List Char) (append : Bool) (t : Tree) : Except Refusal Sink × Tree :=
  if text == Tool.nullDevice then (.ok .nowhere, t)
  else if text.isEmpty then (.error .noEntry, t)
  else
    let p := Path.ofChars text
    let changed := if append then t.touch p else t.writeFile p []
    match changed.result, changed.tree.resolve p with
    | .ok (), .ok (location, .file ..) => (.ok (.file location), changed.tree)
    | .ok (), .ok (_, .directory) => (.error .isDirectory, t)
    | .ok (), .error refusal => (.error refusal, t)
    | .error refusal, _ => (.error refusal, t)

/-- The message for a file that cannot be made. -/
def cannotCreate (text : List Char) (refusal : Refusal) : String :=
  let why :=
    match refusal with
    | .noEntry | .notDirectory => "Directory nonexistent"
    | refusal => refusal.text
  "cannot create " ++ String.ofList text ++ ": " ++ why

/-- The message for a file that cannot be opened. -/
def cannotOpen (text : List Char) (refusal : Refusal) : String :=
  let why :=
    match refusal with
    | .noEntry | .notDirectory => "No such file"
    | refusal => refusal.text
  "cannot open " ++ String.ofList text ++ ": " ++ why

/-- What a file holds that is to be read; a directory holds nothing. -/
def readInput (text : List Char) (t : Tree) : Except Refusal Octets :=
  match Tool.readFile t text with
  | .error .isDirectory => .ok []
  | found => found

/-- Makes a redirection; the message if it cannot be made. -/
def apply (e : Expansion) (n : Nat) (r : Redirect) : Doing (Option String) := do
  let text ← e.one n r.target
  match r.direction with
  | .create | .append => do
      match ← Doing.change (openFile text (r.direction == .append)) with
      | .ok sink => do
          Doing.modify fun s => s.setSink r.channel sink
          return none
      | .error refusal => return some (cannotCreate text refusal)
  | .duplicate => do
      let s ← Doing.get
      let found :=
        if text == ['-'] then some .nowhere
        else ((String.ofList text).toNat?).bind fun channel => s.sinks.lookup channel
      match found with
      | some sink => do
          Doing.modify fun s => s.setSink r.channel sink
          return none
      | none => return some (String.ofList text ++ ": Bad file descriptor")
  | .input => do
      match ← Doing.look (readInput text) with
      | .ok content => do
          if r.channel = 0 then Doing.modify fun s => { s with input := content }
          return none
      | .error refusal => return some (cannotOpen text refusal)
  | .duplicateInput => do
      if r.channel = 0 && text == ['-'] then Doing.modify fun s => { s with input := [] }
      return none
  | .document => do
      if r.channel = 0 then Doing.modify fun s => { s with input := Text.Utf8.encode text }
      return none

/-- Makes redirections one after the other, up to the first that cannot be made. -/
def applyAll (e : Expansion) (n : Nat) : List Redirect → Doing (Option String)
  | [] => return none
  | r :: rest => do
      match ← r.apply e n with
      | some what => return some what
      | none => applyAll e n rest

/-- Whether redirections replace what is read. -/
def replaceInput (redirects : List Redirect) : Bool := redirects.any fun r => r.channel = 0

/-- The channel that a word names, if it names one. -/
def channel? (w : Word) : Option Nat :=
  match w with
  | [.text chars _] => (String.ofList chars).toNat?
  | _ => none

/-- Where a command of its own would write to. -/
def preview (s : Session) (redirects : List Redirect) : Session :=
  redirects.foldl
    (fun s r =>
      match r.direction with
      | .create | .append => s.setSink r.channel .nowhere
      | .duplicate => s.setSink r.channel (((channel? r.target).map s.sink).getD .nowhere)
      | _ => s)
    s

end Redirect

/-- The redirections of a command as a whole. -/
def Command.redirections : Command → List Redirect
  | .simple _ _ _ found | .redirected _ _ found => found
  | _ => []

end WatchTrial.Shell
