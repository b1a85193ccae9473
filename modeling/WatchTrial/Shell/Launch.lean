import WatchTrial.Shell.Run

set_option autoImplicit false

/- Starting programs. A name without a slash is a program of the system, a path is a file, which
must be executable and say what it is to be run with. -/

namespace WatchTrial.Shell

/-- The most octets that one argument may have. -/
def maxArgument : Nat := 131071

def isArgumentTooLong (word : List Char) : Bool := maxArgument < (Text.Utf8.encode word).length

/-- How deep commands may be nested; turns of loops count. -/
def maxDepth : Nat := 10000000

/-- The values that programs see when they start. -/
def environment (t : Tree) : List (List Char × List Char) :=
  [("PATH".toList, "/usr/local/bin:/usr/local/sbin:/usr/sbin:/usr/bin:/sbin:/bin".toList),
    ("HOME".toList, "/root".toList), ("PWD".toList, '/' :: Text.join '/' t.here),
    ("PPID".toList, (toString (Session.processNumber - 1)).toList)]

/-- The first process of a program. -/
def processOf (bindings : List (List Char × List Char)) (name : List Char)
    (body : Runner → Doing Unit) : Process :=
  let r := Runner.ofDepth maxDepth
  r.process (body r) { name, arguments := [], bindings, exported := bindings.map Prod.fst }

/-- A program of the system from its start on. -/
def programOf (t : Tree) (f : Found) : Process :=
  processOf (environment t) f.name fun r => r.runFound true f

/-- Starts the program that a command names. -/
def start (t : Tree) (words : List (List Char)) : Except Refusal Process := do
  let name := words.headD []
  if name.isEmpty || name = ['.'] || name = ['.', '.'] then throw .accessDenied
  let process ←
    match Found.ofWords t words with
    | .ok f => pure (programOf t f)
    | .error m =>
        if m.byEnv then pure (processOf (environment t) name fun _ => Runner.complainUnderEnv m)
        else throw m.refusal
  if words.any isArgumentTooLong then throw .argumentsTooLong
  return process

/-- Starts programs in the file tree. -/
def launcher : Launcher := fun t words => start t (words.map String.toList)

end WatchTrial.Shell
