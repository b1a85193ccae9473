import WatchTrial.Shell.Builtin

set_option autoImplicit false

/- Running commands. What one command does is told in terms of a runner for the commands in it, and
the runner is that again, for so many levels. Each turn of a loop takes a little time, so a loop
that waits for something lets time pass. -/

namespace WatchTrial.Shell

/-- How a turn of a loop has ended. -/
inductive Turn where
  | complete
  | again
  | over
  deriving DecidableEq, Repr

namespace Run

/-- The time that a turn of a loop takes. -/
def turnTime : Nat := tenTo 4

/-- A time after which nothing is waited for any more. -/
def distant : Nat := tenTo 20

/-- Stands still for good. -/
def forever : Doing Unit := do
  Doing.pause distant
  Doing.modify fun s => { s with ended := some (.signalled Task.kill) }

/-- Sees how a turn of a loop has ended. -/
def endOfTurn : Doing Turn := do
  let s ← Doing.get
  match s.ended, s.leaving with
  | some _, _ | _, some .function => return .over
  | none, none => return .complete
  | none, some (.loops count goesOn) =>
      if 1 < count then
        Doing.set { s with leaving := some (.loops (count - 1) goesOn) }
        return .over
      else
        Doing.set { s with leaving := none }
        return if goesOn then .again else .over

/-- Runs a loop with one more loop around its commands. -/
def nested (body : Doing Unit) : Doing Unit := do
  Doing.modify fun s => { s with nest := s.nest + 1, status := 0 }
  body
  Doing.modify fun s => { s with nest := s.nest - 1 }

/-- The time between two turns. -/
def betweenTurns (r : Runner) : Doing Unit := do
  Doing.pause turnTime
  r.heedRequest

/-- Runs a command with a name bound to one value after the other. -/
def each (r : Runner) (tested : Bool) (line : Nat) (name : List Char) (body : Command) :
    List (List Char) → Doing Unit
  | [] => return
  | value :: rest => do
      Doing.assign line "" name value
      r.run false tested body
      if (← endOfTurn) ≠ .over then
        betweenTurns r
        each r tested line name body rest

/-- Runs a command as long as a condition comes out as wanted. In the end the status is that of the
last turn, which is given. -/
def loop (r : Runner) (tested wanted : Bool) (condition body : Command) : Nat → Nat → Doing Unit
  | 0, _ => forever
  | n + 1, status => do
      r.run false true condition
      match ← endOfTurn with
      | .over =>
          if (← Doing.get).leaving ≠ some .function then Doing.setStatus status
      | .again => do
          betweenTurns r
          loop r tested wanted condition body n status
      | .complete =>
          if ((← Doing.get).status = 0) = wanted then
            r.run false tested body
            let status := (← Doing.get).status
            if (← endOfTurn) ≠ .over then
              betweenTurns r
              loop r tested wanted condition body n status
          else Doing.setStatus status

/-- Deals with a request to end, and with a failure that nothing looks at. -/
def settle (r : Runner) (tested : Bool) : Doing Unit := do
  r.heedRequest
  let s ← Doing.get
  if s.strict && !tested && s.status ≠ 0 && !s.isPassing then Doing.exit s.status

/-- Calls a function. -/
def call (r : Runner) (tested : Bool) (body : Command) (arguments : List (List Char)) :
    Doing Unit := do
  let s ← Doing.get
  Doing.set { s with arguments, saved := some [], nest := 0 }
  r.run false tested body
  Doing.modify fun after =>
    let back := (after.saved.getD []).foldl
      (fun back (name, value) => back.restore name value) after
    { back with
      arguments := s.arguments
      saved := s.saved
      nest := s.nest
      leaving := if after.leaving = some .function then none else after.leaving }

def assignAll (e : Expansion) (n : Nat) (assignments : List (List Char × Word)) : Doing Unit :=
  assignments.forM fun (name, w) => do
    let value ← e.one n w
    Doing.assign e.line "" name value

/-- Runs a command whose words are known, with the given assignments: for good if the command is
special, or else for as long as it runs. -/
def named (r : Runner) (last tested : Bool) (line : Nat) (assignments : List (List Char × Word))
    (name : List Char) (arguments : List (List Char)) : Doing Unit := do
  let before ← Doing.get
  assignAll (r.expansion line) r.depth assignments
  if (← Doing.get).isPassing then return
  let isSpecial := Builtin.special.contains (String.ofList name)
  let names := assignments.map Prod.fst
  if !isSpecial then Doing.modify fun s => { s with exported := names ++ s.exported }
  match before.functions.lookup name with
  | some body => call r tested body arguments
  | none => Builtin.runCommand r last line name arguments
  if !isSpecial && !names.isEmpty then
    Doing.modify fun s =>
      let back := names.foldl (fun back name => back.restore name (before.lookUp? name)) s
      { back with exported := s.exported.drop names.length }

/-- Runs a simple command: its words, then its redirections, then its assignments. -/
def simple (r : Runner) (last tested : Bool) (line : Nat) (assignments : List (List Char × Word))
    (words : List Word) (redirects : List Redirect) : Doing Unit := do
  let e := r.expansion line
  Doing.modify fun s => { s with outcome := none }
  let found ← e.fields r.depth words
  if (← Doing.get).isPassing then return
  let outer ← Doing.get
  let refused ← Redirect.applyAll e r.depth redirects
  if (← Doing.get).isPassing then return
  match refused, found with
  | some what, _ => do
      Doing.fail line what 2
      if found.head?.any fun name => Builtin.special.contains (String.ofList name) then
        Doing.exit 2
  | none, [] => do
      assignAll e r.depth assignments
      Doing.modify fun s => s.withStatus (s.outcome.getD 0)
  | none, name :: arguments => named r last tested line assignments name arguments
  if refused.isSome || found != ["exec".toList] then
    Doing.modify fun s => s.backTo outer (Redirect.replaceInput redirects)

/-- The first branch of a choice with a pattern that a text matches. -/
def choose (e : Expansion) (n : Nat) (text : List Char) :
    List (List Word × Command) → Doing (Option Command)
  | [] => return none
  | (patterns, body) :: rest => do
      if ← isMatch patterns then return some body
      choose e n text rest
where
  isMatch : List Word → Doing Bool
    | [] => return false
    | w :: rest => do
        let pattern ← e.glyphsOf n w
        if Pattern.isMatch (Pattern.ofGlyphs pattern) text then return true
        isMatch rest

/-- Runs one command. -/
def step (r : Runner) (last tested : Bool) : Command → Doing Unit
  | .skip => Doing.setStatus 0
  | .simple line assignments words redirects => do
      simple r last tested line assignments words redirects
      settle r tested
  | .first a b => do
      r.run false tested a
      r.run last tested b
  | .ifTrue a b => do
      r.run false true a
      if (← Doing.get).status = 0 then r.run last tested b
  | .ifFalse a b => do
      r.run false true a
      if (← Doing.get).status ≠ 0 then r.run last tested b
  | .negate c => do
      r.run false true c
      let s ← Doing.get
      if s.ended.isNone then Doing.setStatus (if s.status = 0 then 1 else 0)
  | .background c => do
      let s ← Doing.get
      Doing.launch (Redirect.preview s c.redirections).holds
        (r.process (r.run true false c) { s.apart with input := [] })
      Doing.setStatus 0
      settle r tested
  | .pipe a b => do
      let s ← Doing.get
      Runner.waitFor (r.pipeline tested a b s)
      settle r tested
  | .each line name words body => do
      let values ←
        match words with
        | some words => (r.expansion line).fields r.depth words
        | none => do pure (← Doing.get).arguments
      if (← Doing.get).isPassing then return
      nested (each r tested line name body values)
  | .loop wanted condition body => nested (loop r tested wanted condition body r.depth 0)
  | .choose condition yes no => do
      r.run false true condition
      if (← Doing.get).isPassing then return
      if (← Doing.get).status = 0 then r.run last tested yes else r.run last tested no
  | .choice line w branches => do
      let e := r.expansion line
      let text ← e.one r.depth w
      if (← Doing.get).isPassing then return
      match ← choose e r.depth text branches with
      | some body => r.run last tested body
      | none => Doing.setStatus 0
  | .apart c => do
      let s ← Doing.get
      if last && !s.hasTraps then r.run true tested c
      else do
        Runner.waitFor (r.process (r.run true tested c) s.apart)
        settle r tested
  | .redirected line c redirects => do
      let outer ← Doing.get
      match ← Redirect.applyAll (r.expansion line) r.depth redirects with
      | some what => Doing.fail line what 2
      | none => r.run false tested c
      Doing.modify fun s => s.backTo outer (Redirect.replaceInput redirects)
  | .define name body => Doing.modify fun s =>
      { s with
        functions := (name, body) :: s.functions.filter fun f => f.1 != name
        status := 0 }
  | .trouble m => Doing.give m.line m.what 2

end Run

/-- Runs a command, unless commands are passed over. The number bounds how deep commands are
nested. -/
def run : Nat → Bool → Bool → Command → Doing Unit
  | 0, _, _, _ => Run.forever
  | n + 1, last, tested, c => do
      if !(← Doing.get).isPassing then Run.step ⟨run n, n⟩ last tested c

/-- The runner for so many levels. -/
def Runner.ofDepth (n : Nat) : Runner := ⟨Shell.run n, n⟩

end WatchTrial.Shell
