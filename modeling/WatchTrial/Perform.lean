import WatchTrial.World

set_option autoImplicit false

namespace WatchTrial

namespace Path

/-- Whether a path holds the character NUL, which no operation takes. -/
def hasNul (p : Path) : Bool := p.chars.contains '\x00'

end Path

namespace Tree

/-- Makes a directory; one that is there may be admitted. -/
def ensure (t : Tree) (p : Path) (existOk : Bool) : Changed :=
  match t.makeDirectory p with
  | ⟨.ok (), made⟩ => done made
  | ⟨.error refusal, _⟩ => if existOk && t.isDirectory p then done t else t.refuse refusal

end Tree

namespace Action

/-- The paths that an action works on. -/
def paths : Action → List Path
  | .create path .. | .delete path | .write path _ => [path]
  | .move source target => [source, target]
  | .watch root => [root]
  | .wait _ | .unspecified => []

/-- What a refusal of an action is told with. -/
def systemError (a : Action) (refusal : Refusal) : SystemError :=
  match a.paths with
  | [source, target] => ⟨refusal, source.text, target.text⟩
  | path :: _ => ⟨refusal, path.text, none⟩
  | [] => ⟨refusal, none, none⟩

/-- How an action ends that the operating system refuses. -/
def refused (a : Action) (refusal : Refusal) : Stop := .failed (.action a (a.systemError refusal))

/-- What an action does to the tree. -/
def onTree : Action → Tree → Tree.Changed
  | .create path true existOk, t => t.ensure path existOk
  | .create path false _, t => t.touch path
  | .delete path, t => t.removeAll path
  | .write path content, t => t.writeFile path (Text.Utf8.encode content.toList)
  | .move source target, t => t.move source target
  | .wait _, t | .watch _, t | .unspecified, t => Tree.done t

/-- Does what an action asks for. -/
def effect (a : Action) : Act Unit :=
  match a with
  | .wait seconds => Act.nap (.wait seconds) a.refused
  | .unspecified => Act.crash (.unsupportedAction a.kind)
  | _ =>
      if a.paths.any Path.hasNul then Act.crash .nulCharacter
      else Act.onTree a.onTree a.refused

/-- Performs an action. A declaration of a directory to watch is never performed. -/
def perform (a : Action) : Act Unit :=
  if a.isWatch then Act.crash .declarationPerformed
  else do
    Act.note .debug .actions ("Executing " ++ a.text)
    a.effect

/-- Performs actions one after the other. -/
def performEach : List Action → Act Unit
  | [] => pure ()
  | a :: rest => do
      a.perform
      performEach rest

/-- Performs actions and tells how many they were. -/
def performAll (actions : List Action) : Act Nat := do
  performEach actions
  Act.note .info .actions ("Executed " ++ toString actions.length ++ " actions")
  return actions.length

theorem performEach_append (first second : List Action) :
    performEach (first ++ second) = (do performEach first; performEach second) := by
  induction first with
  | nil => simp [performEach]
  | cons a first ih => simp [performEach, ih]

end Action

end WatchTrial
