import WatchTrial.Shell.Token

set_option autoImplicit false

/- Commands of a shell script, read from its tokens. A script is run line by line, so what cannot be
read on a later line does not keep the lines before it from being run. -/

namespace WatchTrial.Shell

structure Redirect where
  channel : Nat
  direction : Direction
  target : Word
  deriving DecidableEq, Repr

inductive Command where
  | skip
  | simple (line : Nat) (assignments : List (List Char × Word)) (words : List Word)
      (redirects : List Redirect)
  | first (a b : Command)
  | ifTrue (a b : Command)
  | ifFalse (a b : Command)
  | negate (c : Command)
  | background (c : Command)
  /-- The second reads what the first writes. -/
  | pipe (a b : Command)
  /-- Once for each of the words, or of the arguments. -/
  | each (line : Nat) (name : List Char) (words : Option (List Word)) (body : Command)
  /-- As long as the condition comes out as wanted. -/
  | loop (wanted : Bool) (condition body : Command)
  | choose (condition yes no : Command)
  /-- The first of the branches with a pattern that the word matches. -/
  | choice (line : Nat) (w : Word) (branches : List (List Word × Command))
  | apart (c : Command)
  | redirected (line : Nat) (c : Command) (redirects : List Redirect)
  | define (name : List Char) (body : Command)
  /-- The script cannot be read from here on. -/
  | trouble (m : Misread)

namespace Command

abbrev Reader (α : Type) := StateT (List (Nat × Token)) (Except Misread) α

/-- The text of a word that is one plain text. -/
def bare? : Token → Option String
  | .word [.text chars false] => some (String.ofList chars)
  | _ => none

/-- Words that end a list of commands. -/
def closers : List String := ["then", "do", "done", "fi", "else", "elif", "esac", "\x7d"]

/-- Words that commands other than the simple ones start with. -/
def openers : List String := ["if", "for", "while", "until", "case", "\x7b", "!", "in"]

def describe (t : Token) : String :=
  match t with
  | .word _ =>
      match bare? t with
      | some text =>
          if closers.contains text || openers.contains text then "\x22" ++ text ++ "\x22"
          else "word"
      | none => "word"
  | .operator text => "\x22" ++ text ++ "\x22"
  | .redirect .. => "redirection"
  | .newline => "newline"
  | .finish | .trouble _ => "end of file"

/-- The next token, with its line. -/
def peekAt : Reader (Nat × Token) := fun tokens =>
  match tokens with
  | (line, .trouble what) :: _ => .error ⟨line, what⟩
  | t :: _ => .ok (t, tokens)
  | [] => .ok ((1, .finish), tokens)

def peek : Reader Token := do return (← peekAt).2

def advance : Reader Unit := modify List.tail

def wrong {α : Type} (what : String) : Reader α := do
  throw ⟨(← peekAt).1, "Syntax error: " ++ what⟩

/-- A token that may not stand here, where another one is wanted. -/
def unexpected {α : Type} (wanted : String) : Reader α := do
  let expecting := if wanted.isEmpty then "" else " (expecting " ++ wanted ++ ")"
  wrong (describe (← peek) ++ " unexpected" ++ expecting)

def skipNewlines : Nat → Reader Unit
  | 0 => pure ()
  | n + 1 => do
      if (← peek) == .newline then
        advance
        skipNewlines n

/-- Whether the next token is the given reserved word. -/
def atWord (text : String) : Reader Bool := do return bare? (← peek) == some text

def needWord (text : String) : Reader Unit := do
  if ← atWord text then advance else unexpected ("\x22" ++ text ++ "\x22")

def needOperator (text : String) : Reader Unit := do
  if (← peek) == .operator text then advance else unexpected ("\x22" ++ text ++ "\x22")

def needAnyWord : Reader Word := do
  match ← peek with
  | .word w =>
      advance
      return w
  | _ => unexpected "word"

/-- Whether a list of commands ends here. -/
def atClose : Reader Bool := do
  match ← peek with
  | .finish | .operator ")" | .operator ";;" => return true
  | t => return (bare? t).any closers.contains

def redirects : Nat → Reader (List Redirect)
  | 0 => pure []
  | n + 1 => do
      match ← peek with
      | .redirect channel direction =>
          advance
          match ← peek with
          | .word target =>
              advance
              return ⟨channel, direction, target⟩ :: (← redirects n)
          | _ => unexpected ""
      | _ => return []

/-- The assignment that a word is, if it is one. -/
def assignment? : Word → Option (List Char × Word)
  | .text chars false :: rest =>
      match chars.dropWhile (· != '=') with
      | _ :: value =>
          let name := chars.takeWhile (· != '=')
          if name.head?.any Token.isNameStart && name.all Token.isNameChar then
            some (name, .text value true :: rest)
          else none
      | [] => none
  | _ => none

/-- The words and redirections of a simple command, in any order. -/
def items : Nat → Reader (List Word × List Redirect)
  | 0 => pure ([], [])
  | n + 1 => do
      match ← peek with
      | .word w =>
          advance
          let (words, found) ← items n
          return (w :: words, found)
      | .redirect .. =>
          let here ← redirects 1
          let (words, found) ← items n
          return (words, here ++ found)
      | _ => return ([], [])

def splitAssignments : List Word → List (List Char × Word) × List Word
  | [] => ([], [])
  | w :: rest =>
      match assignment? w with
      | some a =>
          let (assignments, words) := splitAssignments rest
          (a :: assignments, words)
      | none => ([], w :: rest)

def simpleCommand (size : Nat) : Reader Command := do
  let (line, _) ← peekAt
  let (words, found) ← items size
  if words.isEmpty && found.isEmpty then unexpected ""
  let (assignments, words) := splitAssignments words
  return .simple line assignments words found

/-- The variable that a `for` sets. -/
def forVariable : Reader (List Char) := do
  match bare? (← peek) with
  | some name =>
      if name.toList.head?.any Token.isNameStart && name.toList.all Token.isNameChar then
        advance
        return name.toList
      else wrong "Bad for loop variable"
  | none => wrong "Bad for loop variable"

/-- The words that a `for` goes through. -/
def forWords (size : Nat) : Reader (Option (List Word)) := do
  if ← atWord "in" then
    advance
    let (words, _) ← items size
    return some words
  else return none

/-- One command and those after it. -/
def join (c rest : Command) : Command :=
  match rest with
  | .skip => c
  | _ => .first c rest

mutual

/-- Commands up to the end of a list. -/
def list : Nat → Reader Command
  | 0 => unexpected ""
  | n + 1 => do
      skipNewlines (n + 1)
      if ← atClose then return .skip
      let c ← andOr n
      match ← peek with
      | .operator ";" | .newline =>
          advance
          let rest ← list n
          return join c rest
      | .operator "&" =>
          advance
          let rest ← list n
          return join (.background c) rest
      | _ => return c

def andOr : Nat → Reader Command
  | 0 => unexpected ""
  | n + 1 => do
      let a ← pipeline n
      andOrRest n a

def andOrRest : Nat → Command → Reader Command
  | 0, _ => unexpected ""
  | n + 1, a => do
      match ← peek with
      | .operator "&&" =>
          advance
          skipNewlines (n + 1)
          let b ← pipeline n
          andOrRest n (.ifTrue a b)
      | .operator "||" =>
          advance
          skipNewlines (n + 1)
          let b ← pipeline n
          andOrRest n (.ifFalse a b)
      | _ => return a

/-- Commands that read from one another. -/
def pipeline : Nat → Reader Command
  | 0 => unexpected ""
  | n + 1 => do
      if ← atWord "!" then
        advance
        return .negate (← pipeline n)
      let a ← item n
      if (← peek) == .operator "|" then
        advance
        skipNewlines (n + 1)
        return .pipe a (← pipeline n)
      else return a

/-- One command. -/
def item : Nat → Reader Command
  | 0 => unexpected ""
  | n + 1 => do
      let (line, t) ← peekAt
      if t == .operator "(" then
        advance
        let body ← filled n
        needOperator ")"
        withRedirects n line (.apart body)
      else
        match bare? t with
        | some "\x7b" =>
            advance
            let body ← filled n
            needWord "\x7d"
            withRedirects n line body
        | some "if" =>
            advance
            let chosen ← branches n
            withRedirects n line chosen
        | some "while" =>
            advance
            withRedirects n line (← loopOf n true)
        | some "until" =>
            advance
            withRedirects n line (← loopOf n false)
        | some "for" =>
            advance
            let name ← forVariable
            skipNewlines (n + 1)
            let words ← forWords (n + 1)
            if (← peek) == .operator ";" then advance
            skipNewlines (n + 1)
            needWord "do"
            let body ← filled n
            needWord "done"
            withRedirects n line (.each line name words body)
        | some "case" =>
            advance
            let w ← needAnyWord
            skipNewlines (n + 1)
            needWord "in"
            let found ← cases n
            withRedirects n line (.choice line w found)
        | some text =>
            if closers.contains text then unexpected ""
            else if (← get)[1]?.any (·.2 == .operator "(") && !text.contains '=' then
              advance
              advance
              needOperator ")"
              skipNewlines (n + 1)
              return .define text.toList (← item n)
            else simpleCommand (n + 1)
        | none => simpleCommand (n + 1)

/-- At least one command. -/
def filled : Nat → Reader Command
  | 0 => unexpected ""
  | n + 1 => do
      skipNewlines (n + 1)
      if (← atClose) && (← peek) != .finish then unexpected ""
      list n

def loopOf : Nat → Bool → Reader Command
  | 0, _ => unexpected ""
  | n + 1, wanted => do
      let condition ← filled n
      needWord "do"
      let body ← filled n
      needWord "done"
      return .loop wanted condition body

/-- A condition and its branches, after the word that opens them. -/
def branches : Nat → Reader Command
  | 0 => unexpected ""
  | n + 1 => do
      let condition ← filled n
      needWord "then"
      let yes ← filled n
      if ← atWord "elif" then
        advance
        return .choose condition yes (← branches n)
      else if ← atWord "else" then
        advance
        let no ← filled n
        needWord "fi"
        return .choose condition yes no
      else
        needWord "fi"
        return .choose condition yes .skip

/-- The branches of a choice, up to the word that ends it. -/
def cases : Nat → Reader (List (List Word × Command))
  | 0 => unexpected ""
  | n + 1 => do
      skipNewlines (n + 1)
      if ← atWord "esac" then
        advance
        return []
      if (← peek) == .operator "(" then advance
      let patterns ← alternatives n
      let body ← list n
      if (← peek) == .operator ";;" then advance
      else if !(← atWord "esac") then unexpected "\x22;;\x22"
      return (patterns, body) :: (← cases n)

/-- The patterns of a branch, and the parenthesis after them. -/
def alternatives : Nat → Reader (List Word)
  | 0 => unexpected ""
  | n + 1 => do
      let w ← needAnyWord
      if (← peek) == .operator "|" then
        advance
        return w :: (← alternatives n)
      else
        needOperator ")"
        return [w]

def withRedirects : Nat → Nat → Command → Reader Command
  | 0, _, _ => unexpected ""
  | n + 1, line, c => do
      match ← redirects (n + 1) with
      | [] => return c
      | found => return .redirected line c found

end

/-- The commands up to the end of the line on which the last of them ends. -/
def line (size : Nat) : Nat → Reader Command
  | 0 => unexpected ""
  | n + 1 => do
      let c ← andOr size
      match ← peek with
      | .operator ";" =>
          advance
          more c n
      | .operator "&" =>
          advance
          more (.background c) n
      | .newline | .finish => return c
      | _ => unexpected ""
where
  more (c : Command) (n : Nat) : Reader Command := do
    match ← peek with
    | .newline | .finish => return c
    | _ => return join c (← line size n)

/-- The lines of a script. -/
def script (size : Nat) : Nat → List (Nat × Token) → Command
  | 0, _ => .skip
  | n + 1, tokens =>
      let next : Reader (Option Command) := do
        skipNewlines (size + 1)
        if (← peek) == .finish then return none
        return some (← line size size)
      match next tokens with
      | .error m => .trouble m
      | .ok (none, _) => .skip
      | .ok (some c, rest) => join c (script size n rest)

/-- The commands of a text. -/
def ofText (text : List Char) : Command :=
  let tokens := Token.ofText text
  script (4 * tokens.length + 8) (tokens.length + 1) tokens

end Command

end WatchTrial.Shell
