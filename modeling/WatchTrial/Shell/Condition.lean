import WatchTrial.Shell.Tool

set_option autoImplicit false

namespace WatchTrial.Shell.Condition

def compare? (operator : String) (a b : Int) : Option Bool :=
  match operator with
  | "-eq" => some (a == b)
  | "-ne" => some (a != b)
  | "-lt" => some (a < b)
  | "-le" => some (a ≤ b)
  | "-gt" => some (b < a)
  | "-ge" => some (b ≤ a)
  | _ => none

def fileOperators : List String :=
  ["-e", "-d", "-f", "-r", "-w", "-x", "-s", "-L", "-h", "-p", "-S", "-b", "-c", "-g", "-u", "-k",
    "-O", "-G"]

/-- Whether a file has the property that an operator asks for. -/
def hasProperty (t : Tree) (operator : String) (file : List Char) : Bool :=
  match operator, Tool.find t file with
  | "-e", .ok _ | "-r", .ok _ | "-w", .ok _ | "-O", .ok _ | "-G", .ok _ => true
  | "-d", .ok (_, .directory) | "-f", .ok (_, .file ..) => true
  | "-x", .ok (_, .directory) => true
  | "-x", .ok (_, .file _ executable) => executable
  | "-s", .ok (_, .file content _) => !content.isEmpty
  | "-s", .ok (_, .directory) => true
  | _, _ => false

def isUnary (operator : String) : Bool :=
  operator == "-n" || operator == "-z" || operator == "-t" || fileOperators.contains operator

def isBinary (operator : String) : Bool :=
  ["=", "!=", "<", ">"].contains operator || (compare? operator 0 0).isSome

def unary (t : Tree) (operator : String) (a : List Char) : Bool :=
  match operator with
  | "-n" => !a.isEmpty
  | "-z" => a.isEmpty
  | "-t" => false
  | _ => hasProperty t operator a

/-- A number, around which blanks may stand. -/
def number (text : List Char) : Except String Int :=
  match Tool.number? (Text.trim (fun c => c == ' ' || c == '\t' || c == '\n') text) with
  | some n => .ok n
  | none => .error ("Illegal number: " ++ String.ofList text)

def binary (operator : String) (a b : List Char) : Except String Bool :=
  match operator with
  | "=" => .ok (a == b)
  | "!=" => .ok (a != b)
  | "<" => .ok (String.ofList a < String.ofList b)
  | ">" => .ok (String.ofList b < String.ofList a)
  | operator => do
      let m ← number a
      let n ← number b
      match compare? operator m n with
      | some answer => .ok answer
      | none => .error (operator ++ ": unexpected operator")

mutual

/-- One condition, and what follows it. -/
def primary (t : Tree) : Nat → List (List Char) → Except String (Bool × List (List Char))
  | 0, _ => .error "too many arguments"
  | _ + 1, [] => .error "argument expected"
  | n + 1, a :: rest =>
      match rest with
      | o :: b :: after =>
          if isBinary (String.ofList o) then
            (binary (String.ofList o) a b).map fun answer => (answer, after)
          else other n a rest
      | _ => other n a rest
where
  other (n : Nat) (a : List Char) (rest : List (List Char)) :
      Except String (Bool × List (List Char)) :=
    if a == ['!'] && !rest.isEmpty then
      (primary t n rest).map fun (answer, after) => (!answer, after)
    else if a == ['('] && !rest.isEmpty then
      match disjunction t n rest with
      | .ok (answer, [')'] :: after) => .ok (answer, after)
      | .ok _ => .error "closing paren expected"
      | .error what => .error what
    else
      match rest with
      | b :: after =>
          if isUnary (String.ofList a) then .ok (unary t (String.ofList a) b, after)
          else .ok (!a.isEmpty, rest)
      | [] => .ok (!a.isEmpty, [])

def conjunction (t : Tree) : Nat → List (List Char) → Except String (Bool × List (List Char))
  | 0, _ => .error "too many arguments"
  | n + 1, text => do
      let (a, rest) ← primary t n text
      match rest with
      | ['-', 'a'] :: rest =>
          let (b, rest) ← conjunction t n rest
          return (a && b, rest)
      | _ => return (a, rest)

def disjunction (t : Tree) : Nat → List (List Char) → Except String (Bool × List (List Char))
  | 0, _ => .error "too many arguments"
  | n + 1, text => do
      let (a, rest) ← conjunction t n text
      match rest with
      | ['-', 'o'] :: rest =>
          let (b, rest) ← disjunction t n rest
          return (a || b, rest)
      | _ => return (a, rest)

end

/-- The answer of a test, or what is not understood. How many arguments there are decides how the
first of them are read. -/
def test (t : Tree) (arguments : List (List Char)) : Except String Bool :=
  match arguments with
  | [] => .ok false
  | [a] => .ok !a.isEmpty
  | [['!'], a] => .ok a.isEmpty
  | [o, a] =>
      if isUnary (String.ofList o) then .ok (unary t (String.ofList o) a)
      else if isBinary (String.ofList a) then .error (String.ofList a ++ ": argument expected")
      else .error (String.ofList o ++ ": unexpected operator")
  | [a, o, b] =>
      if isBinary (String.ofList o) then binary (String.ofList o) a b else general
  | [['!'], a, o, b] =>
      if isBinary (String.ofList o) then (binary (String.ofList o) a b).map not else general
  | _ => general
where
  general : Except String Bool :=
    match disjunction t (3 * arguments.length + 3) arguments with
    | .ok (answer, []) => .ok answer
    | .ok (_, rest) =>
        let last := arguments.getD (arguments.length - rest.length - 1) []
        .error (String.ofList last ++ ": unexpected operator")
    | .error what => .error what

end WatchTrial.Shell.Condition
