import WatchTrial.Shell.Session

set_option autoImplicit false

namespace WatchTrial.Shell

/-- What is left when options have been read. -/
structure Options where
  session : Session
  /-- Letters that mean something only to a shell that is being started. -/
  own : List Char := []
  /-- Whether two dashes have ended the options. -/
  closed : Bool := false
  rest : List (List Char)

namespace Options

def letters : List Char := "eufabCEIimnsvVx".toList

/-- Options as they are named in full. -/
def names : List (String × Char) :=
  [("errexit", 'e'), ("nounset", 'u'), ("noglob", 'f'), ("allexport", 'a'), ("notify", 'b'),
    ("noclobber", 'C'), ("emacs", 'E'), ("ignoreeof", 'I'), ("interactive", 'i'), ("monitor", 'm'),
    ("noexec", 'n'), ("stdin", 's'), ("verbose", 'v'), ("vi", 'V'), ("xtrace", 'x'),
    ("nolog", '\x00'), ("debug", '\x00')]

/-- The session with an option switched; of many options nothing depends on them. -/
def switch (on : Bool) (s : Session) (letter : Char) : Session :=
  match letter with
  | 'e' => { s with strict := on }
  | 'u' => { s with careful := on }
  | 'f' => { s with literal := on }
  | _ => s

def illegal (sign : Char) (what : List Char) : String :=
  "Illegal option " ++ String.ofList (sign :: what)

/-- Reads the options in front of arguments. -/
def read (own : List Char) : List (List Char) → Session → Except String Options
  | ['-', '-'] :: rest, s => .ok { session := s, closed := true, rest }
  | ['-'] :: rest, s => .ok { session := s, rest }
  | (sign :: c :: more) :: rest, s =>
      let found := c :: more
      let isKnown (c : Char) : Bool := c == 'o' || letters.contains c || own.contains c
      if sign != '-' && sign != '+' then .ok { session := s, rest := (sign :: found) :: rest }
      else
        match found.find? fun c => !isKnown c with
        | some c => .error (illegal sign [c])
        | none =>
            let switched := found.foldl (switch (sign == '-')) s
            let later :=
              if found.contains 'o' then
                match rest with
                | name :: after =>
                    match names.lookup (String.ofList name) with
                    | some letter => read own after (switch (sign == '-') switched letter)
                    | none => .error (illegal sign ('o' :: ' ' :: name))
                | [] => .ok { session := switched, rest := [] }
              else read own rest switched
            later.map fun o => { o with own := found.filter own.contains ++ o.own }
  | rest, s => .ok { session := s, rest }

end Options

end WatchTrial.Shell
