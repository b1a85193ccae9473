set_option autoImplicit false

namespace WatchTrial.Text.Ansi

def escape : Char := '\x1b'

inductive Colour where
  | red
  | green
  deriving DecidableEq, Repr

def Colour.code : Colour → String
  | .red => "31"
  | .green => "32"

/-- A text in a colour, bold if asked; all attributes end with it. -/
def style (colour : Colour) (bold : Bool) (text : String) : String :=
  let reset := "\x1b[0m"
  "\x1b[" ++ colour.code ++ "m" ++ (if bold then "\x1b[1m" else "") ++ text ++ reset

/-- Characters between the bracket of a sequence and its final letter. -/
def isParameter (c : Char) : Bool := c == ';' || c == '?' || c.isDigit

/-- The text after a sequence whose opening `ESC [` has been read, if one stands there. -/
def afterSequence : List Char → Option (List Char)
  | [] => none
  | c :: rest => if isParameter c then afterSequence rest else if c.isAlpha then some rest else none

theorem afterSequence_length (text rest : List Char) (found : afterSequence text = some rest) :
    rest.length < text.length := by
  induction text with
  | nil => simp [afterSequence] at found
  | cons c text ih =>
      rw [afterSequence] at found
      split at found
      · have shorter := ih found
        simp only [List.length_cons]
        omega
      · split at found
        · cases found
          simp
        · cases found

/-- The text without its colour sequences. -/
def stripChars : List Char → List Char
  | [] => []
  | '\x1b' :: '[' :: rest =>
      match _found : afterSequence rest with
      | some after => stripChars after
      | none => escape :: stripChars ('[' :: rest)
  | c :: rest => c :: stripChars rest
  termination_by text => text.length
  decreasing_by
    · have := afterSequence_length rest after _found
      simp only [List.length_cons]
      omega
    · simp
    · simp

def strip (text : String) : String := String.ofList (stripChars text.toList)

end WatchTrial.Text.Ansi
