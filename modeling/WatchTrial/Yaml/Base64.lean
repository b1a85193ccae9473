import WatchTrial.Text.Utf8

set_option autoImplicit false

namespace WatchTrial.Yaml.Base64

/-- The value of a digit. -/
def digit? (c : Char) : Option Nat :=
  if 'A' ≤ c && c ≤ 'Z' then some (c.toNat - 65)
  else if 'a' ≤ c && c ≤ 'z' then some (c.toNat - 97 + 26)
  else if c.isDigit then some (c.toNat - 48 + 52)
  else if c == '+' then some 62
  else if c == '/' then some 63
  else none

/-- The octets of one to four digits. -/
def group (digits : List Nat) : Octets :=
  match digits with
  | [a, b] => [.ofNat (a * 4 + b / 16)]
  | [a, b, c] => [.ofNat (a * 4 + b / 16), .ofNat (b % 16 * 16 + c / 4)]
  | [a, b, c, d] =>
      [.ofNat (a * 4 + b / 16), .ofNat (b % 16 * 16 + c / 4), .ofNat (c % 4 * 64 + d)]
  | _ => []

/-- Reads on in a group whose digits so far are given, with the signs of padding since the last
digit. Padding that fills a group ends the text; a text that ends inside a group is refused. -/
def decodeFrom (digits : List Nat) (padding : Nat) : List Char → Option Octets
  | [] => if digits.isEmpty then some [] else none
  | c :: rest =>
      if c == '=' then
        if digits.length < 2 then decodeFrom digits padding rest
        else if 4 ≤ digits.length + padding + 1 then some (group digits)
        else decodeFrom digits (padding + 1) rest
      else
        match digit? c with
        | none => decodeFrom digits padding rest
        | some d =>
            if digits.length = 3 then (decodeFrom [] 0 rest).map (group (digits ++ [d]) ++ ·)
            else decodeFrom (digits ++ [d]) 0 rest

def decode (text : List Char) : Option Octets := decodeFrom [] 0 text

end WatchTrial.Yaml.Base64
