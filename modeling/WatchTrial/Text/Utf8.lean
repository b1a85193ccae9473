set_option autoImplicit false

/- UTF-8. An octet string is cut into well-formed characters and broken pieces; a broken piece is
the longest start of a character that the octets still allow. Strict decoding stops at the first
broken piece, lossy decoding writes U+FFFD for each. -/

namespace WatchTrial

/-- Octets, as files and pipes hold them. -/
abbrev Octets := List UInt8

namespace Text.Utf8

/-- The octets of one character. -/
def encodeChar (c : Char) : Octets :=
  let n := c.toNat
  if n < 0x80 then [.ofNat n]
  else if n < 0x800 then [.ofNat (0xc0 + n / 0x40), .ofNat (0x80 + n % 0x40)]
  else if n < 0x10000 then
    [.ofNat (0xe0 + n / 0x1000), .ofNat (0x80 + n / 0x40 % 0x40), .ofNat (0x80 + n % 0x40)]
  else
    [.ofNat (0xf0 + n / 0x40000), .ofNat (0x80 + n / 0x1000 % 0x40),
      .ofNat (0x80 + n / 0x40 % 0x40), .ofNat (0x80 + n % 0x40)]

def encode (text : List Char) : Octets := text.flatMap encodeChar

@[simp] theorem encode_nil : encode [] = [] := rfl

@[simp] theorem encode_cons (c : Char) (text : List Char) :
    encode (c :: text) = encodeChar c ++ encode text := by simp [encode]

/-- Why octets are not a character. -/
inductive Flaw where
  | invalidStart
  | invalidContinuation
  | unexpectedEnd
  deriving DecidableEq, Repr

def Flaw.text : Flaw → String
  | .invalidStart => "invalid start byte"
  | .invalidContinuation => "invalid continuation byte"
  | .unexpectedEnd => "unexpected end of data"

/-- What stands at one place of an octet string: a character, or the given number of octets that
are none. -/
inductive Piece where
  | scalar (c : Char) (width : Nat)
  | broken (width : Nat) (flaw : Flaw)
  deriving DecidableEq, Repr

def Piece.width : Piece → Nat
  | .scalar _ width => width
  | .broken width _ => width

/-- The character of a piece, U+FFFD for a broken one. -/
def Piece.char : Piece → Char
  | .scalar c _ => c
  | .broken _ _ => '\ufffd'

def isContinuation (b : UInt8) : Bool := 0x80 ≤ b.toNat && b.toNat < 0xc0

/-- The six bits that a continuation octet carries. -/
def payload (b : UInt8) : Nat := b.toNat - 0x80

/-- The second octets that a lead octet admits: no overlong form, no surrogate, nothing above
U+10FFFF. -/
def admitsSecond (lead second : UInt8) : Bool :=
  isContinuation second &&
    (lead.toNat != 0xe0 || 0xa0 ≤ second.toNat) && (lead.toNat != 0xed || second.toNat < 0xa0) &&
    (lead.toNat != 0xf0 || 0x90 ≤ second.toNat) && (lead.toNat != 0xf4 || second.toNat < 0x90)

/-- The piece that starts with the octet `lead`. -/
def piece (lead : UInt8) (rest : Octets) : Piece :=
  let n := lead.toNat
  if n < 0x80 then .scalar (.ofNat n) 1
  else if n < 0xc2 || 0xf5 ≤ n then .broken 1 .invalidStart
  else
    match rest with
    | [] => .broken 1 .unexpectedEnd
    | second :: rest =>
        if !admitsSecond lead second then .broken 1 .invalidContinuation
        else if n < 0xe0 then .scalar (.ofNat ((n - 0xc0) * 0x40 + payload second)) 2
        else
          match rest with
          | [] => .broken 2 .unexpectedEnd
          | third :: rest =>
              if !isContinuation third then .broken 2 .invalidContinuation
              else if n < 0xf0 then
                .scalar (.ofNat ((n - 0xe0) * 0x1000 + payload second * 0x40 + payload third)) 3
              else
                match rest with
                | [] => .broken 3 .unexpectedEnd
                | fourth :: _ =>
                    if !isContinuation fourth then .broken 3 .invalidContinuation
                    else
                      .scalar (.ofNat ((n - 0xf0) * 0x40000 + payload second * 0x1000 +
                        payload third * 0x40 + payload fourth)) 4

/-- The pieces of an octet string after its first `skip` octets. -/
def piecesAfter : Nat → Octets → List Piece
  | _, [] => []
  | skip + 1, _ :: rest => piecesAfter skip rest
  | 0, lead :: rest =>
      let first := piece lead rest
      first :: piecesAfter (first.width - 1) rest

def pieces (octets : Octets) : List Piece := piecesAfter 0 octets

/-- Where and why decoding stopped; `lead` is the octet there. -/
structure Fault where
  position : Nat
  width : Nat
  lead : UInt8
  flaw : Flaw
  deriving DecidableEq, Repr

/-- Strict decoding of pieces that start at the given position of `octets`. -/
def decodePieces (octets : Octets) (position : Nat) : List Piece → Except Fault (List Char)
  | [] => .ok []
  | .scalar c width :: rest => do
      let text ← decodePieces octets (position + width) rest
      return c :: text
  | .broken width flaw :: _ => .error ⟨position, width, octets.getD position 0, flaw⟩

def decode (octets : Octets) : Except Fault (List Char) := decodePieces octets 0 (pieces octets)

def decodeLossy (octets : Octets) : List Char := (pieces octets).map Piece.char

end Text.Utf8

end WatchTrial
