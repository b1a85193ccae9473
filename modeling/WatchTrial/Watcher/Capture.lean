import WatchTrial.Text.Line
import WatchTrial.Text.Utf8

set_option autoImplicit false

/- The output of a watcher on its way to the reader. Writers put octets into the channel and let go
of it, the reader takes them out and, once all writers have let go, meets the end. A line counts
when its end has been taken, the last line also without an end when the end of the output is met. -/

namespace WatchTrial

structure Capture where
  /-- Octets written and not yet taken. -/
  pending : Octets
  taken : Octets
  /-- Whether some process can still write. -/
  writable : Bool
  /-- Whether the reader has met the end. -/
  ended : Bool
  deriving DecidableEq, Repr

namespace Capture

/-- The lines of a whole output. Octets that are no character become U+FFFD. -/
def wholeLines (octets : Octets) : List String :=
  (Text.outputLines (Text.Utf8.decodeLossy octets)).map String.ofList

/-- The text up to its last line feed. -/
def upToLastEnd (text : List Char) : List Char := Text.trimEnd (· != '\n') text

/-- A carriage return at the end may still become the first half of a line end. -/
def withoutLastReturn (text : List Char) : List Char :=
  if text.getLast? = some '\r' then text.dropLast else text

/-- The lines of an output so far that are sure to be complete. -/
def finishedLines (octets : Octets) : List String :=
  let text := Text.unifyEnds (withoutLastReturn (Text.Utf8.decodeLossy octets))
  (Text.cutAfter (· == '\n') (upToLastEnd text)).map String.ofList

def start : Capture := ⟨[], [], true, false⟩

/-- A process writes, if one can. -/
def write (c : Capture) (octets : Octets) : Capture :=
  if c.writable then { c with pending := c.pending ++ octets } else c

/-- The last writer lets go. -/
def close (c : Capture) : Capture := { c with writable := false }

/-- The reader takes some of the pending octets. -/
def take (c : Capture) (count : Nat) : Capture :=
  { c with pending := c.pending.drop count, taken := c.taken ++ c.pending.take count }

/-- The reader meets the end, if nothing is pending and nobody can write. -/
def finish (c : Capture) : Capture :=
  { c with ended := c.ended || (c.pending.isEmpty && !c.writable) }

/-- The reader takes all that there is. -/
def drain (c : Capture) : Capture := (c.take c.pending.length).finish

/-- The lines captured so far. -/
def lines (c : Capture) : List String :=
  if c.ended then wholeLines c.taken else finishedLines c.taken

@[simp] theorem taken_append_pending_take (c : Capture) (count : Nat) :
    (c.take count).taken ++ (c.take count).pending = c.taken ++ c.pending := by
  simp [take]

end Capture

end WatchTrial
