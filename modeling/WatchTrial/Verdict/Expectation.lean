import WatchTrial.Verdict.EventSet
import WatchTrial.Text.Line
import WatchTrial.Text.Utf8

set_option autoImplicit false

namespace WatchTrial.Expectation

/-- The event texts in the content of a file. -/
def ofText (text : List Char) : EventSet :=
  let lines := (Text.fileLines text).filter fun line => !Text.isBlankText line
  EventSet.ofList (lines.map String.ofList)

def read (content : Octets) : Except Text.Utf8.Fault EventSet :=
  (Text.Utf8.decode content).map ofText

/-- The text of a file: the event texts in increasing order, each with a line feed. -/
def toText (events : EventSet) : List Char :=
  events.members.flatMap fun event => event.toList ++ ['\n']

def write (events : EventSet) : Octets := Text.Utf8.encode (toText events)

end WatchTrial.Expectation
