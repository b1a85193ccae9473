import WatchTrial.Verdict.EventSet
import WatchTrial.Event

set_option autoImplicit false

namespace WatchTrial

structure Verdict where
  expected : EventSet
  obtained : EventSet
  deriving DecidableEq

namespace Verdict

/-- Compares observed event texts with expected ones; order and repetition do not count. -/
def compare (obtained expected : List String) : Verdict :=
  ⟨EventSet.ofList expected, EventSet.ofList obtained⟩

def passed (v : Verdict) : Bool := decide (v.expected = v.obtained)

def missing (v : Verdict) : EventSet := v.expected.diff v.obtained

def unexpected (v : Verdict) : EventSet := v.obtained.diff v.expected

end Verdict

end WatchTrial
