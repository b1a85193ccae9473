import WatchTrial.Proofs.Watcher.Collecting
import WatchTrial.Proofs.Watcher.Starting

set_option autoImplicit false

namespace WatchTrial

/-- A program that writes the given octets and ends. -/
def Process.speaking (octets : Octets) : Process :=
  .write .output octets fun _ => .ended (.exited 0)

namespace Child

/-- The program that has written the given octets and has ended. -/
def spoken (octets : Octets) (now : Nat) : Child :=
  { main := { job := 0, process := .ended (.exited 0), since := now }, written := [octets] }

theorem output_spoken (octets : Octets) (now : Nat) : (spoken octets now).output = octets := by
  simp [spoken, output]

theorem isReleased_spoken (octets : Octets) (now : Nat) : (spoken octets now).isReleased = true := rfl

theorem lines_spoken (octets : Octets) (now : Nat) :
    (spoken octets now).capture.lines = Capture.wholeLines octets := by
  have captured := capture_eq (spoken octets now)
  rw [output_spoken, isReleased_spoken] at captured
  rw [captured]
  rfl

end Child

/-- The program has its turn and has written all and ended. -/
theorem Scene.runUntil_speaking {wanted : Child → Bool} {last : Option Nat} (t : Tree)
    (octets : Octets) (now count : Nat)
    (unmet : wanted (.ofProcess (.speaking octets) now) = false)
    (within : last.any (· < now) = false) :
    runUntil wanted last (count + 1) ⟨t, now, .ofProcess (.speaking octets) now⟩ =
      ⟨t, now, .spoken octets now⟩ := by
  have spoke : (⟨t, now, .ofProcess (.speaking octets) now⟩ : Scene).resume 0 now =
      ⟨t, now, .spoken octets now⟩ := by
    simp [resume, resuming, Child.task, Child.ofProcess, Child.resumed, Process.speaking, perform,
      Child.setTask, written, Child.spoken, Task.isOver, Process.isOver, Process.ending?]
  have first : (⟨t, now, .ofProcess (.speaking octets) now⟩ : Scene).next? = some (0, now) := rfl
  rw [runUntil, if_neg (by simp [unmet])]
  simp only [first, within, Bool.false_eq_true, if_false]
  rw [spoke]
  exact runUntil_of_isSettled wanted last count rfl

namespace World

variable {octets : Octets} {w : World}

theorem child_advance_speaking {wanted : Child → Bool} {last : Option Nat}
    (going : w.child = some (.ofProcess (.speaking octets) w.clock))
    (unmet : wanted (.ofProcess (.speaking octets) w.clock) = false)
    (within : last.any (· < w.clock) = false) :
    (w.advance wanted last).child = some (.spoken octets w.clock) := by
  have ⟨turns, many⟩ : ∃ turns, Scene.turns = turns + 1 := ⟨_, rfl⟩
  have ran := Scene.runUntil_speaking w.tree octets w.clock turns unmet within
  simp only [advance, going, many, ran]

/-- In a pause of whatever length the program has had its turn. -/
theorem child_nap_speaking (n : Nap)
    (going : w.child = some (.ofProcess (.speaking octets) w.clock)) :
    (w.nap n).child = some (.spoken octets w.clock) := by
  have waited : (if w.timed then w.lapse n.time else w.afterWatcher).child =
      some (.spoken octets w.clock) := by
    split
    · have within : (some (w.clock + n.time)).any (· < w.clock) = false := by simp
      exact child_advance_speaking going rfl within
    · exact child_advance_speaking going rfl rfl
  exact waited

end World

namespace Watcher

variable {octets : Octets}

theorem run_start_speaking {launcher : Launcher} {s : Settings} {roots : List Path} {w : World}
    (idle : w.child = none) (pauses : s.startupGrace.isPositive = true)
    (possible : graceFault? s w = none)
    (launches : Launches launcher s roots w.tree (.speaking octets)) :
    ∃ after, (start launcher s roots).run w = (.ok (), after) ∧ after.awaits = true ∧
      after.child = some (.spoken octets w.clock) ∧ after.log = w.log ++ [starting s roots] := by
  have started := run_start_of_launches idle launches
  have going : (begun s roots (.speaking octets) w).child =
      some (.ofProcess (.speaking octets) (begun s roots (.speaking octets) w).clock) := rfl
  rcases grace_cases s (begun s roots (.speaking octets) w) with
    ⟨f, fault, -⟩ | ⟨-, after, ran, rfl⟩
  · cases possible.symm.trans fault
  · rw [if_pos pauses] at ran
    refine ⟨_, started.trans ran, World.awaits_nap _ _, World.child_nap_speaking _ going, ?_⟩
    exact World.log_nap _ _

theorem run_terminate_spoken {timeout : Binary64} {w : World} {now : Nat}
    (limited : timeout.timeFault? = none) (awaits : w.awaits = true)
    (ended : w.child = some (.spoken octets now)) :
    (terminate timeout).run w = (.ok (), { w with reading := false }) ∧
      w.output = Capture.wholeLines octets := by
  refine ⟨terminate_of_released limited awaits ended (Child.isReleased_spoken octets now), ?_⟩
  rw [World.output, ended]
  exact Child.lines_spoken octets now

end Watcher

end WatchTrial
