import WatchTrial.Proofs.Watcher.Capture

set_option autoImplicit false

/- A started watcher, the reader of its output and the harness, each going on in its own time. What
happens is a list of turns in any order; the turn of one who cannot take it changes nothing. -/

namespace WatchTrial

/-- Where the harness is in ending the watcher. -/
inductive Halting where
  | outside
  | entered
  /-- It has asked the watcher to end, and waits. -/
  | asked
  /-- It has killed the watcher, and waits. -/
  | killed
  /-- It has seen that the watcher has ended. -/
  | ended
  deriving DecidableEq, Repr

/-- What has come of waiting for the reader. -/
inductive Joining where
  | awaited
  /-- The reader was found to be done. -/
  | joined
  /-- The reader was not done in time, of which the harness warns. -/
  | givenUp
  deriving DecidableEq, Repr

structure Interplay where
  capture : Capture
  /-- The lines that the reader has handed on. -/
  collected : List String := []
  /-- Whether the reader has come to the end of its work. -/
  through : Bool := false
  running : Bool := true
  halting : Halting := .outside
  joining : Joining := .awaited
  /-- What the harness has been given whenever it asked for lines, the last first. -/
  given : List (List String) := []
  deriving DecidableEq, Repr

/-- One step of one party. -/
inductive Turn where
  /-- A process of the watcher writes. -/
  | write (octets : Octets)
  /-- The last process that can write lets go of the output. -/
  | letGo
  /-- The watcher ends, by itself or by a signal. -/
  | exit
  /-- The reader takes octets. -/
  | take (count : Nat)
  /-- The reader sees whether it has met the end. -/
  | meetEnd
  /-- The reader hands on the next line, or is through if it has met the end and there is none. -/
  | handOn
  /-- The harness asks for the lines. -/
  | give
  /-- The harness sets about ending the watcher. -/
  | enter
  /-- It sees whether the watcher is running, and asks it to end if it is. -/
  | look
  /-- It has waited in vain and kills the watcher. -/
  | lapse
  /-- It sees that the watcher has ended. -/
  | reap
  /-- It stops waiting for the reader, if it has to, and sees whether that is done. -/
  | join
  /-- It cannot wait for the reader with the time limit it has, and leaves it. -/
  | refuse
  deriving DecidableEq, Repr

namespace Interplay

/-- A watcher that has just been started. -/
def start : Interplay := { capture := .start }

def go (s : Interplay) : Turn → Interplay
  | .write octets => { s with capture := s.capture.write octets }
  | .letGo => { s with capture := s.capture.close }
  | .exit => { s with running := false }
  | .take count => { s with capture := s.capture.take count }
  | .meetEnd => { s with capture := s.capture.finish }
  | .handOn =>
      if s.through then s
      else
        match s.capture.lines[s.collected.length]? with
        | some line => { s with collected := s.collected ++ [line] }
        | none => { s with through := s.capture.ended }
  | .give => { s with given := s.collected :: s.given }
  | .enter => if s.halting = .outside then { s with halting := .entered } else s
  | .look =>
      if s.halting = .entered then { s with halting := if s.running then .asked else .ended } else s
  | .lapse => if s.halting = .asked then { s with halting := .killed } else s
  | .reap =>
      if (s.halting = .asked ∨ s.halting = .killed) ∧ s.running = false then
        { s with halting := .ended }
      else s
  | .join =>
      if s.halting = .ended then
        { s with
          halting := .outside
          joining :=
            if s.joining = .awaited then if s.through then .joined else .givenUp else s.joining }
      else s
  | .refuse =>
      if s.halting = .ended ∧ s.joining = .awaited then { s with halting := .outside } else s

/-- What turns lead to. -/
def after (s : Interplay) (turns : List Turn) : Interplay := turns.foldl go s

@[simp] theorem after_nil (s : Interplay) : s.after [] = s := rfl

@[simp] theorem after_cons (s : Interplay) (turn : Turn) (rest : List Turn) :
    s.after (turn :: rest) = (s.go turn).after rest := rfl

theorem after_append (s : Interplay) (first second : List Turn) :
    s.after (first ++ second) = (s.after first).after second := List.foldl_append

/-- What holds of every interplay. -/
structure Sound (s : Interplay) : Prop where
  capture : s.capture.Sound
  collected : s.collected <+: s.capture.lines
  given : ∀ lines ∈ s.given, lines <+: s.collected
  ordered : s.given.Pairwise fun later earlier => earlier <+: later
  through : s.through = true → s.capture.ended = true ∧ s.collected = s.capture.lines
  joined : s.joining = .joined → s.through = true

variable {s : Interplay}

theorem sound_start : start.Sound where
  capture := Capture.sound_start
  collected := List.nil_prefix
  given lines member := by cases member
  ordered := List.Pairwise.nil
  through through := by cases through
  joined joined := by cases joined

/-- A party does something to the channel. -/
theorem Sound.channel {capture : Capture} (sound : s.Sound) (goes : s.capture.Goes capture) :
    { s with capture }.Sound where
  capture := goes.sound
  collected := sound.collected.trans goes.lines
  given := sound.given
  ordered := sound.ordered
  through through := by
    have met := sound.through through
    have same := goes.settled met.1
    exact ⟨same ▸ met.1, same ▸ met.2⟩
  joined := sound.joined

/-- The next line is the one after those that have been handed on. -/
theorem Sound.handOn (sound : s.Sound) : (s.go .handOn).Sound := by
  simp only [go]
  split
  · exact sound
  · rename_i going
    split
    · rename_i line next
      have longer : s.collected ++ [line] <+: s.capture.lines := by
        obtain ⟨rest, whole⟩ := sound.collected
        rw [← whole, List.getElem?_append_right (Nat.le_refl _), Nat.sub_self] at next
        obtain ⟨rest', rfl⟩ : ∃ rest', rest = line :: rest' := by
          cases rest with
          | nil => cases next
          | cons first rest' =>
              cases next
              exact ⟨rest', rfl⟩
        exact ⟨rest', by rw [List.append_assoc]; exact whole⟩
      exact ⟨sound.capture, longer,
        fun lines member => (sound.given lines member).trans (List.prefix_append _ _),
        sound.ordered, fun through => absurd through going, sound.joined⟩
    · rename_i none
      -- Nothing is left to hand on, so all lines have been.
      have all : s.collected = s.capture.lines :=
        sound.collected.eq_of_length_le (List.getElem?_eq_none_iff.1 none)
      exact ⟨sound.capture, sound.collected, sound.given, sound.ordered, fun met => ⟨met, all⟩,
        fun joined => absurd (sound.joined joined) going⟩

theorem Sound.give (sound : s.Sound) : (s.go .give).Sound where
  capture := sound.capture
  collected := sound.collected
  given lines member := by
    rcases List.mem_cons.1 member with rfl | earlier
    · exact List.prefix_refl _
    · exact sound.given lines earlier
  ordered := List.pairwise_cons.2 ⟨sound.given, sound.ordered⟩
  through := sound.through
  joined := sound.joined

/-- Where the harness is in ending the watcher is of no account to what has been captured. -/
theorem Sound.halts (sound : s.Sound) (running : Bool) (halting : Halting) :
    { s with running, halting }.Sound :=
  ⟨sound.capture, sound.collected, sound.given, sound.ordered, sound.through, sound.joined⟩

theorem Sound.join (sound : s.Sound) : (s.go .join).Sound := by
  simp only [go]
  split
  · refine ⟨sound.capture, sound.collected, sound.given, sound.ordered, sound.through,
      fun joined => ?_⟩
    simp only at joined
    split at joined
    · split at joined
      · rename_i through
        exact through
      · cases joined
    · exact sound.joined joined
  · exact sound

theorem Sound.go (sound : s.Sound) (turn : Turn) : (s.go turn).Sound := by
  cases turn with
  | write octets => exact sound.channel (Capture.goes_write octets sound.capture)
  | letGo => exact sound.channel (Capture.goes_close sound.capture)
  | take count => exact sound.channel (Capture.goes_take count sound.capture)
  | meetEnd => exact sound.channel (Capture.goes_finish sound.capture)
  | handOn => exact sound.handOn
  | give => exact sound.give
  | exit => exact sound.halts false s.halting
  | join => exact sound.join
  | enter | look | lapse | reap | refuse =>
      simp only [Interplay.go]
      split
      · exact sound.halts s.running _
      · exact sound

theorem Sound.after (sound : s.Sound) (turns : List Turn) : (s.after turns).Sound := by
  induction turns generalizing s with
  | nil => exact sound
  | cons turn rest ih => exact ih (sound.go turn)

/-- Nothing but what the harness is given, which is always the same, has changed in what has been
captured. -/
structure Settled (s after : Interplay) : Prop where
  joining : after.joining = s.joining
  capture : after.capture = s.capture
  collected : after.collected = s.collected
  given : ∃ count, after.given = List.replicate count s.collected ++ s.given

theorem Settled.refl (s : Interplay) : s.Settled s := ⟨rfl, rfl, rfl, 0, rfl⟩

theorem Settled.trans {between after : Interplay} (first : s.Settled between)
    (second : between.Settled after) : s.Settled after := by
  obtain ⟨some, first'⟩ := first.given
  obtain ⟨more, second'⟩ := second.given
  refine ⟨second.joining.trans first.joining, second.capture.trans first.capture,
    second.collected.trans first.collected, more + some, ?_⟩
  rw [second', first', first.collected, ← List.append_assoc, List.replicate_append_replicate]

/-- Once the reader has been found to be done, nobody changes what has been captured. -/
theorem settled_go (sound : s.Sound) (joined : s.joining = .joined) (turn : Turn) :
    s.Settled (s.go turn) := by
  have through := sound.joined joined
  have done := sound.through through
  have channel {capture : Capture} (goes : s.capture.Goes capture) :
      s.Settled { s with capture } := ⟨rfl, goes.settled done.1, rfl, 0, rfl⟩
  cases turn with
  | write octets => exact channel (Capture.goes_write octets sound.capture)
  | letGo => exact channel (Capture.goes_close sound.capture)
  | take count => exact channel (Capture.goes_take count sound.capture)
  | meetEnd => exact channel (Capture.goes_finish sound.capture)
  | handOn =>
      have same : s.go .handOn = s := if_pos through
      rw [same]
      exact Settled.refl s
  | give => exact ⟨rfl, rfl, rfl, 1, rfl⟩
  | exit => exact ⟨rfl, rfl, rfl, 0, rfl⟩
  | join =>
      simp only [go]
      split
      · refine ⟨?_, rfl, rfl, 0, rfl⟩
        simp [joined]
      · exact Settled.refl s
  | enter | look | lapse | reap | refuse =>
      simp only [go]
      split
      · exact ⟨rfl, rfl, rfl, 0, rfl⟩
      · exact Settled.refl s

theorem settled_after (sound : s.Sound) (joined : s.joining = .joined) (turns : List Turn) :
    s.Settled (s.after turns) := by
  induction turns generalizing s with
  | nil => exact Settled.refl s
  | cons turn rest ih =>
      have first := settled_go sound joined turn
      exact first.trans (ih (sound.go turn) (first.joining.trans joined))

/-- What the harness is given is the start of all lines, and the later it is given the longer it is. -/
theorem given_isPrefix (sound : s.Sound) :
    (∀ lines ∈ s.given, lines <+: Capture.wholeLines s.capture.stream) ∧
      s.given.Pairwise fun later earlier => earlier <+: later :=
  ⟨fun lines member => (sound.given lines member).trans
    (sound.collected.trans (Capture.lines_prefix_wholeLines sound.capture)), sound.ordered⟩

/-- When the reader has been found to be done, all lines have been handed on. -/
theorem collected_of_joined (sound : s.Sound) (joined : s.joining = .joined) :
    s.collected = Capture.wholeLines s.capture.stream := by
  have done := sound.through (sound.joined joined)
  rw [done.2, Capture.lines_of_ended sound.capture done.1]

end Interplay

end WatchTrial
