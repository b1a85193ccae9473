import WatchTrial.Proofs.Watcher.Growing
import WatchTrial.Proofs.Watcher.Interplay

set_option autoImplicit false

/- Lines collected from a watcher. The reader of a world keeps up with the watcher, so that whatever
happens in a world is one of the interplays in which each goes on in its own time. -/

namespace WatchTrial

theorem Child.capture_eq (c : Child) : c.capture = ⟨[], c.output, !c.isReleased, c.isReleased⟩ := by
  cases released : c.isReleased <;>
    simp [Child.capture, released, Capture.start, Capture.write, Capture.close, Capture.drain,
      Capture.take, Capture.finish]

namespace Interplay

/-- Turns lead from one to the other. -/
def Reaches (s t : Interplay) : Prop := ∃ turns, s.after turns = t

namespace Reaches

theorem refl (s : Interplay) : s.Reaches s := ⟨[], rfl⟩

theorem trans {s between t : Interplay} (first : s.Reaches between) (second : between.Reaches t) :
    s.Reaches t := by
  obtain ⟨turns, rfl⟩ := first
  obtain ⟨more, rfl⟩ := second
  exact ⟨turns ++ more, after_append s turns more⟩

theorem go (s : Interplay) (turn : Turn) : s.Reaches (s.go turn) := ⟨[turn], rfl⟩

/-- The reader hands on all lines that there are, and is through if it has met the end. -/
theorem handOn {s : Interplay} (going : s.through = false)
    (collected : s.collected <+: s.capture.lines) :
    s.Reaches { s with collected := s.capture.lines, through := s.capture.ended } := by
  obtain ⟨rest, whole⟩ := collected
  induction rest generalizing s with
  | nil =>
      rw [List.append_nil] at whole
      have last : s.go .handOn = { s with through := s.capture.ended } := by
        simp [Interplay.go, going, whole]
      rw [← whole]
      exact last ▸ Reaches.go s .handOn
  | cons line rest ih =>
      have next : s.go .handOn = { s with collected := s.collected ++ [line] } := by
        simp [Interplay.go, going, ← whole]
      have others := ih (s := { s with collected := s.collected ++ [line] }) going
        (by rw [← whole, List.append_assoc]; rfl)
      exact (next ▸ Reaches.go s .handOn).trans others

end Reaches

/-- A program of which the reader keeps up. -/
def following (c : Child) (halting : Halting) (joining : Joining) (given : List (List String)) :
    Interplay where
  capture := c.capture
  collected := c.capture.lines
  through := c.isReleased
  running := c.isRunning
  halting := halting
  joining := joining
  given := given

variable {halting : Halting} {joining : Joining} {given : List (List String)}

/-- The writers write what is missing of a later output and let go of it if they have by then, and
the reader takes all of it and hands on all lines. -/
theorem reaches_following (later : Child) {taken : Octets} (longer : taken <+: later.output)
    (running : Bool) (past : running = false → later.isRunning = false) :
    Reaches
      { capture := ⟨[], taken, true, false⟩, collected := Capture.finishedLines taken, running,
        halting, joining, given }
      (following later halting joining given) := by
  obtain ⟨more, longer⟩ := longer
  let captured (capture : Capture) (running : Bool) : Interplay :=
    { capture, collected := Capture.finishedLines taken, running, halting, joining, given }
  have written : (captured ⟨[], taken, true, false⟩ running).Reaches
      (captured ⟨more, taken, true, false⟩ running) := Reaches.go _ (.write more)
  have left : (captured ⟨more, taken, true, false⟩ running).Reaches
      (captured ⟨more, taken, !later.isReleased, false⟩ running) := by
    cases later.isReleased with
    | false => exact Reaches.refl _
    | true => exact Reaches.go _ .letGo
  have exited (capture : Capture) :
      (captured capture running).Reaches (captured capture later.isRunning) := by
    cases goesOn : later.isRunning with
    | false => exact Reaches.go _ .exit
    | true =>
        have running : running = true := by
          cases running with
          | true => rfl
          | false => exact (past rfl).symm.trans goesOn
        rw [running]
        exact Reaches.refl _
  have took : (captured ⟨more, taken, !later.isReleased, false⟩ later.isRunning).Reaches
      (captured ⟨[], later.output, !later.isReleased, false⟩ later.isRunning) := by
    have all := Reaches.go (captured ⟨more, taken, !later.isReleased, false⟩ later.isRunning)
      (.take more.length)
    simpa [Interplay.go, Capture.take, captured, longer] using all
  have met : (captured ⟨[], later.output, !later.isReleased, false⟩ later.isRunning).Reaches
      (captured later.capture later.isRunning) := by
    have seen := Reaches.go
      (captured ⟨[], later.output, !later.isReleased, false⟩ later.isRunning) .meetEnd
    simpa [Interplay.go, Capture.finish, captured, Child.capture_eq] using seen
  have handed : (captured later.capture later.isRunning).Reaches
      (following later halting joining given) := by
    have sofar : Capture.finishedLines taken <+: later.capture.lines := by
      rw [Child.capture_eq, Capture.lines, ← longer]
      split
      · exact Capture.finishedLines_prefix_wholeLines taken more
      · exact Capture.finishedLines_isPrefix taken more
    have all := Reaches.handOn (s := captured later.capture later.isRunning) rfl sofar
    simpa [captured, following, Child.capture_eq] using all
  exact written.trans (left.trans ((exited _).trans (took.trans (met.trans handed))))

/-- A program that has gone on, and with it its reader. -/
theorem reaches_grown {c later : Child} (grows : c.Grows later) :
    (following c halting joining given).Reaches (following later halting joining given) := by
  cases released : c.isReleased with
  | true =>
      have past (d : Child) (free : d.isReleased = true) : d.isRunning = false :=
        Child.isRunning_eq_false.2 (Child.isReleased_iff.1 free).1
      obtain ⟨still, same⟩ := grows.released released
      have here : following later halting joining given = following c halting joining given := by
        simp [following, Child.capture_eq, released, still, same, past c released, past later still]
      rw [here]
      exact Reaches.refl _
  | false =>
      have captured := c.capture_eq
      rw [released] at captured
      have here : following c halting joining given =
          { capture := ⟨[], c.output, true, false⟩, collected := Capture.finishedLines c.output,
            running := c.isRunning, halting, joining, given } := by
        simp [following, captured, Capture.lines, released]
      rw [here]
      exact reaches_following later grows.output c.isRunning grows.past

/-- A world in which the watcher has come as far as in an interplay, with a reader that keeps up and
while the harness is not about to end it. -/
structure Plays (s : Interplay) (w : World) : Prop where
  child : ∃ c, w.child = some c ∧ s = following c .outside s.joining s.given
  reading : w.reading = true ↔ s.joining = .awaited
  warned : s.joining = .givenUp → Watcher.unfinished ∈ w.log

variable {s : Interplay} {w after : World}

/-- One of the interplays goes on as a world does, while the harness is given what is given. -/
def Follows (s : Interplay) (after : World) (given : List (List String)) : Prop :=
  ∃ t, s.Reaches t ∧ t.Plays after ∧ t.given = given

theorem Plays.grow (plays : s.Plays w) (grows : w.Grows after) : s.Follows after s.given := by
  obtain ⟨⟨c, started, here⟩, reading, warned⟩ := plays
  obtain ⟨later, going, more⟩ := grows.child c started
  have reached : s.Reaches (following later .outside s.joining s.given) := by
    rw [here]
    exact reaches_grown more
  exact ⟨_, reached, ⟨⟨later, going, rfl⟩, grows.reading ▸ reading,
    fun givenUp => grows.log.subset (warned givenUp)⟩, rfl⟩

/-- The harness has seen that the watcher has ended, which it has asked it to if it was running. -/
theorem reaches_ended (timeout : Binary64) {c : Child} (started : w.child = some c)
    (joining : Joining) (given : List (List String)) :
    let halted := if w.isWatching then Watcher.halt timeout w else w
    w.Grows halted ∧ ∃ later, halted.child = some later ∧
      (following c .outside joining given).Reaches (following later .ended joining given) := by
  intro halted
  have entered : (following c .outside joining given).Reaches
      (following c .entered joining given) := Reaches.go _ .enter
  have same : w.isWatching = c.isRunning := by simp [World.isWatching, started]
  have looked : (following c .entered joining given).Reaches
      (following c (if c.isRunning then .asked else .ended) joining given) := Reaches.go _ .look
  cases running : c.isRunning with
  | false =>
      have left : halted = w := by simp [halted, same, running]
      rw [running] at looked
      rw [left]
      exact ⟨World.Grows.refl w, c, started, entered.trans looked⟩
  | true =>
      have asked : halted = Watcher.halt timeout w := by simp [halted, same, running]
      rw [running] at looked
      rw [asked]
      have grows := Watcher.grows_halt timeout w
      obtain ⟨later, going, more⟩ := grows.child c started
      have past : later.isRunning = false := by
        simpa [World.isWatching, going] using Watcher.isWatching_halt timeout w
      have reaped : (following later .asked joining given).Reaches
          (following later .ended joining given) := by
        have reaping := Reaches.go (following later .asked joining given) .reap
        simpa [Interplay.go, following, past] using reaping
      exact ⟨grows, later, going,
        entered.trans (looked.trans ((reaches_grown more).trans reaped))⟩

/-- The harness leaves a reader that it cannot wait for. -/
theorem follows_left {c : Child} (started : w.child = some c) (waits : w.reading = true) :
    (following c .ended .awaited given).Follows w given := by
  refine ⟨_, Reaches.go _ .refuse, ⟨⟨c, started, rfl⟩, ⟨fun _ => rfl, fun _ => waits⟩, ?_⟩, rfl⟩
  intro givenUp
  cases givenUp

/-- The harness stops waiting for the reader, or sees that it cannot wait for it. -/
theorem follows_awaitReader (timeout : Binary64) {c : Child} (started : w.child = some c)
    (waits : w.reading = true) :
    (following c .ended .awaited given).Follows (Watcher.awaitReader timeout w).2 given := by
  rcases Watcher.awaitReader_cases timeout w with ⟨f, -, refused⟩ | ⟨-, last, waited⟩
  · rw [refused]
    exact follows_left started waits
  · have grows := World.grows_advance w Child.isReleased (some last)
    obtain ⟨later, going, more⟩ := grows.child c started
    have waiting : (following c .ended .awaited given).Reaches
        (following later .ended .awaited given) := reaches_grown more
    have joins := Reaches.go (following later .ended .awaited given) .join
    rcases waited with ⟨released, done⟩ | ⟨held, clock, givenUp⟩
    · have through : later.isReleased = true := by simpa [going] using released
      have joined : (following later .ended .awaited given).Reaches
          (following later .outside .joined given) := by
        simpa [Interplay.go, following, through] using joins
      rw [done]
      refine ⟨_, waiting.trans joined, ⟨⟨later, going, rfl⟩, ?_, fun givenUp => ?_⟩, rfl⟩
      · simp [following]
      · cases givenUp
    · have still : later.isReleased = false := by simpa [going] using held
      have left : (following later .ended .awaited given).Reaches
          (following later .outside .givenUp given) := by
        simpa [Interplay.go, following, still] using joins
      rw [givenUp]
      refine ⟨_, waiting.trans left, ⟨⟨later, going, rfl⟩, ?_, fun _ => ?_⟩, rfl⟩
      · simp [following]
      · exact List.mem_append_right _ List.mem_cons_self

theorem Follows.of_reaches {t : Interplay} {lines : List (List String)} (reached : s.Reaches t)
    (follows : t.Follows w lines) : s.Follows w lines := by
  obtain ⟨last, more, plays, given⟩ := follows
  exact ⟨last, reached.trans more, plays, given⟩

/-- The harness ends the watcher, and waits for the reader if it has not done so before. -/
theorem Plays.terminate (timeout : Binary64) (plays : s.Plays w) :
    s.Follows ((Watcher.terminate timeout).run w).2 s.given := by
  obtain ⟨⟨c, started, here⟩, reading, warned⟩ := plays
  obtain ⟨grows, later, going, ended⟩ := reaches_ended timeout started s.joining s.given
  rw [← here] at ended
  rw [Watcher.terminate, Act.run_ofFunction]
  generalize (if w.isWatching then Watcher.halt timeout w else w) = halted at grows going ⊢
  simp only
  by_cases waits : halted.reading = true
  · have awaited : s.joining = .awaited := reading.1 (grows.reading ▸ waits)
    rw [awaited] at ended
    refine Follows.of_reaches ended ?_
    split
    · exact follows_awaitReader timeout going waits
    · exact follows_left going waits
  · have left : halted.awaits = false := by simp [World.awaits, waits]
    rw [if_neg (Bool.eq_false_iff.1 left)]
    have settled : s.joining ≠ .awaited := fun awaited =>
      waits (grows.reading.trans (reading.2 awaited))
    have left : (following later .ended s.joining s.given).Reaches
        (following later .outside s.joining s.given) := by
      have joins := Reaches.go (following later .ended s.joining s.given) .join
      simpa [Interplay.go, following, settled] using joins
    refine ⟨_, ended.trans left, ⟨⟨later, going, rfl⟩, ?_, fun givenUp => ?_⟩, rfl⟩
    · simp [following, waits, settled]
    · exact grows.log.subset (warned givenUp)

end Interplay

namespace World

open Watcher (Call)

variable (launcher : Launcher) (settings : Settings)

/-- What a call gives of the output. -/
def heard (w : World) : Call → List (List String)
  | .output => [w.output]
  | _ => []

/-- What calls give of the output, the last first. -/
def outputs (w : World) : List Call → List (List String)
  | [] => []
  | call :: rest => outputs (w.next launcher settings call) rest ++ w.heard call

variable {w : World}

theorem heard_of_idle (idle : w.child = none) (call : Call) :
    ∃ count, w.heard call = List.replicate count [] := by
  cases call with
  | output => exact ⟨1, by simp [heard, output, idle]⟩
  | _ => exact ⟨0, rfl⟩

end World

namespace Interplay

open Watcher (Call)

variable {s : Interplay} {w : World} (launcher : Launcher) (settings : Settings)

theorem Plays.output (plays : s.Plays w) : w.output = s.collected := by
  obtain ⟨⟨c, started, here⟩, -, -⟩ := plays
  rw [here]
  simp [World.output, started, following]

theorem Plays.stream {c : Child} (plays : s.Plays w) (started : w.child = some c) :
    s.capture.stream = c.output := by
  obtain ⟨⟨d, begun, here⟩, -, -⟩ := plays
  cases started.symm.trans begun
  rw [here]
  simp [following, Child.capture_eq, Capture.stream]

theorem Plays.give (plays : s.Plays w) : s.Follows w (w.output :: s.given) := by
  have given : (s.go .give).given = w.output :: s.given := by rw [plays.output]; rfl
  obtain ⟨⟨c, started, here⟩, reading, warned⟩ := plays
  refine ⟨s.go .give, Reaches.go s .give, ⟨⟨c, started, ?_⟩, reading, warned⟩, given⟩
  rw [here]
  rfl

/-- Whatever is asked of a watcher or happens to it, its interplay goes on with it. -/
theorem Plays.next (plays : s.Plays w) (call : Call) :
    s.Follows (w.next launcher settings call) (w.heard call ++ s.given) := by
  by_cases asks : call = .output
  · subst asks
    exact plays.give
  · have silent : w.heard call = [] := by
      cases call with
      | output => exact absurd rfl asks
      | _ => rfl
    rw [silent, List.nil_append]
    rcases Watcher.next_cases launcher settings w call with ⟨-, ended⟩ | ⟨grows, -⟩ | ⟨idle, -⟩
    · rw [ended]
      exact plays.terminate _
    · exact plays.grow grows
    · obtain ⟨c, started, -⟩ := plays.child
      cases started.symm.trans idle

theorem Plays.after (plays : s.Plays w) (calls : List Call) :
    s.Follows (w.after launcher settings calls) (w.outputs launcher settings calls ++ s.given) := by
  induction calls generalizing s w with
  | nil => exact ⟨s, Reaches.refl s, plays, rfl⟩
  | cons call rest ih =>
      obtain ⟨t, reached, goesOn, given⟩ := plays.next launcher settings call
      have last := Follows.of_reaches reached (ih goesOn)
      rw [given, ← List.append_assoc] at last
      exact last

/-- A watcher that has just been started, and may have gone on since. -/
theorem follows_begun {roots : List Path} {process : Process} {after : World}
    (grows : (Watcher.begun settings roots process w).Grows after) : start.Follows after [] := by
  have reached : start.Reaches (following (.ofProcess process w.clock) .outside .awaited []) :=
    reaches_following (.ofProcess process w.clock) List.nil_prefix true (fun past => by cases past)
  have plays : (following (.ofProcess process w.clock) .outside .awaited []).Plays
      (Watcher.begun settings roots process w) :=
    ⟨⟨_, rfl, rfl⟩, ⟨fun _ => rfl, fun _ => rfl⟩, fun givenUp => by cases givenUp⟩
  exact Follows.of_reaches reached (plays.grow grows)

/-- As long as no watcher has been started there is none, until one is started. -/
theorem idle_next (idle : w.child = none) (call : Call) :
    (w.next launcher settings call).child = none ∨
      start.Follows (w.next launcher settings call) [] := by
  have still {after : World} (same : after.child.isSome = w.child.isSome) : after.child = none := by
    simpa [idle] using same
  rcases Watcher.next_cases launcher settings w call with
    ⟨-, ended⟩ | ⟨-, same⟩ | ⟨-, roots, process, grows⟩
  · rw [ended]
    exact Or.inl (still (Watcher.continues_terminate _ w).started)
  · exact Or.inl (still same)
  · exact Or.inr (follows_begun settings grows)

/-- Wherever calls lead, one of the interplays has led there too, if a watcher has been started; and
what has been given of the output is what has been given in it, and no lines before. -/
theorem follows_after (idle : w.child = none) (calls : List Call) :
    ∃ count given,
      w.outputs launcher settings calls = given ++ List.replicate count [] ∧
        ((w.after launcher settings calls).child = none ∧ given = [] ∨
          start.Follows (w.after launcher settings calls) given) := by
  induction calls generalizing w with
  | nil => exact ⟨0, [], rfl, Or.inl ⟨idle, rfl⟩⟩
  | cons call rest ih =>
      obtain ⟨none, heard⟩ := World.heard_of_idle idle call
      rcases idle_next launcher settings idle call with
        still | ⟨t, reached, plays, unheard⟩
      · obtain ⟨count, given, outputs, leads⟩ := ih still
        refine ⟨count + none, given, ?_, leads⟩
        rw [World.outputs, outputs, heard, List.append_assoc, List.replicate_append_replicate]
      · have last := plays.after launcher settings rest
        rw [unheard, List.append_nil] at last
        exact ⟨none, _, by rw [World.outputs, heard], Or.inr (Follows.of_reaches reached last)⟩

/-- What is given first, before a watcher has been started, is the start of anything. -/
theorem ordered_append_replicate {given : List (List String)}
    (ordered : given.Pairwise fun later earlier => earlier <+: later) (count : Nat) :
    (given ++ List.replicate count []).Pairwise fun later earlier => earlier <+: later := by
  refine List.pairwise_append.2 ⟨ordered, ?_, fun lines _ none member => ?_⟩
  · exact List.pairwise_replicate.2 (Or.inr (List.prefix_refl _))
  · rw [List.eq_of_mem_replicate member]
    exact List.nil_prefix

/-- What calls give of the output is the start of all lines, and the later they give it the longer
it is. -/
theorem outputs_isPrefix {first : World} (idle : first.child = none) (calls : List Call) :
    let w := first.after launcher settings calls
    (∀ c, w.child = some c → ∀ lines ∈ first.outputs launcher settings calls,
      lines <+: Capture.wholeLines c.output) ∧
      (first.outputs launcher settings calls).Pairwise fun later earlier => earlier <+: later := by
  intro w
  obtain ⟨count, given, outputs, leads⟩ := follows_after launcher settings idle calls
  have whole : (∀ c, w.child = some c → ∀ lines ∈ given, lines <+: Capture.wholeLines c.output) ∧
      given.Pairwise fun later earlier => earlier <+: later := by
    rcases leads with ⟨-, rfl⟩ | ⟨t, ⟨turns, rfl⟩, plays, rfl⟩
    · exact ⟨fun c _ lines member => (List.not_mem_nil member).elim, List.Pairwise.nil⟩
    · obtain ⟨begins, ordered⟩ := given_isPrefix (sound_start.after turns)
      refine ⟨fun c started lines member => ?_, ordered⟩
      rw [← plays.stream started]
      exact begins lines member
  rw [outputs]
  refine ⟨fun c started lines member => ?_, ordered_append_replicate whole.2 count⟩
  rcases List.mem_append.1 member with seen | before
  · exact whole.1 c started lines seen
  · rw [List.eq_of_mem_replicate before]
    exact List.nil_prefix

/-- When a watcher has been ended and its reader has been done in time, one of the interplays has led
there in which the reader was found to be done. -/
theorem joined_of_finished {first : World} (idle : first.child = none) (calls : List Call) {c : Child}
    (started : (first.after launcher settings calls).child = some c)
    (ended : (first.after launcher settings calls).reading = false)
    (noted : Watcher.unfinished ∉ (first.after launcher settings calls).log) :
    ∃ turns, (start.after turns).Plays (first.after launcher settings calls) ∧
      (start.after turns).joining = .joined := by
  obtain ⟨_, _, -, ⟨idle, -⟩ | ⟨t, ⟨turns, rfl⟩, plays, -⟩⟩ :=
    follows_after launcher settings idle calls
  · cases started.symm.trans idle
  · refine ⟨turns, plays, ?_⟩
    cases joining : (start.after turns).joining with
    | awaited => cases ended.symm.trans (plays.reading.2 joining)
    | joined => rfl
    | givenUp => exact absurd (plays.warned joining) noted

/-- When a watcher has been ended and its reader has been done in time, all its lines are given, and
nothing else from then on. -/
theorem outputs_of_finished {first : World} (idle : first.child = none) (calls later : List Call)
    {c : Child} :
    let w := first.after launcher settings calls
    w.child = some c → w.reading = false → Watcher.unfinished ∉ w.log →
      w.output = Capture.wholeLines c.output ∧
        (w.after launcher settings later).output = w.output ∧
        ∃ count, w.outputs launcher settings later = List.replicate count w.output := by
  intro w started ended noted
  obtain ⟨turns, plays, joined⟩ :=
    joined_of_finished launcher settings idle calls started ended noted
  have sound := sound_start.after turns
  obtain ⟨_, ⟨more, rfl⟩, goesOn, given⟩ := plays.after launcher settings later
  have settled := settled_after sound joined more
  obtain ⟨count, same⟩ := settled.given
  refine ⟨?_, ?_, count, ?_⟩
  · rw [plays.output, collected_of_joined sound joined, plays.stream started]
  · rw [goesOn.output, settled.collected, plays.output]
  · rw [plays.output]
    exact List.append_cancel_right (given.symm.trans same)

/-- In whatever order watcher, reader and harness go on, what the harness is given is the start of
all lines, the later the longer; and once it has found the reader to be done it is given all of them,
whatever happens then. And so it is in a world, whatever calls have been made and are still made. -/
theorem no_line_is_lost (launcher : Launcher) (settings : Settings) {first : World}
    (idle : first.child = none) :
    (∀ before later : List Turn,
      let s := start.after before
      let last := s.after later
      (∀ lines ∈ last.given, lines <+: Capture.wholeLines last.capture.stream) ∧
        (last.given.Pairwise fun later earlier => earlier <+: later) ∧
        (s.joining = .joined →
          s.collected = Capture.wholeLines s.capture.stream ∧ last.joining = .joined ∧
            last.capture.stream = s.capture.stream ∧ last.collected = s.collected ∧
            ∃ count, last.given = List.replicate count s.collected ++ s.given)) ∧
      ∀ calls later : List Call,
        let w := first.after launcher settings calls
        (∀ c, w.child = some c → ∀ lines ∈ first.outputs launcher settings calls,
          lines <+: Capture.wholeLines c.output) ∧
          ((first.outputs launcher settings calls).Pairwise fun later earlier => earlier <+: later) ∧
          ∀ c, w.child = some c → w.reading = false → Watcher.unfinished ∉ w.log →
            w.output = Capture.wholeLines c.output ∧
              (w.after launcher settings later).output = w.output ∧
              ∃ count, w.outputs launcher settings later = List.replicate count w.output := by
  constructor
  · intro before later s last
    have sound : s.Sound := sound_start.after before
    obtain ⟨begins, ordered⟩ := given_isPrefix (sound.after later)
    refine ⟨begins, ordered, fun joined => ?_⟩
    have settled := settled_after sound joined later
    exact ⟨collected_of_joined sound joined, settled.joining.trans joined,
      congrArg Capture.stream settled.capture, settled.collected, settled.given⟩
  · intro calls later w
    obtain ⟨begins, ordered⟩ := outputs_isPrefix launcher settings idle calls
    exact ⟨begins, ordered, fun c started ended noted =>
      outputs_of_finished launcher settings idle calls later started ended noted⟩

/-- The same when a character comes in two pieces, the last line has no end, and the harness sets
about ending the watcher between the pieces. -/
theorem no_line_is_lost_of_split_character :
    let before : List Turn :=
      [.write [97, 10, 195], .take 3, .handOn, .handOn, .give, .enter, .look, .write [169], .exit,
        .reap, .letGo, .take 1, .meetEnd, .handOn, .handOn, .join]
    let s := start.after before
    let last := s.after [.give, .write [98, 10], .take 2, .handOn, .give]
    let launcher : Launcher := fun _ _ =>
      .ok (.write .output [97, 10, 195] fun _ => .pause 5 .ignores .nothing true fun _ =>
        .write .output [169] fun _ => .nothing)
    let first : World := { tree := { entries := [] }, timed := true }
    let calls : List Call :=
      [.output, .start [], .elapse (fun c => !c.capture.lines.isEmpty) none, .output, .leave,
        .output]
    let w := first.after launcher Settings.usual calls
    first.child = none ∧ s.joining = .joined ∧ s.given = [["a"]] ∧ s.collected = ["a", "é"] ∧
      s.collected = Capture.wholeLines s.capture.stream ∧ last.collected = s.collected ∧
      w.child.isSome = true ∧ w.reading = false ∧ Watcher.unfinished ∉ w.log ∧
      first.outputs launcher Settings.usual calls = [["a", "é"], ["a"], []] ∧
      ∀ c, w.child = some c → w.output = Capture.wholeLines c.output := by
  intro before s last launcher first calls w
  have idle : first.child = none := rfl
  have joined : s.joining = .joined := by decide +kernel
  have ended : w.reading = false := by decide +kernel
  have noted : Watcher.unfinished ∉ w.log := by decide +kernel
  obtain ⟨inTurns, inCalls⟩ := no_line_is_lost launcher Settings.usual idle
  obtain ⟨-, -, complete⟩ := inTurns before [.give, .write [98, 10], .take 2, .handOn, .give]
  obtain ⟨all, -, -, same, -⟩ := complete joined
  obtain ⟨-, -, finished⟩ := inCalls calls []
  exact ⟨idle, joined, by decide +kernel, by decide +kernel, all, same, by decide +kernel, ended,
    noted, by decide +kernel, fun c started => (finished c started ended noted).1⟩

end Interplay

end WatchTrial
