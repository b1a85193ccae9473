import WatchTrial.Watcher.Child

set_option autoImplicit false

/- A program among the files. All its processes share one clock; of those that stand still the one
that is due first goes on, and does all it has to do before it stands still again in no time. -/

namespace WatchTrial

structure Scene where
  tree : Tree
  /-- The time in billionths of a second. -/
  clock : Nat
  child : Child

namespace Scene

def written (s : Scene) (octets : Octets) : Scene :=
  { s with child := { s.child with written := octets :: s.child.written } }

def complained (s : Scene) (octets : Octets) : Scene :=
  { s with child := { s.child with complaints := octets :: s.child.complaints } }

def launched (s : Scene) (job : Nat) (holds : Bool) (p : Process) : Scene :=
  let t : Task := { job, process := p, since := s.clock, holds }
  { s with child := { s.child with helpers := s.child.helpers ++ [t] } }

/-- What is left of a process when it stands still, and the scene that it leaves. One that cannot
write to the output starts none that can. -/
def perform (holds : Bool) : Process → Scene → Process × Scene
  | .write .output octets next, s =>
      perform holds (next ()) (if holds then s.written octets else s)
  | .write .errors octets next, s => perform holds (next ()) (s.complained octets)
  | .write (.pipe _) _ next, s => perform holds (next ()) s
  | .look next, s => perform holds (next s.tree) s
  | .put tree next, s => perform holds (next ()) { s with tree }
  | .launch job passed started next, s =>
      perform holds (next ()) (s.launched job (holds && passed) started)
  | .send job signal next, s =>
      perform holds (next (s.child.goesOn job)) { s with child := s.child.send job signal }
  | .ended e, s => (.ended e, s)
  | .pause duration heed left holds next, s => (.pause duration heed left holds next, s)
  | .await jobs heed left holds next, s => (.await jobs heed left holds next, s)

/-- The place and the time of the task that goes on first. -/
def next? (s : Scene) : Option (Nat × Nat) :=
  ((s.child.main :: s.child.helpers).zipIdx.foldl earlier none)
where
  earlier (best : Option (Nat × Nat)) (entry : Task × Nat) : Option (Nat × Nat) :=
    match best, s.child.due? entry.1 with
    | none, some time => some (entry.2, time)
    | some (place, least), some time =>
        if time < least then some (entry.2, time) else some (place, least)
    | best, none => best

/-- The scene when a task goes on, which has been told all that it is to be told. -/
def resuming (s : Scene) (t : Task) (place time : Nat) : Scene :=
  { s with
    clock := max s.clock time
    child := s.child.setTask { t with asked := false } place }

/-- The scene when the task at a place has gone on at a time. A task that has been ended meanwhile
stays so. -/
def resume (s : Scene) (place time : Nat) : Scene :=
  let t := s.child.task place
  let (process, after) := perform t.holds (s.child.resumed t) (s.resuming t place time)
  let t := after.child.task place
  if t.isOver then after
  else { after with child := after.child.setTask { t with process, since := after.clock } place }

/-- Lets time pass until the program is as wanted, nothing is due any more, or what is due next is
due after the last moment. The number bounds how often a task goes on. -/
def runUntil (wanted : Child → Bool) (last : Option Nat) : Nat → Scene → Scene
  | 0, s => s
  | n + 1, s =>
      if wanted s.child then s
      else
        match s.next? with
        | none => s
        | some (place, time) =>
            if last.any (· < time) then s else runUntil wanted last n (s.resume place time)

/-- How often tasks go on before it is given up that they ever end. -/
def turns : Nat := 4000000

theorem clock_written (s : Scene) (holds : Bool) (octets : Octets) :
    (if holds then s.written octets else s).clock = s.clock := by
  split <;> rfl

theorem clock_perform (holds : Bool) (p : Process) (s : Scene) :
    (perform holds p s).2.clock = s.clock := by
  fun_induction perform holds p s <;> simp_all [clock_written, complained, launched]

theorem clock_le_resume (s : Scene) (place time : Nat) : s.clock ≤ (s.resume place time).clock := by
  have before : s.clock ≤ (s.resuming (s.child.task place) place time).clock :=
    Nat.le_max_left _ _
  unfold resume
  simp only
  split <;> simpa [clock_perform] using before

theorem clock_le_runUntil (wanted : Child → Bool) (last : Option Nat) (count : Nat) (s : Scene) :
    s.clock ≤ (s.runUntil wanted last count).clock := by
  fun_induction runUntil wanted last count s with
  | case5 n s going place time found within ih =>
      exact Nat.le_trans (clock_le_resume s place time) ih
  | _ => exact Nat.le_refl _

theorem written_written (s : Scene) (holds : Bool) (octets : Octets) :
    s.child.written <:+ (if holds then s.written octets else s).child.written := by
  split
  · exact List.suffix_cons octets s.child.written
  · exact List.suffix_refl _

theorem written_perform (holds : Bool) (p : Process) (s : Scene) :
    s.child.written <:+ (perform holds p s).2.child.written := by
  fun_induction perform holds p s with
  | case1 octets next s ih => exact (written_written s holds octets).trans ih
  | case7 job signal next s ih => exact Child.written_send s.child job signal ▸ ih
  | _ => first | assumption | exact List.suffix_refl _

theorem written_setTask (c : Child) (t : Task) (place : Nat) :
    (c.setTask t place).written = c.written := by
  cases place <;> rfl

theorem written_resume (s : Scene) (place time : Nat) :
    s.child.written <:+ (s.resume place time).child.written := by
  have grown := written_perform (s.child.task place).holds
    (s.child.resumed (s.child.task place)) (s.resuming (s.child.task place) place time)
  simp only [resuming, written_setTask] at grown
  unfold resume
  simp only
  split <;> simpa [resuming, written_setTask] using grown

theorem written_runUntil (wanted : Child → Bool) (last : Option Nat) (count : Nat) (s : Scene) :
    s.child.written <:+ (s.runUntil wanted last count).child.written := by
  fun_induction runUntil wanted last count s with
  | case5 n s going place time found within ih => exact (written_resume s place time).trans ih
  | _ => exact List.suffix_refl _

/-- As time passes the output only gets longer. -/
theorem output_runUntil (wanted : Child → Bool) (last : Option Nat) (count : Nat) (s : Scene) :
    s.child.output <+: (s.runUntil wanted last count).child.output := by
  obtain ⟨more, grown⟩ := written_runUntil wanted last count s
  exact ⟨more.reverse.flatten, by simp [Child.output, ← grown]⟩

end Scene

end WatchTrial
