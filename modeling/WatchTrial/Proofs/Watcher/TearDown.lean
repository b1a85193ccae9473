import Mathlib.Control.Monad.Basic
import Mathlib.Data.List.Infix
import WatchTrial.Proofs.Settings.Overlay
import WatchTrial.Proofs.Watcher.Growing

set_option autoImplicit false

namespace WatchTrial.Watcher

open Settings (Key ofMapping readSeconds)
open Yaml (Datum)

/-- A number of seconds that is less than the clock has room for. -/
def Waitable (timeout : Binary64) : Prop :=
  ∃ wait, timeout.billionths? = some wait ∧ wait < twoTo 63

theorem timeFault?_eq_none_iff (timeout : Binary64) :
    timeout.timeFault? = none ↔ Waitable timeout := by
  cases timeout with
  | nan => simp [Binary64.timeFault?, Waitable, Binary64.billionths?]
  | infinite negative => simp [Binary64.timeFault?, Waitable, Binary64.billionths?]
  | finite negative mantissa exponent =>
      have room : maxTime + 1 = twoTo 63 := rfl
      simp only [Binary64.timeFault?, Waitable, Binary64.billionths?, Option.some.injEq,
        exists_eq_left', ← room]
      split
      · rename_i beyond
        simp only [reduceCtorEq, false_iff]
        omega
      · rename_i within
        simp only [true_iff]
        omega

instance (timeout : Binary64) : Decidable (Waitable timeout) :=
  decidable_of_iff (timeout.timeFault? = none) (timeFault?_eq_none_iff timeout)

/-- Why a time that is not waitable cannot be waited for. -/
def waitFault : Binary64 → Fault
  | .nan => .timeNotANumber
  | _ => .timeTooLarge

theorem timeFault?_of_not_waitable {timeout : Binary64} (endless : ¬Waitable timeout) :
    timeout.timeFault? = some (waitFault timeout) := by
  rw [← timeFault?_eq_none_iff] at endless
  cases timeout with
  | nan => rfl
  | infinite negative => rfl
  | finite negative mantissa exponent =>
      simp only [Binary64.timeFault?, Binary64.billionths?, waitFault] at endless ⊢
      split
      · rfl
      · rename_i within
        exact absurd (if_neg within) endless

/-- The time that a mapping allows for ending a watcher, if it has one, can be waited for. -/
def Bounded (mapping : List (Datum × Datum)) : Prop :=
  ∀ entry ∈ Datum.lastOfEach mapping, entry.1 = .text Key.terminateTimeout.name.toList →
    ∀ timeout, readSeconds .terminateTimeout entry.2 = .ok timeout → Waitable timeout

/-- Without a time of its own a mapping allows the usual one. -/
theorem waitable_iff_bounded {mapping : List (Datum × Datum)} {s : Settings}
    (given : ofMapping mapping = .ok s) : Waitable s.terminateTimeout ↔ Bounded mapping := by
  have read : ∀ entry ∈ Datum.lastOfEach mapping,
      Key.ofDatum? entry.1 = some .terminateTimeout →
        readSeconds .terminateTimeout entry.2 = .ok s.terminateTimeout :=
    Settings.read_of_ofMapping given
  constructor
  · intro waitable entry member named timeout same
    have here := read entry member (Key.ofDatum?_eq_some_iff.2 named)
    cases here.symm.trans same
    exact waitable
  · intro bounded
    by_cases absent : ∀ entry ∈ Datum.lastOfEach mapping,
        Key.ofDatum? entry.1 ≠ some .terminateTimeout
    · have usual : s.terminateTimeout = Settings.usual.terminateTimeout :=
        Settings.get_of_ofMapping_of_absent given absent
      rw [usual]
      decide +kernel
    · simp only [not_forall, not_not] at absent
      obtain ⟨entry, member, named⟩ := absent
      exact bounded entry member (Key.ofDatum?_eq_some_iff.1 named) _ (read entry member named)

/-- Nothing of the watcher can write any more, so that its reader is done, or it has been noted since
there were the given records that the reader is not done in time. -/
def Accounted (before : List Record) (w : World) : Prop :=
  (∃ c, w.child = some c ∧ c.isReleased = true) ∨ unfinished ∈ w.log.drop before.length

section

variable {before : List Record} {s : Settings} {w later : World}

theorem Accounted.grow (accounted : Accounted before w) (grows : w.Grows later) :
    Accounted before later := by
  rcases accounted with ⟨c, started, released⟩ | noted
  · obtain ⟨d, going, more⟩ := grows.child c started
    exact Or.inl ⟨d, going, (more.released released).1⟩
  · exact Or.inr ((List.IsPrefix.drop grows.log before.length).subset noted)

/-- What holds wherever calls have led since there were the given records, if the reader can be
waited for: one that is not waited for any more is accounted for. -/
structure Minded (before : List Record) (w : World) : Prop where
  log : before <+: w.log
  reader : w.child.isSome = true → w.awaits = true ∨ Accounted before w

namespace Minded

theorem grow (minded : Minded before w) (grows : w.Grows later)
    (same : later.child.isSome = w.child.isSome) : Minded before later where
  log := minded.log.trans grows.log
  reader started := by
    rw [grows.awaits]
    exact (minded.reader (same ▸ started)).imp_right fun accounted => accounted.grow grows

variable (limited : s.terminateTimeout.timeFault? = none)

include limited

/-- Waiting for the reader ends with it done, or with a note. -/
theorem awaitReader (minded : Minded before w) :
    Minded before (Watcher.awaitReader s.terminateTimeout w).2 := by
  rcases awaitReader_cases s.terminateTimeout w with ⟨f, fault, -⟩ | ⟨-, last, waited⟩
  · cases limited.symm.trans fault
  · have grows := World.grows_advance w Child.isReleased (some last)
    rcases waited with ⟨released, done⟩ | ⟨-, clock, givenUp⟩
    · rw [done]
      refine ⟨minded.log.trans grows.log, fun started => Or.inr ?_⟩
      obtain ⟨c, here⟩ := Option.isSome_iff_exists.1 started
      rw [here] at released
      exact Or.inl ⟨c, here, released⟩
    · rw [givenUp]
      have noted := minded.log.trans grows.log
      refine ⟨noted.trans (List.prefix_append _ _), fun _ => Or.inr (Or.inr ?_)⟩
      rw [List.drop_append_of_le_length noted.length_le]
      exact List.mem_append_right _ List.mem_cons_self

theorem terminate (minded : Minded before w) :
    Minded before ((Watcher.terminate s.terminateTimeout).run w).2 := by
  have halted : Minded before (if w.isWatching then halt s.terminateTimeout w else w) := by
    split
    · exact minded.grow (grows_halt _ w) (continues_halt _ w).started
    · exact minded
  rw [Watcher.terminate, Act.run_ofFunction]
  generalize (if w.isWatching then halt s.terminateTimeout w else w) = v at halted ⊢
  simp only
  split
  · exact halted.awaitReader limited
  · exact halted

theorem next (minded : Minded before w) (launcher : Launcher) (call : Call) :
    Minded before (w.next launcher s call) := by
  rcases next_cases launcher s w call with
    ⟨-, ended⟩ | ⟨grows, same⟩ | ⟨-, roots, process, grows⟩
  · rw [ended]
    exact minded.terminate limited
  · exact minded.grow grows same
  · exact ⟨minded.log.trans ((List.prefix_append _ _).trans grows.log),
      fun _ => Or.inl grows.awaits⟩

end Minded

/-- What a watcher has come to of which nothing can write any more, but the reader of which is still
to be waited for. -/
structure Stuck (w : World) : Prop where
  child : ∃ c, w.child = some c ∧ c.isReleased = true
  awaits : w.awaits = true

namespace Stuck

theorem released (stuck : Stuck w) : w.child.all Child.isReleased = true := by
  obtain ⟨c, started, released⟩ := stuck.child
  simp [started, released]

theorem past (stuck : Stuck w) : w.isWatching = false := by
  obtain ⟨c, started, released⟩ := stuck.child
  rw [World.isWatching, started]
  exact Child.isRunning_eq_false.2 (Child.isReleased_iff.1 released).1

theorem grow (stuck : Stuck w) (grows : w.Grows later) : Stuck later where
  child := by
    obtain ⟨c, started, released⟩ := stuck.child
    obtain ⟨d, going, more⟩ := grows.child c started
    exact ⟨d, going, (more.released released).1⟩
  awaits := grows.awaits.trans stuck.awaits

variable {f : Fault} (fault : s.terminateTimeout.timeFault? = some f)

include fault

/-- Each time that it is ended it turns out again that its reader cannot be waited for. -/
theorem terminate (stuck : Stuck w) :
    (Watcher.terminate s.terminateTimeout).run w = (.error (.broken f), w) := by
  have kept : w.writtenOff = false := by
    have awaits := stuck.awaits
    rw [World.awaits, Bool.and_eq_true, Bool.not_eq_true'] at awaits
    exact awaits.2
  have same : left w = w := by rw [left, stuck.released, Bool.not_true, ← kept]
  rw [Watcher.terminate, Act.run_ofFunction]
  simp only [stuck.past, Bool.false_eq_true, if_false, stuck.awaits, if_true]
  rw [awaitReader_of_fault w fault, same]

theorem next (stuck : Stuck w) (launcher : Launcher) (call : Call) :
    Stuck (w.next launcher s call) := by
  rcases next_cases launcher s w call with ⟨-, ended⟩ | ⟨grows, -⟩ | ⟨idle, -⟩
  · rw [ended, stuck.terminate fault]
    exact stuck
  · exact stuck.grow grows
  · obtain ⟨c, started, -⟩ := stuck.child
    cases started.symm.trans idle

end Stuck

end

variable {s : Settings} {first w : World}

/-- As long as a watcher that has been started has not been ended, its reader is to be waited for. -/
theorem awaits_after (launcher : Launcher) (s : Settings) (unused : first.Unused)
    {calls : List Call} (unended : ∀ call ∈ calls, call ≠ .terminate ∧ call ≠ .leave)
    (started : (first.after launcher s calls).child.isSome = true) :
    (first.after launcher s calls).awaits = true := by
  refine World.keeps_after (P := fun w => w.child.isSome = true → w.awaits = true)
    (fun call member w held => ?_) (fun begun => ?_) started
  · rcases next_cases launcher s w call with
      ⟨ends, -⟩ | ⟨grows, same⟩ | ⟨-, roots, process, grows⟩
    · exact (ends.elim (unended call member).1 (unended call member).2).elim
    · rw [grows.awaits, same]
      exact held
    · exact fun _ => grows.awaits
  · rw [unused.idle] at begun
    cases begun

/-- A watcher that has been started is ended in order when its reader can be waited for. -/
theorem torn_down_of_limit (launcher : Launcher) (limited : s.terminateTimeout.timeFault? = none)
    (unused : first.Unused) (calls : List Call)
    (started : (first.after launcher s calls).child.isSome = true) :
    let ran := (terminate s.terminateTimeout).run (first.after launcher s calls)
    ran.1 = .ok () ∧ Ended ran.2 ∧ Accounted first.log ran.2 := by
  intro ran
  have ok : ran.1 = .ok () := terminate_of_limit _ limited
  have ended : Ended ran.2 := ended_of_terminate started (Prod.ext ok rfl)
  have fresh : Minded first.log first := by
    refine ⟨List.prefix_refl _, fun begun => ?_⟩
    rw [unused.idle] at begun
    cases begun
  have minded : Minded first.log (first.after launcher s calls) :=
    World.keeps_after (fun call _ _ minded => minded.next limited launcher call) fresh
  rcases (minded.terminate limited).reader ended.started with awaits | accounted
  · cases ended.waited.symm.trans awaits
  · exact ⟨ok, ended, accounted⟩

/-- Otherwise it is ended all the same, and it turns out that its reader cannot be waited for, unless
that has been written off. -/
theorem terminate_of_endless {f : Fault} (fault : s.terminateTimeout.timeFault? = some f)
    (started : w.child.isSome = true) :
    let ran := (terminate s.terminateTimeout).run w
    ran.1 = (if w.awaits then .error (.broken f) else .ok ()) ∧
      ran.2.awaits = (w.awaits && ran.2.child.all Child.isReleased) ∧
      (Stuck ran.2 ∨ Ended ran.2) := by
  intro ran
  have begun : ran.2.child.isSome = true := (continues_terminate _ w).started.trans started
  have past : ran.2.isWatching = false := isWatching_terminate _ w
  obtain ⟨halted, -, same, -, ended⟩ := run_terminate s.terminateTimeout w
  have here : ran = if w.awaits then awaitReader s.terminateTimeout halted else (.ok (), halted) :=
    ended
  cases awaits : w.awaits with
  | false =>
      rw [awaits, if_neg Bool.false_ne_true] at here
      have quiet : ran.2.awaits = false := by rw [here, same, awaits]
      exact ⟨by rw [here]; rfl, by rw [quiet, Bool.false_and], Or.inr ⟨begun, past, quiet⟩⟩
  | true =>
      rw [awaits, if_pos rfl, awaitReader_of_fault halted fault] at here
      have reading : halted.reading = true := by
        rw [awaits, World.awaits, Bool.and_eq_true] at same
        exact same.1
      have goesOn : ran.2.awaits = ran.2.child.all Child.isReleased := by
        rw [here]
        simp [left, World.awaits, reading]
      refine ⟨by rw [here]; rfl, by rw [goesOn, Bool.true_and], ?_⟩
      obtain ⟨c, there⟩ := Option.isSome_iff_exists.1 begun
      have one : ran.2.child.all Child.isReleased = c.isReleased := by rw [there, Option.all_some]
      rw [one] at goesOn
      cases released : c.isReleased with
      | true => exact Or.inl ⟨⟨c, there, released⟩, goesOn.trans released⟩
      | false => exact Or.inr ⟨begun, past, goesOn.trans released⟩

/-- And so it is whenever it is ended again. -/
theorem terminate_after_endless {f : Fault} (launcher : Launcher)
    (fault : s.terminateTimeout.timeFault? = some f) (settled : Stuck w ∨ Ended w)
    (later : List Call) :
    let last := w.after launcher s later
    last.isWatching = false ∧
      (terminate s.terminateTimeout).run last =
        (if w.awaits then .error (.broken f) else .ok (), last) := by
  intro last
  rcases settled with stuck | ended
  · have still : Stuck last :=
      World.keeps_after (fun call _ _ stuck => stuck.next fault launcher call) stuck
    rw [stuck.awaits, still.terminate fault]
    exact ⟨still.past, rfl⟩
  · have still : Ended last := World.keeps_after (fun call _ _ ended => ended.next call) ended
    rw [ended.waited, terminate_of_done _ last still.past still.waited]
    exact ⟨still.past, rfl⟩

end WatchTrial.Watcher
