import WatchTrial.World

set_option autoImplicit false

namespace WatchTrial

variable {α β : Type}

theorem mapError_ok {ε δ : Type} (f : ε → δ) (a : α) :
    (Except.ok a : Except ε α).mapError f = .ok a := rfl

theorem mapError_error {ε δ : Type} (f : ε → δ) (e : ε) :
    (Except.error e : Except ε α).mapError f = .error (f e) := rfl

/-- The result is a fault that no stage answers for. -/
def IsBroken (result : Except Stop α) : Prop := ∃ f, result = .error (.broken f)

theorem isBroken_error (f : Fault) : IsBroken (.error (.broken f) : Except Stop α) := ⟨f, rfl⟩

theorem not_isBroken_ok (a : α) : ¬IsBroken (.ok a : Except Stop α) := by
  rintro ⟨f, same⟩
  cases same

theorem not_isBroken_failed (f : Failure) : ¬IsBroken (.error (.failed f) : Except Stop α) := by
  rintro ⟨fault, same⟩
  cases same

theorem isBroken_bind (first : Except Stop α) (next : α → Except Stop β) :
    IsBroken (first >>= next) ↔ IsBroken first ∨ ∃ a, first = .ok a ∧ IsBroken (next a) := by
  cases first with
  | error s =>
      constructor
      · rintro ⟨f, same⟩
        cases same
        exact Or.inl (isBroken_error f)
      · rintro (⟨f, same⟩ | ⟨a, same, -⟩)
        · cases same
          exact isBroken_error f
        · cases same
  | ok a =>
      constructor
      · intro broken
        exact Or.inr ⟨a, rfl, broken⟩
      · rintro (broken | ⟨b, same, broken⟩)
        · exact absurd broken (not_isBroken_ok a)
        · cases same
          exact broken

namespace Act

theorem run_of_result {act : Act α} {w : World} {result : Except Stop α}
    (ended : (act.run w).1 = result) : act.run w = (result, (act.run w).2) := by
  rw [← ended]

@[simp] theorem run_fail (f : Failure) (w : World) :
    (fail f : Act α).run w = (.error (.failed f), w) := rfl

@[simp] theorem run_ofExcept (result : Except Stop α) (w : World) :
    (ofExcept result).run w = (result, w) := rfl

@[simp] theorem run_change (f : World → World) (w : World) :
    (change f).run w = (.ok (), f w) := rfl

@[simp] theorem run_look (f : World → α) (w : World) : (look f).run w = (.ok (f w), w) := rfl

@[simp] theorem run_note (level : Level) (topic : Topic) (text : String) (w : World) :
    (note level topic text).run w = (.ok (), { w with log := w.log ++ [⟨level, topic, text⟩] }) :=
  rfl

@[simp] theorem run_onTree (operation : Tree → Tree.Changed) (refused : Refusal → Stop)
    (w : World) :
    (onTree operation refused).run w =
      ((operation w.tree).result.mapError refused, { w with tree := (operation w.tree).tree }) :=
  rfl

/-- A pause cannot be asked for, or is refused, or is made. -/
theorem run_nap_cases (n : Nap) (refused : Refusal → Stop) (w : World) :
    (∃ f, w.napFault? n = some f ∧ (nap n refused).run w = (.error (.broken f), w)) ∨
      w.napFault? n = none ∧
        (w.outlasts n = true ∧ (nap n refused).run w = (.error (refused .invalid), w) ∨
          w.outlasts n = false ∧ (nap n refused).run w = (.ok (), w.nap n)) := by
  rw [nap, run_ofFunction]
  cases w.napFault? n with
  | some f => exact Or.inl ⟨f, rfl, rfl⟩
  | none =>
      cases w.outlasts n with
      | true => exact Or.inr ⟨rfl, Or.inl ⟨rfl, rfl⟩⟩
      | false => exact Or.inr ⟨rfl, Or.inr ⟨rfl, rfl⟩⟩

theorem run_bind_of_ok {act : Act α} {w mid : World} {a : α} (next : α → Act β)
    (ran : act.run w = (.ok a, mid)) : (act >>= next).run w = (next a).run mid := by
  rw [run_bind, ran]

theorem run_bind_of_error {act : Act α} {w last : World} {s : Stop} (next : α → Act β)
    (ran : act.run w = (.error s, last)) : (act >>= next).run w = (.error s, last) := by
  rw [run_bind, ran]

theorem run_bind_eq_ok {act : Act α} {next : α → Act β} {w last : World} {b : β} :
    (act >>= next).run w = (.ok b, last) ↔
      ∃ a mid, act.run w = (.ok a, mid) ∧ (next a).run mid = (.ok b, last) := by
  constructor
  · intro ran
    cases first : act.run w with
    | mk result mid =>
        cases result with
        | error s =>
            rw [run_bind_of_error next first] at ran
            cases ran
        | ok a => exact ⟨a, mid, rfl, (run_bind_of_ok next first).symm.trans ran⟩
  · rintro ⟨a, mid, first, second⟩
    rw [run_bind_of_ok next first, second]

/-- An act made of two stops where the first does, or where the second does after it. -/
theorem result_bind_eq_error {act : Act α} {next : α → Act β} {w : World} {s : Stop} :
    ((act >>= next).run w).1 = .error s ↔
      (act.run w).1 = .error s ∨
        ∃ a mid, act.run w = (.ok a, mid) ∧ ((next a).run mid).1 = .error s := by
  cases first : act.run w with
  | mk result mid =>
      cases result with
      | error other =>
          rw [run_bind_of_error next first]
          constructor
          · intro stopped
            cases stopped
            exact Or.inl rfl
          · rintro (stopped | ⟨a, between, worked, -⟩)
            · cases stopped
              rfl
            · cases worked
      | ok a =>
          rw [run_bind_of_ok next first]
          constructor
          · exact fun later => Or.inr ⟨a, mid, rfl, later⟩
          · rintro (stopped | ⟨b, between, same, later⟩)
            · cases stopped
            · cases same
              exact later

theorem run_followedBy (first : Act α) (second : Act Unit) (w : World) :
    (first.followedBy second).run w =
      match second.run (first.run w).2 with
      | (.error s, last) => (.error s, last)
      | (.ok (), last) => ((first.run w).1, last) := rfl

theorem run_followedBy_eq_ok {first : Act α} {second : Act Unit} {w last : World} {a : α} :
    (first.followedBy second).run w = (.ok a, last) ↔
      ∃ mid, first.run w = (.ok a, mid) ∧ second.run mid = (.ok (), last) := by
  rw [run_followedBy]
  cases ran : first.run w with
  | mk result mid =>
      cases ended : second.run mid with
      | mk outcome final =>
          cases outcome with
          | error s =>
              constructor
              · intro other
                cases other
              · rintro ⟨between, first, second⟩
                cases first
                rw [ended] at second
                cases second
          | ok u =>
              constructor
              · intro same
                cases same
                exact ⟨mid, rfl, ended⟩
              · rintro ⟨between, first, second⟩
                cases first
                rw [ended] at second
                cases second
                rfl

/-- What is done in any case can only add a stop of its own. -/
theorem result_followedBy_eq_error {first : Act α} {second : Act Unit} {w : World} {s : Stop} :
    ((first.followedBy second).run w).1 = .error s ↔
      (second.run (first.run w).2).1 = .error s ∨
        (∃ last, second.run (first.run w).2 = (.ok (), last)) ∧ (first.run w).1 = .error s := by
  rw [run_followedBy]
  cases second.run (first.run w).2 with
  | mk outcome last => cases outcome <;> simp

/-- The world after the second act is where the second act leaves it, whatever came of the first. -/
theorem world_followedBy (first : Act α) (second : Act Unit) (w : World) :
    ((first.followedBy second).run w).2 = (second.run (first.run w).2).2 := by
  rw [run_followedBy]
  cases second.run (first.run w).2 with
  | mk outcome last => cases outcome <;> rfl

/-- A property of the world holds after the act, however it ends, if it holds before. -/
def Keeps (P : World → Prop) (act : Act α) : Prop := ∀ w, P w → P (act.run w).2

variable {P : World → Prop}

theorem keeps_pure (a : α) : Keeps P (pure a : Act α) := fun _ held => held

theorem keeps_stop (s : Stop) : Keeps P (stop s : Act α) := fun _ held => held

theorem keeps_ofExcept (result : Except Stop α) : Keeps P (ofExcept result) := fun _ held => held

theorem keeps_look (f : World → α) : Keeps P (look f) := fun _ held => held

/-- A pause that is not made changes nothing. -/
theorem keeps_nap {n : Nap} (napped : ∀ w, P w → P (w.nap n)) (refused : Refusal → Stop) :
    Keeps P (nap n refused) := by
  intro w held
  rcases run_nap_cases n refused w with ⟨f, -, ran⟩ | ⟨-, ⟨-, ran⟩ | ⟨-, ran⟩⟩
  · rw [ran]
    exact held
  · rw [ran]
    exact held
  · rw [ran]
    exact napped w held

/-- What holds after a first act, and is kept by the second one wherever that sets in, holds after
both. -/
theorem holds_bind {act : Act α} {next : α → Act β} {w : World} (first : P (act.run w).2)
    (second : ∀ a mid, act.run w = (.ok a, mid) → P mid → P ((next a).run mid).2) :
    P ((act >>= next).run w).2 := by
  cases ran : act.run w with
  | mk result mid =>
      rw [ran] at first
      cases result with
      | error s => rwa [run_bind_of_error next ran]
      | ok a =>
          rw [run_bind_of_ok next ran]
          exact second a mid ran first

theorem keeps_bind {act : Act α} {next : α → Act β} (first : Keeps P act)
    (second : ∀ a, Keeps P (next a)) : Keeps P (act >>= next) :=
  fun w held => holds_bind (first w held) fun a mid _ between => second a mid between

theorem keeps_followedBy {first : Act α} {second : Act Unit} (kept : Keeps P first)
    (after : Keeps P second) : Keeps P (first.followedBy second) := by
  intro w held
  rw [world_followedBy]
  exact after _ (kept w held)

/-- An act that looks at the file tree and at nothing else, and changes nothing but the log. -/
def Reads (act : Act α) (result : Tree → Except Stop α) : Prop :=
  ∀ w, ∃ log, act.run w = (result w.tree, { w with log })

theorem reads_tree (result : Tree → Except Stop α) :
    Reads (ofFunction fun w => (result w.tree, w)) result := fun w => ⟨w.log, rfl⟩

theorem reads_ofExcept (result : Except Stop α) : Reads (ofExcept result) fun _ => result :=
  fun w => ⟨w.log, rfl⟩

theorem reads_pure (a : α) : Reads (pure a : Act α) fun _ => .ok a := fun w => ⟨w.log, rfl⟩

theorem reads_fail (f : Failure) : Reads (fail f : Act α) fun _ => .error (.failed f) :=
  fun w => ⟨w.log, rfl⟩

theorem reads_note (level : Level) (topic : Topic) (text : String) :
    Reads (note level topic text) fun _ => .ok () := fun _ => ⟨_, rfl⟩

theorem reads_bind {act : Act α} {next : α → Act β} {first : Tree → Except Stop α}
    {second : α → Tree → Except Stop β} (reads : Reads act first)
    (goesOn : ∀ a, Reads (next a) (second a)) :
    Reads (act >>= next) fun t => first t >>= fun a => second a t := by
  intro w
  obtain ⟨log, ran⟩ := reads w
  cases result : first w.tree with
  | error s =>
      have whole : (first w.tree >>= fun a => second a w.tree) = .error s := by
        rw [result]
        rfl
      rw [result] at ran
      refine ⟨log, ?_⟩
      rw [run_bind_of_error next ran]
      exact congrArg (·, { w with log := log }) whole.symm
  | ok a =>
      have whole : (first w.tree >>= fun a => second a w.tree) = second a w.tree := by
        rw [result]
        rfl
      rw [result] at ran
      obtain ⟨longer, rest⟩ := goesOn a { w with log }
      refine ⟨longer, ?_⟩
      rw [run_bind_of_ok next ran, rest]
      exact congrArg (·, { w with log := longer }) whole.symm

theorem reads_ite {condition : Prop} [Decidable condition] {yes no : Act α}
    {whenYes whenNo : Tree → Except Stop α} (first : Reads yes whenYes) (second : Reads no whenNo) :
    Reads (if condition then yes else no) fun t => if condition then whenYes t else whenNo t := by
  split <;> assumption

theorem Reads.congr {act : Act α} {result other : Tree → Except Stop α} (reads : Reads act result)
    (same : ∀ t, result t = other t) : Reads act other := by
  intro w
  obtain ⟨log, ran⟩ := reads w
  exact ⟨log, by rw [ran, same]⟩

/-- The act stops in the world for a fault that no stage answers for. -/
def Breaks (act : Act α) (w : World) : Prop := IsBroken (act.run w).1

theorem not_breaks_of_ok {act : Act α} {w last : World} {a : α} (ran : act.run w = (.ok a, last)) :
    ¬Breaks act w := by
  rintro ⟨f, stopped⟩
  rw [ran] at stopped
  cases stopped

theorem breaks_ofExcept (result : Except Stop α) (w : World) :
    Breaks (ofExcept result) w ↔ IsBroken result := Iff.rfl

/-- An act made of two breaks where the first does, or where the second does after it. -/
theorem breaks_bind {act : Act α} {next : α → Act β} {w : World} :
    Breaks (act >>= next) w ↔
      Breaks act w ∨ ∃ a mid, act.run w = (.ok a, mid) ∧ Breaks (next a) mid := by
  simp only [Breaks, IsBroken, result_bind_eq_error]
  constructor
  · rintro ⟨f, stopped | ⟨a, mid, ran, stopped⟩⟩
    · exact Or.inl ⟨f, stopped⟩
    · exact Or.inr ⟨a, mid, ran, f, stopped⟩
  · rintro (⟨f, stopped⟩ | ⟨a, mid, ran, f, stopped⟩)
    · exact ⟨f, Or.inl stopped⟩
    · exact ⟨f, Or.inr ⟨a, mid, ran, stopped⟩⟩

theorem breaks_bind_of_ok {act : Act α} {next : α → Act β} {w mid : World} {a : α}
    (ran : act.run w = (.ok a, mid)) : Breaks (act >>= next) w ↔ Breaks (next a) mid := by
  rw [Breaks, run_bind_of_ok next ran, Breaks]

/-- What is done in any case can only add a fault. -/
theorem breaks_followedBy {first : Act α} {second : Act Unit} {w : World} :
    Breaks (first.followedBy second) w ↔
      Breaks second (first.run w).2 ∨
        (∃ last, second.run (first.run w).2 = (.ok (), last)) ∧ Breaks first w := by
  simp only [Breaks, IsBroken, result_followedBy_eq_error]
  rw [exists_or, exists_and_left]

theorem breaks_iff_of_error {act : Act α} {w last : World} {s : Stop}
    (ran : act.run w = (.error s, last)) : Breaks act w ↔ ∃ f, s = .broken f := by
  rw [Breaks, ran]
  constructor
  · rintro ⟨f, same⟩
    exact ⟨f, Except.error.inj same⟩
  · rintro ⟨f, rfl⟩
    exact isBroken_error f

theorem breaks_followedBy_of_error {first : Act α} {second : Act Unit} {w mid : World} {s : Stop}
    (ran : first.run w = (.error s, mid)) (ended : ∃ last, second.run mid = (.ok (), last)) :
    Breaks (first.followedBy second) w ↔ ∃ f, s = .broken f := by
  obtain ⟨last, ended⟩ := ended
  have whole : (first.followedBy second).run w = (.error s, last) := by
    rw [run_followedBy, ran, ended]
  exact breaks_iff_of_error whole

theorem breaks_followedBy_congr {first other : Act α} (second : Act Unit) {w v : World}
    (same : first.run w = other.run v) :
    Breaks (first.followedBy second) w ↔ Breaks (other.followedBy second) v := by
  rw [Breaks, Breaks, run_followedBy, run_followedBy, same]

end Act

end WatchTrial
