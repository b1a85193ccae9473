import WatchTrial.Perform
import WatchTrial.Proofs.Act
import WatchTrial.Proofs.Script

set_option autoImplicit false

namespace WatchTrial.Action

open Act (Breaks)

/-- What the operating system cannot even be asked for: a path with a NUL, or a pause that is too
long to be told. -/
def Unaskable (a : Action) (w : World) : Prop :=
  a.paths.any Path.hasNul = true ∨
    ∃ seconds f, a = .wait seconds ∧ w.napFault? (.wait seconds) = some f

/-- What the operating system answers an action. -/
def answer (a : Action) (w : World) : Except Refusal Unit :=
  match a with
  | .wait seconds => if w.outlasts (.wait seconds) then .error .invalid else .ok ()
  | _ => (a.onTree w.tree).result

theorem answer_of_paths {a : Action} (some : a.paths ≠ []) (w : World) :
    a.answer w = (a.onTree w.tree).result := by
  cases a with
  | wait seconds => exact absurd rfl some
  | _ => rfl

theorem family_of_napFault? {w : World} {seconds : Nat} {f : Fault}
    (fault : w.napFault? (.wait seconds) = some f) : f.family ≠ .kind := by
  simp only [World.napFault?, Nap.fault?] at fault
  split at fault
  · split at fault
    · cases fault
      decide
    · cases fault
  · cases fault

/-- What comes of an action: it cannot be asked for, or it is refused, or it goes well. -/
theorem effect_cases {a : Action} (asks : a ≠ .unspecified) (w : World) :
    a.Unaskable w ∧ (∃ f, f.family ≠ .kind ∧ a.effect.run w = (.error (.broken f), w)) ∨
      ¬a.Unaskable w ∧
        ((∃ refusal, a.answer w = .error refusal ∧
            (a.effect.run w).1 = .error (a.refused refusal)) ∨
          a.answer w = .ok () ∧ (a.effect.run w).1 = .ok ()) := by
  unfold effect
  split
  · rename_i seconds
    have noPath : (Action.wait seconds).paths.any Path.hasNul = false := rfl
    rcases Act.run_nap_cases (.wait seconds) (Action.wait seconds).refused w with
      ⟨f, fault, broken⟩ | ⟨told, made⟩
    · refine Or.inl ⟨Or.inr ⟨seconds, f, rfl, fault⟩, f, family_of_napFault? fault, broken⟩
    · refine Or.inr ⟨?_, ?_⟩
      · rintro (nul | ⟨same, f, ⟨⟩, fault⟩)
        · cases noPath.symm.trans nul
        · cases told.symm.trans fault
      · rcases made with ⟨beyond, refused⟩ | ⟨within, made⟩
        · exact Or.inl ⟨.invalid, by simp [answer, beyond], by rw [refused]⟩
        · exact Or.inr ⟨by simp [answer, within], by rw [made]⟩
  · exact absurd rfl asks
  · rename_i still _
    have onPaths : a.Unaskable w ↔ a.paths.any Path.hasNul = true := by
      refine ⟨?_, Or.inl⟩
      rintro (nul | ⟨seconds, f, same, -⟩)
      · exact nul
      · exact absurd same (still seconds)
    have answered : a.answer w = (a.onTree w.tree).result := by
      cases a with
      | wait seconds => exact absurd rfl (still seconds)
      | _ => rfl
    rw [onPaths, answered]
    split
    · rename_i nul
      exact Or.inl ⟨nul, .nulCharacter, by decide, rfl⟩
    · rename_i clean
      refine Or.inr ⟨clean, ?_⟩
      rw [Act.run_onTree]
      cases (a.onTree w.tree).result with
      | error refusal => exact Or.inl ⟨refusal, rfl, rfl⟩
      | ok u => exact Or.inr ⟨rfl, rfl⟩

theorem breaks_effect_iff {a : Action} (performable : a.Performable) (w : World) :
    Breaks a.effect w ↔ a.Unaskable w := by
  rcases effect_cases performable.2 w with
    ⟨unaskable, f, -, broken⟩ | ⟨askable, ⟨refusal, -, refused⟩ | ⟨-, done⟩⟩
  · refine ⟨fun _ => unaskable, fun _ => ?_⟩
    rw [Breaks, broken]
    exact isBroken_error f
  · refine ⟨fun broken => ?_, fun unaskable => absurd unaskable askable⟩
    rw [Breaks, refused] at broken
    exact absurd broken (not_isBroken_failed _)
  · refine ⟨fun broken => ?_, fun unaskable => absurd unaskable askable⟩
    rw [Breaks, done] at broken
    exact absurd broken (not_isBroken_ok _)

theorem breaks_perform_iff {a : Action} (performable : a.Performable) (w : World) :
    Breaks a.perform w ↔ a.Unaskable w := by
  unfold perform
  rw [if_neg (by simp [performable.1]), Act.breaks_bind_of_ok (Act.run_note _ _ _ w),
    breaks_effect_iff performable]
  exact Iff.rfl

theorem result_effect_eq_failed {a : Action} {w : World} {f : Failure} :
    (a.effect.run w).1 = .error (.failed f) ↔
      ¬a.Unaskable w ∧ ∃ refusal, a.answer w = .error refusal ∧
        f = .action a (a.systemError refusal) := by
  by_cases asks : a = .unspecified
  · subst asks
    constructor
    · intro stopped
      cases stopped
    · rintro ⟨-, refusal, refused, -⟩
      cases refused
  · rcases effect_cases asks w with
      ⟨unaskable, fault, -, broken⟩ | ⟨askable, ⟨refusal, answered, refused⟩ | ⟨answered, done⟩⟩
    · rw [broken]
      constructor
      · intro stopped
        cases stopped
      · exact fun failed => absurd unaskable failed.1
    · rw [refused, answered]
      constructor
      · intro stopped
        cases stopped
        exact ⟨askable, refusal, rfl, rfl⟩
      · rintro ⟨-, same, ⟨⟩, rfl⟩
        rfl
    · rw [done, answered]
      constructor
      · intro stopped
        cases stopped
      · rintro ⟨-, refusal, ⟨⟩, -⟩

/-- An action fails just when it can be asked for and the operating system refuses it. -/
theorem result_perform_eq_failed {a : Action} {w : World} {f : Failure} :
    (a.perform.run w).1 = .error (.failed f) ↔
      ¬a.Unaskable w ∧ ∃ refusal, a.answer w = .error refusal ∧
        f = .action a (a.systemError refusal) := by
  unfold perform
  split
  · rename_i declares
    constructor
    · intro stopped
      cases stopped
    · rintro ⟨-, refusal, refused, -⟩
      cases a with
      | watch root => cases refused
      | _ => cases declares
  · rw [Act.run_bind_of_ok _ (Act.run_note _ _ _ w), result_effect_eq_failed]
    exact Iff.rfl

/-- Actions that are performed in turn stop at the first that does. -/
theorem result_performEach_eq_error {actions : List Action} {w : World} {s : Stop} :
    ((performEach actions).run w).1 = .error s ↔
      ∃ before a after mid, actions = before ++ a :: after ∧
        (performEach before).run w = (.ok (), mid) ∧ (a.perform.run mid).1 = .error s := by
  induction actions generalizing w with
  | nil =>
      constructor
      · intro stopped
        cases stopped
      · rintro ⟨before, a, after, mid, split, -⟩
        simp at split
  | cons first rest ih =>
      rw [performEach, Act.result_bind_eq_error]
      constructor
      · rintro (stopped | ⟨_, next, performed, stopped⟩)
        · exact ⟨[], first, rest, w, rfl, rfl, stopped⟩
        · obtain ⟨before, a, after, mid, rfl, ran, stopped⟩ := ih.1 stopped
          refine ⟨first :: before, a, after, mid, rfl, ?_, stopped⟩
          rw [performEach, Act.run_bind_of_ok _ performed, ran]
      · rintro ⟨before, a, after, mid, split, ran, stopped⟩
        cases before with
        | nil =>
            cases split
            cases ran
            exact Or.inl stopped
        | cons same before =>
            cases split
            obtain ⟨_, next, performed, more⟩ := Act.run_bind_eq_ok.1 ran
            exact Or.inr ⟨(), next, performed, ih.2 ⟨before, a, after, mid, rfl, more, stopped⟩⟩

/-- Of actions that are performed in turn one ends in a fault just when it is come to and cannot be
asked for. -/
theorem breaks_performEach_iff {actions : List Action} (performable : ∀ a ∈ actions, a.Performable)
    (w : World) :
    Breaks (performEach actions) w ↔
      ∃ before a after mid, actions = before ++ a :: after ∧
        (performEach before).run w = (.ok (), mid) ∧ a.Unaskable mid := by
  rw [Breaks, IsBroken]
  simp only [result_performEach_eq_error]
  constructor
  · rintro ⟨f, before, a, after, mid, rfl, ran, stopped⟩
    exact ⟨before, a, after, mid, rfl, ran,
      (breaks_perform_iff (performable a (by simp)) mid).1 ⟨f, stopped⟩⟩
  · rintro ⟨before, a, after, mid, rfl, ran, unaskable⟩
    obtain ⟨f, stopped⟩ := (breaks_perform_iff (performable a (by simp)) mid).2 unaskable
    exact ⟨f, before, a, after, mid, rfl, ran, stopped⟩

/-- The fault of an action that can be performed is not that of a wrong kind of action. -/
theorem family_of_perform {a : Action} (performable : a.Performable) {w : World} {f : Fault}
    (broken : (a.perform.run w).1 = .error (.broken f)) : f.family ≠ .kind := by
  unfold perform at broken
  rw [if_neg (by simp [performable.1]), Act.run_bind_of_ok _ (Act.run_note _ _ _ w)] at broken
  rcases effect_cases performable.2 { w with log := w.log ++ [_] } with
    ⟨-, g, other, ran⟩ | ⟨-, ⟨refusal, -, ran⟩ | ⟨-, ran⟩⟩
  · rw [ran] at broken
    cases broken
    exact other
  · cases ran.symm.trans broken
  · cases ran.symm.trans broken

theorem result_performAll_eq_error {actions : List Action} {w : World} {s : Stop} :
    ((performAll actions).run w).1 = .error s ↔ ((performEach actions).run w).1 = .error s := by
  unfold performAll
  rw [Act.result_bind_eq_error]
  constructor
  · rintro (stopped | ⟨_, mid, -, stopped⟩)
    · exact stopped
    · cases stopped
  · exact Or.inl

theorem breaks_performAll_iff (actions : List Action) (w : World) :
    Breaks (performAll actions) w ↔ Breaks (performEach actions) w :=
  exists_congr fun _ => result_performAll_eq_error

theorem family_of_performAll {actions : List Action} (performable : ∀ a ∈ actions, a.Performable)
    {w : World} {f : Fault} (broken : ((performAll actions).run w).1 = .error (.broken f)) :
    f.family ≠ .kind := by
  rw [result_performAll_eq_error, result_performEach_eq_error] at broken
  obtain ⟨before, a, after, mid, rfl, -, stopped⟩ := broken
  exact family_of_perform (performable a (by simp)) stopped

/-- The first action that does not succeed is the one that is told. -/
theorem result_performAll_eq_failed {actions : List Action} {w : World} {f : Failure} :
    ((performAll actions).run w).1 = .error (.failed f) ↔
      ∃ before a after mid refusal, actions = before ++ a :: after ∧
        (performEach before).run w = (.ok (), mid) ∧ ¬a.Unaskable mid ∧
        a.answer mid = .error refusal ∧ f = .action a (a.systemError refusal) := by
  rw [result_performAll_eq_error, result_performEach_eq_error]
  constructor
  · rintro ⟨before, a, after, mid, split, ran, stopped⟩
    obtain ⟨clean, refusal, refused, told⟩ := result_perform_eq_failed.1 stopped
    exact ⟨before, a, after, mid, refusal, split, ran, clean, refused, told⟩
  · rintro ⟨before, a, after, mid, refusal, split, ran, clean, refused, told⟩
    exact ⟨before, a, after, mid, split, ran,
      result_perform_eq_failed.2 ⟨clean, refusal, refused, told⟩⟩

end WatchTrial.Action
