import WatchTrial.Proofs.Watcher.Starting

set_option autoImplicit false

namespace WatchTrial.Watcher

theorem isBroken_of_textOf_error {octets : Octets} {stop : Stop}
    (unread : textOf octets = .error stop) : ∃ f, stop = .broken f := by
  unfold textOf at unread
  split at unread
  · cases unread
  · rename_i flaw _
    cases unread
    exact ⟨.undecodable flaw, rfl⟩

/-- What a build that ends in order says is looked at before how it ends. -/
theorem judgeBuild_eq_failed_iff {c : Child} {f : Failure} :
    judgeBuild c = .error (.failed f) ↔
      ∃ output errors, textOf c.output = .ok output ∧ textOf c.errors = .ok errors ∧
        (ending c).status ≠ 0 ∧
        f = .launch (.buildFailed (ending c).status (String.ofList (Text.trim Text.isBlank errors))) := by
  unfold judgeBuild
  cases output : textOf c.output with
  | error stop =>
      obtain ⟨fault, rfl⟩ := isBroken_of_textOf_error output
      simp [bind, Except.bind]
  | ok text =>
      cases errors : textOf c.errors with
      | error stop =>
          obtain ⟨fault, rfl⟩ := isBroken_of_textOf_error errors
          simp [bind, Except.bind]
      | ok complaint =>
          by_cases sound : (ending c).status = 0
          · simp [bind, Except.bind, pure, Except.pure, sound]
          · simp [bind, Except.bind, sound, eq_comm]

theorem result_awaitBuild (process : Process) (w : World) :
    ((awaitBuild process).run w).1 = judgeBuild (finished process w.tree).1 := by
  rw [run_awaitBuild]
  cases judgeBuild (finished process w.tree).1 <;> rfl

theorem launch_eq_failed_iff {launcher : Launcher} {purpose : Purpose} {words : List String}
    {refused : SystemError → LaunchFault} {w : World} {f : Failure} :
    ((launch launcher purpose words refused).run w).1 = .error (.failed f) ↔
      words.any hasNul = false ∧ ∃ refusal, launcher w.tree words = .error refusal ∧
        f = .launch (refused ⟨refusal, words.headD "", none⟩) := by
  rw [launch, Act.run_ofFunction]
  cases words.any hasNul with
  | true => simp
  | false =>
      cases launcher w.tree words with
      | error refusal => simp [eq_comm]
      | ok process => simp

/-- Why a build that has not been done before fails. -/
inductive BuildFails (launcher : Launcher) (s : Settings) (t : Tree) : LaunchFault → Prop where
  | refused (program : String) (arguments : List String) (refusal : Refusal)
      (command : s.buildCommand = program :: arguments)
      (clean : s.buildCommand.any hasNul = false)
      (refused : launcher t s.buildCommand = .error refusal) :
      BuildFails launcher s t (.buildRefused program ⟨refusal, program, none⟩)
  | failed (process : Process) (output errors : List Char) (some : s.buildCommand ≠ [])
      (clean : s.buildCommand.any hasNul = false)
      (launched : launcher t s.buildCommand = .ok process)
      (readable : textOf (finished process t).1.output = .ok output ∧
        textOf (finished process t).1.errors = .ok errors)
      (unsound : (ending (finished process t).1).status ≠ 0) :
      BuildFails launcher s t (.buildFailed (ending (finished process t).1).status
        (String.ofList (Text.trim Text.isBlank errors)))

theorem build_eq_failed_iff {launcher : Launcher} {s : Settings} {w : World} {f : Failure}
    (unbuilt : w.built = false) :
    ((build launcher s).run w).1 = .error (.failed f) ↔
      ∃ g, f = .launch g ∧ BuildFails launcher s w.tree g := by
  cases command : s.buildCommand with
  | nil =>
      rw [run_build_of_done (Or.inr command)]
      constructor
      · intro ran
        cases ran
      · rintro ⟨g, rfl, fails⟩
        cases fails with
        | refused program arguments refusal given => cases command.symm.trans given
        | failed process output errors some => exact absurd command some
  | cons program arguments =>
      have some : s.buildCommand ≠ [] := by simp [command]
      have name : s.buildCommand.headD "" = program := by simp [command]
      obtain ⟨note, ran⟩ := run_build_of_new launcher unbuilt some
      rw [ran, runBuild, Act.result_bind_eq_error, launch_eq_failed_iff, name]
      constructor
      · rintro (⟨clean, refusal, refused, rfl⟩ | ⟨process, mid, launched, failed⟩)
        · exact ⟨_, rfl, .refused program arguments refusal command clean refused⟩
        · obtain ⟨clean, found, rfl⟩ := run_launch_eq_ok.1 launched
          have judged := (result_awaitBuild process _).symm.trans failed
          obtain ⟨output, errors, first, second, unsound, rfl⟩ := judgeBuild_eq_failed_iff.1 judged
          exact ⟨_, rfl, .failed process output errors some clean found ⟨first, second⟩ unsound⟩
      · rintro ⟨g, rfl, fails⟩
        cases fails with
        | refused program' arguments' refusal command' clean refused =>
            cases command.symm.trans command'
            exact Or.inl ⟨clean, refusal, refused, rfl⟩
        | failed process output errors some clean launched readable unsound =>
            refine Or.inr ⟨process, _, run_launch_eq_ok.2 ⟨clean, launched, rfl⟩, ?_⟩
            refine (result_awaitBuild process _).trans (judgeBuild_eq_failed_iff.2 ?_)
            exact ⟨output, errors, readable.1, readable.2, unsound, rfl⟩

theorem start_eq_failed_iff {launcher : Launcher} {s : Settings} {roots : List Path} {w : World}
    {f : Failure} (idle : w.child = none) :
    ((start launcher s roots).run w).1 = .error (.failed f) ↔
      (words s roots).any hasNul = false ∧ ∃ refusal,
        launcher w.tree (words s roots) = .error refusal ∧
          f = .launch (.startRefused ((words s roots).headD "")
            ⟨refusal, (words s roots).headD "", none⟩) := by
  rcases start_cases launcher s roots idle with ⟨stop, refused, ran⟩ | ⟨process, found, ran⟩
  · have told := @launch_eq_failed_iff launcher .watch (words s roots)
      (.startRefused ((words s roots).headD "")) { w with log := w.log ++ [starting s roots] } f
    rw [refused, Except.error.injEq] at told
    rw [ran, Except.error.injEq]
    exact told
  · constructor
    · intro failed
      rcases grace_cases s (begun s roots process w) with ⟨g, -, graced⟩ | ⟨-, after, graced, -⟩
      · rw [ran, graced] at failed
        cases failed
      · rw [ran, graced] at failed
        cases failed
    · rintro ⟨-, refusal, refused, -⟩
      cases found.2.symm.trans refused

end WatchTrial.Watcher
