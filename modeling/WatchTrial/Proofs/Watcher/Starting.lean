import WatchTrial.Proofs.Watcher.Ending

set_option autoImplicit false

namespace WatchTrial.Watcher

open Act (Keeps Breaks)

theorem run_launch_cases (launcher : Launcher) (purpose : Purpose) (words : List String)
    (refused : SystemError → LaunchFault) (w : World) :
    (∃ s, (launch launcher purpose words refused).run w = (.error s, w)) ∨
      ∃ process, (launch launcher purpose words refused).run w =
        (.ok process, { w with launches := w.launches ++ [⟨purpose, words⟩] }) := by
  simp only [launch, Act.run_ofFunction]
  split
  · exact Or.inl ⟨_, rfl⟩
  · cases launcher w.tree words with
    | error refusal => exact Or.inl ⟨_, rfl⟩
    | ok process => exact Or.inr ⟨process, rfl⟩

theorem breaks_launch_iff (launcher : Launcher) (purpose : Purpose) (words : List String)
    (refused : SystemError → LaunchFault) (w : World) :
    Breaks (launch launcher purpose words refused) w ↔ words.any hasNul = true := by
  rw [Breaks, launch, Act.run_ofFunction]
  cases words.any hasNul with
  | true => exact ⟨fun _ => rfl, fun _ => isBroken_error _⟩
  | false =>
      cases launcher w.tree words with
      | error refusal =>
          constructor
          · exact fun broken => absurd broken (not_isBroken_failed _)
          · intro nul
            cases nul
      | ok process =>
          constructor
          · exact fun broken => absurd broken (not_isBroken_ok _)
          · intro nul
            cases nul

theorem run_launch_eq_ok {launcher : Launcher} {purpose : Purpose} {words : List String}
    {refused : SystemError → LaunchFault} {w after : World} {process : Process} :
    (launch launcher purpose words refused).run w = (.ok process, after) ↔
      words.any hasNul = false ∧ launcher w.tree words = .ok process ∧
        after = { w with launches := w.launches ++ [⟨purpose, words⟩] } := by
  rw [launch, Act.run_ofFunction]
  cases words.any hasNul with
  | true =>
      constructor
      · intro ran
        cases ran
      · rintro ⟨clean, -⟩
        cases clean
  | false =>
      cases launcher w.tree words with
      | error refusal =>
          constructor
          · intro ran
            cases ran
          · rintro ⟨-, found, -⟩
            cases found
      | ok other =>
          constructor
          · intro ran
            cases ran
            exact ⟨rfl, rfl, rfl⟩
          · rintro ⟨-, same, rfl⟩
            cases same
            rfl

/-- Some of the octets are no text. -/
def Undecodable (octets : Octets) : Prop := ∃ flaw, Text.Utf8.decode octets = .error flaw

theorem isBroken_textOf_iff (octets : Octets) : IsBroken (textOf octets) ↔ Undecodable octets := by
  unfold textOf Undecodable
  cases Text.Utf8.decode octets with
  | error flaw => exact ⟨fun _ => ⟨flaw, rfl⟩, fun _ => isBroken_error _⟩
  | ok text =>
      constructor
      · exact fun broken => absurd broken (not_isBroken_ok _)
      · rintro ⟨flaw, undecodable⟩
        cases undecodable

/-- Whether a build succeeds is of no account if what it wrote cannot be read. -/
theorem isBroken_judgeBuild_iff (c : Child) :
    IsBroken (judgeBuild c) ↔ Undecodable c.output ∨ Undecodable c.errors := by
  unfold judgeBuild
  rw [isBroken_bind, isBroken_textOf_iff]
  have errors (text : List Char) : IsBroken (do
      let errors ← textOf c.errors
      let status := (ending c).status
      if status ≠ 0 then
        .error (.failed
          (.launch (.buildFailed status (String.ofList (Text.trim Text.isBlank errors)))))
      else pure ()) ↔ Undecodable c.errors := by
    rw [isBroken_bind, isBroken_textOf_iff]
    constructor
    · rintro (broken | ⟨errors, -, broken⟩)
      · exact broken
      · simp only at broken
        split at broken
        · exact absurd broken (not_isBroken_failed _)
        · exact absurd broken (not_isBroken_ok _)
    · exact Or.inl
  constructor
  · rintro (broken | ⟨text, -, broken⟩)
    · exact Or.inl broken
    · exact Or.inr ((errors text).1 broken)
  · rintro (output | errors')
    · exact Or.inl output
    · cases output : textOf c.output with
      | error s =>
          unfold textOf at output
          split at output
          · cases output
          · rename_i flaw undecodable
            exact Or.inl ⟨flaw, undecodable⟩
      | ok text => exact Or.inr ⟨text, rfl, (errors text).2 errors'⟩

/-- What is done with the process of a build. -/
def awaitBuild (process : Process) : Act Unit := do
  let ran ← Act.ofFunction fun w =>
    let (ran, tree) := finished process w.tree
    (.ok ran, { w with tree })
  Act.ofExcept (judgeBuild ran)
  Act.change fun w => { w with built := true }

theorem run_awaitBuild (process : Process) (w : World) :
    (awaitBuild process).run w =
      match judgeBuild (finished process w.tree).1 with
      | .error stop => (.error stop, { w with tree := (finished process w.tree).2 })
      | .ok () => (.ok (), { w with tree := (finished process w.tree).2, built := true }) := by
  have ran : (Act.ofFunction fun w : World =>
      ((.ok (finished process w.tree).1 : Except Stop Child),
        { w with tree := (finished process w.tree).2 })).run w =
      (.ok (finished process w.tree).1, { w with tree := (finished process w.tree).2 }) := rfl
  unfold awaitBuild
  rw [Act.run_bind_of_ok _ ran, Act.run_bind, Act.run_ofExcept]
  cases judgeBuild (finished process w.tree).1 <;> rfl

/-- The build command is run, and its end awaited. -/
def runBuild (launcher : Launcher) (s : Settings) : Act Unit :=
  launch launcher .build s.buildCommand (.buildRefused (s.buildCommand.headD "")) >>= awaitBuild

theorem run_build_of_done {launcher : Launcher} {s : Settings} {w : World}
    (done : w.built = true ∨ s.buildCommand = []) :
    (build launcher s).run w = (.ok (), w) := by
  unfold build
  rw [Act.run_bind_of_ok _ (Act.run_look _ w)]
  cases command : s.buildCommand with
  | nil => rfl
  | cons program arguments =>
      have built : w.built = true := by simpa [command] using done
      simp only [built, Bool.not_true, if_false, Bool.false_eq_true]
      rfl

theorem run_build_of_new (launcher : Launcher) {s : Settings} {w : World}
    (unbuilt : w.built = false) (some : s.buildCommand ≠ []) :
    ∃ note, (build launcher s).run w =
      (runBuild launcher s).run { w with log := w.log ++ [note] } := by
  unfold build runBuild
  rw [Act.run_bind_of_ok _ (Act.run_look _ w)]
  cases command : s.buildCommand with
  | nil => exact absurd command some
  | cons program arguments =>
      simp only
      rw [if_pos (by simp [unbuilt])]
      exact ⟨_, Act.run_bind_of_ok _ (Act.run_note _ _ _ w)⟩

/-- Whatever the command does, only files, the programs started and whether there is a build have
changed. -/
theorem runBuild_cases (launcher : Launcher) (s : Settings) (w : World) :
    (∃ stop, (runBuild launcher s).run w = (.error stop, w)) ∨
      (∃ stop tree, (runBuild launcher s).run w = (.error stop,
        { w with tree, launches := w.launches ++ [⟨.build, s.buildCommand⟩] })) ∨
      ∃ tree, (runBuild launcher s).run w = (.ok (),
        { w with tree, launches := w.launches ++ [⟨.build, s.buildCommand⟩], built := true }) := by
  unfold runBuild
  rcases run_launch_cases launcher .build s.buildCommand
    (.buildRefused (s.buildCommand.headD "")) w with ⟨stop, refused⟩ | ⟨process, going⟩
  · exact Or.inl ⟨stop, Act.run_bind_of_error _ refused⟩
  · rw [Act.run_bind_of_ok _ going, run_awaitBuild]
    cases judgeBuild (finished process _).1 with
    | error stop => exact Or.inr (Or.inl ⟨stop, _, rfl⟩)
    | ok u => exact Or.inr (Or.inr ⟨_, rfl⟩)

theorem breaks_awaitBuild_iff (process : Process) (w : World) :
    Breaks (awaitBuild process) w ↔
      Undecodable (finished process w.tree).1.output ∨
        Undecodable (finished process w.tree).1.errors := by
  rw [← isBroken_judgeBuild_iff, Breaks, run_awaitBuild]
  cases judgeBuild (finished process w.tree).1 <;> exact Iff.rfl

/-- A build that has not been done before ends in a fault just when its command cannot be passed on
or when what it writes until it has ended is not text. -/
theorem breaks_build_iff (launcher : Launcher) (s : Settings) {w : World}
    (unbuilt : w.built = false) :
    Breaks (build launcher s) w ↔
      s.buildCommand.any hasNul = true ∨
        ∃ process, s.buildCommand ≠ [] ∧ s.buildCommand.any hasNul = false ∧
          launcher w.tree s.buildCommand = .ok process ∧
          (Undecodable (finished process w.tree).1.output ∨
            Undecodable (finished process w.tree).1.errors) := by
  by_cases none : s.buildCommand = []
  · have quiet : ¬Breaks (build launcher s) w :=
      Act.not_breaks_of_ok (run_build_of_done (Or.inr none))
    simp [quiet, none]
  · obtain ⟨note, ran⟩ := run_build_of_new launcher unbuilt none
    have same : Breaks (build launcher s) w ↔
        Breaks (runBuild launcher s) { w with log := w.log ++ [note] } := by
      rw [Breaks, Breaks, ran]
    rw [same, runBuild, Act.breaks_bind, breaks_launch_iff]
    refine or_congr Iff.rfl ?_
    constructor
    · rintro ⟨process, mid, launched, broken⟩
      obtain ⟨clean, found, rfl⟩ := run_launch_eq_ok.1 launched
      have unread := (breaks_awaitBuild_iff process _).1 broken
      exact ⟨process, none, clean, found, unread⟩
    · rintro ⟨process, -, clean, found, unread⟩
      refine ⟨process, _, run_launch_eq_ok.2 ⟨clean, found, rfl⟩, ?_⟩
      exact (breaks_awaitBuild_iff process _).2 unread

/-- A build starts one program and then changes the tree, and notes what it does. -/
theorem keeps_build {P : World → Prop} (launcher : Launcher) (s : Settings)
    (free : ∀ (w : World) tree log built, P w → P { w with tree, log, built })
    (launched : ∀ (w : World) words, P w →
      P { w with launches := w.launches ++ [⟨.build, words⟩] }) :
    Keeps P (build launcher s) := by
  intro w held
  by_cases done : w.built = true ∨ s.buildCommand = []
  · rw [run_build_of_done done]
    exact held
  · rw [not_or, Bool.not_eq_true] at done
    obtain ⟨note, ran⟩ := run_build_of_new launcher done.1 done.2
    have noted : P { w with log := w.log ++ [note] } := free w w.tree _ w.built held
    rw [ran]
    rcases runBuild_cases launcher s { w with log := w.log ++ [note] } with
      ⟨stop, refused⟩ | ⟨stop, tree, failed⟩ | ⟨tree, succeeded⟩
    · rw [refused]
      exact noted
    · rw [failed]
      exact free _ tree (w.log ++ [note]) w.built (launched _ s.buildCommand noted)
    · rw [succeeded]
      exact free _ tree (w.log ++ [note]) true (launched _ s.buildCommand noted)

/-- A build has nothing to do with the watcher. -/
theorem child_build (launcher : Launcher) (s : Settings) (w : World) :
    ((build launcher s).run w).2.child = w.child :=
  keeps_build (P := fun v => v.child = w.child) launcher s (fun _ _ _ _ same => same)
    (fun _ _ same => same) w rfl

theorem run_start_of_started (launcher : Launcher) (s : Settings) (roots : List Path) {w : World}
    (started : w.child.isSome = true) :
    (start launcher s roots).run w = (.error (.failed (.launch .alreadyStarted)), w) := by
  unfold start
  rw [Act.run_bind_of_ok _ (Act.run_look _ w), if_pos started]
  exact Act.run_bind_of_error _ (Act.run_fail _ w)

/-- What is noted when a watcher is to be started. -/
def starting (s : Settings) (roots : List Path) : Record :=
  ⟨.info, .watcher, "Starting watcher: " ++ " ".intercalate (words s roots)⟩

/-- The words that start a watcher make a program go. -/
def Launches (launcher : Launcher) (s : Settings) (roots : List Path) (t : Tree)
    (process : Process) : Prop :=
  (words s roots).any hasNul = false ∧ launcher t (words s roots) = .ok process

/-- The world when the program of a watcher has just been started. -/
def begun (s : Settings) (roots : List Path) (process : Process) (w : World) : World :=
  { w with
    log := w.log ++ [starting s roots]
    launches := w.launches ++ [⟨.watch, words s roots⟩]
    child := some (.ofProcess process w.clock)
    reading := true
    writtenOff := false }

/-- Why a watcher cannot be given its time of grace, if so. -/
def graceFault? (s : Settings) (w : World) : Option Fault :=
  if s.startupGrace.isPositive then
    match w.napFault? (.grace s.startupGrace) with
    | some f => some f
    | none =>
        if w.outlasts (.grace s.startupGrace) then some (.system ⟨.invalid, none, none⟩) else none
  else none

/-- That depends on nothing in the world but its time. -/
theorem graceFault?_of_time (s : Settings) {v w : World} (timed : v.timed = w.timed)
    (clock : v.clock = w.clock) : graceFault? s v = graceFault? s w := by
  unfold graceFault? World.napFault? World.outlasts
  rw [timed, clock]

/-- The time of grace cannot be given, which changes nothing, or it is given. -/
theorem grace_cases (s : Settings) (w : World) :
    (∃ f, graceFault? s w = some f ∧ (grace s).run w = (.error (.broken f), w)) ∨
      graceFault? s w = none ∧
        ∃ after, (grace s).run w = (.ok (), after) ∧
          after = if s.startupGrace.isPositive then w.nap (.grace s.startupGrace) else w := by
  unfold grace graceFault?
  split
  · rcases Act.run_nap_cases (.grace s.startupGrace)
      (fun refusal => .broken (.system ⟨refusal, none, none⟩)) w with
      ⟨f, fault, ran⟩ | ⟨told, ⟨beyond, ran⟩ | ⟨within, ran⟩⟩
    · exact Or.inl ⟨f, by rw [fault], ran⟩
    · exact Or.inl ⟨_, by rw [told, beyond, if_pos rfl], ran⟩
    · exact Or.inr ⟨by rw [told, within, if_neg Bool.false_ne_true], _, ran, rfl⟩
  · exact Or.inr ⟨rfl, w, rfl, rfl⟩

theorem breaks_grace_iff (s : Settings) (w : World) :
    Breaks (grace s) w ↔ ∃ f, graceFault? s w = some f := by
  rcases grace_cases s w with ⟨f, fault, ran⟩ | ⟨none, after, ran, -⟩
  · rw [Breaks, ran]
    exact ⟨fun _ => ⟨f, fault⟩, fun _ => isBroken_error f⟩
  · refine ⟨fun broken => absurd broken (Act.not_breaks_of_ok ran), ?_⟩
    rintro ⟨f, fault⟩
    cases none.symm.trans fault

/-- What pauses leave alone, the time of grace leaves alone. -/
theorem keeps_grace {P : World → Prop} (napped : ∀ w n, P w → P (World.nap w n)) (s : Settings) :
    Keeps P (grace s) := by
  unfold grace
  split
  · exact Act.keeps_nap (fun w => napped w _) _
  · exact Act.keeps_pure ()

theorem continues_grace (s : Settings) (w : World) : w.Continues ((grace s).run w).2 :=
  keeps_grace (P := w.Continues) (fun v n goes => goes.trans (World.continues_nap v n)) s w
    (World.Continues.refl w)

theorem awaits_grace (s : Settings) (w : World) : ((grace s).run w).2.awaits = w.awaits :=
  keeps_grace (P := fun v => v.awaits = w.awaits)
    (fun v n same => (World.awaits_nap v n).trans same) s w rfl

/-- What is done of a first start when it has been noted. -/
def startFirst (launcher : Launcher) (s : Settings) (roots : List Path) : Act Unit := do
  let process ← launch launcher .watch (words s roots) (.startRefused ((words s roots).headD ""))
  Act.change fun w =>
    { w with child := some (.ofProcess process w.clock), reading := true, writtenOff := false }
  grace s

theorem run_start_of_idle (launcher : Launcher) (s : Settings) (roots : List Path) {w : World}
    (idle : w.child = none) :
    (start launcher s roots).run w =
      (startFirst launcher s roots).run { w with log := w.log ++ [starting s roots] } := by
  unfold start
  rw [Act.run_bind_of_ok _ (Act.run_look _ w), if_neg (by simp [idle])]
  exact Act.run_bind_of_ok _ (Act.run_note _ _ _ w)

/-- A first start is noted, and then either its program cannot be started, which changes nothing, or
that goes and is given its time of grace. -/
theorem start_cases (launcher : Launcher) (s : Settings) (roots : List Path) {w : World}
    (idle : w.child = none) :
    (∃ stop, (launch launcher .watch (words s roots) (.startRefused ((words s roots).headD ""))).run
          { w with log := w.log ++ [starting s roots] } =
            (.error stop, { w with log := w.log ++ [starting s roots] }) ∧
        (start launcher s roots).run w =
          (.error stop, { w with log := w.log ++ [starting s roots] })) ∨
      ∃ process, Launches launcher s roots w.tree process ∧
        (start launcher s roots).run w = (grace s).run (begun s roots process w) := by
  rw [run_start_of_idle launcher s roots idle, startFirst]
  rcases run_launch_cases launcher .watch (words s roots)
    (.startRefused ((words s roots).headD "")) { w with log := w.log ++ [starting s roots] } with
    ⟨stop, refused⟩ | ⟨process, going⟩
  · exact Or.inl ⟨stop, refused, Act.run_bind_of_error _ refused⟩
  · obtain ⟨clean, found, -⟩ := run_launch_eq_ok.1 going
    refine Or.inr ⟨process, ⟨clean, found⟩, ?_⟩
    rw [Act.run_bind_of_ok _ going, Act.run_bind_of_ok _ (Act.run_change _ _)]
    rfl

theorem run_start_of_launches {launcher : Launcher} {s : Settings} {roots : List Path} {w : World}
    {process : Process} (idle : w.child = none)
    (launches : Launches launcher s roots w.tree process) :
    (start launcher s roots).run w = (grace s).run (begun s roots process w) := by
  rcases start_cases launcher s roots idle with ⟨stop, refused, -⟩ | ⟨other, found, ran⟩
  · cases refused.symm.trans (run_launch_eq_ok.2 ⟨launches.1, launches.2, rfl⟩)
  · cases found.2.symm.trans launches.2
    exact ran

/-- A watcher that has been started is one whose output is waited for. -/
theorem awaits_of_start {launcher : Launcher} {s : Settings} {roots : List Path} {w after : World}
    (idle : w.child = none) (started : (start launcher s roots).run w = (.ok (), after)) :
    after.awaits = true := by
  rcases start_cases launcher s roots idle with ⟨stop, -, refused⟩ | ⟨process, -, going⟩
  · cases refused.symm.trans started
  · have same := awaits_grace s (begun s roots process w)
    rw [going.symm.trans started] at same
    exact same

theorem run_start_of_not_launches {launcher : Launcher} {s : Settings} {roots : List Path}
    {w : World} (idle : w.child = none)
    (none : ¬∃ process, Launches launcher s roots w.tree process) :
    ∃ stop, (start launcher s roots).run w =
      (.error stop, { w with log := w.log ++ [starting s roots] }) := by
  rcases start_cases launcher s roots idle with ⟨stop, -, refused⟩ | ⟨process, found, -⟩
  · exact ⟨stop, refused⟩
  · exact absurd ⟨process, found⟩ none

/-- A first start ends in a fault just when a word of its command holds a NUL, or when the program
goes and cannot be given its time of grace. -/
theorem breaks_start_iff (launcher : Launcher) (s : Settings) (roots : List Path) {w : World}
    (idle : w.child = none) :
    Breaks (start launcher s roots) w ↔
      (words s roots).any hasNul = true ∨
        ∃ process f, Launches launcher s roots w.tree process ∧ graceFault? s w = some f := by
  rcases start_cases launcher s roots idle with ⟨stop, refused, ran⟩ | ⟨process, found, ran⟩
  · have word := breaks_launch_iff launcher .watch (words s roots)
      (.startRefused ((words s roots).headD "")) { w with log := w.log ++ [starting s roots] }
    rw [Act.breaks_iff_of_error refused] at word
    rw [Act.breaks_iff_of_error ran, word]
    refine ⟨Or.inl, ?_⟩
    rintro (nul | ⟨process, f, launches, -⟩)
    · exact nul
    · cases refused.symm.trans (run_launch_eq_ok.2 ⟨launches.1, launches.2, rfl⟩)
  · have same : Breaks (start launcher s roots) w ↔ Breaks (grace s) (begun s roots process w) := by
      rw [Breaks, Breaks, ran]
    rw [same, breaks_grace_iff]
    constructor
    · rintro ⟨f, fault⟩
      exact Or.inr ⟨process, f, found, fault⟩
    · rintro (nul | ⟨-, f, -, fault⟩)
      · cases found.1.symm.trans nul
      · exact ⟨f, fault⟩

end WatchTrial.Watcher
