import WatchTrial.Proofs.Script
import WatchTrial.Proofs.Traversal

set_option autoImplicit false

namespace WatchTrial.Script

/-- The lines of a script that count, without their line ends and under their numbers. -/
def relevantFrom (number : Nat) (lines : List String) : List (String × Nat) :=
  ((lines.map chomp).zipIdx number).filter fun line => isRelevant line.1

theorem relevantFrom_cons (number : Nat) (raw : String) (rest : List String) :
    relevantFrom number (raw :: rest) =
      if isRelevant (chomp raw) then (chomp raw, number) :: relevantFrom (number + 1) rest
      else relevantFrom (number + 1) rest := by
  rw [relevantFrom, List.map_cons, List.zipIdx_cons, List.filter_cons]
  rfl

/-- A script is read as the lines of it that count. -/
theorem readFrom_eq_mapM (base : Path) (number : Nat) (lines : List String) :
    readFrom base number lines =
      (relevantFrom number lines).mapM fun line => readNumbered base line.2 line.1 := by
  induction lines generalizing number with
  | nil => rfl
  | cons raw rest ih =>
      rw [readFrom, ih, relevantFrom_cons]
      split
      · rw [List.mapM_cons]
      · rfl

theorem mem_relevantFrom (number : Nat) {lines : List String} {line : String} :
    (∃ n, (line, n) ∈ relevantFrom number lines) ↔
      ∃ raw ∈ lines, chomp raw = line ∧ isRelevant line = true := by
  have numbered : (∃ n, (line, n) ∈ (lines.map chomp).zipIdx number) ↔ line ∈ lines.map chomp := by
    rw [← List.zipIdx_map_fst number (lines.map chomp), List.mem_map]
    simp
  simp only [relevantFrom, List.mem_filter, exists_and_right, numbered, List.mem_map]
  constructor
  · rintro ⟨⟨raw, there, rfl⟩, counts⟩
    exact ⟨raw, there, rfl, counts⟩
  · rintro ⟨raw, there, rfl, counts⟩
    exact ⟨⟨raw, there, rfl⟩, counts⟩

theorem relevantFrom_append (number : Nat) (first second : List String) :
    relevantFrom number (first ++ second) =
      relevantFrom number first ++ relevantFrom (number + first.length) second := by
  rw [relevantFrom, List.map_append, List.zipIdx_append, List.filter_append, List.length_map]
  rfl

theorem readNumbered_eq_ok_iff {base : Path} {number : Int} {line : String} {a : Action} :
    readNumbered base number line = .ok a ↔ readLine base line = .ok a :=
  mapError_eq_ok_iff

/-- A line counts and asks for an action. -/
def Asks (base : Path) (raw : String) (a : Action) : Prop :=
  isRelevant (chomp raw) = true ∧ readLine base (chomp raw) = .ok a

/-- Some line counts and is no action. -/
def Flawed (base : Path) (lines : List String) : Prop :=
  ∃ raw ∈ lines, isRelevant (chomp raw) = true ∧ ∃ fault, readLine base (chomp raw) = .error fault

/-- Some line declares a directory although an earlier one asks for something else. -/
def DeclaresLate (base : Path) (lines : List String) : Prop :=
  ∃ before first between second after a root,
    lines = before ++ first :: (between ++ second :: after) ∧
      Asks base first a ∧ a.isWatch = false ∧ Asks base second (.watch root)

/-- No line declares a directory. -/
def DeclaresNone (base : Path) (lines : List String) : Prop :=
  ∀ raw ∈ lines, ∀ root, ¬Asks base raw (.watch root)

/-- A script is refused just when it is flawed, wherever the flaw is. -/
theorem flawed_iff (base : Path) (lines : List String) :
    Flawed base lines ↔ ∃ e, read base lines = .error e := by
  simp only [read, readFrom_eq_mapM]
  rw [exists_mapM_eq_error_iff]
  constructor
  · rintro ⟨raw, there, counts, fault, refused⟩
    obtain ⟨n, member⟩ := (mem_relevantFrom 1).2 ⟨raw, there, rfl, counts⟩
    exact ⟨_, member, ⟨n, chomp raw, fault⟩, by rw [readNumbered, refused]; rfl⟩
  · rintro ⟨⟨line, n⟩, member, e, refused⟩
    obtain ⟨raw, there, rfl, counts⟩ := (mem_relevantFrom _).1 ⟨n, member⟩
    refine ⟨raw, there, counts, ?_⟩
    cases outcome : readLine base (chomp raw) with
    | error fault => exact ⟨fault, rfl⟩
    | ok a => cases refused.symm.trans (readNumbered_eq_ok_iff.2 outcome)

/-- What is read of two scripts put together is what is read of the one and then of the other. -/
theorem readFrom_append (base : Path) (number : Nat) (first second : List String) :
    readFrom base number (first ++ second) = do
      let before ← readFrom base number first
      let after ← readFrom base (number + first.length) second
      return before ++ after := by
  simp only [readFrom_eq_mapM, relevantFrom_append, List.mapM_append]

theorem readFrom_append_eq_ok {base : Path} {number : Nat} {first second : List String}
    {actions : List Action} (whole : readFrom base number (first ++ second) = .ok actions) :
    ∃ before after, readFrom base number first = .ok before ∧
      readFrom base (number + first.length) second = .ok after ∧ actions = before ++ after := by
  rw [readFrom_append] at whole
  obtain ⟨before, inFirst, rest⟩ := bind_eq_ok_iff.1 whole
  obtain ⟨after, inSecond, made⟩ := bind_eq_ok_iff.1 rest
  cases made
  exact ⟨before, after, inFirst, inSecond, rfl⟩

theorem readFrom_cons_eq_ok {base : Path} {number : Nat} {raw : String} {rest : List String}
    {a : Action} {actions : List Action} (asks : Asks base raw a)
    (whole : readFrom base number (raw :: rest) = .ok actions) :
    ∃ others, readFrom base (number + 1) rest = .ok others ∧ actions = a :: others := by
  rw [readFrom_eq_mapM, relevantFrom_cons, if_pos asks.1] at whole
  obtain ⟨result, others, here, later, rfl⟩ := mapM_cons_eq_ok whole
  cases asks.2.symm.trans (readNumbered_eq_ok_iff.1 here)
  exact ⟨others, (readFrom_eq_mapM base _ rest).trans later, rfl⟩

theorem suffix_splitRoots {a : Action} (before rest : List Action) (other : a.isWatch = false) :
    a :: rest <:+ (splitRoots (before ++ a :: rest)).2 := by
  induction before with
  | nil =>
      cases a with
      | watch root => cases other
      | _ => exact List.suffix_refl _
  | cons first before ih =>
      cases first with
      | watch root => exact ih
      | _ => exact List.suffix_append (_ :: before) (a :: rest)

/-- A late declaration is refused, whatever stands around it. -/
theorem exists_plan_eq_error_of_late (before between after : List Action) (root : Path) {a : Action}
    (other : a.isWatch = false) :
    ∃ late, plan (before ++ a :: (between ++ .watch root :: after)) = .error late := by
  have kept := suffix_splitRoots before (between ++ .watch root :: after) other
  have member : Action.watch root ∈ a :: (between ++ .watch root :: after) := by simp
  unfold plan
  simp only
  split
  · rename_i refused _
    exact ⟨refused, rfl⟩
  · rename_i noneLate
    cases firstWatch?_eq_none_iff.1 noneLate _ (kept.mem member)

theorem plan_of_declaresLate {base : Path} {lines : List String} {actions : List Action}
    (whole : read base lines = .ok actions) (late : DeclaresLate base lines) :
    ∃ root, plan actions = .error root := by
  obtain ⟨before, first, between, second, after, a, root, rfl, asks, other, declares⟩ := late
  obtain ⟨early, _, -, fromFirst, rfl⟩ := readFrom_append_eq_ok whole
  obtain ⟨_, later, rfl⟩ := readFrom_cons_eq_ok asks fromFirst
  obtain ⟨middle, _, -, fromSecond, rfl⟩ := readFrom_append_eq_ok later
  obtain ⟨last, -, rfl⟩ := readFrom_cons_eq_ok declares fromSecond
  exact exists_plan_eq_error_of_late early middle last root other

/-- Whatever a script asks for stands in one of its lines. -/
theorem exists_asks_of_mem {base : Path} {lines : List String} {actions : List Action} {a : Action}
    (whole : read base lines = .ok actions) (member : a ∈ actions) :
    ∃ raw ∈ lines, Asks base raw a := by
  rw [read, readFrom_eq_mapM] at whole
  obtain ⟨⟨line, n⟩, counted, worked⟩ := (exists_of_mapM_eq_ok whole).2 a member
  obtain ⟨raw, inside, rfl, counts⟩ := (mem_relevantFrom _).1 ⟨n, counted⟩
  exact ⟨raw, inside, counts, readNumbered_eq_ok_iff.1 worked⟩

theorem roots_of_declaresNone {base : Path} {lines : List String} {actions : List Action}
    {ready : Plan} (whole : read base lines = .ok actions) (planned : plan actions = .ok ready)
    (none : DeclaresNone base lines) : ready.roots = [] := by
  refine List.eq_nil_iff_forall_not_mem.2 fun root member => ?_
  obtain ⟨raw, inside, asks⟩ := exists_asks_of_mem whole ((plan_eq_ok planned).1 root member)
  exact none raw inside root asks

/-- The actions of a plan are performable. -/
theorem performable_of_plan {base : Path} {lines : List String} {actions : List Action}
    {ready : Plan} (whole : read base lines = .ok actions) (planned : plan actions = .ok ready) :
    ∀ a ∈ ready.actions, a.Performable := by
  intro a member
  rcases (plan_eq_ok planned).2 a member with ⟨root, -, rfl⟩ | ⟨asked, other⟩
  · refine ⟨rfl, ?_⟩
    intro same
    cases same
  · obtain ⟨raw, -, asks⟩ := exists_asks_of_mem whole asked
    exact ⟨other, readLine_ne_unspecified asks.2⟩

end WatchTrial.Script
