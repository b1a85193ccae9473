import WatchTrial.Proofs.Traversal
import WatchTrial.Script

set_option autoImplicit false

namespace WatchTrial

/-- The action is one that can be performed. -/
def Action.Performable (a : Action) : Prop := a.isWatch = false ∧ a ≠ .unspecified

namespace Script

/-- The actions of commands: which there are, and with which arguments. -/
theorem action_eq_ok {base : Path} {command : Command} {arguments : List String} {a : Action}
    (read : command.action base arguments = .ok a) :
    (∃ kind path, command = .create ∧ arguments = [kind, path] ∧
        a = .create (base / Path.ofString path) (kind == "Dir") false) ∨
      (∃ path, command = .delete ∧ arguments = [path] ∧ a = .delete (base / Path.ofString path)) ∨
      (∃ path argument content, command = .write ∧ arguments = [path, argument] ∧
        readContent argument = .ok content ∧ a = .write (base / Path.ofString path) content) ∨
      (∃ source target, command = .move ∧ arguments = [source, target] ∧
        a = .move (base / Path.ofString source) (base / Path.ofString target)) ∨
      (∃ argument seconds, command = .wait ∧ arguments = [argument] ∧
        readSeconds argument = .ok seconds ∧ a = .wait seconds) ∨
      ∃ path, command = .watchDir ∧ arguments = [path] ∧
        a = .watch (base / Path.ofString path) := by
  unfold Command.action at read
  split at read
  · cases read
    exact Or.inl ⟨_, _, rfl, rfl, rfl⟩
  · cases read
    exact Or.inr (Or.inl ⟨_, rfl, rfl, rfl⟩)
  · obtain ⟨content, quoted, made⟩ := bind_eq_ok_iff.1 read
    cases made
    exact Or.inr (Or.inr (Or.inl ⟨_, _, _, rfl, rfl, quoted, rfl⟩))
  · cases read
    exact Or.inr (Or.inr (Or.inr (Or.inl ⟨_, _, rfl, rfl, rfl⟩)))
  · obtain ⟨seconds, number, made⟩ := bind_eq_ok_iff.1 read
    cases made
    exact Or.inr (Or.inr (Or.inr (Or.inr (Or.inl ⟨_, _, rfl, rfl, number, rfl⟩))))
  · cases read
    exact Or.inr (Or.inr (Or.inr (Or.inr (Or.inr ⟨_, rfl, rfl, rfl⟩))))
  · cases read

theorem action_ne_unspecified {base : Path} {command : Command} {arguments : List String}
    {a : Action} (read : command.action base arguments = .ok a) : a ≠ .unspecified := by
  rintro rfl
  have outcomes := action_eq_ok read
  simp at outcomes

/-- A line that is read is a command with its arguments. -/
theorem readLine_eq_ok {base : Path} {line : String} {a : Action}
    (read : readLine base line = .ok a) :
    ∃ (command : Command) (arguments : List String), tokens line = command.word :: arguments ∧
      command.action base arguments = .ok a := by
  unfold readLine at read
  split at read
  · cases read
  · rename_i word arguments pieces
    cases known : Command.ofWord? word with
    | none =>
        rw [known] at read
        cases read
    | some command =>
        rw [known] at read
        have same : command.word = word := by
          simpa using List.find?_some known
        exact ⟨command, arguments, same ▸ pieces, read⟩

theorem readLine_ne_unspecified {base : Path} {line : String} {a : Action}
    (read : readLine base line = .ok a) : a ≠ .unspecified := by
  obtain ⟨command, arguments, -, made⟩ := readLine_eq_ok read
  exact action_ne_unspecified made

section

variable {actions : List Action}

theorem append_splitRoots (actions : List Action) :
    (splitRoots actions).1.map .watch ++ (splitRoots actions).2 = actions := by
  induction actions with
  | nil => rfl
  | cons a rest ih =>
      cases a with
      | watch root => exact congrArg (.watch root :: ·) ih
      | _ => rfl

/-- What follows the roots that a script starts with does not start with a declaration. -/
theorem isWatch_head_splitRoots (actions : List Action) :
    ∀ a ∈ (splitRoots actions).2.head?, a.isWatch = false := by
  induction actions with
  | nil =>
      intro a none
      cases none
  | cons first rest ih =>
      cases first with
      | watch root => exact ih
      | _ =>
          intro a head
          cases head
          rfl

theorem splitRoots_append {rest : List Action} (roots : List Path)
    (front : ∀ a ∈ rest.head?, a.isWatch = false) :
    splitRoots (roots.map .watch ++ rest) = (roots, rest) := by
  induction roots with
  | nil =>
      cases rest with
      | nil => rfl
      | cons a rest =>
          have other := front a rfl
          cases a with
          | watch root => cases other
          | _ => rfl
  | cons root roots ih => rw [List.map_cons, List.cons_append, splitRoots, ih]

theorem firstWatch?_eq_none_iff :
    firstWatch? actions = none ↔ ∀ a ∈ actions, a.isWatch = false := by
  rw [firstWatch?, List.findSome?_eq_none_iff]
  constructor
  · intro none a member
    have here := none a member
    cases a with
    | watch root => cases here
    | _ => rfl
  · intro none a member
    have here := none a member
    cases a with
    | watch root => cases here
    | _ => rfl

theorem firstWatch?_eq_some_iff {root : Path} :
    firstWatch? actions = some root ↔
      ∃ before after, actions = before ++ .watch root :: after ∧
        ∀ a ∈ before, a.isWatch = false := by
  rw [firstWatch?, List.findSome?_eq_some_iff]
  constructor
  · rintro ⟨before, a, after, split, found, others⟩
    have earlier := firstWatch?_eq_none_iff.1 (List.findSome?_eq_none_iff.2 others)
    cases a with
    | watch other =>
        cases found
        exact ⟨before, after, split, earlier⟩
    | _ => cases found
  · rintro ⟨before, after, split, others⟩
    have earlier := List.findSome?_eq_none_iff.1 (firstWatch?_eq_none_iff.2 others)
    exact ⟨before, .watch root, after, split, rfl, earlier⟩

/-- A script makes a plan just when it declares nothing after its roots; then the plan makes them
and goes on with the rest. -/
theorem plan_eq_ok_iff {ready : Plan} :
    plan actions = .ok ready ↔
      ∃ rest, actions = ready.roots.map .watch ++ rest ∧ (∀ a ∈ rest, a.isWatch = false) ∧
        ready.actions = ready.roots.map (.create · true true) ++ rest := by
  constructor
  · intro planned
    unfold plan at planned
    simp only at planned
    split at planned
    · cases planned
    · rename_i undeclared
      cases planned
      exact ⟨_, (append_splitRoots actions).symm, firstWatch?_eq_none_iff.1 undeclared, rfl⟩
  · rintro ⟨rest, rfl, undeclared, made⟩
    have parts := splitRoots_append ready.roots fun a head =>
      undeclared a (List.mem_of_mem_head? head)
    rw [plan, parts]
    simp only [firstWatch?_eq_none_iff.2 undeclared, ← made]

/-- A script is refused for the first declaration that comes after another action. -/
theorem plan_eq_error_iff {late : Path} :
    plan actions = .error late ↔
      ∃ (roots : List Path) (other : Action) (between after : List Action),
        actions = roots.map .watch ++ other :: (between ++ .watch late :: after) ∧
          other.isWatch = false ∧ ∀ a ∈ between, a.isWatch = false := by
  constructor
  · intro refused
    unfold plan at refused
    simp only at refused
    split at refused
    · rename_i found
      cases refused
      obtain ⟨before, after, split, earlier⟩ := firstWatch?_eq_some_iff.1 found
      have front := isWatch_head_splitRoots actions
      have whole := append_splitRoots actions
      rw [split] at front whole
      cases before with
      | nil => cases front _ rfl
      | cons other between =>
          rw [List.forall_mem_cons] at earlier
          exact ⟨_, other, between, after, whole.symm, earlier⟩
    · cases refused
  · rintro ⟨roots, other, between, after, rfl, notDeclared, earlier⟩
    have front : ∀ a ∈ (other :: (between ++ .watch late :: after)).head?, a.isWatch = false := by
      intro a head
      cases head
      exact notDeclared
    have found : firstWatch? (other :: (between ++ .watch late :: after)) = some late :=
      firstWatch?_eq_some_iff.2
        ⟨other :: between, after, rfl, List.forall_mem_cons.2 ⟨notDeclared, earlier⟩⟩
    rw [plan, splitRoots_append roots front]
    simp only [found]

/-- Every root of a plan has been declared, and every action of it makes such a root or has been
asked for and is no declaration. -/
theorem plan_eq_ok {ready : Plan} (planned : plan actions = .ok ready) :
    (∀ root ∈ ready.roots, .watch root ∈ actions) ∧
      ∀ a ∈ ready.actions, (∃ root, .watch root ∈ actions ∧ a = .create root true true) ∨
        a ∈ actions ∧ a.isWatch = false := by
  obtain ⟨rest, rfl, undeclared, made⟩ := plan_eq_ok_iff.1 planned
  have declared {root : Path} (member : root ∈ ready.roots) :
      .watch root ∈ ready.roots.map .watch ++ rest :=
    List.mem_append_left _ (List.mem_map_of_mem member)
  refine ⟨fun root member => declared member, fun a member => ?_⟩
  rw [made] at member
  rcases List.mem_append.1 member with created | later
  · obtain ⟨root, there, rfl⟩ := List.mem_map.1 created
    exact Or.inl ⟨root, declared there, rfl⟩
  · exact Or.inr ⟨List.mem_append_right _ later, undeclared a later⟩

end

end Script

end WatchTrial
