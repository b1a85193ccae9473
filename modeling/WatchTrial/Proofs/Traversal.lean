set_option autoImplicit false

namespace WatchTrial

variable {α β ε : Type} {read : α → Except ε β}

theorem bind_eq_ok_iff {first : Except ε α} {next : α → Except ε β} {b : β} :
    first >>= next = .ok b ↔ ∃ a, first = .ok a ∧ next a = .ok b := by
  cases first with
  | error e =>
      constructor
      · intro worked
        cases worked
      · intro worked
        obtain ⟨a, same, -⟩ := worked
        cases same
  | ok a =>
      constructor
      · exact fun worked => ⟨a, rfl, worked⟩
      · intro worked
        obtain ⟨other, same, last⟩ := worked
        cases same
        exact last

theorem bind_eq_error_iff {first : Except ε α} {next : α → Except ε β} {e : ε} :
    first >>= next = .error e ↔ first = .error e ∨ ∃ a, first = .ok a ∧ next a = .error e := by
  cases first with
  | error f =>
      constructor
      · intro same
        cases same
        exact Or.inl rfl
      · rintro (same | ⟨a, same, -⟩)
        · cases same
          rfl
        · cases same
  | ok a =>
      constructor
      · exact fun refused => Or.inr ⟨a, rfl, refused⟩
      · rintro (same | ⟨b, same, refused⟩)
        · cases same
        · cases same
          exact refused

theorem mapError_eq_ok_iff {δ : Type} {f : ε → δ} {result : Except ε α} {a : α} :
    result.mapError f = .ok a ↔ result = .ok a := by
  cases result with
  | error e =>
      constructor
      · intro same
        cases same
      · intro same
        cases same
  | ok b =>
      constructor
      · intro same
        cases same
        rfl
      · intro same
        cases same
        rfl

theorem mapM_cons_of_error {item : α} {e : ε} (rest : List α) (first : read item = .error e) :
    (item :: rest).mapM read = .error e := by
  rw [List.mapM_cons, first]
  rfl

theorem mapM_cons_of_ok {item : α} {result : β} (rest : List α) (first : read item = .ok result) :
    (item :: rest).mapM read = (rest.mapM read).map (result :: ·) := by
  rw [List.mapM_cons, first]
  cases rest.mapM read <;> rfl

theorem mapM_cons_eq_ok {item : α} {rest : List α} {results : List β}
    (whole : (item :: rest).mapM read = .ok results) :
    ∃ result others, read item = .ok result ∧ rest.mapM read = .ok others ∧
      results = result :: others := by
  cases first : read item with
  | error e =>
      rw [mapM_cons_of_error rest first] at whole
      cases whole
  | ok result =>
      rw [mapM_cons_of_ok rest first] at whole
      cases later : rest.mapM read with
      | error e =>
          rw [later] at whole
          cases whole
      | ok others =>
          rw [later] at whole
          exact ⟨result, others, rfl, rfl, (Except.ok.inj whole).symm⟩

theorem exists_of_mapM_eq_ok {items : List α} {results : List β}
    (whole : items.mapM read = .ok results) :
    (∀ item ∈ items, ∃ result ∈ results, read item = .ok result) ∧
      ∀ result ∈ results, ∃ item ∈ items, read item = .ok result := by
  induction items generalizing results with
  | nil =>
      cases whole
      simp
  | cons item rest ih =>
      obtain ⟨result, others, here, later, rfl⟩ := mapM_cons_eq_ok whole
      obtain ⟨all, back⟩ := ih later
      constructor
      · intro one member
        rcases List.mem_cons.1 member with rfl | inner
        · exact ⟨result, List.mem_cons_self, here⟩
        · obtain ⟨target, there, worked⟩ := all one inner
          exact ⟨target, List.mem_cons_of_mem result there, worked⟩
      · intro one member
        rcases List.mem_cons.1 member with rfl | inner
        · exact ⟨item, List.mem_cons_self, here⟩
        · obtain ⟨source, there, worked⟩ := back one inner
          exact ⟨source, List.mem_cons_of_mem item there, worked⟩

/-- The refusal of a list is that of its first item which is refused. -/
theorem mapM_eq_error_iff {items : List α} {e : ε} :
    items.mapM read = .error e ↔
      ∃ before item after, items = before ++ item :: after ∧
        (∀ other ∈ before, ∃ result, read other = .ok result) ∧ read item = .error e := by
  constructor
  · intro refused
    induction items with
    | nil => cases refused
    | cons item rest ih =>
        cases first : read item with
        | error f =>
            rw [mapM_cons_of_error rest first] at refused
            cases refused
            exact ⟨[], item, rest, rfl, by simp, first⟩
        | ok result =>
            rw [mapM_cons_of_ok rest first] at refused
            cases later : rest.mapM read with
            | ok others =>
                rw [later] at refused
                cases refused
            | error f =>
                rw [later] at refused
                cases refused
                obtain ⟨before, other, after, rfl, earlier, here⟩ := ih later
                refine ⟨item :: before, other, after, rfl, ?_, here⟩
                intro one member
                rcases List.mem_cons.1 member with rfl | inner
                · exact ⟨result, first⟩
                · exact earlier one inner
  · rintro ⟨before, item, after, rfl, earlier, refused⟩
    induction before with
    | nil => exact mapM_cons_of_error after refused
    | cons first before ih =>
        obtain ⟨result, worked⟩ := earlier first List.mem_cons_self
        rw [List.cons_append, mapM_cons_of_ok _ worked,
          ih fun other member => earlier other (List.mem_cons_of_mem first member)]
        rfl

/-- A list is refused just when one of its items is, wherever that stands. -/
theorem exists_mapM_eq_error_iff {items : List α} :
    (∃ e, items.mapM read = .error e) ↔ ∃ item ∈ items, ∃ e, read item = .error e := by
  constructor
  · rintro ⟨e, refused⟩
    obtain ⟨before, item, after, rfl, -, here⟩ := mapM_eq_error_iff.1 refused
    exact ⟨item, by simp, e, here⟩
  · rintro ⟨item, member, e, here⟩
    cases outcome : items.mapM read with
    | error f => exact ⟨f, rfl⟩
    | ok results =>
        obtain ⟨result, -, worked⟩ := (exists_of_mapM_eq_ok outcome).1 item member
        cases here.symm.trans worked

end WatchTrial
