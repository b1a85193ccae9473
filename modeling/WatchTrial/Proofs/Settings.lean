import WatchTrial.Proofs.Act
import WatchTrial.Settings

set_option autoImplicit false

namespace WatchTrial.Settings

open Yaml (Datum)

/-- What in a settings file no failure answers for. -/
inductive Faulty (t : Tree) (file : Path) : Prop where
  | octets (content : Octets) (flaw : Text.Utf8.Fault) (found : t.readFile file = .ok content)
      (undecodable : Text.Utf8.decode content = .error flaw)
  | document (content : Octets) (text : List Char) (f : Fault)
      (found : t.readFile file = .ok content) (decoded : Text.Utf8.decode content = .ok text)
      (full : Text.isBlankText (Text.unifyEnds text) = false)
      (stopped : Datum.ofText levels (Text.unifyEnds text) = .error (.fault f))
  | key (mapping : List (Datum × Datum)) (entry : Datum × Datum)
      (read : readFile t file = .ok mapping) (member : entry ∈ Datum.lastOfEach mapping)
      (noText : text? entry.1 = none)
  | seconds (mapping before after : List (Datum × Datum)) (key : Datum) (n : Int) (s : Settings)
      (read : readFile t file = .ok mapping)
      (known : ∀ entry ∈ Datum.lastOfEach mapping, (Key.ofDatum? entry.1).isSome = true)
      (split : Datum.lastOfEach mapping = before ++ (key, .int n) :: after)
      (earlier : assignAll usual before = .ok s)
      (duration : Key.ofDatum? key = some .startupGrace ∨ Key.ofDatum? key = some .terminateTimeout)
      (above : 0 ≤ n) (tooLarge : Binary64.ofInt? n = none)

theorem isBroken_readFile {t : Tree} {file : Path} (broken : IsBroken (readFile t file)) :
    Faulty t file := by
  unfold readFile at broken
  cases found : t.readFile file with
  | error refusal =>
      rw [found] at broken
      exact absurd broken (not_isBroken_failed _)
  | ok content =>
      rw [found] at broken
      simp only at broken
      cases decoded : Text.Utf8.decode content with
      | error flaw => exact .octets content flaw found decoded
      | ok text =>
          rw [decoded] at broken
          simp only at broken
          split at broken
          · exact absurd broken (not_isBroken_ok _)
          · rename_i full
            split at broken
            · exact absurd broken (not_isBroken_ok _)
            · exact absurd broken (not_isBroken_failed _)
            · exact absurd broken (not_isBroken_failed _)
            · rename_i f stopped
              exact .document content text f found decoded (by simpa using full) stopped

theorem mapM_text?_eq_none (keys : List Datum) :
    keys.mapM text? = none ↔ ∃ key ∈ keys, text? key = none := by
  induction keys with
  | nil => simp
  | cons key rest ih =>
      rw [List.mapM_cons]
      cases first : text? key with
      | none => simp [first]
      | some text =>
          cases others : rest.mapM text? with
          | none => simpa [first, others] using ih
          | some texts => simpa [first, others] using ih

/-- Keys that are not known are beyond a failure just when one of them is no text. -/
theorem unknown_eq_broken_iff (keys : List Datum) :
    (∃ f, unknown keys = .broken f) ↔ ∃ key ∈ keys, text? key = none := by
  rw [← mapM_text?_eq_none]
  delta unknown
  cases texts : keys.mapM text? with
  | some names => simp
  | none =>
      cases keys with
      | nil => cases texts
      | cons first rest => cases firstUnordered? (first :: rest) <;> simp

theorem isBroken_readSeconds_iff (key : Key) (value : Datum) :
    IsBroken (readSeconds key value) ↔
      ∃ n : Int, value = .int n ∧ 0 ≤ n ∧ Binary64.ofInt? n = none := by
  unfold readSeconds
  split
  · rename_i n
    split
    · rename_i below
      constructor
      · intro broken
        exact absurd broken (not_isBroken_failed _)
      · rintro ⟨m, same, above, -⟩
        cases same
        omega
    · rename_i above
      split
      · rename_i x fits
        constructor
        · intro broken
          exact absurd broken (not_isBroken_ok _)
        · rintro ⟨m, same, -, tooLarge⟩
          cases same
          rw [fits] at tooLarge
          cases tooLarge
      · rename_i tooLarge
        exact ⟨fun _ => ⟨n, rfl, by omega, tooLarge⟩, fun _ => isBroken_error _⟩
  · split
    · constructor
      · exact fun broken => absurd broken (not_isBroken_failed _)
      · rintro ⟨n, same, -⟩
        cases same
    · constructor
      · exact fun broken => absurd broken (not_isBroken_ok _)
      · rintro ⟨n, same, -⟩
        cases same
  · rename_i noInt _
    constructor
    · intro broken
      exact absurd broken (not_isBroken_failed _)
    · rintro ⟨n, rfl, -⟩
      exact absurd rfl (noInt n)

theorem isBroken_map_iff {α β : Type} (f : α → β) (result : Except Stop α) :
    IsBroken (result.map f) ↔ IsBroken result := by
  cases result with
  | error s =>
      constructor
      · rintro ⟨fault, same⟩
        cases same
        exact isBroken_error fault
      · rintro ⟨fault, same⟩
        cases same
        exact isBroken_error fault
  | ok a =>
      constructor
      · exact fun broken => absurd broken (not_isBroken_ok (f a))
      · exact fun broken => absurd broken (not_isBroken_ok a)

/-- A value is beyond a failure just when it is a duration that no floating-point number comes
near to. -/
theorem isBroken_assign_iff (s : Settings) (key : Key) (value : Datum) :
    IsBroken (assign s key value) ↔
      (key = .startupGrace ∨ key = .terminateTimeout) ∧
        ∃ n : Int, value = .int n ∧ 0 ≤ n ∧ Binary64.ofInt? n = none := by
  have refused {α : Type} (f : SetupFault) : ¬IsBroken (refuse f : Except Stop α) :=
    not_isBroken_failed _
  cases key with
  | startupGrace => simp [assign, isBroken_map_iff, isBroken_readSeconds_iff]
  | terminateTimeout => simp [assign, isBroken_map_iff, isBroken_readSeconds_iff]
  | targetDir =>
      simp only [assign]
      split <;> simp [refused, not_isBroken_ok]
  | buildCommand =>
      simp only [assign]
      split <;> simp [refused, not_isBroken_ok]
  | watcherCommand =>
      simp only [assign]
      split <;> simp [refused, not_isBroken_ok]
  | allowEmptyRoots =>
      simp only [assign]
      split <;> simp [refused, not_isBroken_ok]

theorem assignAll_cons_of_unknown (s : Settings) {key : Datum} (value : Datum)
    (rest : List (Datum × Datum)) (unknown : Key.ofDatum? key = none) :
    assignAll s ((key, value) :: rest) = assignAll s rest := by
  rw [assignAll, unknown]

theorem assignAll_cons_of_known (s : Settings) {key : Datum} {known : Key} (value : Datum)
    (rest : List (Datum × Datum)) (named : Key.ofDatum? key = some known) :
    assignAll s ((key, value) :: rest) = assign s known value >>= fun s => assignAll s rest := by
  rw [assignAll, named]

/-- Entries are beyond a failure just when one of them is, after all before it have been set. -/
theorem isBroken_assignAll_iff (s : Settings) (entries : List (Datum × Datum)) :
    IsBroken (assignAll s entries) ↔
      ∃ before key value after known middle, entries = before ++ (key, value) :: after ∧
        assignAll s before = .ok middle ∧ Key.ofDatum? key = some known ∧
        IsBroken (assign middle known value) := by
  induction entries generalizing s with
  | nil =>
      constructor
      · exact fun broken => absurd broken (not_isBroken_ok s)
      · rintro ⟨before, key, value, after, known, middle, split, -⟩
        simp at split
  | cons entry rest ih =>
      obtain ⟨key, value⟩ := entry
      constructor
      · intro broken
        cases named : Key.ofDatum? key with
        | none =>
            rw [assignAll_cons_of_unknown s value rest named, ih] at broken
            obtain ⟨before, other, found, after, known, middle, rfl, set, named', stops⟩ := broken
            refine ⟨(key, value) :: before, other, found, after, known, middle, rfl, ?_, named',
              stops⟩
            rw [assignAll_cons_of_unknown s value before named, set]
        | some known =>
            rw [assignAll_cons_of_known s value rest named, isBroken_bind] at broken
            rcases broken with stops | ⟨next, set, later⟩
            · exact ⟨[], key, value, rest, known, s, rfl, rfl, named, stops⟩
            · obtain ⟨before, other, found, after, known', middle, rfl, sets, named', stops⟩ :=
                (ih next).1 later
              refine ⟨(key, value) :: before, other, found, after, known', middle, rfl, ?_, named',
                stops⟩
              rw [assignAll_cons_of_known s value before named, set]
              exact sets
      · rintro ⟨before, other, found, after, known, middle, split, set, named, stops⟩
        cases before with
        | nil =>
            cases split
            cases set
            rw [assignAll_cons_of_known s value rest named, isBroken_bind]
            exact Or.inl stops
        | cons first before =>
            cases split
            cases first? : Key.ofDatum? key with
            | none =>
                rw [assignAll_cons_of_unknown s value _ first?] at set ⊢
                exact (ih s).2 ⟨before, other, found, after, known, middle, rfl, set, named, stops⟩
            | some key' =>
                rw [assignAll_cons_of_known s value _ first?] at set ⊢
                rw [isBroken_bind]
                cases next? : assign s key' value with
                | error s' =>
                    rw [next?] at set
                    cases set
                | ok next =>
                    rw [next?] at set
                    exact Or.inr ⟨next, rfl, (ih next).2
                      ⟨before, other, found, after, known, middle, rfl, set, named, stops⟩⟩

theorem ofDatum?_eq_none_of_no_text {key : Datum} (noText : text? key = none) :
    Key.ofDatum? key = none := by
  cases key with
  | text s => cases noText
  | _ => rfl

/-- The keys of a mapping that are not known. -/
def strangers (mapping : List (Datum × Datum)) : List Datum :=
  ((Datum.lastOfEach mapping).map Prod.fst).filter fun key => (Key.ofDatum? key).isNone

theorem mem_strangers {mapping : List (Datum × Datum)} {entry : Datum × Datum}
    (member : entry ∈ Datum.lastOfEach mapping) (noKey : Key.ofDatum? entry.1 = none) :
    entry.1 ∈ strangers mapping := by
  refine List.mem_filter.2 ⟨List.mem_map_of_mem member, ?_⟩
  rw [noKey]
  rfl

theorem ofMapping_of_known {mapping : List (Datum × Datum)}
    (known : ∀ entry ∈ Datum.lastOfEach mapping, (Key.ofDatum? entry.1).isSome = true) :
    ofMapping mapping = assignAll usual (Datum.lastOfEach mapping) := by
  have none : strangers mapping = [] := by
    rw [strangers, List.filter_eq_nil_iff]
    intro key member
    obtain ⟨entry, there, rfl⟩ := List.mem_map.1 member
    have known := known entry there
    cases named : Key.ofDatum? entry.1 with
    | none =>
        rw [named] at known
        cases known
    | some key => simp
  unfold strangers at none
  rw [ofMapping, none]

theorem ofMapping_of_unknown {mapping : List (Datum × Datum)} {entry : Datum × Datum}
    (member : entry ∈ Datum.lastOfEach mapping) (noKey : Key.ofDatum? entry.1 = none) :
    ofMapping mapping = .error (unknown (strangers mapping)) := by
  have there := mem_strangers member noKey
  unfold strangers at there ⊢
  unfold ofMapping
  simp only
  split
  · rename_i none
    rw [none] at there
    cases there
  · rfl

theorem ofMapping_of_not_known {mapping : List (Datum × Datum)}
    (unknown : ¬∀ entry ∈ Datum.lastOfEach mapping, (Key.ofDatum? entry.1).isSome = true) :
    ofMapping mapping = .error (Settings.unknown (strangers mapping)) := by
  simp only [Classical.not_forall] at unknown
  obtain ⟨entry, member, noKey⟩ := unknown
  exact ofMapping_of_unknown member (by simpa using noKey)

theorem faulty_of_ofMapping {t : Tree} {file : Path} {mapping : List (Datum × Datum)}
    (read : readFile t file = .ok mapping) (broken : IsBroken (ofMapping mapping)) :
    Faulty t file := by
  by_cases known : ∀ entry ∈ Datum.lastOfEach mapping, (Key.ofDatum? entry.1).isSome = true
  · rw [ofMapping_of_known known, isBroken_assignAll_iff] at broken
    obtain ⟨before, key, value, after, name, s, split, earlier, named, stops⟩ := broken
    obtain ⟨duration, n, rfl, above, tooLarge⟩ := (isBroken_assign_iff s name value).1 stops
    refine .seconds mapping before after key n s read known split earlier ?_ above tooLarge
    rcases duration with rfl | rfl
    · exact Or.inl named
    · exact Or.inr named
  · rw [ofMapping_of_not_known known] at broken
    obtain ⟨f, same⟩ := broken
    obtain ⟨key, there, noText⟩ :=
      (unknown_eq_broken_iff _).1 ⟨f, Except.error.inj same⟩
    obtain ⟨other, inside, rfl⟩ := List.mem_map.1 (List.mem_filter.1 there).1
    exact .key mapping other read inside noText

/-- Reading a settings file ends in a fault just when something in it is beyond a failure. -/
theorem isBroken_read_iff (t : Tree) (file : Path) :
    IsBroken (readFile t file >>= ofMapping) ↔ Faulty t file := by
  rw [isBroken_bind]
  constructor
  · rintro (broken | ⟨mapping, read, broken⟩)
    · exact isBroken_readFile broken
    · exact faulty_of_ofMapping read broken
  · intro faulty
    cases faulty with
    | octets content flaw found undecodable =>
        refine Or.inl ?_
        rw [readFile, found]
        simp only [undecodable]
        exact isBroken_error _
    | document content text f found decoded full stopped =>
        refine Or.inl ?_
        rw [readFile, found]
        simp only [decoded, full, stopped]
        exact isBroken_error _
    | key mapping entry read member noText =>
        refine Or.inr ⟨mapping, read, ?_⟩
        have noKey := ofDatum?_eq_none_of_no_text noText
        rw [ofMapping_of_unknown member noKey]
        obtain ⟨f, same⟩ :=
          (unknown_eq_broken_iff _).2 ⟨entry.1, mem_strangers member noKey, noText⟩
        exact ⟨f, congrArg Except.error same⟩
    | seconds mapping before after key n s read known split earlier duration above tooLarge =>
        refine Or.inr ⟨mapping, read, ?_⟩
        rw [ofMapping_of_known known, isBroken_assignAll_iff]
        rcases duration with named | named
        · exact ⟨before, key, .int n, after, _, s, split, earlier, named,
            (isBroken_assign_iff s _ _).2 ⟨Or.inl rfl, n, rfl, above, tooLarge⟩⟩
        · exact ⟨before, key, .int n, after, _, s, split, earlier, named,
            (isBroken_assign_iff s _ _).2 ⟨Or.inr rfl, n, rfl, above, tooLarge⟩⟩

/-- Settings with the target directory that the environment names, if it names one. -/
def sited (environment : List (String × String)) (s : Settings) : Settings :=
  match environment.lookup targetVariable with
  | some (text : String) => if text.isEmpty then s else { s with targetDir := Path.ofString text }
  | none => s

theorem load_none (t : Tree) (environment : List (String × String)) :
    load t none environment = .ok (sited environment usual) := by
  unfold load sited
  cases environment.lookup targetVariable <;> rfl

theorem load_some (t : Tree) (file : Path) (environment : List (String × String)) :
    load t (some file) environment = (readFile t file >>= ofMapping).map (sited environment) := by
  unfold load sited
  simp only
  cases readFile t file with
  | error s => rfl
  | ok mapping =>
      simp only [bind, Except.bind]
      cases ofMapping mapping with
      | error s => rfl
      | ok s => cases environment.lookup targetVariable <;> rfl

/-- The environment has no part in it, nor are settings without a file ever beyond a failure. -/
theorem isBroken_load_iff (t : Tree) (file : Option Path) (environment : List (String × String)) :
    IsBroken (load t file environment) ↔ ∃ path, file = some path ∧ Faulty t path := by
  cases file with
  | none =>
      rw [load_none]
      constructor
      · exact fun broken => absurd broken (not_isBroken_ok _)
      · rintro ⟨path, same, -⟩
        cases same
  | some path =>
      rw [load_some, isBroken_map_iff, isBroken_read_iff]
      constructor
      · exact fun faulty => ⟨path, rfl, faulty⟩
      · rintro ⟨other, same, faulty⟩
        cases same
        exact faulty

/-- If it is a failure, then one of setup. -/
def FailsInSetup {α : Type} (result : Except Stop α) : Prop :=
  ∀ f, result = .error (.failed f) → f.stage = .setup

section

variable {α β : Type}

theorem failsInSetup_ok (a : α) : FailsInSetup (.ok a) := by
  intro f same
  cases same

theorem failsInSetup_broken (fault : Fault) :
    FailsInSetup (.error (.broken fault) : Except Stop α) := by
  intro f same
  cases same

theorem failsInSetup_refuse (fault : SetupFault) : FailsInSetup (refuse fault : Except Stop α) := by
  intro f same
  cases same
  rfl

theorem failsInSetup_bind {result : Except Stop α} {next : α → Except Stop β}
    (first : FailsInSetup result) (second : ∀ a, FailsInSetup (next a)) :
    FailsInSetup (result >>= next) := by
  cases result with
  | error stop =>
      intro f same
      cases same
      exact first f rfl
  | ok a => exact second a

theorem failsInSetup_map {result : Except Stop α} (f : α → β) (first : FailsInSetup result) :
    FailsInSetup (result.map f) := by
  cases result with
  | error stop =>
      intro f same
      cases same
      exact first f rfl
  | ok a => exact failsInSetup_ok (f a)

end

theorem failsInSetup_readSeconds (key : Key) (value : Datum) :
    FailsInSetup (readSeconds key value) := by
  unfold readSeconds
  split
  · split
    · exact failsInSetup_refuse _
    · split
      · exact failsInSetup_ok _
      · exact failsInSetup_broken _
  · split
    · exact failsInSetup_refuse _
    · exact failsInSetup_ok _
  · exact failsInSetup_refuse _

theorem failsInSetup_assign (s : Settings) (key : Key) (value : Datum) :
    FailsInSetup (assign s key value) := by
  cases key with
  | startupGrace => exact failsInSetup_map _ (failsInSetup_readSeconds _ value)
  | terminateTimeout => exact failsInSetup_map _ (failsInSetup_readSeconds _ value)
  | _ =>
      simp only [assign]
      split <;> first | exact failsInSetup_ok _ | exact failsInSetup_refuse _

theorem failsInSetup_assignAll (s : Settings) (entries : List (Datum × Datum)) :
    FailsInSetup (assignAll s entries) := by
  induction entries generalizing s with
  | nil => exact failsInSetup_ok s
  | cons entry rest ih =>
      obtain ⟨key, value⟩ := entry
      cases named : Key.ofDatum? key with
      | none =>
          rw [assignAll_cons_of_unknown s value rest named]
          exact ih s
      | some known =>
          rw [assignAll_cons_of_known s value rest named]
          exact failsInSetup_bind (failsInSetup_assign s known value) ih

theorem failsInSetup_unknown (keys : List Datum) :
    FailsInSetup (.error (unknown keys) : Except Stop Settings) := by
  unfold unknown
  split
  · exact failsInSetup_refuse _
  · exact failsInSetup_broken _
  · exact failsInSetup_broken _
  · exact failsInSetup_refuse _

theorem failsInSetup_ofMapping (mapping : List (Datum × Datum)) :
    FailsInSetup (ofMapping mapping) := by
  unfold ofMapping
  simp only
  split
  · exact failsInSetup_assignAll _ _
  · exact failsInSetup_unknown _

theorem failsInSetup_readFile (t : Tree) (file : Path) : FailsInSetup (readFile t file) := by
  unfold readFile
  split
  · exact failsInSetup_refuse _
  · split
    · exact failsInSetup_broken _
    · simp only
      split
      · exact failsInSetup_ok _
      · split
        · exact failsInSetup_ok _
        · exact failsInSetup_refuse _
        · exact failsInSetup_refuse _
        · exact failsInSetup_broken _

/-- Settings that cannot be used are a failure of setup, if they are a failure at all. -/
theorem failsInSetup_load (t : Tree) (file : Option Path) (environment : List (String × String)) :
    FailsInSetup (load t file environment) := by
  cases file with
  | none =>
      rw [load_none]
      exact failsInSetup_ok _
  | some path =>
      rw [load_some]
      exact failsInSetup_map _
        (failsInSetup_bind (failsInSetup_readFile t path) failsInSetup_ofMapping)

end WatchTrial.Settings
