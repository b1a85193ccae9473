import WatchTrial.Proofs.Settings.Acceptance

set_option autoImplicit false

/- Settings as layers: the usual ones, above them a mapping, above that the environment. -/

namespace WatchTrial

namespace Yaml.Datum

variable {α : Type}

theorem assign_of_absent {key : Datum} (value : α) {entries : List (Datum × α)}
    (absent : ∀ entry ∈ entries, entry.1.sameKey key = false) :
    assign key value entries = entries ++ [(key, value)] := by
  induction entries with
  | nil => rfl
  | cons first rest ih =>
      obtain ⟨here, later⟩ := List.forall_mem_cons.1 absent
      rw [assign, here, ih later]
      rfl

/-- Of entries with different keys each is the last of its own. -/
theorem lastOfEach_of_distinct {entries : List (Datum × α)} (distinct : Distinct entries) :
    lastOfEach entries = entries := by
  -- The entries known so far stand in front, and no later one has a key of theirs.
  have known (front back : List (Datum × α)) (distinct : Distinct (front ++ back)) :
      back.foldl (fun known entry => assign entry.1 entry.2 known) front = front ++ back := by
    induction back generalizing front with
    | nil => exact (List.append_nil front).symm
    | cons entry back ih =>
        have absent : ∀ other ∈ front, other.1.sameKey entry.1 = false := fun other member =>
          (List.pairwise_append.1 distinct).2.2 other member entry List.mem_cons_self
        rw [List.append_cons] at distinct ⊢
        rw [List.foldl_cons, assign_of_absent entry.2 absent, ih _ distinct]
  exact known [] entries distinct

end Yaml.Datum

namespace Settings

open Yaml (Datum)

/-- All keys of the mapping are texts, and no two of them are the same. -/
structure TextKeyed (mapping : List (Datum × Datum)) : Prop where
  texts : ∀ entry ∈ mapping, ∃ text, entry.1 = .text text
  distinct : (mapping.map Prod.fst).Nodup

section

variable {mapping other : List (Datum × Datum)} {s : Settings}

theorem TextKeyed.lastOfEach (keyed : TextKeyed mapping) : Datum.lastOfEach mapping = mapping := by
  apply Datum.lastOfEach_of_distinct
  have apart := List.pairwise_map.1 keyed.distinct
  refine apart.imp_of_mem fun {first second} one two different => ?_
  obtain ⟨text, named⟩ := keyed.texts first one
  obtain ⟨text', named'⟩ := keyed.texts second two
  rw [named, named'] at different ⊢
  simpa [Datum.sameKey] using different

theorem TextKeyed.perm (keyed : TextKeyed mapping) (reordered : other.Perm mapping) :
    TextKeyed other where
  texts entry member := keyed.texts entry (reordered.mem_iff.1 member)
  distinct := (reordered.map Prod.fst).nodup_iff.2 keyed.distinct

/-- Settings are the same when they are the same under each key. -/
theorem eq_of_get {s t : Settings} (same : ∀ key : Key, key.get s = key.get t) : s = t := by
  have first := same .targetDir
  have second := same .buildCommand
  have third := same .watcherCommand
  have fourth := same .startupGrace
  have fifth := same .terminateTimeout
  have sixth := same .allowEmptyRoots
  cases s
  cases t
  simp only [Key.get] at first second third fourth fifth sixth
  subst first second third fourth fifth sixth
  rfl

/-- A value stands under the key in the mapping. -/
def Gives (mapping : List (Datum × Datum)) (key : Key) (value : Datum) : Prop :=
  (.text key.name.toList, value) ∈ mapping

theorem read_of_gives (keyed : TextKeyed mapping) (given : ofMapping mapping = .ok s) {key : Key}
    {value : Datum} (gives : Gives mapping key value) : key.read value = .ok (key.get s) := by
  have member : (.text key.name.toList, value) ∈ Datum.lastOfEach mapping := by
    rw [keyed.lastOfEach]
    exact gives
  exact read_of_ofMapping given _ member (Key.ofDatum?_eq_some_iff.2 rfl)

theorem get_of_not_gives (keyed : TextKeyed mapping) (given : ofMapping mapping = .ok s) {key : Key}
    (silent : ∀ value, ¬Gives mapping key value) : key.get s = key.get usual := by
  refine get_of_ofMapping_of_absent given fun entry member named => ?_
  rw [keyed.lastOfEach] at member
  rw [Key.ofDatum?_eq_some_iff] at named
  exact silent entry.2 (by rw [Gives, ← named]; exact member)

theorem exists_ofMapping_of_perm (keyed : TextKeyed mapping) (reordered : other.Perm mapping)
    (given : ∃ s, ofMapping mapping = .ok s) : ∃ s, ofMapping other = .ok s := by
  rw [exists_ofMapping_iff, keyed.lastOfEach] at given
  rw [exists_ofMapping_iff, (keyed.perm reordered).lastOfEach]
  exact fun entry member => given entry (reordered.mem_iff.1 member)

/-- The order in which a mapping gives its values does not count. -/
theorem ofMapping_of_perm (keyed : TextKeyed mapping) (reordered : other.Perm mapping)
    (given : ofMapping mapping = .ok s) : ofMapping other = .ok s := by
  obtain ⟨t, given'⟩ := exists_ofMapping_of_perm keyed reordered ⟨s, given⟩
  have keyed' := keyed.perm reordered
  have same : s = t := by
    refine eq_of_get fun key => ?_
    by_cases gives : ∃ value, Gives mapping key value
    · obtain ⟨value, gives⟩ := gives
      have read := read_of_gives keyed given gives
      have read' := read_of_gives keyed' given' (reordered.mem_iff.2 gives)
      exact Except.ok.inj (read.symm.trans read')
    · have silent : ∀ value, ¬Gives mapping key value := fun value gives' => gives ⟨value, gives'⟩
      rw [get_of_not_gives keyed given silent,
        get_of_not_gives keyed' given' fun value gives' => silent value (reordered.mem_iff.1 gives')]
  rw [same]
  exact given'

end

/-- The environment names a target directory: what it has for it is not empty. -/
def Names (environment : List (String × String)) (text : String) : Prop :=
  environment.lookup targetVariable = some text ∧ text ≠ ""

theorem sited_of_names {environment : List (String × String)} {text : String}
    (names : Names environment text) (s : Settings) :
    sited environment s = { s with targetDir := Path.ofString text } := by
  have some : text.isEmpty = false := by simpa using names.2
  simp [sited, names.1, some]

theorem sited_of_not_names {environment : List (String × String)}
    (silent : ∀ text, ¬Names environment text) (s : Settings) : sited environment s = s := by
  unfold sited
  cases found : environment.lookup targetVariable with
  | none => rfl
  | some text =>
      have empty : text = "" := Classical.byContradiction fun some => silent text ⟨found, some⟩
      simp [empty]

/-- Settings that come of a mapping, which gives `s`, and of the environment above it. -/
structure Layered (environment : List (String × String)) (mapping : List (Datum × Datum))
    (s loaded : Settings) : Prop where
  named : ∀ text, Names environment text → loaded = { s with targetDir := Path.ofString text }
  unnamed : (∀ text, ¬Names environment text) → loaded = s
  /-- The target directory below the environment is that of the mapping, or else the usual one. -/
  mapped : (∀ text, ¬Names environment text) → ∀ text, Gives mapping .targetDir (.text text) →
    loaded.targetDir = Path.ofString (String.ofList text)
  unmapped : (∀ text, ¬Names environment text) → (∀ value, ¬Gives mapping .targetDir value) →
    loaded.targetDir = Path.ofString "target"
  /-- A command that is set has nothing to do with any directory. -/
  set : ∀ words ≠ [], s.watcherCommand = some words → ∀ directory,
    ({ loaded with targetDir := directory } : Settings).command = words
  unset : (∀ words, s.watcherCommand = some words → words = []) →
    loaded.command = [(loaded.targetDir / Path.ofString "release/examples/event_print").text]

theorem watcherCommand_sited (environment : List (String × String)) (s : Settings) :
    (sited environment s).watcherCommand = s.watcherCommand := by
  unfold sited
  split
  · split <;> rfl
  · rfl

theorem command_of_unset {s : Settings}
    (unset : ∀ words, s.watcherCommand = some words → words = []) :
    s.command = [(s.targetDir / Path.ofString "release/examples/event_print").text] := by
  unfold command
  split
  · rename_i word rest given
    cases unset _ given
  · rfl

theorem layered_sited {mapping : List (Datum × Datum)} {s : Settings} (keyed : TextKeyed mapping)
    (given : ofMapping mapping = .ok s) (environment : List (String × String)) :
    Layered environment mapping s (sited environment s) where
  named _ names := sited_of_names names s
  unnamed silent := sited_of_not_names silent s
  mapped silent text gives := by
    rw [sited_of_not_names silent]
    exact (Except.ok.inj (read_of_gives keyed given gives)).symm
  unmapped silent none := by
    rw [sited_of_not_names silent]
    exact get_of_not_gives keyed given none
  set words some set directory := by
    obtain ⟨word, rest, rfl⟩ := List.exists_cons_of_ne_nil some
    rw [← watcherCommand_sited environment s] at set
    rw [command, set]
  unset unset := command_of_unset (by rwa [watcherCommand_sited])

/-- Whatever the order of a mapping, its settings are the same if it gives any; each is read from its
own value, or is the usual one; and what is loaded are these with the environment above them. -/
theorem settings_of_layers {mapping other : List (Datum × Datum)} (keyed : TextKeyed mapping)
    (reordered : other.Perm mapping) :
    ((∃ s, ofMapping mapping = .ok s ∧ ofMapping other = .ok s) ∨
        ∃ stop stop', ofMapping mapping = .error stop ∧ ofMapping other = .error stop') ∧
      (∀ s, ofMapping mapping = .ok s →
        (∀ key value, Gives mapping key value → key.read value = .ok (key.get s)) ∧
          (∀ key, (∀ value, ¬Gives mapping key value) → key.get s = key.get usual) ∧
          ∀ t file environment, readFile t file = .ok other → ∃ loaded,
            load t (some file) environment = .ok loaded ∧
              Layered environment mapping s loaded) ∧
      ∀ t environment, ∃ loaded,
        load t none environment = .ok loaded ∧ Layered environment [] usual loaded := by
  refine ⟨?_, fun s given => ⟨fun key value => read_of_gives keyed given,
    fun key => get_of_not_gives keyed given, ?_⟩, ?_⟩
  · cases given : ofMapping mapping with
    | ok s => exact Or.inl ⟨s, rfl, ofMapping_of_perm keyed reordered given⟩
    | error stop =>
        cases given' : ofMapping other with
        | ok s =>
            have back := ofMapping_of_perm (keyed.perm reordered) reordered.symm given'
            cases given.symm.trans back
        | error stop' => exact Or.inr ⟨stop, stop', rfl, rfl⟩
  · intro t file environment read
    refine ⟨sited environment s, ?_, layered_sited keyed given environment⟩
    rw [load_some, read]
    exact congrArg (Except.map (sited environment)) (ofMapping_of_perm keyed reordered given)
  · intro t environment
    have empty : TextKeyed [] := ⟨fun _ member => absurd member List.not_mem_nil, List.nodup_nil⟩
    exact ⟨_, load_none t environment, layered_sited empty rfl environment⟩

/-- What can be compared of a value of a mapping: its kind, and what it says as a text. -/
def shown (entry : Datum × Datum) : Option String × String × Option String :=
  (text? entry.1, entry.2.kind, text? entry.2)

theorem eq_text_of_text? {value : Datum} {text : String} (found : text? value = some text) :
    value = .text text.toList := by
  cases value with
  | text s => rw [← Option.some.inj found, String.toList_ofList]
  | _ => cases found

theorem eq_null_of_kind {value : Datum} (kind : value.kind = "NoneType") : value = .null := by
  cases value <;> simp_all [Datum.kind]

theorem eq_of_shown_null {entry : Datum × Datum} {key : String} {text : Option String}
    (is : shown entry = (some key, "NoneType", text)) : entry = (.text key.toList, .null) := by
  simp only [shown, Prod.mk.injEq] at is
  exact Prod.ext (eq_text_of_text? is.1) (eq_null_of_kind is.2.1)

theorem eq_of_shown_text {entry : Datum × Datum} {key kind text : String}
    (is : shown entry = (some key, kind, some text)) :
    entry = (.text key.toList, .text text.toList) := by
  simp only [shown, Prod.mk.injEq] at is
  exact Prod.ext (eq_text_of_text? is.1) (eq_text_of_text? is.2.2)

/-- The same of a file that gives its values in another order, under three environments. -/
theorem settings_of_layers_of_file_order :
    let unset : Datum × Datum := (.text "watcher_command".toList, .null)
    let out : Datum × Datum := (.text "target_dir".toList, .text "out".toList)
    let content := Text.Utf8.encode "watcher_command: null\ntarget_dir: out\n".toList
    let t : Tree := { entries := [([['c']], .file content true)] }
    let started environment := (load t (some (Path.ofString "c")) environment).map command
    TextKeyed [out, unset] ∧ [unset, out].Perm [out, unset] ∧
      readFile t (Path.ofString "c") = .ok [unset, out] ∧
      started [] = .ok ["out/release/examples/event_print"] ∧
      started [(targetVariable, "")] = .ok ["out/release/examples/event_print"] ∧
      started [(targetVariable, "env")] = .ok ["env/release/examples/event_print"] := by
  intro unset out content t started
  have keyed : TextKeyed [out, unset] := ⟨by simp [out, unset], by simp [out, unset]⟩
  have reordered : [unset, out].Perm [out, unset] := List.Perm.swap out unset []
  have given : ofMapping [out, unset] = .ok { usual with targetDir := Path.ofString "out" } := rfl
  have read : readFile t (Path.ofString "c") = .ok [unset, out] := by
    have seen : (readFile t (Path.ofString "c")).map (List.map shown) =
        .ok [(some "watcher_command", "NoneType", none), (some "target_dir", "str", some "out")] := by
      decide +kernel
    cases got : readFile t (Path.ofString "c") with
    | error stop => rw [got] at seen; cases seen
    | ok entries =>
        rw [got] at seen
        obtain ⟨first, rest, rfl, one, later⟩ := List.map_eq_cons_iff.1 (Except.ok.inj seen)
        obtain ⟨second, rest, rfl, two, last⟩ := List.map_eq_cons_iff.1 later
        rw [eq_of_shown_null one, eq_of_shown_text two, List.map_eq_nil_iff.1 last]
  obtain ⟨-, each, -⟩ := settings_of_layers keyed reordered
  obtain ⟨-, -, layers⟩ := each _ given
  have under environment (directory : Path)
      (sited : ∀ loaded, Layered environment [out, unset]
        { usual with targetDir := Path.ofString "out" } loaded → loaded.targetDir = directory) :
      started environment =
        .ok [(directory / Path.ofString "release/examples/event_print").text] := by
    obtain ⟨loaded, is, layered⟩ := layers t _ environment read
    have started := layered.unset fun words set => nomatch set
    rw [sited loaded layered] at started
    exact (congrArg (Except.map Settings.command) is).trans (congrArg Except.ok started)
  have silent environment (unnamed : ∀ text, ¬Names environment text) :
      started environment = .ok ["out/release/examples/event_print"] :=
    under environment (Path.ofString "out") fun loaded layered =>
      layered.mapped unnamed "out".toList List.mem_cons_self
  refine ⟨keyed, reordered, read, silent [] ?_, silent _ ?_, ?_⟩
  · simp [Names]
  · simp [Names]
  · refine under _ (Path.ofString "env") fun loaded layered => ?_
    rw [layered.named "env" (by simp [Names])]

end Settings

end WatchTrial
