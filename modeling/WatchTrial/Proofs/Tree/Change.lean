import WatchTrial.Proofs.Tree.Walk
import WatchTrial.Tree.Change

set_option autoImplicit false

namespace WatchTrial.Tree

variable {t : Tree} {p : Path}

theorem makeDirectory_cases (t : Tree) (p : Path) :
    (∃ refusal, t.makeDirectory p = t.refuse refusal) ∨
      ∃ directory name, t.locate p = .ok (.child directory name) ∧
        t.lookup directory name = .ok none ∧
        t.makeDirectory p = done (t.set (directory ++ [name]) .directory) := by
  unfold makeDirectory
  split
  · exact Or.inl ⟨_, rfl⟩
  · rename_i directory name located
    split
    · exact Or.inl ⟨_, rfl⟩
    · exact Or.inl ⟨_, rfl⟩
    · rename_i free
      exact Or.inr ⟨directory, name, located, free, rfl⟩
  · exact Or.inl ⟨_, rfl⟩

theorem writeFile_cases (t : Tree) (p : Path) (content : Octets) :
    (∃ refusal, t.writeFile p content = t.refuse refusal) ∨
      ∃ directory name old executable, t.locate p = .ok (.child directory name) ∧
        t.lookup directory name = .ok old ∧ old ≠ some .directory ∧
        t.writeFile p content = done (t.set (directory ++ [name]) (.file content executable)) := by
  unfold writeFile
  split
  · exact Or.inl ⟨_, rfl⟩
  · rename_i directory name located
    split
    · exact Or.inl ⟨_, rfl⟩
    · exact Or.inl ⟨_, rfl⟩
    · rename_i old executable found
      exact Or.inr ⟨directory, name, _, executable, located, found, by simp, rfl⟩
    · rename_i free
      exact Or.inr ⟨directory, name, none, false, located, free, by simp, rfl⟩
  · exact Or.inl ⟨_, rfl⟩

theorem removeAll_cases (t : Tree) (p : Path) :
    (∃ refusal, t.removeAll p = t.refuse refusal) ∨
      (∃ place content executable, t.resolve p = .ok (place, .file content executable) ∧
        t.removeAll p = done (t.erase place)) ∨
      ∃ place, t.resolve p = .ok (place, .directory) ∧
        t.removeAll p = (t.clear place).removeEmptied p := by
  unfold removeAll
  split
  · exact Or.inl ⟨_, rfl⟩
  · rename_i place content executable resolved
    exact Or.inr (Or.inl ⟨place, content, executable, resolved, rfl⟩)
  · rename_i place resolved
    exact Or.inr (Or.inr ⟨place, resolved, rfl⟩)

theorem removeEmptied_cases (t : Tree) (p : Path) :
    (∃ refusal, t.removeEmptied p = t.refuse refusal) ∨
      ∃ directory name, t.locate p = .ok (.child directory name) ∧
        t.removeEmptied p = done (t.erase (directory ++ [name])) := by
  unfold removeEmptied
  split
  · exact Or.inl ⟨_, rfl⟩
  · rename_i directory name located
    exact Or.inr ⟨directory, name, located, rfl⟩
  · exact Or.inl ⟨_, rfl⟩
  · exact Or.inl ⟨_, rfl⟩

theorem move_cases (t : Tree) (source target : Path) :
    (∃ refusal, t.move source target = t.refuse refusal) ∨
      ∃ fromDirectory fromName toDirectory toName entry,
        t.locate source = .ok (.child fromDirectory fromName) ∧
        t.locate target = .ok (.child toDirectory toName) ∧
        t.lookup fromDirectory fromName = .ok (some entry) ∧
        t.lookup toDirectory toName = .ok (t.get? (toDirectory ++ [toName])) ∧
        ¬fromDirectory ++ [fromName] <+: toDirectory ∧
        ¬toDirectory ++ [toName] <+: fromDirectory ∧
        (fromDirectory ++ [fromName] ≠ toDirectory ++ [toName] →
          t.admitsReplacement entry (toDirectory ++ [toName]) = .ok ()) ∧
        t.move source target = done
          (if fromDirectory ++ [fromName] = toDirectory ++ [toName] then t
            else (t.erase (toDirectory ++ [toName])).relocate (fromDirectory ++ [fromName])
              (toDirectory ++ [toName])) := by
  unfold move
  simp only
  split
  · exact Or.inl ⟨_, rfl⟩
  · rename_i old new planned
    apply Or.inr
    obtain ⟨sourceSpot, sourceLocated, withSource⟩ := bind_eq_ok_iff.1 planned
    obtain ⟨targetSpot, targetLocated, withBoth⟩ := bind_eq_ok_iff.1 withSource
    split at withBoth
    · rename_i fromDirectory fromName toDirectory toName spots
      cases spots
      obtain ⟨found, looked, withFound⟩ := bind_eq_ok_iff.1 withBoth
      split at withFound
      · rename_i entry
        obtain ⟨_, seen, checked⟩ := bind_eq_ok_iff.1 withFound
        have short := (lookup_eq_ok_iff.1 seen).1
        split at checked
        · cases checked
        · rename_i notInside
          split at checked
          · cases checked
          · rename_i notAround
            rw [List.isPrefixOf_iff_prefix] at notInside notAround
            refine ⟨fromDirectory, fromName, toDirectory, toName, entry, sourceLocated,
              targetLocated, looked, lookup_eq_ok_iff.2 ⟨short, rfl⟩, notInside, notAround, ?_⟩
            split at checked
            · obtain ⟨_, admitted, settled⟩ := bind_eq_ok_iff.1 checked
              cases settled
              exact ⟨fun _ => admitted, rfl⟩
            · rename_i same
              cases checked
              exact ⟨fun different => absurd different same, rfl⟩
      · cases withFound
    · cases withBoth

/-- A move that nothing is in the way of. -/
theorem move_of_located {source target : Path} {fromDirectory toDirectory : Location}
    {fromName toName : Name} {entry : Entry} {there : Option Entry}
    (sourceLocated : t.locate source = .ok (.child fromDirectory fromName))
    (targetLocated : t.locate target = .ok (.child toDirectory toName))
    (looked : t.lookup fromDirectory fromName = .ok (some entry))
    (seen : t.lookup toDirectory toName = .ok there)
    (notInside : ¬fromDirectory ++ [fromName] <+: toDirectory)
    (notAround : ¬toDirectory ++ [toName] <+: fromDirectory)
    (admitted : fromDirectory ++ [fromName] ≠ toDirectory ++ [toName] →
      t.admitsReplacement entry (toDirectory ++ [toName]) = .ok ()) :
    t.move source target = done (if fromDirectory ++ [fromName] = toDirectory ++ [toName] then t
      else (t.erase (toDirectory ++ [toName])).relocate (fromDirectory ++ [fromName])
        (toDirectory ++ [toName])) := by
  unfold move
  simp only [sourceLocated, targetLocated, looked, seen, bind, Except.bind,
    List.isPrefixOf_iff_prefix, notInside, notAround, if_false]
  by_cases same : fromDirectory ++ [fromName] = toDirectory ++ [toName]
  · simp [same, pure, Except.pure]
  · simp [same, admitted same, pure, Except.pure]

end WatchTrial.Tree
