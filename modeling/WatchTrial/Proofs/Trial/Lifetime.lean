import WatchTrial.Proofs.Trial.Observation
import WatchTrial.Proofs.Watcher.Starting

set_option autoImplicit false

namespace WatchTrial

open Act (Keeps)

/-- Since the given watchers none has been started, or one has, which the world still knows of. -/
def World.Tracks (before : List Launch) (w : World) : Prop :=
  w.watchers = before ∧ w.child = none ∨
    ∃ words, w.watchers = before ++ [⟨.watch, words⟩] ∧ w.child.isSome = true

namespace World

variable {before : List Launch}

theorem Tracks.continues {w after : World} (tracks : w.Tracks before) (goes : w.Continues after) :
    after.Tracks before := by
  unfold Tracks
  rw [goes.watchers, goes.started, ← Option.isNone_iff_eq_none, ← Option.not_isSome, goes.started]
  simpa [Tracks] using tracks

theorem steady_tracks (before : List Launch) : Steady (Tracks before) where
  noted _ _ tracks := tracks
  changed _ _ tracks := tracks
  napped w n tracks := tracks.continues (continues_nap w n)

end World

namespace Watcher

variable {before : List Launch}

theorem watchers_add (w : World) (l : Launch) :
    World.watchers { w with launches := w.launches ++ [l] } =
      if l.purpose = .watch then w.watchers ++ [l] else w.watchers := by
  by_cases watch : l.purpose = .watch <;> simp [World.watchers, watch]

theorem keeps_tracks_build (launcher : Launcher) (s : Settings) :
    Keeps (World.Tracks before) (build launcher s) := by
  refine keeps_build launcher s (fun w tree log built tracks => tracks) ?_
  intro w words tracks
  simpa [World.Tracks, watchers_add] using tracks

theorem keeps_tracks_start (launcher : Launcher) (s : Settings) (roots : List Path) :
    Keeps (World.Tracks before) (start launcher s roots) := by
  intro w tracks
  rcases tracks with ⟨none, idle⟩ | ⟨words, one, begun⟩
  · rcases start_cases launcher s roots idle with ⟨stop, -, refused⟩ | ⟨process, -, going⟩
    · rw [refused]
      exact Or.inl ⟨none, idle⟩
    · have one : (begun s roots process w).watchers = before ++ [⟨.watch, Watcher.words s roots⟩] :=
        (watchers_add w ⟨.watch, Watcher.words s roots⟩).trans (congrArg (· ++ [_]) none)
      have tracks : World.Tracks before (begun s roots process w) := Or.inr ⟨_, one, rfl⟩
      rw [going]
      exact tracks.continues (continues_grace s _)
  · -- The watcher has been started before, so this start stops at once.
    rw [run_start_of_started launcher s roots begun]
    exact Or.inr ⟨words, one, begun⟩

theorem keeps_tracks_terminate (timeout : Binary64) :
    Keeps (World.Tracks before) (terminate timeout) :=
  fun w tracks => tracks.continues (continues_terminate timeout w)

end Watcher

namespace Trial

theorem keeps_tracks_observe (before : List Launch) (launcher : Launcher) (s : Settings)
    (r : Request) (plan : Script.Plan) :
    Keeps (World.Tracks before) (observe launcher s r plan) := by
  rw [observe_eq]
  refine Act.keeps_followedBy ?_ (Watcher.keeps_tracks_terminate _)
  refine Act.keeps_bind ?_ fun _ => ?_
  · unfold buildStep
    split
    · exact Watcher.keeps_tracks_build launcher s
    · exact Act.keeps_pure ()
  refine Act.keeps_bind (Watcher.keeps_tracks_start launcher s plan.roots) fun _ => ?_
  refine Act.keeps_bind (Action.keeps_performAll (World.steady_tracks before) _) fun _ => ?_
  exact Act.keeps_bind (Watcher.keeps_tracks_terminate _) fun _ => Act.keeps_look _

theorem keeps_tracks_run (before : List Launch) (launcher : Launcher) (s : Settings) (r : Request) :
    Keeps (World.Tracks before) (run launcher s r) := by
  refine Act.keeps_bind (keeps_prepare s r _ fun _ _ tracks => tracks) fun ready => ?_
  refine Act.keeps_bind (keeps_tracks_observe before launcher s r ready.plan) fun lines => ?_
  refine Act.keeps_bind (fun _ tracks => tracks) fun _ => ?_
  refine Act.keeps_bind (Act.keeps_ofExcept _) fun events => ?_
  split
  · exact Act.keeps_bind (fun _ tracks => tracks) fun _ => Act.keeps_pure _
  · exact Act.keeps_pure _

/-- A trial that begins without a running watcher ends without one. -/
theorem keeps_ended_run (launcher : Launcher) (s : Settings) (r : Request) :
    Keeps (fun w => w.isWatching = false) (run launcher s r) := by
  refine Act.keeps_bind (keeps_prepare s r _ fun _ _ ended => ended) fun ready => ?_
  refine Act.keeps_bind (fun w _ => isWatching_observe launcher s r ready.plan w) fun lines => ?_
  refine Act.keeps_bind (fun _ ended => ended) fun _ => ?_
  refine Act.keeps_bind (Act.keeps_ofExcept _) fun events => ?_
  split
  · exact Act.keeps_bind (fun _ ended => ended) fun _ => Act.keeps_pure _
  · exact Act.keeps_pure _

/-- However a trial ends, it has started no watcher, or one that it still knows of, and none is
running. Nor is one running after anything else that may be done in place of what a trial does
under the watcher, wherever the watcher has got to by then. -/
theorem no_watcher_outlives_run (launcher : Launcher) (s : Settings) (r : Request) (w : World)
    (idle : w.child = none) :
    let after := ((run launcher s r).run w).2
    after.isWatching = false ∧
      (after.watchers = w.watchers ∧ after.child = none ∨
        ∃ words, after.watchers = w.watchers ++ [⟨.watch, words⟩] ∧ after.child.isSome = true) ∧
      ∀ (body : Act (List String)) (v : World),
        ((body.followedBy (Watcher.terminate s.terminateTimeout)).run v).2.isWatching = false := by
  have ended : w.isWatching = false := by
    rw [World.isWatching_eq_false]
    intro c started
    rw [idle] at started
    cases started
  refine ⟨keeps_ended_run launcher s r w ended, ?_, ?_⟩
  · exact keeps_tracks_run w.watchers launcher s r w (Or.inl ⟨rfl, idle⟩)
  · intro body v
    rw [Act.world_followedBy]
    exact Watcher.isWatching_terminate s.terminateTimeout _

/-- The same of a watcher that does not heed being asked to end for a quarter of an hour, under a
script of which the second action is refused. -/
theorem no_stubborn_watcher_outlives_run :
    let launcher : Launcher := fun _ _ =>
      .ok (.pause 900000000000 .ignores .nothing false fun _ => .nothing)
    let script := Text.Utf8.encode "WatchDir d\nDelete d/x\n".toList
    let w : World := { tree := { entries := [([['s']], .file script false)] }, timed := true }
    let r : Request :=
      { script := Path.ofString "s", results := Path.ofString "e", base := Path.here
        update := true }
    let after := ((run launcher Settings.usual r).run w).2
    w.child = none ∧ after.isWatching = false ∧
      (after.watchers = [] ∧ after.child = none ∨
        ∃ words, after.watchers = [⟨.watch, words⟩] ∧ after.child.isSome = true) := by
  intro launcher script w r after
  have outcome := no_watcher_outlives_run launcher Settings.usual r w rfl
  exact ⟨rfl, outcome.1, outcome.2.1⟩

end Trial

end WatchTrial
