import SolanaGuardian.Relayer.Orphans

/-!
# Who cancels a task

Besides a caller that cancels a task itself, only a call that has stopped waiting asks for it, and
only for critical tasks of its own that it has not processed. So a call cancels no task of another
one, no background task, no drain, and not its own winner.

* `AsksOnly`: which requests a change of the loop adds. `started_asks` and `moved_asks` say it for
  the steps of a call, and `moved_stays` that a call which has stopped waiting keeps its pending tasks.
* `cancel_source`: the source of every request, over every schedule.
-/

namespace SolanaGuardian
namespace Relayer

/-- The only new requests to cancel are for these tasks. -/
def EventLoop.AsksOnly (l : EventLoop) (tasks : List TaskId) (l' : EventLoop) : Prop :=
  ∀ t, l'.cancelRequested t = true → l.cancelRequested t = true ∨ t ∈ tasks

namespace EventLoop

variable {l l' l'' : EventLoop} {t : TaskId}

theorem AsksOnly.refl (l : EventLoop) (tasks : List TaskId) : l.AsksOnly tasks l :=
  fun _ h => .inl h

theorem AsksOnly.trans {tasks : List TaskId} (h : l.AsksOnly tasks l') (h' : l'.AsksOnly tasks l'') :
    l.AsksOnly tasks l'' := by
  intro t ht
  rcases h' t ht with ht | hmem
  · exact h t ht
  · exact .inr hmem

/-- A change of a task that keeps its request. -/
theorem asksOnly_modify {g : Task → Task} (hg : ∀ a, (g a).cancelRequested = a.cancelRequested)
    (tasks : List TaskId) : l.AsksOnly tasks (l.modify t g) := by
  intro s hs
  unfold EventLoop.cancelRequested at hs ⊢
  rw [tasks_modify] at hs
  split at hs
  · cases ha : l.tasks[s]? with
    | none => rw [ha] at hs; cases hs
    | some a =>
      rw [ha, Option.map_some, Option.map_some, Option.getD_some, hg] at hs
      exact .inl hs
  · exact .inl hs

theorem asksOnly_createTask (name : String) (kind : Kind) (sends : Option RelayResult)
    (tasks : List TaskId) : l.AsksOnly tasks (l.createTask name kind sends).1 := by
  intro s hs
  unfold EventLoop.cancelRequested at hs ⊢
  by_cases hlt : s < l.tasks.length
  · rw [createTask, List.getElem?_append_left hlt] at hs
    exact .inl hs
  · rw [createTask, List.getElem?_append_right (Nat.le_of_not_lt hlt),
      List.getElem?_singleton] at hs
    split at hs <;> cases hs

theorem asksOnly_createRegistered (name : String) (kind : Kind) (sends : Option RelayResult)
    (tasks : List TaskId) : l.AsksOnly tasks (l.createRegistered name kind sends) :=
  (asksOnly_createTask name kind sends tasks).trans
    (asksOnly_modify (g := fun task => { task with cleanup := .registered }) (fun _ => rfl) tasks)

theorem asksOnly_cancelTask {tasks : List TaskId} (ht : t ∈ tasks) :
    l.AsksOnly tasks (l.cancelTask t) := by
  intro s hs
  by_cases heq : t = s
  · exact .inr (heq ▸ ht)
  · unfold EventLoop.cancelRequested at hs ⊢
    rw [cancelTask, tasks_modify, if_neg heq] at hs
    exact .inl hs

theorem asksOnly_cancelAll {tasks : List TaskId} (pending : List TaskId)
    (h : ∀ t ∈ pending, t ∈ tasks) : l.AsksOnly tasks (l.cancelAll pending) := by
  induction pending generalizing l with
  | nil => exact .refl l tasks
  | cons t pending ih =>
    have hfirst : l.AsksOnly tasks (l.cancelTask t) := asksOnly_cancelTask (h t (by simp))
    exact hfirst.trans (ih fun s hs => h s (List.mem_cons_of_mem _ hs))

end EventLoop

/-! ## The steps of a call -/

/-- The tasks that a call may have asked to cancel: what is pending when it has stopped waiting. -/
def Frame.asked (f : Frame) : List TaskId := if f.control = .waiting then [] else f.pending

theorem Core.asked_critical {l : EventLoop} {f : Frame} (h : Core l f) :
    ∀ t ∈ f.asked, t ∈ f.criticalTasks := by
  intro t ht
  unfold Frame.asked at ht
  split at ht
  · cases ht
  · exact h.pending_sub t ht

section

variable (l : EventLoop) (f : Frame)

theorem afterLoop_asks : l.AsksOnly (afterLoop l f).2.asked (afterLoop l f).1 := by
  unfold afterLoop
  split
  · exact .refl _ _
  · exact EventLoop.asksOnly_cancelAll f.pending fun t ht => ht

theorem loopHead_asks : l.AsksOnly (loopHead l f).2.asked (loopHead l f).1 := by
  unfold loopHead
  split
  · exact afterLoop_asks l f
  split
  · exact afterLoop_asks l f
  · exact .refl _ _

theorem fastPath_asks (t : TaskId) (res : RelayResult) :
    l.AsksOnly (fastPath l f t res).2.asked (fastPath l f t res).1 := by
  have hcancel : l.AsksOnly f.pending (l.cancelAll f.pending) :=
    EventLoop.asksOnly_cancelAll f.pending fun t ht => ht
  unfold fastPath
  dsimp only
  split
  · exact hcancel
  · exact hcancel.trans (EventLoop.asksOnly_createRegistered _ _ _ _)

theorem unwind_asks : l.AsksOnly (unwind l f).2.asked (unwind l f).1 := by
  unfold unwind
  split
  · exact .refl _ _
  · exact EventLoop.asksOnly_cancelAll f.pending fun t ht => ht

theorem runRelayers_asks (critical : List TaskId) (timeoutSec delay : ℚ) :
    l.AsksOnly (runRelayers l critical timeoutSec delay).2.asked
      (runRelayers l critical timeoutSec delay).1 := by
  unfold runRelayers
  split
  · exact .refl _ _
  · exact loopHead_asks (l.advance delay) _

theorem background_asks (executor : Executor) (regions : List String) (tasks : List TaskId) :
    l.AsksOnly tasks (regions.foldl (dispatchBackground executor) l) := by
  induction regions generalizing l with
  | nil => exact .refl _ _
  | cons bg regions ih =>
    have hfirst : l.AsksOnly tasks (dispatchBackground executor l bg) := by
      unfold dispatchBackground
      split
      · exact EventLoop.asksOnly_createRegistered _ _ _ _
      · exact .refl _ _
    exact hfirst.trans (ih _)

theorem critical_asks (executor : Executor) (regions : List String) (tasks : List TaskId)
    (s : EventLoop × List TaskId) :
    s.1.AsksOnly tasks (regions.foldl (dispatchCritical executor) s).1 := by
  induction regions generalizing s with
  | nil => exact .refl _ _
  | cons region regions ih =>
    have hfirst : s.1.AsksOnly tasks (dispatchCritical executor s region).1 := by
      unfold dispatchCritical
      split
      · exact EventLoop.asksOnly_createTask _ _ _ _
      · exact .refl _ _
    exact hfirst.trans (ih _)

variable {l f}

theorem started_asks {e : StartEvent} {r : EventLoop × Frame} (h : e.step l = .ok r) :
    l.AsksOnly r.2.asked r.1 := by
  cases e with
  | runRelayers critical timeoutSec delay =>
    rw [StartEvent.step, ensure_bind] at h
    cases h.2
    exact runRelayers_asks l critical timeoutSec delay
  | dispatch executor timeoutMs delay =>
    rw [StartEvent.step, ensure_bind] at h
    cases h.2
    exact ((background_asks l executor _ _).trans (critical_asks executor _ _ _)).trans
      (runRelayers_asks _ _ _ _)

theorem moved_asks {e : MoveEvent} {r : EventLoop × Frame} (h : Moved l f e r) :
    l.AsksOnly r.2.asked r.1 := by
  cases h with
  | wake done delay _ _ =>
    unfold afterWait
    dsimp only
    split
    · exact afterLoop_asks l _
    · split
      · exact fastPath_asks l _ _ _
      · exact loopHead_asks (l.advance delay) _
  | concluded _ _ => exact .refl _ _
  | unwound _ => exact unwind_asks l f
  | raised e _ _ => exact .refl _ _

/-- A call that has stopped waiting keeps what is pending. -/
theorem moved_asked {e : MoveEvent} {r : EventLoop × Frame} (h : Moved l f e r) :
    ∀ t ∈ f.asked, t ∈ r.2.asked := by
  intro t ht
  unfold Frame.asked at ht
  cases h with
  | wake done delay hc _ =>
    rw [if_pos hc] at ht
    cases ht
  | concluded hc _ =>
    rw [hc] at ht
    exact ht
  | unwound hc =>
    rcases hc with hc | hc
    · rw [if_pos hc] at ht
      cases ht
    · rw [hc] at ht
      unfold unwind
      split
      · exact ht
      · exact ht
  | raised e hc _ =>
    rw [hc] at ht
    exact ht

end

/-! ## Runs -/

/-- The source of a request: a caller, or a call with the task among those it asked. -/
def CancelledBy (events : Schedule) (frames : List Frame) (t : TaskId) : Prop :=
  .shared (.cancel t) ∈ events ∨ ∃ (i : Nat) (f : Frame), frames[i]? = some f ∧ t ∈ f.asked

theorem loopEvent_asks {l l' : EventLoop} {e : LoopEvent} (h : e.step l = .ok l') {t : TaskId}
    (hne : e ≠ .cancel t) (ht : l'.cancelRequested t = true) : l.cancelRequested t = true := by
  have hnone : l.AsksOnly [] l' → l.cancelRequested t = true := by
    intro hasks
    rcases hasks t ht with ht | hmem
    · exact ht
    · cases hmem
  cases e with
  | advance dt =>
    rw [LoopEvent.step, ensure_bind] at h
    cases h.2
    exact ht
  | spawn name =>
    cases h
    exact hnone (EventLoop.asksOnly_createTask _ _ _ _)
  | finish s o =>
    rcases loopEvent_ok h with ⟨s, o, -, -, -, rfl⟩ | ⟨hfinish, -⟩
    · exact hnone (EventLoop.asksOnly_modify (g := fun task => { task with outcome := some o })
        (fun _ => rfl) _)
    · exact absurd rfl (hfinish s o)
  | cancel s =>
    cases h
    have hasks : l.AsksOnly [s] (l.cancelTask s) := EventLoop.asksOnly_cancelTask (by simp)
    rcases hasks t ht with ht | hmem
    · exact ht
    · rw [List.mem_singleton.mp hmem] at hne
      exact absurd rfl hne
  | cleanup s =>
    simp only [LoopEvent.step] at h
    split at h
    · cases h
    · rw [ensure_bind] at h
      cases h.2
      exact hnone (EventLoop.asksOnly_modify (g := fun task => { task with cleanup := .ran })
        (fun _ => rfl) _)

/-- **Step.** -/
theorem cancelledBy_step {s s' : EventLoop × List Frame}
    {e : Transact.PoolEvent LoopEvent StartEvent MoveEvent} {u : Unit} {events : Schedule}
    (he : e ∈ events) (h : system.step s e = .ok (s', u)) {t : TaskId}
    (hs : s.1.cancelRequested t = true → CancelledBy events s.2 t)
    (ht : s'.1.cancelRequested t = true) : CancelledBy events s'.2 t := by
  cases Transact.Pool.step_ok h with
  | shared a ha hs' =>
    rw [hs']
    by_cases hcancel : a = .cancel t
    · rw [hcancel] at he
      exact .inl he
    · exact hs (loopEvent_asks ha hcancel ht)
  | start b k hb hs' =>
    rw [hs']
    rcases started_asks hb t ht with hold | hmem
    · rcases hs hold with hevent | ⟨i, f, hf, hmem⟩
      · exact .inl hevent
      · have hlt : i < s.2.length := (List.getElem?_eq_some_iff.mp hf).1
        exact .inr ⟨i, f, by rw [List.getElem?_append_left hlt]; exact hf, hmem⟩
    · exact .inr ⟨s.2.length, k, List.getElem?_concat_length, hmem⟩
  | move i c k k' hk hm hs' =>
    rw [hs']
    have hlt : i < s.2.length := (List.getElem?_eq_some_iff.mp hk).1
    have hmoved := moveEvent_ok hm
    rcases moved_asks hmoved t ht with hold | hmem
    · rcases hs hold with hevent | ⟨j, f, hf, hmem⟩
      · exact .inl hevent
      · by_cases hij : i = j
        · subst hij
          rw [hk] at hf
          cases hf
          exact .inr ⟨i, k', List.getElem?_set_self hlt, moved_asked hmoved t hmem⟩
        · exact .inr ⟨j, f, by rw [List.getElem?_set_ne hij]; exact hf, hmem⟩
    · exact .inr ⟨i, k', List.getElem?_set_self hlt, hmem⟩

/-- **Run.** -/
theorem cancelledBy_run (now resolution : ℚ) (events : Schedule) (t : TaskId)
    (ht : (system.exec (start now resolution) events).1.cancelRequested t = true) :
    CancelledBy events (system.exec (start now resolution) events).2 t := by
  revert ht
  refine Transact.Machine.run_rule (M := system) (I := fun s _ =>
    s.1.cancelRequested t = true → CancelledBy events s.2 t) ?_ events ?_
  · intro ht
    simp [start, EventLoop.cancelRequested] at ht
  · intro s _ e s' u he hs h ht
    exact cancelledBy_step he h hs ht

/-- **The source of a cancellation**, over every schedule of any calls. A task that is asked to cancel
was cancelled by a caller, or it is a critical task of a call that has stopped waiting and that never
saw the task finish. -/
theorem cancel_source (now resolution : ℚ) (events : Schedule) (t : TaskId)
    (ht : (system.exec (start now resolution) events).1.cancelRequested t = true) :
    .shared (.cancel t) ∈ events ∨
    ∃ (i : Nat) (f : Frame), (system.exec (start now resolution) events).2[i]? = some f ∧
      t ∈ f.criticalTasks ∧ f.control ≠ .waiting ∧ t ∉ f.wakeUps.flatten := by
  rcases cancelledBy_run now resolution events t ht with hevent | ⟨i, f, hf, hmem⟩
  · exact .inl hevent
  · have hcore := (run_ok _ events hf).core
    unfold Frame.asked at hmem
    split at hmem
    · cases hmem
    · rename_i hcontrol
      refine .inr ⟨i, f, hf, hcore.pending_sub t hmem, hcontrol, fun hprocessed => ?_⟩
      have hnodup : (f.wakeUps.flatten ++ f.pending).Nodup :=
        hcore.perm.nodup_iff.mpr (List.nodup_dedup _)
      exact (List.nodup_append.mp hnodup).2.2 t hprocessed t hmem rfl

/-- The loser of a race is cancelled by the call that was won. -/
theorem cancel_source_sample :
    ∃ (i : Nat) (f : Frame),
      (system.exec (start 0 0) (wonSchedule ++ [.move 0 (.wake [1] 0)])).2[i]? = some f ∧
      0 ∈ f.criticalTasks := by
  have hasked : (system.exec (start 0 0)
      (wonSchedule ++ [.move 0 (.wake [1] 0)])).1.cancelRequested 0 = true := by decide +kernel
  rcases cancel_source 0 0 (wonSchedule ++ [.move 0 (.wake [1] 0)]) 0 hasked with
    hevent | ⟨i, f, hf, hcritical, -⟩
  · simp [wonSchedule] at hevent
  · exact ⟨i, f, hf, hcritical⟩

end Relayer
end SolanaGuardian
