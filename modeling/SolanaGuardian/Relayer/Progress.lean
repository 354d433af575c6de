import SolanaGuardian.Lib.Progress
import SolanaGuardian.Relayer.Registry

/-!
# The system runs down

Nothing of the system can hang: no task, no drain, no callback and no call. `work` counts what is
left of all of them. A task that finishes, a callback that runs and a call that goes on each do a
piece of it (`isWork`), also a call that wins and starts a drain; the clock and requests to cancel
bring none (`isIdle`).

* `system_drains`: every working step does a piece. `moved_work` is that for one call.
* `exists_working`: as long as the system is not quiescent, a working step is possible. The oldest
  unfinished task can finish, since drains await older tasks (`SystemOk`).
* `runs_down`: the results together, from every reachable state.
-/

namespace SolanaGuardian
namespace Relayer

/-! ## The work that is left -/

/-- What is left of a task: to finish, and to run its callback. -/
def Task.work (task : Task) : Nat :=
  (if task.outcome = none then 1 else 0) + if task.cleanup = .registered then 1 else 0

def EventLoop.work (l : EventLoop) : Nat := (l.tasks.map Task.work).sum

/-- What is left of a call. One that waits may start a drain, which has to finish and to run its
callback. -/
def Frame.work (f : Frame) : Nat :=
  match f.control with
  | .waiting => f.pending.length + 3
  | .gathering => 2
  | .unwinding => 1
  | .returned _ => 0
  | .raised => 0

def work (s : EventLoop × List Frame) : Nat := s.1.work + (s.2.map Frame.work).sum

/-- A task finishes, a callback runs, or a call goes on. -/
def isWork : Transact.PoolEvent LoopEvent StartEvent MoveEvent → Bool
  | .shared (.finish _ _) => true
  | .shared (.cleanup _) => true
  | .move _ _ => true
  | _ => false

/-- The clock, or a request to cancel. -/
def isIdle : Transact.PoolEvent LoopEvent StartEvent MoveEvent → Bool
  | .shared (.advance _) => true
  | .shared (.cancel _) => true
  | _ => false

/-- Everything has ended, and `_BACKGROUND_TASKS` is empty. -/
structure Quiescent (s : EventLoop × List Frame) : Prop where
  calls : ∀ (i : Nat) (f : Frame), s.2[i]? = some f → f.control.Ended
  tasks : ∀ t < s.1.tasks.length, s.1.finished t = true
  callbacks : ∀ (t : TaskId) (a : Task), s.1.tasks[t]? = some a → a.cleanup ≠ .registered
  background : s.1.background = ∅

theorem sum_map_set {α : Type} (w : α → Nat) {l : List α} {i : Nat} {a : α} (h : l[i]? = some a)
    (b : α) : ((l.set i b).map w).sum + w a = (l.map w).sum + w b := by
  induction l generalizing i with
  | nil => cases h
  | cons x l ih =>
    cases i with
    | zero =>
      cases h
      simp only [List.set_cons_zero, List.map_cons, List.sum_cons]
      omega
    | succ i =>
      have hrest := ih (i := i) h
      simp only [List.set_cons_succ, List.map_cons, List.sum_cons]
      omega

section

variable {l : EventLoop} {t : TaskId}

theorem tasks_modify_eq {a : Task} (h : l.tasks[t]? = some a) (g : Task → Task) :
    (l.modify t g).tasks = l.tasks.set t (g a) := by
  rw [EventLoop.modify, List.modify_eq_set_getElem?, h]
  rfl

theorem tasks_modify_none (h : l.tasks[t]? = none) (g : Task → Task) :
    (l.modify t g).tasks = l.tasks := by
  rw [EventLoop.modify, List.modify_eq_set_getElem?, h]
  rfl

theorem work_modify {a : Task} (h : l.tasks[t]? = some a) (g : Task → Task) :
    (l.modify t g).work + a.work = l.work + (g a).work := by
  rw [EventLoop.work, tasks_modify_eq h]
  exact sum_map_set Task.work h (g a)

@[simp] theorem work_advance (dt : ℚ) : (l.advance dt).work = l.work := rfl

@[simp] theorem work_cancelTask : (l.cancelTask t).work = l.work := by
  cases h : l.tasks[t]? with
  | none => rw [EventLoop.cancelTask, EventLoop.work, tasks_modify_none h]; rfl
  | some a =>
    have hsame : a.cancel.work = a.work := by
      unfold Task.cancel
      split <;> rfl
    have hmodify := work_modify h Task.cancel
    rw [EventLoop.cancelTask]
    omega

@[simp] theorem work_cancelAll (tasks : List TaskId) : (l.cancelAll tasks).work = l.work := by
  induction tasks generalizing l with
  | nil => rfl
  | cons t tasks ih => exact (ih (l := l.cancelTask t)).trans work_cancelTask

theorem work_finish {a : Task} (h : l.tasks[t]? = some a) (hnone : a.outcome = none) (o : Outcome) :
    (l.finish t o).work + 1 = l.work := by
  have hmodify := work_modify h fun task => { task with outcome := some o }
  simp only [Task.work, hnone, reduceCtorEq, if_true, if_false] at hmodify
  rw [EventLoop.finish]
  omega

theorem work_cleanup {a : Task} (h : l.tasks[t]? = some a) (hreg : a.cleanup = .registered) :
    (l.cleanupTask t).work + 1 = l.work := by
  have hmodify := work_modify h fun task => { task with cleanup := .ran }
  simp only [Task.work, hreg, reduceCtorEq, if_true, if_false] at hmodify
  show (l.modify t fun task => { task with cleanup := .ran }).work + 1 = l.work
  omega

/-- A background task or a drain has to finish and to run its callback. -/
theorem work_createRegistered (name : String) (kind : Kind) (sends : Option RelayResult) :
    (l.createRegistered name kind sends).work = l.work + 2 := by
  have hnew : (l.createTask name kind sends).1.tasks[l.tasks.length]? =
      some { name, kind, sends } := by simp [EventLoop.createTask]
  have hmodify := work_modify hnew fun task => { task with cleanup := .registered }
  have hcreate : (l.createTask name kind sends).1.work = l.work + 1 := by
    simp [EventLoop.work, EventLoop.createTask, Task.work]
  simp only [Task.work, reduceCtorEq, if_true, if_false] at hmodify
  show ((l.createTask name kind sends).1.modify l.tasks.length fun task =>
    { task with cleanup := .registered }).work = l.work + 2
  omega

end

/-! ## A call that goes on -/

section

variable (l : EventLoop) (f : Frame)

theorem afterLoop_work : (afterLoop l f).1.work = l.work ∧ (afterLoop l f).2.work ≤ 2 := by
  unfold afterLoop
  split
  · exact ⟨rfl, Nat.zero_le _⟩
  · exact ⟨work_cancelAll f.pending, Nat.le_refl 2⟩

theorem loopHead_work :
    (loopHead l f).1.work = l.work ∧ (loopHead l f).2.work ≤ f.pending.length + 3 := by
  have hafter := afterLoop_work l f
  unfold loopHead
  split
  · exact ⟨hafter.1, hafter.2.trans (by omega)⟩
  split
  · exact ⟨hafter.1, hafter.2.trans (by omega)⟩
  · exact ⟨rfl, Nat.le_refl _⟩

/-- The drain of a call that wins. -/
theorem fastPath_work (t : TaskId) (res : RelayResult) :
    (fastPath l f t res).1.work ≤ l.work + 2 ∧ (fastPath l f t res).2.work = 0 := by
  refine ⟨?_, rfl⟩
  unfold fastPath
  dsimp only
  split
  · rw [work_cancelAll]
    omega
  · rw [work_createRegistered, work_cancelAll]

theorem unwind_work : (unwind l f).1.work = l.work ∧ (unwind l f).2.work ≤ 1 := by
  unfold unwind
  split
  · exact ⟨rfl, Nat.zero_le _⟩
  · exact ⟨work_cancelAll f.pending, Nat.le_refl 1⟩

variable {l f}

/-- A wake-up with finished tasks leaves fewer pending. -/
theorem pending_length {done : List TaskId} (hdone : done.Perm (f.pending.filter l.finished))
    (hne : done ≠ []) : (f.pending.filter fun t => !l.finished t).length < f.pending.length := by
  have hsplit := (List.filter_append_perm l.finished f.pending).length_eq
  have hpos := List.length_pos_iff.mpr hne
  rw [hdone.length_eq] at hpos
  rw [List.length_append] at hsplit
  omega

/-- **A call that goes on** does a piece of the work, with the drain that it may start. -/
theorem moved_work {e : MoveEvent} {r : EventLoop × Frame} (h : Moved l f e r) :
    r.1.work + r.2.work < l.work + f.work := by
  cases h with
  | wake done delay hc hdone =>
    have hf : f.work = f.pending.length + 3 := by rw [Frame.work, hc]
    unfold afterWait
    dsimp only
    split
    · have hafter := afterLoop_work l { f with pending := f.pending.filter fun t => !l.finished t }
      omega
    · rename_i hne
      have hless := pending_length hdone hne
      split
      · rename_i t res _
        have hfast := fastPath_work l { f with
          pending := f.pending.filter fun t => !l.finished t
          errors := (scan l done f.errors).1
          wakeUps := f.wakeUps ++ [done] } t res
        omega
      · have hhead := loopHead_work (l.advance delay) { f with
          pending := f.pending.filter fun t => !l.finished t
          errors := (scan l done f.errors).1
          wakeUps := f.wakeUps ++ [done] }
        rw [work_advance] at hhead
        dsimp only at hhead
        omega
  | concluded hc _ =>
    have hf : f.work = 2 := by rw [Frame.work, hc]
    show l.work + 0 < _
    omega
  | unwound hc =>
    have hf : 2 ≤ f.work := by
      rcases hc with hc | hc
      · rw [Frame.work, hc]
        dsimp only
        omega
      · rw [Frame.work, hc]
    have hunwind := unwind_work l f
    omega
  | raised e hc _ =>
    have hf : f.work = 1 := by rw [Frame.work, hc]
    show l.work + 0 < _
    omega

end

/-! ## Working steps -/

theorem loopEvent_work {l l' : EventLoop} {e : LoopEvent} (h : e.step l = .ok l') :
    (isWork (.shared e) = true → l'.work < l.work) ∧
    (isIdle (.shared e) = true → l'.work = l.work) := by
  cases e with
  | advance dt =>
    rw [LoopEvent.step, ensure_bind] at h
    cases h.2
    exact ⟨by simp [isWork], fun _ => rfl⟩
  | spawn name => exact ⟨by simp [isWork], by simp [isIdle]⟩
  | finish t o =>
    simp only [LoopEvent.step] at h
    split at h
    · cases h
    · rename_i a ha
      rw [ensure_bind] at h
      obtain ⟨⟨hnone, -⟩, h⟩ := h
      cases h
      have hless := work_finish ha hnone o
      exact ⟨fun _ => by omega, by simp [isIdle]⟩
  | cancel t =>
    cases h
    exact ⟨by simp [isWork], fun _ => work_cancelTask⟩
  | cleanup t =>
    simp only [LoopEvent.step] at h
    split at h
    · cases h
    · rename_i a ha
      rw [ensure_bind] at h
      obtain ⟨⟨hreg, -⟩, h⟩ := h
      cases h
      have hless := work_cleanup ha hreg
      exact ⟨fun _ => by omega, by simp [isIdle]⟩

/-- **A measure.** A working step does a piece of the work, an idle one brings none. -/
theorem system_drains :
    system.Drains SystemOk (isWork · = true) (isIdle · = true) work where
  keeps := systemOk_step
  decreases := by
    intro s e s' u hok he h
    cases Transact.Pool.step_ok h with
    | shared a ha hs =>
      have hless := (loopEvent_work ha).1 he
      simp only [work, hs]
      omega
    | start b k hb hs => cases he
    | move i c k k' hk hm hs =>
      have hless := moved_work (moveEvent_ok hm)
      have hsum := sum_map_set Frame.work hk k'
      simp only [work, hs]
      dsimp only at hless
      omega
  idle := by
    intro s e s' u hok he h
    cases Transact.Pool.step_ok h with
    | shared a ha hs =>
      have hsame := (loopEvent_work ha).2 he
      simp only [work, hs, hsame]
      exact Nat.le_refl _
    | start b k hb hs => cases he
    | move i c k k' hk hm hs => cases he

/-- A task can finish when the older ones have. -/
theorem exists_finish {l : EventLoop} {t : TaskId} {a : Task} (hdrains : DrainsBefore l.kinds)
    (ha : l.tasks[t]? = some a) (hnone : a.outcome = none)
    (hbefore : ∀ d < t, l.finished d = true) : ∃ o l', (LoopEvent.finish t o).step l = .ok l' := by
  obtain ⟨o, ho⟩ : ∃ o, a.canFinish l o := by
    unfold Task.canFinish
    cases hkind : a.kind with
    | drain awaited =>
      have hd : l.kinds[t]? = some (Kind.drain awaited) := by
        rw [EventLoop.kinds, List.getElem?_map, ha, Option.map_some, hkind]
      exact ⟨.nonDict "None", .inl ⟨fun s hs => hbefore s (hdrains t awaited hd s hs), rfl⟩⟩
    | critical =>
      cases a.sends with
      | some res => exact ⟨_, rfl⟩
      | none => exact ⟨.cancelled, trivial⟩
    | background =>
      cases a.sends with
      | some res => exact ⟨_, rfl⟩
      | none => exact ⟨.cancelled, trivial⟩
  refine ⟨o, l.finish t o, ?_⟩
  simp only [LoopEvent.step, ha]
  exact ensure_bind.mpr ⟨⟨hnone, ho⟩, rfl⟩

/-- All tasks have finished, or one can. -/
theorem finished_or_exists {l : EventLoop} (hdrains : DrainsBefore l.kinds) :
    (∀ t < l.tasks.length, l.finished t = true) ∨
      ∃ t o l', (LoopEvent.finish t o).step l = .ok l' := by
  by_cases hall : ∃ t, t < l.tasks.length ∧ l.finished t = false
  · obtain ⟨hlt, hunfinished⟩ := Nat.find_spec hall
    have hbefore : ∀ d < Nat.find hall, l.finished d = true := by
      intro d hd
      have hnot := Nat.find_min hall hd
      simpa [hd.trans hlt] using hnot
    obtain ⟨a, ha⟩ : ∃ a, l.tasks[Nat.find hall]? = some a := ⟨_, List.getElem?_eq_getElem hlt⟩
    have hnone : a.outcome = none := by
      rw [EventLoop.finished, EventLoop.outcome, ha] at hunfinished
      exact Option.isNone_iff_eq_none.mp (by simpa using hunfinished)
    exact .inr ⟨_, exists_finish hdrains ha hnone hbefore⟩
  · refine .inl fun t ht => ?_
    by_contra hf
    exact hall ⟨t, ht, by simpa using hf⟩

/-- A call goes on when everything has finished. -/
theorem exists_move {l : EventLoop} {f : Frame} (hok : FrameOk l f)
    (hall : ∀ t < l.tasks.length, l.finished t = true) (hrun : ¬ f.control.Ended) :
    ∃ c r, MoveEvent.step l f c = .ok r := by
  have hpending : ∀ t ∈ f.pending, l.finished t = true := fun t ht =>
    hall t (hok.core.valid t (hok.core.pending_sub t ht))
  have hcontrol := hok.control
  unfold ControlOk at hcontrol
  cases hc : f.control with
  | waiting =>
    rw [hc] at hcontrol
    have hdone : f.pending.Perm (f.pending.filter l.finished) := by
      rw [List.filter_eq_self.mpr hpending]
    refine ⟨.wake f.pending 0, afterWait l f f.pending 0, ?_⟩
    rw [MoveEvent.step, ensure_bind]
    exact ⟨⟨hc, hdone, .inl hcontrol.2, le_refl 0⟩, rfl⟩
  | gathering =>
    refine ⟨.gathered, (l, { f with control := .returned (conclude f) }), ?_⟩
    simp only [MoveEvent.step, hc]
    exact ensure_bind.mpr ⟨hpending, rfl⟩
  | unwinding =>
    refine ⟨.gathered, (l, { f with control := .raised }), ?_⟩
    simp only [MoveEvent.step, hc]
    exact ensure_bind.mpr ⟨hpending, rfl⟩
  | returned response => exact absurd (by rw [hc]; trivial) hrun
  | raised => exact absurd (by rw [hc]; trivial) hrun

/-- **Nothing hangs.** A state that is not quiescent has a working step. -/
theorem exists_working {s : EventLoop × List Frame} (hok : SystemOk s) (hbusy : ¬ Quiescent s) :
    ∃ e r, isWork e = true ∧ system.step s e = .ok r := by
  rcases finished_or_exists hok.drains with hall | ⟨t, o, l', h⟩
  · by_cases hcalls : ∃ (i : Nat) (f : Frame), s.2[i]? = some f ∧ ¬ f.control.Ended
    · obtain ⟨i, f, hf, hrun⟩ := hcalls
      obtain ⟨c, r, h⟩ := exists_move (hok.calls i f hf) hall hrun
      refine ⟨.move i c, ((r.1, s.2.set i r.2), ()), rfl, ?_⟩
      simp only [system, Transact.Pool.machine, hf, calls, h]
      rfl
    by_cases hcallbacks : ∃ (t : TaskId) (a : Task), s.1.tasks[t]? = some a ∧
        a.cleanup = .registered
    · obtain ⟨t, a, ha, hreg⟩ := hcallbacks
      have hfinished := hall t (List.getElem?_eq_some_iff.mp ha).1
      rw [EventLoop.finished, EventLoop.outcome, ha] at hfinished
      have hstep : (LoopEvent.cleanup t).step s.1 = .ok (s.1.cleanupTask t) := by
        simp only [LoopEvent.step, ha]
        exact ensure_bind.mpr ⟨⟨hreg, Option.isSome_iff_ne_none.mp hfinished⟩, rfl⟩
      refine ⟨.shared (.cleanup t), ((s.1.cleanupTask t, s.2), ()), rfl, ?_⟩
      simp only [system, Transact.Pool.machine, calls, hstep]
      rfl
    -- Nothing is left: the registry, which is exact, is empty.
    have hnone : ∀ (t : TaskId) (a : Task), s.1.tasks[t]? = some a → a.cleanup ≠ .registered :=
      fun t a ha hreg => hcallbacks ⟨t, a, ha, hreg⟩
    refine absurd ⟨fun i f hf => ?_, hall, hnone, ?_⟩ hbusy
    · by_contra hrun
      exact hcalls ⟨i, f, hf, hrun⟩
    · refine Finset.eq_empty_of_forall_notMem fun t ht => ?_
      obtain ⟨a, ha, hreg⟩ := (hok.exact t).mp ht
      exact hnone t a ha hreg
  · refine ⟨.shared (.finish t o), ((l', s.2), ()), rfl, ?_⟩
    simp only [system, Transact.Pool.machine, calls, h]
    rfl

/-- **The system runs down**, from every reachable state. Until new tasks or calls come, there are at
most `work` further steps besides those of the clock and the requests to cancel, in any order. Such
steps lead to a state in which every call has ended, every task has finished and `_BACKGROUND_TASKS`
is empty, and as long as that is not so one of them is possible. -/
theorem runs_down (now resolution : ℚ) (events : Schedule) :
    (∀ later : Schedule, (∀ e ∈ later, isWork e = true ∨ isIdle e = true) →
      ((system.log (system.exec (start now resolution) events) later).filter
          (isWork ·.1)).length +
        work (system.exec (start now resolution) (events ++ later)) ≤
      work (system.exec (start now resolution) events)) ∧
    (∃ later : Schedule, (∀ e ∈ later, isWork e = true) ∧
      later.length ≤ work (system.exec (start now resolution) events) ∧
      Quiescent (system.exec (start now resolution) (events ++ later))) ∧
    (¬ Quiescent (system.exec (start now resolution) events) →
      ∃ e r, isWork e = true ∧
        system.step (system.exec (start now resolution) events) e = .ok r) := by
  have hok := systemOk_run now resolution events
  refine ⟨fun later hlater => ?_, ?_, exists_working hok⟩
  · have hbound := system_drains.bound hok hlater
    rw [Transact.Machine.exec_append]
    simpa using hbound
  · obtain ⟨later, hwork, hlength, hquiet⟩ := system_drains.completes
      (fun s hs hbusy => exists_working hs hbusy) hok
    refine ⟨later, hwork, hlength, ?_⟩
    rw [Transact.Machine.exec_append]
    exact hquiet

/-- The two relayers of a race, one of which wins: the drain of the loser is what is left. -/
example : work (system.exec (start 0 0) (wonSchedule ++ [.move 0 (.wake [1] 0)])) = 3 := by
  decide +kernel

end Relayer
end SolanaGuardian
