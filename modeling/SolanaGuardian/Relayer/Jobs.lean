import SolanaGuardian.Relayer.Ack

/-!
# The tasks of a dispatch

`dispatch` creates its own tasks, each of which runs `_send_raw_bundle` for one region. What a task
does is fixed when it is created (`EventLoop.job`). One that sends finishes with its result or, if it
was asked to cancel, cancelled (`Task.Honest`).

* `honest_run`: tasks are honest in every reachable state.
* `Raced`: the critical tasks of a call are those of the regions that have a channel. A call of
  `dispatch` starts with it (`dispatch_raced`) and keeps it (`raced_move`).
* `dispatch_background`: the task of a background region.
-/

namespace SolanaGuardian
namespace Relayer

/-! ## Jobs -/

/-- What a task does. -/
structure Job where
  name : String
  kind : Kind
  sends : Option RelayResult

def Task.job (a : Task) : Job := ⟨a.name, a.kind, a.sends⟩

def EventLoop.job (l : EventLoop) (t : TaskId) : Option Job := l.tasks[t]?.map Task.job

/-- Every task goes on with its job. -/
def EventLoop.KeepsJobs (l l' : EventLoop) : Prop :=
  ∀ (t : TaskId) (j : Job), l.job t = some j → l'.job t = some j

/-- A task that sends finishes with the result that it sends, or cancelled if it was asked to. -/
def Task.Honest (a : Task) : Prop :=
  ∀ res, a.sends = some res → (∀ awaited, a.kind ≠ .drain awaited) →
    ∀ o, a.outcome = some o → o = .dict res ∨ o = .cancelled ∧ a.cancelRequested = true

def EventLoop.Honest (l : EventLoop) : Prop :=
  ∀ (t : TaskId) (a : Task), l.tasks[t]? = some a → a.Honest

namespace EventLoop

variable {l l' : EventLoop} {t : TaskId}

theorem keepsJobs_modify {g : Task → Task} (hg : ∀ a, (g a).job = a.job) :
    l.KeepsJobs (l.modify t g) := by
  intro s j hj
  rw [EventLoop.job, tasks_modify]
  split
  · rw [← hj, EventLoop.job, Option.map_map]
    cases l.tasks[s]? with
    | none => rfl
    | some a => exact congrArg some (hg a)
  · exact hj

theorem keepsJobs_createTask (name : String) (kind : Kind) (sends : Option RelayResult) :
    l.KeepsJobs (l.createTask name kind sends).1 := by
  intro s j hj
  obtain ⟨a, ha, -⟩ := Option.map_eq_some_iff.mp hj
  rw [EventLoop.job, createTask, List.getElem?_append_left (List.getElem?_eq_some_iff.mp ha).1]
  exact hj

theorem job_createTask (name : String) (kind : Kind) (sends : Option RelayResult) :
    (l.createTask name kind sends).1.job l.tasks.length = some ⟨name, kind, sends⟩ := by
  simp [EventLoop.job, createTask, Task.job]

theorem keepsJobs_register : l.KeepsJobs (l.register t) :=
  keepsJobs_modify (g := fun task => { task with cleanup := .registered }) fun _ => rfl

theorem keepsJobs_prim (h : Prim l l') : l.KeepsJobs l' := by
  cases h with
  | advance dt => exact fun _ _ h => h
  | create name sends => exact keepsJobs_createTask name .critical sends
  | createRegistered name kind sends =>
    exact fun t j hj => keepsJobs_register t j (keepsJobs_createTask name kind sends t j hj)
  | cancel t =>
    refine keepsJobs_modify fun a => ?_
    unfold Task.cancel
    split <;> rfl
  | cleanup t =>
    exact keepsJobs_modify (g := fun task => { task with cleanup := .ran }) fun _ => rfl

theorem keepsJobs_prims (h : Prims l l') : l.KeepsJobs l' := by
  induction h with
  | refl => exact fun _ _ h => h
  | tail _ hp ih => exact fun t j hj => keepsJobs_prim hp t j (ih t j hj)

theorem keepsJobs_finish (o : Outcome) : l.KeepsJobs (l.finish t o) :=
  keepsJobs_modify (g := fun task => { task with outcome := some o }) fun _ => rfl

/-- A change of one task that keeps it honest. -/
theorem Honest.modify {g : Task → Task} (h : l.Honest)
    (hg : ∀ a, l.tasks[t]? = some a → a.Honest → (g a).Honest) : (l.modify t g).Honest := by
  intro s b hb
  rw [tasks_modify] at hb
  split at hb
  · rename_i hs
    subst hs
    obtain ⟨a, ha, rfl⟩ := Option.map_eq_some_iff.mp hb
    exact hg a ha (h t a ha)
  · exact h s b hb

theorem honest_createTask (h : l.Honest) (name : String) (kind : Kind)
    (sends : Option RelayResult) : (l.createTask name kind sends).1.Honest := by
  intro s b hb
  by_cases hlt : s < l.tasks.length
  · rw [createTask, List.getElem?_append_left hlt] at hb
    exact h s b hb
  · rw [createTask, List.getElem?_append_right (Nat.le_of_not_lt hlt),
      List.getElem?_singleton] at hb
    split at hb
    · cases hb
      intro res _ _ o ho
      cases ho
    · cases hb

theorem honest_prim (h : l.Honest) (hp : Prim l l') : l'.Honest := by
  cases hp with
  | advance dt => exact h
  | create name sends => exact honest_createTask h name .critical sends
  | createRegistered name kind sends =>
    exact Honest.modify (g := fun task => { task with cleanup := .registered })
      (honest_createTask h name kind sends) fun _ _ ha => ha
  | cancel t =>
    refine Honest.modify h fun a _ ha => ?_
    unfold Task.cancel
    split
    · exact ha
    · rename_i hnone
      intro res _ _ o ho
      have ho : a.outcome = some o := ho
      rw [ho] at hnone
      exact absurd rfl hnone
  | cleanup t =>
    exact Honest.modify (g := fun task => { task with cleanup := .ran }) h fun _ _ ha => ha

theorem honest_prims (h : l.Honest) (hp : Prims l l') : l'.Honest := by
  induction hp with
  | refl => exact h
  | tail _ hp ih => exact honest_prim ih hp

theorem honest_finish {o : Outcome} {a : Task} (h : l.Honest) (ha : l.tasks[t]? = some a)
    (ho : a.canFinish l o) : (l.finish t o).Honest := by
  refine Honest.modify h fun b hb _ => ?_
  rw [ha] at hb
  cases hb
  intro res hsends hkind o' ho'
  have hsends : a.sends = some res := hsends
  cases ho'
  unfold Task.canFinish at ho
  split at ho
  · rename_i awaited hdrain
    exact absurd hdrain (hkind awaited)
  · simp only [hsends] at ho
    rw [ho]
    show (if a.cancelRequested = true then _ else _) = _ ∨ _ ∧ a.cancelRequested = true
    split
    · rename_i hasked
      exact .inr ⟨rfl, hasked⟩
    · exact .inl rfl

/-- How a task that sends finishes. -/
theorem Honest.outcome {name : String} {kind : Kind} {res : RelayResult} {o : Outcome} (h : l.Honest)
    (hjob : l.job t = some ⟨name, kind, some res⟩) (hkind : ∀ awaited, kind ≠ .drain awaited)
    (ho : l.outcome t = some o) : o = .dict res ∨ o = .cancelled ∧ l.cancelRequested t = true := by
  obtain ⟨a, ha, hjob⟩ := Option.map_eq_some_iff.mp hjob
  obtain ⟨hname, hk, hsends⟩ := Job.mk.inj hjob
  rw [EventLoop.outcome, ha] at ho
  rw [EventLoop.cancelRequested, ha]
  exact h t a ha res hsends (hk ▸ hkind) o ho

end EventLoop

/-- What every call relies on: tasks keep their jobs. -/
theorem calls_keepJobs : Transact.Pool.Guarantee calls EventLoop.KeepsJobs where
  refl := fun _ _ _ h => h
  trans := fun h h' t j hj => h' t j (h t j hj)
  shared := by
    intro l e l' h
    rcases loopEvent_ok h with ⟨t, o, -, -, -, rfl⟩ | ⟨-, hp⟩
    · exact EventLoop.keepsJobs_finish o
    · exact EventLoop.keepsJobs_prims hp
  start := fun h => EventLoop.keepsJobs_prims (startEvent_prims h)
  move := fun h => EventLoop.keepsJobs_prims (moveEvent_prims h)

/-- In every reachable state, tasks are honest. -/
theorem honest_run (now resolution : ℚ) (events : Schedule) :
    (system.exec (start now resolution) events).1.Honest := by
  refine Transact.Machine.invariant (M := system) (I := fun s => s.1.Honest) ?_ events ?_
  · intro t a ha
    simp [start] at ha
  · intro s e s' u hok h
    rcases step_loop h with ⟨t, o, rfl, -, -, heq⟩ | ⟨-, hp⟩
    · cases Transact.Pool.step_ok h with
      | shared a ha _ =>
        have ha : (LoopEvent.finish t o).step s.1 = .ok s'.1 := ha
        simp only [LoopEvent.step] at ha
        split at ha
        · cases ha
        · rename_i task htask
          rw [ensure_bind] at ha
          rw [heq]
          exact EventLoop.honest_finish hok htask ha.1.2
    · exact EventLoop.honest_prims hok hp

/-! ## The tasks of a dispatch -/

/-- `region in self.channels`. -/
def Executor.hasChannel (executor : Executor) (region : String) : Bool :=
  (executor.channels.lookup region).isSome

/-- The regions that a dispatch races: the critical ones with a channel. -/
def Executor.racing (executor : Executor) : List String :=
  executor.criticalRegions.filter executor.hasChannel

/-- The job of the task for a critical region. -/
def Executor.job (executor : Executor) (region : String) : Job :=
  ⟨region, .critical, some (sendRawBundle executor region)⟩

/-- The job of the task for a background region. -/
def Executor.backgroundJob (executor : Executor) (bg : String) : Job :=
  ⟨"jito-bg-" ++ bg, .background, some (sendRawBundle executor bg)⟩

/-- The tasks are those of the regions. -/
structure Executor.Tasks (executor : Executor) (l : EventLoop) (tasks : List TaskId)
    (regions : List String) : Prop where
  region : ∀ t ∈ tasks, ∃ region ∈ regions, l.job t = some (executor.job region)
  task : ∀ region ∈ regions, ∃ t ∈ tasks, l.job t = some (executor.job region)

section

variable {executor : Executor} {l l' : EventLoop}

theorem Executor.Tasks.stable {tasks : List TaskId} {regions : List String}
    (h : executor.Tasks l tasks regions) (hkeeps : l.KeepsJobs l') :
    executor.Tasks l' tasks regions := by
  refine ⟨fun t ht => ?_, fun region hregion => ?_⟩
  · obtain ⟨region, hregion, hjob⟩ := h.region t ht
    exact ⟨region, hregion, hkeeps t _ hjob⟩
  · obtain ⟨t, ht, hjob⟩ := h.task region hregion
    exact ⟨t, ht, hkeeps t _ hjob⟩

/-- One more critical region. -/
theorem critical_task {s : EventLoop × List TaskId} {regions : List String}
    (h : executor.Tasks s.1 s.2 regions) (region : String) :
    executor.Tasks (dispatchCritical executor s region).1 (dispatchCritical executor s region).2
      (regions ++ [region].filter executor.hasChannel) := by
  have hlookup : (executor.channels.lookup region).isSome = executor.hasChannel region := rfl
  unfold dispatchCritical
  rw [hlookup]
  by_cases hchannel : executor.hasChannel region = true
  · rw [if_pos hchannel, List.filter_cons_of_pos hchannel]
    have hold := h.stable (EventLoop.keepsJobs_createTask region .critical
      (some (sendRawBundle executor region)))
    have hnew : (s.1.createTask region .critical (some (sendRawBundle executor region))).1.job
        s.1.tasks.length = some (executor.job region) := EventLoop.job_createTask _ _ _
    refine ⟨fun t ht => ?_, fun r hr => ?_⟩
    · rcases List.mem_append.mp ht with ht | ht
      · obtain ⟨r, hr, hjob⟩ := hold.region t ht
        exact ⟨r, List.mem_append_left _ hr, hjob⟩
      · rw [List.mem_singleton.mp ht]
        exact ⟨region, by simp, hnew⟩
    · rcases List.mem_append.mp hr with hr | hr
      · obtain ⟨t, ht, hjob⟩ := hold.task r hr
        exact ⟨t, List.mem_append_left _ ht, hjob⟩
      · rw [List.mem_singleton.mp hr]
        exact ⟨s.1.tasks.length, by simp [EventLoop.createTask], hnew⟩
  · rw [if_neg hchannel, List.filter_cons_of_neg hchannel, List.filter_nil, List.append_nil]
    exact h

theorem critical_tasks (rest : List String) {s : EventLoop × List TaskId} {regions : List String}
    (h : executor.Tasks s.1 s.2 regions) :
    executor.Tasks (rest.foldl (dispatchCritical executor) s).1
      (rest.foldl (dispatchCritical executor) s).2
      (regions ++ rest.filter executor.hasChannel) := by
  induction rest generalizing s regions with
  | nil =>
    rw [List.filter_nil, List.append_nil]
    exact h
  | cons region rest ih =>
    have hall := ih (critical_task h region)
    rw [List.append_assoc, ← List.filter_append] at hall
    exact hall

/-- The loop has no fewer tasks later. -/
theorem EventLoop.Evolves.length_le (h : l.Evolves l') : l.tasks.length ≤ l'.tasks.length :=
  le_of_forall_lt fun _ ht => h.length ht

/-- The task of a background region: a new one. -/
theorem background_task {bg : String} (hchannel : executor.hasChannel bg = true)
    {regions : List String} (hbg : bg ∈ regions) (l : EventLoop) :
    ∃ t, l.tasks.length ≤ t ∧ (regions.foldl (dispatchBackground executor) l).job t =
      some (executor.backgroundJob bg) := by
  induction regions generalizing l with
  | nil => cases hbg
  | cons r regions ih =>
    rcases List.mem_cons.mp hbg with rfl | hbg
    · refine ⟨l.tasks.length, Nat.le_refl _, ?_⟩
      have hrest := EventLoop.keepsJobs_prims
        (prims_background executor regions (dispatchBackground executor l bg))
      refine hrest _ _ ?_
      have hlookup : (executor.channels.lookup bg).isSome = true := hchannel
      rw [dispatchBackground, if_pos hlookup]
      exact EventLoop.keepsJobs_register _ _ (EventLoop.job_createTask _ _ _)
    · obtain ⟨t, hnew, ht⟩ := ih hbg (dispatchBackground executor l r)
      have hgrows := (EventLoop.evolves_prims (prims_background executor [r] l)).length_le
      exact ⟨t, hgrows.trans hnew, ht⟩

end

/-! ## The call of a dispatch -/

/-- The call races the critical regions with a channel, and has returned if there is none. -/
structure Raced (executor : Executor) (l : EventLoop) (f : Frame) : Prop where
  tasks : executor.Tasks l f.criticalTasks executor.racing
  empty : f.criticalTasks = [] → f.control = .returned (.failure .noCriticalTasks)

section

variable {executor : Executor} {l l' : EventLoop} {f : Frame}

theorem Raced.stable (hkeeps : l.KeepsJobs l') (h : Raced executor l f) : Raced executor l' f :=
  ⟨h.tasks.stable hkeeps, h.empty⟩

theorem moved_critical {e : MoveEvent} {r : EventLoop × Frame} (h : Moved l f e r) :
    r.2.criticalTasks = f.criticalTasks := by
  cases h with
  | wake done delay _ _ =>
    unfold afterWait
    dsimp only
    split
    · exact (afterLoop_sets l _).1
    · split
      · rfl
      · exact (loopHead_sets _ _).1
  | concluded _ _ => rfl
  | unwound _ =>
    unfold unwind
    split <;> rfl
  | raised e _ _ => rfl

/-- A call that returned does not go on. -/
theorem moved_running {e : MoveEvent} {r : EventLoop × Frame} (h : Moved l f e r)
    (response : Response) : f.control ≠ .returned response := by
  intro hc
  cases h with
  | wake done delay hcontrol _ => rw [hc] at hcontrol; cases hcontrol
  | concluded hcontrol _ => rw [hc] at hcontrol; cases hcontrol
  | unwound hcontrol =>
    rcases hcontrol with hcontrol | hcontrol
    · rw [hc] at hcontrol; cases hcontrol
    · rw [hc] at hcontrol; cases hcontrol
  | raised e hcontrol _ => rw [hc] at hcontrol; cases hcontrol

theorem raced_move {e : MoveEvent} {r : EventLoop × Frame} (h : Raced executor l f)
    (hm : Moved l f e r) (hkeeps : l.KeepsJobs r.1) : Raced executor r.1 r.2 := by
  have hcritical := moved_critical hm
  refine ⟨?_, fun hnil => ?_⟩
  · rw [hcritical]
    exact h.tasks.stable hkeeps
  · rw [hcritical] at hnil
    exact absurd (h.empty hnil) (moved_running hm _)

theorem runRelayers_nil (l : EventLoop) (timeoutSec delay : ℚ) :
    (runRelayers l [] timeoutSec delay).2.control = .returned (.failure .noCriticalTasks) := rfl

/-- **The call of a dispatch** races the critical regions with a channel. -/
theorem dispatch_raced (l : EventLoop) (executor : Executor) (timeoutMs delay : ℚ) :
    Raced executor (dispatch l executor timeoutMs delay).1 (dispatch l executor timeoutMs delay).2 := by
  have htasks : executor.Tasks _ _ ([] ++ executor.criticalRegions.filter executor.hasChannel) :=
    critical_tasks executor.criticalRegions
      (s := (executor.backgroundRegions.foldl (dispatchBackground executor) l, []))
      ⟨by simp, by simp⟩
  rw [List.nil_append] at htasks
  unfold dispatch
  dsimp only
  refine ⟨?_, fun hnil => ?_⟩
  · rw [runRelayers_critical]
    exact htasks.stable (EventLoop.keepsJobs_prims (prims_runRelayers _ _ _ _))
  · rw [runRelayers_critical] at hnil
    rw [hnil]
    exact runRelayers_nil _ _ _

/-- The task of a background region, once its dispatch has started: a new one. -/
theorem dispatch_background {bg : String} (hbg : bg ∈ executor.backgroundRegions)
    (hchannel : executor.hasChannel bg = true) (l : EventLoop) (timeoutMs delay : ℚ) :
    ∃ t, l.tasks.length ≤ t ∧
      (dispatch l executor timeoutMs delay).1.job t = some (executor.backgroundJob bg) := by
  obtain ⟨t, hnew, ht⟩ := background_task hchannel hbg l
  have hcreated := created_critical executor executor.criticalRegions
    (l := executor.backgroundRegions.foldl (dispatchBackground executor) l)
    (s := (executor.backgroundRegions.foldl (dispatchBackground executor) l, []))
    ⟨.refl, by simp, by simp⟩
  refine ⟨t, hnew, ?_⟩
  unfold dispatch
  dsimp only
  exact EventLoop.keepsJobs_prims (hcreated.prims.trans (prims_runRelayers _ _ _ _)) t _ ht

end

end Relayer
end SolanaGuardian
