import SolanaGuardian.Relayer.Orphans

/-!
# What drains await, and what the registry holds

Two facts about the tasks of a run that the calls keep together.

* `DrainsBefore`: a drain awaits tasks that are older than itself. It is a property of the kinds of
  the tasks, which never change (`EventLoop.kinds`); only a call that wins adds a drain, and it awaits
  tasks of its own (`moved_kinds`).
* `EventLoop.Exact`: `_BACKGROUND_TASKS` holds exactly the tasks whose callback has yet to run.

`SystemOk` is both next to the invariant of every call; `systemOk_step` is its step and `systemOk_run`
its run.
-/

namespace SolanaGuardian
namespace Relayer

def EventLoop.kinds (l : EventLoop) : List Kind := l.tasks.map (·.kind)

/-- A drain awaits tasks that are older than itself. -/
def DrainsBefore (kinds : List Kind) : Prop :=
  ∀ (d : Nat) (awaited : List TaskId), kinds[d]? = some (Kind.drain awaited) → ∀ t ∈ awaited, t < d

/-- `_BACKGROUND_TASKS` holds exactly the tasks whose callback has yet to run. -/
def EventLoop.Exact (l : EventLoop) : Prop :=
  ∀ t, t ∈ l.background ↔ ∃ a, l.tasks[t]? = some a ∧ a.cleanup = .registered

section

variable {l l' : EventLoop} {t : TaskId}

theorem kinds_modify {g : Task → Task} (hg : ∀ a, (g a).kind = a.kind) :
    (l.modify t g).kinds = l.kinds := by
  apply List.ext_getElem?
  intro s
  rw [EventLoop.kinds, EventLoop.kinds, List.getElem?_map, List.getElem?_map,
    EventLoop.tasks_modify]
  split
  · cases l.tasks[s]? with
    | none => rfl
    | some a => exact congrArg some (hg a)
  · rfl

theorem kinds_cancelTask : (l.cancelTask t).kinds = l.kinds := by
  apply kinds_modify
  intro a
  unfold Task.cancel
  split <;> rfl

theorem kinds_cancelAll (tasks : List TaskId) : (l.cancelAll tasks).kinds = l.kinds := by
  induction tasks generalizing l with
  | nil => rfl
  | cons t tasks ih => exact (ih (l := l.cancelTask t)).trans kinds_cancelTask

theorem kinds_createTask (name : String) (kind : Kind) (sends : Option RelayResult) :
    (l.createTask name kind sends).1.kinds = l.kinds ++ [kind] := List.map_append

theorem kinds_createRegistered (name : String) (kind : Kind) (sends : Option RelayResult) :
    (l.createRegistered name kind sends).kinds = l.kinds ++ [kind] := by
  rw [← kinds_createTask name kind sends]
  exact kinds_modify (g := fun task => { task with cleanup := .registered }) fun _ => rfl

/-- A new task, which awaits older tasks if it is a drain. -/
theorem DrainsBefore.concat {kinds : List Kind} {kind : Kind} (h : DrainsBefore kinds)
    (hkind : ∀ awaited, kind = .drain awaited → ∀ t ∈ awaited, t < kinds.length) :
    DrainsBefore (kinds ++ [kind]) := by
  intro d awaited hd t ht
  by_cases hlt : d < kinds.length
  · rw [List.getElem?_append_left hlt] at hd
    exact h d awaited hd t ht
  · rw [List.getElem?_append_right (Nat.le_of_not_lt hlt), List.getElem?_singleton] at hd
    split at hd
    · have hawaited := hkind awaited (Option.some.inj hd) t ht
      exact Nat.lt_of_lt_of_le hawaited (Nat.le_of_not_lt hlt)
    · cases hd

/-! ## The registry is exact -/

theorem Exact.modify {g : Task → Task} (h : l.Exact) (hg : ∀ a, (g a).cleanup = a.cleanup) :
    (l.modify t g).Exact := by
  intro s
  rw [show (l.modify t g).background = l.background from rfl, h s, EventLoop.tasks_modify]
  split
  · cases l.tasks[s]? with
    | none => simp
    | some a => simp [hg]
  · rfl

/-- **Primitive steps** keep the registry exact. -/
theorem exact_prim (h : l.Exact) (hp : Prim l l') : l'.Exact := by
  cases hp with
  | advance dt => exact h
  | create name sends =>
    intro s
    rw [show (l.createTask name .critical sends).1.background = l.background from rfl, h s,
      EventLoop.createTask, List.getElem?_append]
    split
    · rfl
    · rename_i hge
      rw [List.getElem?_eq_none (Nat.le_of_not_lt hge), List.getElem?_singleton]
      split <;> simp
  | createRegistered name kind sends =>
    intro s
    simp only [EventLoop.createRegistered, EventLoop.register, EventLoop.createTask,
      Finset.mem_insert, EventLoop.tasks_modify]
    by_cases hs : l.tasks.length = s
    · subst hs
      simp
    · rw [if_neg hs, h s, List.getElem?_append]
      split
      · simp [Ne.symm hs]
      · rename_i hge
        rw [List.getElem?_eq_none (Nat.le_of_not_lt hge), List.getElem?_singleton]
        simp only [Ne.symm hs, false_or, reduceCtorEq, false_and, exists_false, false_iff]
        rintro ⟨a, ha, -⟩
        split at ha
        · omega
        · cases ha
  | cancel t =>
    refine Exact.modify h fun a => ?_
    unfold Task.cancel
    split <;> rfl
  | cleanup t hf =>
    intro s
    simp only [EventLoop.cleanupTask, EventLoop.tasks_modify, Finset.mem_erase]
    by_cases hs : t = s
    · subst hs
      cases l.tasks[t]? <;> simp
    · rw [if_neg hs, h s]
      simp [Ne.symm hs]

theorem exact_prims (h : l.Exact) (hp : Prims l l') : l'.Exact := by
  induction hp with
  | refl => exact h
  | tail _ hp ih => exact exact_prim ih hp

theorem exact_finish {o : Outcome} (h : l.Exact) : (l.finish t o).Exact := Exact.modify h fun _ => rfl

end

/-! ## The invariant of the system -/

/-- The kinds of the tasks that a call creates when it starts: no drain. -/
def NoDrain (kinds : List Kind) : Prop := ∀ kind ∈ kinds, ∀ awaited, kind ≠ .drain awaited

section

variable {l : EventLoop} {f : Frame}

theorem DrainsBefore.append {kinds new : List Kind} (h : DrainsBefore kinds) (hnew : NoDrain new) :
    DrainsBefore (kinds ++ new) := by
  induction new generalizing kinds with
  | nil => rwa [List.append_nil]
  | cons kind new ih =>
    rw [List.append_cons]
    refine ih (h.concat fun awaited heq => absurd heq (hnew kind (by simp) awaited)) ?_
    exact fun k hk => hnew k (List.mem_cons_of_mem _ hk)

theorem afterLoop_kinds (l : EventLoop) (f : Frame) : (afterLoop l f).1.kinds = l.kinds := by
  unfold afterLoop
  split
  · rfl
  · exact kinds_cancelAll f.pending

theorem loopHead_kinds (l : EventLoop) (f : Frame) : (loopHead l f).1.kinds = l.kinds := by
  unfold loopHead
  split
  · exact afterLoop_kinds l f
  split
  · exact afterLoop_kinds l f
  · rfl

theorem runRelayers_kinds (l : EventLoop) (critical : List TaskId) (timeoutSec delay : ℚ) :
    (runRelayers l critical timeoutSec delay).1.kinds = l.kinds := by
  unfold runRelayers
  split
  · rfl
  · exact loopHead_kinds (l.advance delay) _

theorem background_kinds (executor : Executor) (regions : List String) (l : EventLoop) :
    ∃ new, (regions.foldl (dispatchBackground executor) l).kinds = l.kinds ++ new ∧ NoDrain new := by
  induction regions generalizing l with
  | nil => exact ⟨[], by simp, by simp [NoDrain]⟩
  | cons bg regions ih =>
    obtain ⟨new, hnew, hno⟩ := ih (dispatchBackground executor l bg)
    rw [List.foldl_cons, hnew]
    unfold dispatchBackground
    split
    · refine ⟨.background :: new, ?_, ?_⟩
      · rw [kinds_createRegistered, List.append_assoc]
        rfl
      · intro kind hkind
        rcases List.mem_cons.mp hkind with rfl | hkind
        · simp
        · exact hno kind hkind
    · exact ⟨new, rfl, hno⟩

theorem critical_kinds (executor : Executor) (regions : List String) (s : EventLoop × List TaskId) :
    ∃ new, (regions.foldl (dispatchCritical executor) s).1.kinds = s.1.kinds ++ new ∧
      NoDrain new := by
  induction regions generalizing s with
  | nil => exact ⟨[], by simp, by simp [NoDrain]⟩
  | cons region regions ih =>
    obtain ⟨new, hnew, hno⟩ := ih (dispatchCritical executor s region)
    rw [List.foldl_cons, hnew]
    unfold dispatchCritical
    split
    · refine ⟨.critical :: new, ?_, ?_⟩
      · rw [kinds_createTask, List.append_assoc]
        rfl
      · intro kind hkind
        rcases List.mem_cons.mp hkind with rfl | hkind
        · simp
        · exact hno kind hkind
    · exact ⟨new, rfl, hno⟩

theorem loopEvent_kinds {l' : EventLoop} {e : LoopEvent} (h : e.step l = .ok l') :
    ∃ new, l'.kinds = l.kinds ++ new ∧ NoDrain new := by
  have hsame : l'.kinds = l.kinds → ∃ new, l'.kinds = l.kinds ++ new ∧ NoDrain new := fun heq =>
    ⟨[], by rw [heq, List.append_nil], by simp [NoDrain]⟩
  cases e with
  | advance dt =>
    rw [LoopEvent.step, ensure_bind] at h
    cases h.2
    exact hsame rfl
  | spawn name =>
    cases h
    exact ⟨[.critical], kinds_createTask name .critical none, by simp [NoDrain]⟩
  | finish t o =>
    rcases loopEvent_ok h with ⟨t, o, -, -, -, rfl⟩ | ⟨hne, -⟩
    · exact hsame (kinds_modify fun _ => rfl)
    · exact absurd rfl (hne t o)
  | cancel t =>
    cases h
    exact hsame kinds_cancelTask
  | cleanup t =>
    simp only [LoopEvent.step] at h
    split at h
    · cases h
    · rw [ensure_bind] at h
      cases h.2
      exact hsame (kinds_modify (g := fun task => { task with cleanup := .ran }) fun _ => rfl)

theorem startEvent_kinds {e : StartEvent} {r : EventLoop × Frame} (h : e.step l = .ok r) :
    ∃ new, r.1.kinds = l.kinds ++ new ∧ NoDrain new := by
  cases e with
  | runRelayers critical timeoutSec delay =>
    rw [StartEvent.step, ensure_bind] at h
    cases h.2
    exact ⟨[], by rw [runRelayers_kinds, List.append_nil], by simp [NoDrain]⟩
  | dispatch executor timeoutMs delay =>
    rw [StartEvent.step, ensure_bind] at h
    cases h.2
    obtain ⟨bs, hbs, hnob⟩ := background_kinds executor executor.backgroundRegions l
    obtain ⟨cs, hcs, hnoc⟩ := critical_kinds executor executor.criticalRegions
      (executor.backgroundRegions.foldl (dispatchBackground executor) l, [])
    refine ⟨bs ++ cs, ?_, ?_⟩
    · rw [dispatch, runRelayers_kinds, hcs, hbs, List.append_assoc]
    · intro kind hkind
      rcases List.mem_append.mp hkind with hkind | hkind
      · exact hnob kind hkind
      · exact hnoc kind hkind

/-- A call that goes on creates at most a drain, which awaits tasks that exist. -/
theorem moved_kinds {e : MoveEvent} {r : EventLoop × Frame} (hok : FrameOk l f)
    (h : Moved l f e r) :
    r.1.kinds = l.kinds ∨ ∃ awaited, r.1.kinds = l.kinds ++ [.drain awaited] ∧
      ∀ t ∈ awaited, t < l.kinds.length := by
  have hvalid : ∀ t ∈ f.pending, t < l.kinds.length := by
    intro t ht
    rw [EventLoop.kinds, List.length_map]
    exact hok.core.valid t (hok.core.pending_sub t ht)
  cases h with
  | wake done delay _ _ =>
    unfold afterWait
    dsimp only
    split
    · exact .inl (afterLoop_kinds _ _)
    · split
      · unfold fastPath
        dsimp only
        split
        · exact .inl (kinds_cancelAll _)
        · refine .inr ⟨f.pending.filter fun t => !l.finished t, ?_, fun t ht =>
            hvalid t (List.mem_filter.mp ht).1⟩
          rw [kinds_createRegistered, kinds_cancelAll]
      · exact .inl (loopHead_kinds (l.advance delay) _)
  | concluded _ _ => exact .inl rfl
  | unwound _ =>
    unfold unwind
    split
    · exact .inl rfl
    · exact .inl (kinds_cancelAll f.pending)
  | raised e _ _ => exact .inl rfl

end

/-- The invariant of the system: every call has its own, drains await older tasks, and the registry
is exact. -/
structure SystemOk (s : EventLoop × List Frame) : Prop where
  calls : ∀ (i : Nat) (f : Frame), s.2[i]? = some f → FrameOk s.1 f
  drains : DrainsBefore s.1.kinds
  exact : s.1.Exact

theorem systemOk_start (now resolution : ℚ) : SystemOk (start now resolution) := by
  refine ⟨by simp [start], ?_, ?_⟩
  · intro d awaited hd
    simp [start, EventLoop.kinds] at hd
  · intro t
    simp [start]

/-- **Step.** -/
theorem systemOk_step {s s' : EventLoop × List Frame}
    {e : Transact.PoolEvent LoopEvent StartEvent MoveEvent} {u : Unit} (hok : SystemOk s)
    (h : system.step s e = .ok (s', u)) : SystemOk s' := by
  refine ⟨fun i f hf => ?_, ?_, ?_⟩
  · exact calls_evolve.step_all (I := FrameOk) FrameOk.stable
      (fun h => started_ok (startEvent_ok h)) (fun hok h => moved_ok hok (moveEvent_ok h)) hok.calls
      h i f hf
  · cases Transact.Pool.step_ok h with
    | shared a ha _ =>
      obtain ⟨new, hnew, hno⟩ := loopEvent_kinds ha
      rw [hnew]
      exact hok.drains.append hno
    | start b k hb _ =>
      obtain ⟨new, hnew, hno⟩ := startEvent_kinds hb
      rw [hnew]
      exact hok.drains.append hno
    | move i c k k' hk hm _ =>
      rcases moved_kinds (hok.calls i k hk) (moveEvent_ok hm) with hsame | ⟨awaited, hnew, hlt⟩
      · rw [hsame]
        exact hok.drains
      · rw [hnew]
        refine hok.drains.concat fun awaited' heq t ht => hlt t ?_
        cases heq
        exact ht
  · rcases step_loop h with ⟨t, o, -, -, -, heq⟩ | ⟨-, hp⟩
    · rw [heq]
      exact exact_finish hok.exact
    · exact exact_prims hok.exact hp

theorem systemOk_run (now resolution : ℚ) (events : Schedule) :
    SystemOk (system.exec (start now resolution) events) :=
  Transact.Machine.invariant (M := system) (I := SystemOk) (systemOk_start now resolution) events
    fun _ _ _ _ hok h => systemOk_step hok h

end Relayer
end SolanaGuardian
