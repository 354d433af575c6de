import SolanaGuardian.Relayer.Sound

/-!
# No orphaned task

When a call ends, every critical task is finished, asked to cancel, or both; after a failure all are
finished. The losers of a race that was won are awaited by a drain, and what nobody awaits is held
by `_BACKGROUND_TASKS` while it runs (`EventLoop.Registered`): background tasks and drains, of all
calls.

* `registered_run`: the registry, in every reachable state.
* `ended_settled`, `failed_gathered`: the critical tasks of a call that ended.
* `won_drained`: the drain of a call that wins with its step.
* `no_orphans`: the results together, at the step at which a call ends and from there on.
-/

namespace SolanaGuardian
namespace Relayer

/-- The call has returned or raised. -/
def Control.Ended : Control → Prop
  | .returned _ => True
  | .raised => True
  | _ => False

/-- The task `d` is a drain that awaits `t`. -/
def EventLoop.Awaits (l : EventLoop) (d t : TaskId) : Prop :=
  ∃ a awaited, l.tasks[d]? = some a ∧ a.kind = .drain awaited ∧ t ∈ awaited

/-! ## The registry -/

/-- In every reachable state, an unfinished background task or drain is in `_BACKGROUND_TASKS`, and
one whose callback has run is not. -/
theorem registered_run (now resolution : ℚ) (events : Schedule) :
    (system.exec (start now resolution) events).1.Registered := by
  refine Transact.Machine.invariant (M := system) (I := fun s => s.1.Registered) ?_ events ?_
  · intro t a ha
    simp [start] at ha
  · intro s e s' u h hs
    rcases step_loop hs with ⟨t, o, -, -, -, heq⟩ | ⟨-, hp⟩
    · rw [heq]
      exact EventLoop.registered_finish h
    · exact EventLoop.registered_prims h hp

theorem EventLoop.Evolves.awaits {l l' : EventLoop} {d t : TaskId} (h : l.Evolves l')
    (ha : l.Awaits d t) : l'.Awaits d t := by
  obtain ⟨a, awaited, hd, hkind, ht⟩ := ha
  obtain ⟨b, hb, hab⟩ := h d a hd
  exact ⟨b, awaited, hb, by rw [hab.kind, hkind], ht⟩

/-- An unfinished drain is in the registry. -/
theorem EventLoop.Registered.awaits {l : EventLoop} {d t : TaskId} (h : l.Registered)
    (ha : l.Awaits d t) (hf : l.finished d = false) : d ∈ l.background := by
  obtain ⟨a, awaited, hd, hkind, -⟩ := ha
  have hnone : a.outcome = none := by
    rw [EventLoop.finished, EventLoop.outcome, hd] at hf
    exact Option.isNone_iff_eq_none.mp (by simpa using hf)
  exact (h d a hd (by rw [hkind]; simp)).1 hnone

/-- A created drain: it awaits its tasks, runs, and is in the registry. -/
theorem createRegistered_spec (l : EventLoop) (name : String) (awaited : List TaskId) :
    ∃ d, d ∈ (l.createRegistered name (.drain awaited) none).background ∧
      (l.createRegistered name (.drain awaited) none).finished d = false ∧
      ∀ t ∈ awaited, (l.createRegistered name (.drain awaited) none).Awaits d t := by
  have hd : (l.createRegistered name (.drain awaited) none).tasks[l.tasks.length]? =
      some { name, kind := .drain awaited, cleanup := .registered } := by
    simp only [EventLoop.createRegistered, EventLoop.register, EventLoop.createTask]
    rw [EventLoop.tasks_modify, if_pos rfl, List.getElem?_append_right (Nat.le_refl _),
      Nat.sub_self]
    rfl
  refine ⟨l.tasks.length, Finset.mem_insert_self _ _, ?_, fun t ht => ⟨_, awaited, hd, rfl, ht⟩⟩
  rw [EventLoop.finished, EventLoop.outcome, hd]
  rfl

/-! ## The end of a call -/

section

variable {l : EventLoop} {f : Frame}

/-- A processed task has finished. -/
theorem Core.finished_or_pending (h : Core l f) {t : TaskId} (ht : t ∈ f.criticalTasks) :
    l.finished t = true ∨ t ∈ f.pending :=
  (h.processed_or_pending ht).imp_left (h.processed t)

theorem failed_gathered (h : FrameOk l f) {reason : FailureReason}
    (hc : f.control = .returned (.failure reason)) :
    ∀ t ∈ f.criticalTasks, l.finished t = true := by
  intro t ht
  have hcontrol := h.control
  rw [ControlOk, hc] at hcontrol
  rcases h.core.finished_or_pending ht with hf | hpending
  · exact hf
  · exact hcontrol.2.1 t hpending

theorem ended_settled (h : FrameOk l f) (hend : f.control.Ended) : l.Settled f.criticalTasks := by
  intro t ht
  have hcontrol := h.control
  unfold ControlOk at hcontrol
  rcases h.core.finished_or_pending ht with hf | hpending
  · exact .inl hf
  cases hc : f.control with
  | waiting => rw [hc] at hend; exact hend.elim
  | gathering => rw [hc] at hend; exact hend.elim
  | unwinding => rw [hc] at hend; exact hend.elim
  | raised =>
    rw [hc] at hcontrol
    exact .inl (hcontrol t hpending)
  | returned response =>
    rw [hc] at hcontrol
    cases response with
    | success winner details => exact hcontrol.1 t hpending
    | failure reason => exact .inl (hcontrol.2.1 t hpending)

/-! ## The drain of the losers -/

theorem afterLoop_not_won (l : EventLoop) (f : Frame) (winner : String) (details : RelayResult) :
    (afterLoop l f).2.control ≠ .returned (.success winner details) := by
  unfold afterLoop conclude
  split_ifs <;> simp

theorem loopHead_not_won (l : EventLoop) (f : Frame) (winner : String) (details : RelayResult) :
    (loopHead l f).2.control ≠ .returned (.success winner details) := by
  unfold loopHead
  split
  · exact afterLoop_not_won l f winner details
  split
  · exact afterLoop_not_won l f winner details
  · simp

theorem runRelayers_not_won (l : EventLoop) (critical : List TaskId) (timeoutSec delay : ℚ)
    (winner : String) (details : RelayResult) :
    (runRelayers l critical timeoutSec delay).2.control ≠
      .returned (.success winner details) := by
  unfold runRelayers
  dsimp only
  split
  · simp
  · exact loopHead_not_won _ _ winner details

/-- The drain of the fast path. -/
theorem fastPath_drained (l : EventLoop) (f : Frame) (t : TaskId) (res : RelayResult)
    (hne : f.pending ≠ []) :
    ∃ d, d ∈ (fastPath l f t res).1.background ∧ (fastPath l f t res).1.finished d = false ∧
      ∀ s ∈ f.pending, (fastPath l f t res).1.Awaits d s := by
  unfold fastPath
  dsimp only
  rw [if_neg hne]
  exact createRegistered_spec _ _ _

/-- **The drain.** A call that wins with its step leaves a running drain, in the registry, that
awaits the tasks that are still pending. -/
theorem won_drained {e : MoveEvent} {r : EventLoop × Frame} (h : Moved l f e r)
    {winner : String} {details : RelayResult}
    (hc : r.2.control = .returned (.success winner details)) (hne : r.2.pending ≠ []) :
    ∃ d, d ∈ r.1.background ∧ r.1.finished d = false ∧ ∀ t ∈ r.2.pending, r.1.Awaits d t := by
  cases h with
  | wake done delay _ _ =>
    unfold afterWait at hc hne ⊢
    dsimp only at hc hne ⊢
    by_cases hdone : done = []
    · rw [if_pos hdone] at hc
      exact absurd hc (afterLoop_not_won _ _ winner details)
    · rw [if_neg hdone] at hc hne ⊢
      cases hscan : (scan l done f.errors).2 with
      | none =>
        rw [hscan] at hc
        exact absurd hc (loopHead_not_won _ _ winner details)
      | some won =>
        rw [hscan] at hne
        exact fastPath_drained _ _ _ _ hne
  | concluded _ _ =>
    obtain ⟨reason, hreason⟩ := conclude_failure f
    simp [hreason] at hc
  | unwound _ =>
    unfold unwind at hc
    split at hc <;> simp at hc
  | raised e _ _ => simp at hc

end

/-- A call that starts does not win at once. -/
theorem started_not_won {l : EventLoop} {b : StartEvent} {r : EventLoop × Frame}
    (h : Started l b r) (winner : String) (details : RelayResult) :
    r.2.control ≠ .returned (.success winner details) := by
  cases h with
  | called critical timeoutSec delay _ => exact runRelayers_not_won _ _ _ _ winner details
  | dispatched executor timeoutMs delay s _ => exact runRelayers_not_won _ _ _ _ winner details

/-- **No orphaned task**, over every schedule of any calls: the registry in every reachable state,
and what a call leaves at the step `e` at which it ends. The drain of the losers is one task, which
stays in the registry until it finishes. -/
theorem no_orphans (now resolution : ℚ) (before : Schedule)
    (e : Transact.PoolEvent LoopEvent StartEvent MoveEvent) (i : Nat) (f : Frame)
    (hf : (system.exec (start now resolution) (before ++ [e])).2[i]? = some f)
    (hend : f.control.Ended)
    (hbefore : ∀ f₀, (system.exec (start now resolution) before).2[i]? = some f₀ →
      ¬ f₀.control.Ended) :
    (∀ events, (system.exec (start now resolution) events).1.Registered) ∧
    (∀ t ∈ f.criticalTasks,
      (system.exec (start now resolution) (before ++ [e])).1.finished t = true ∨
      (system.exec (start now resolution) (before ++ [e])).1.cancelRequested t = true) ∧
    (∀ reason, f.control = .returned (.failure reason) → ∀ t ∈ f.criticalTasks,
      (system.exec (start now resolution) (before ++ [e])).1.finished t = true) ∧
    (∀ winner details, f.control = .returned (.success winner details) → ∀ t ∈ f.criticalTasks,
      (system.exec (start now resolution) (before ++ [e])).1.finished t = false →
      ∃ d, (system.exec (start now resolution) (before ++ [e])).1.Awaits d t ∧
        (system.exec (start now resolution) (before ++ [e])).1.finished d = false ∧
        d ∈ (system.exec (start now resolution) (before ++ [e])).1.background ∧
        ∀ after : Schedule,
          (system.exec (start now resolution) (before ++ [e] ++ after)).1.finished d = false →
          d ∈ (system.exec (start now resolution) (before ++ [e] ++ after)).1.background) := by
  have hok : FrameOk (system.exec (start now resolution) (before ++ [e])).1 f :=
    run_ok _ (before ++ [e]) hf
  refine ⟨registered_run now resolution, ended_settled hok hend,
    fun reason hc => failed_gathered hok hc, fun winner details hc t ht hunfinished => ?_⟩
  have hpending : t ∈ f.pending := by
    rcases hok.core.finished_or_pending ht with hfin | hpending
    · rw [hunfinished] at hfin
      cases hfin
    · exact hpending
  obtain ⟨d, hmem, hrun, hall⟩ : ∃ d,
      d ∈ (system.exec (start now resolution) (before ++ [e])).1.background ∧
      (system.exec (start now resolution) (before ++ [e])).1.finished d = false ∧
      ∀ t ∈ f.pending, (system.exec (start now resolution) (before ++ [e])).1.Awaits d t := by
    rw [Transact.Machine.exec_concat] at hf ⊢
    cases hs : system.step (system.exec (start now resolution) before) e with
    | error err =>
      rw [Transact.Machine.next_error hs] at hf
      exact absurd hend (hbefore f hf)
    | ok r =>
      obtain ⟨s', u⟩ := r
      rw [Transact.Machine.next_ok hs] at hf ⊢
      cases Transact.Pool.component_ok hs hf with
      | kept hk => exact absurd hend (hbefore f hk)
      | started b _ _ hb => exact absurd hc (started_not_won (startEvent_ok hb) winner details)
      | moved c k _ _ hm =>
        exact won_drained (moveEvent_ok hm) hc (List.ne_nil_of_mem hpending)
  refine ⟨d, hall t hpending, hrun, hmem, fun after hlater => ?_⟩
  have hevolves := calls_evolve.run (system.exec (start now resolution) (before ++ [e])) after
  have hregistered := registered_run now resolution (before ++ [e] ++ after)
  rw [Transact.Machine.exec_append] at hlater hregistered ⊢
  exact hregistered.awaits (hevolves.awaits (hall t hpending)) hlater

/-- Two relayers: the second one wins while the first one runs. -/
def wonSchedule : Schedule :=
  [.shared (.spawn "ny"), .shared (.spawn "slc"), .start (.runRelayers [0, 1] 1 0),
    .shared (.finish 1 (.dict { success := true, region := some "slc" }))]

theorem no_orphans_sample :
    ∃ d, d ∈ (system.exec (start 0 0) (wonSchedule ++ [.move 0 (.wake [1] 0)])).1.background ∧
      (system.exec (start 0 0) (wonSchedule ++ [.move 0 (.wake [1] 0)])).1.Awaits d 0 := by
  obtain ⟨f, hf, hfields⟩ := Option.map_eq_some_iff.mp
    (show ((system.exec (start 0 0) (wonSchedule ++ [.move 0 (.wake [1] 0)])).2[0]?).map
        (fun f => (f.criticalTasks, f.control)) = some ([0, 1],
          .returned (.success "slc" { success := true, region := some "slc" })) by decide +kernel)
  obtain ⟨hcritical, hcontrol⟩ := Prod.mk.inj hfields
  have hend : f.control.Ended := by
    rw [hcontrol]
    trivial
  have hwaiting : ((system.exec (start 0 0) wonSchedule).2[0]?).map (·.control) =
      some .waiting := by decide +kernel
  obtain ⟨-, -, -, hwon⟩ := no_orphans 0 0 wonSchedule (.move 0 (.wake [1] 0)) 0 f hf hend (by
    intro f₀ hf₀ hended
    rw [hf₀] at hwaiting
    have hcontrol₀ : f₀.control = .waiting := Option.some.inj hwaiting
    rw [hcontrol₀] at hended
    exact hended)
  obtain ⟨d, hawaits, -, hmem, -⟩ := hwon _ _ hcontrol 0 (by rw [hcritical]; simp)
    (by decide +kernel)
  exact ⟨d, hmem, hawaits⟩

end Relayer
end SolanaGuardian
