import SolanaGuardian.Relayer.Sound

/-!
# Lost ACKs

An ACK reaches the caller only through a wake-up of the loop. What finishes while the call gathers
its cancelled tasks is discarded. `AckSafe` says of one step that it loses no ACK that way, and
`no_lost_ack_iff` that these are the only losses: a returned call has reported every ACK exactly if
every step of the run was safe for it. `lost_ack` is a run with a loss.

The induction carries `AckOk`: at each place of a call, what the steps so far have to do with the
ACKs of its critical tasks. While it waits, and when it wins, no step has lost one. From the
`gather` on, no step has lost one exactly if there is none.
-/

namespace SolanaGuardian
namespace Relayer

/-- The step loses no ACK of the call `i`: when the call starts with its time already over, none of
its tasks has an ACK, and none finishes with one while the call gathers them. -/
def AckSafe (i : Nat) (s : EventLoop × List Frame) :
    Transact.PoolEvent LoopEvent StartEvent MoveEvent → Prop
  | .start (.runRelayers criticalTasks timeoutSec delay) =>
    i = s.2.length → timeoutSec ≤ delay → s.1.NoAck criticalTasks
  | .shared (.finish t o) =>
    ∀ f, s.2[i]? = some f → f.control = .gathering → t ∈ f.pending → o.ack = none
  | _ => True

/-! ## ACKs and steps -/

theorem ack_prims {l l' : EventLoop} (h : Prims l l') (t : TaskId) : l'.ack t = l.ack t := by
  rw [EventLoop.ack, EventLoop.ack, EventLoop.outcome_prims h]

theorem noAck_prims {l l' : EventLoop} (h : Prims l l') (tasks : List TaskId) :
    l'.NoAck tasks ↔ l.NoAck tasks := by
  simp only [EventLoop.NoAck, ack_prims h]

theorem ack_unfinished {l : EventLoop} {t : TaskId} (h : l.finished t = false) :
    l.ack t = none := by
  have hnone : l.outcome t = none := Option.isSome_eq_false_iff.mp h |> Option.isNone_iff_eq_none.mp
  rw [EventLoop.ack, hnone]
  rfl

theorem ack_finish {l : EventLoop} {t : TaskId} (ht : t < l.tasks.length) (o : Outcome)
    (s : TaskId) : (l.finish t o).ack s = if t = s then o.ack else l.ack s := by
  rw [EventLoop.ack, EventLoop.outcome_finish ht]
  split <;> rfl

/-- Only unfinished tasks are pending after a wake-up. -/
theorem afterWait_pending (l : EventLoop) (f : Frame) (done : List TaskId) (delay : ℚ) :
    ∀ t ∈ (afterWait l f done delay).2.pending, l.finished t = false := by
  have hfilter : (afterWait l f done delay).2.pending = f.pending.filter fun t => !l.finished t := by
    unfold afterWait
    dsimp only
    split
    · exact (afterLoop_sets _ _).2
    · split
      · rfl
      · exact (loopHead_sets _ _).2
  intro t ht
  rw [hfilter] at ht
  simpa using (List.mem_filter.mp ht).2

theorem runRelayers_critical (l : EventLoop) (critical : List TaskId) (timeoutSec delay : ℚ) :
    (runRelayers l critical timeoutSec delay).2.criticalTasks = critical := by
  unfold runRelayers
  dsimp only
  split
  · rfl
  · exact (loopHead_sets _ _).1

/-- A call that starts with its time already over cancels its tasks at once. -/
theorem runRelayers_control (l : EventLoop) {critical : List TaskId} {timeoutSec delay : ℚ}
    (hne : critical ≠ []) : (runRelayers l critical timeoutSec delay).2.control =
      if timeoutSec ≤ delay then .gathering else .waiting := by
  have hdedup : critical.dedup ≠ [] := by simpa using hne
  have htime : l.now + timeoutSec - (l.advance delay).now ≤ 0 ↔ timeoutSec ≤ delay := by
    simp only [EventLoop.advance]
    constructor <;> intro h <;> linarith
  simp only [runRelayers, loopHead, afterLoop, hne, hdedup, htime, if_false]
  split <;> rfl

/-- The critical tasks are the processed and the pending ones. -/
theorem Core.noAck {l : EventLoop} {f : Frame} (h : Core l f) (hno : l.NoAck f.wakeUps.flatten)
    (hpending : l.NoAck f.pending) : l.NoAck f.criticalTasks := by
  intro t ht
  rcases h.processed_or_pending ht with ht | ht
  · exact hno t ht
  · exact hpending t ht

/-! ## The invariant -/

/-- What the steps so far (`safe`: none of them lost an ACK) have to do with the ACKs of a call. -/
def AckOk (l : EventLoop) (f : Frame) (safe : Prop) : Prop :=
  match f.control with
  | .waiting => safe
  | .gathering => safe ↔ l.NoAck f.criticalTasks
  | .returned (.failure _) => safe ↔ l.NoAck f.criticalTasks
  | .returned (.success _ _) => safe
  | .unwinding => True
  | .raised => True

section

variable {l l' : EventLoop} {f : Frame} {safe : Prop}

/-- A place of the call without ACKs. -/
theorem AckOk.of_noAck (hsafe : safe) (hno : l.NoAck f.criticalTasks) : AckOk l f safe := by
  unfold AckOk
  split <;> simp [hsafe, hno]

theorem AckOk.prims (h : AckOk l f safe) (hp : Prims l l') : AckOk l' f safe := by
  unfold AckOk at h ⊢
  simp only [noAck_prims hp]
  exact h

/-- A task finishes while the call is where it is. -/
theorem AckOk.finish {t : TaskId} {o : Outcome} (h : AckOk l f safe) (hok : FrameOk l f)
    (ht : t < l.tasks.length) (hnone : l.outcome t = none) :
    AckOk (l.finish t o) f (safe ∧ (f.control = .gathering → t ∈ f.pending → o.ack = none)) := by
  have hcore := hok.core
  have hunfinished : l.finished t = false := by rw [EventLoop.finished, hnone]; rfl
  have hack : l.ack t = none := ack_unfinished hunfinished
  have hnew : ∀ x, (l.finish t o).ack x = if t = x then o.ack else l.ack x := ack_finish ht o
  -- A critical task that is unfinished is pending.
  have hpending : t ∈ f.criticalTasks → t ∈ f.pending := by
    intro hmem
    rcases hcore.processed_or_pending hmem with hmem | hmem
    · rw [hcore.processed t hmem] at hunfinished
      cases hunfinished
    · exact hmem
  have hcontrol := hok.control
  unfold AckOk at h ⊢
  unfold ControlOk at hcontrol
  cases hc : f.control with
  | waiting =>
    rw [hc] at h
    exact ⟨h, by simp⟩
  | unwinding => trivial
  | raised => trivial
  | gathering =>
    rw [hc] at h
    constructor
    · rintro ⟨hsafe, hlost⟩ x hx
      rw [hnew]
      split
      · rename_i heq
        subst heq
        exact hlost rfl (hpending hx)
      · exact h.mp hsafe x hx
    · intro hno
      refine ⟨h.mpr fun x hx => ?_, fun _ hmem => ?_⟩
      · by_cases heq : t = x
        · rw [← heq]
          exact hack
        · have hx' := hno x hx
          rw [hnew, if_neg heq] at hx'
          exact hx'
      · have ht' := hno t (hcore.pending_sub t hmem)
        rw [hnew, if_pos rfl] at ht'
        exact ht'
  | returned response =>
    rw [hc] at h hcontrol
    cases response with
    | success winner details => exact ⟨h, by simp⟩
    | failure reason =>
      -- Everything has finished when a failure is returned.
      have hother : ∀ x ∈ f.criticalTasks, t ≠ x := by
        rintro x hx rfl
        rw [hcontrol.2.1 t (hpending hx)] at hunfinished
        cases hunfinished
      have hsame : (l.finish t o).NoAck f.criticalTasks ↔ l.NoAck f.criticalTasks := by
        constructor
        · intro hno x hx
          have hx' := hno x hx
          rw [hnew, if_neg (hother x hx)] at hx'
          exact hx'
        · intro hno x hx
          rw [hnew, if_neg (hother x hx)]
          exact hno x hx
      simp only [hsame, reduceCtorEq, false_imp_iff, and_true]
      exact h

/-- A call starts. -/
theorem AckOk.start {i : Nat} {s : EventLoop × List Frame} {b : StartEvent}
    {r : EventLoop × Frame} (hi : i = s.2.length) (h : Started s.1 b r) (hsafe : safe) :
    AckOk r.1 r.2 (safe ∧ AckSafe i s (.start b)) := by
  cases h with
  | dispatched executor timeoutMs delay c hc =>
    -- The tasks that `dispatch` created have not run yet.
    refine AckOk.of_noAck ⟨hsafe, trivial⟩ ?_
    rw [runRelayers_critical, noAck_prims (prims_runRelayers _ _ _ _)]
    exact fun t ht => ack_unfinished (hc.unfinished t ht)
  | called critical timeoutSec delay _ =>
    have hp := prims_runRelayers s.1 critical timeoutSec delay
    by_cases hnil : critical = []
    · have hnone : s.1.NoAck critical := by
        rw [hnil]
        simp [EventLoop.NoAck]
      refine AckOk.of_noAck ⟨hsafe, fun _ _ => hnone⟩ ?_
      rw [runRelayers_critical, noAck_prims hp]
      exact hnone
    · rw [AckOk, runRelayers_control s.1 hnil]
      by_cases hlate : timeoutSec ≤ delay
      · rw [if_pos hlate]
        have hiff : (safe ∧ AckSafe i s (.start (.runRelayers critical timeoutSec delay))) ↔
            s.1.NoAck critical := ⟨fun h => h.2 hi hlate, fun h => ⟨hsafe, fun _ _ => h⟩⟩
        simp only [runRelayers_critical, noAck_prims hp]
        exact hiff
      · rw [if_neg hlate]
        exact ⟨hsafe, fun _ h => absurd h hlate⟩

/-- A call goes on. -/
theorem AckOk.move {e : MoveEvent} {r : EventLoop × Frame} (h : AckOk l f safe)
    (hok : FrameOk l f) (hm : Moved l f e r) : AckOk r.1 r.2 safe := by
  have hok' := moved_ok hok hm
  cases hm with
  | wake done delay hc hdone =>
    have hsafe : safe := by
      unfold AckOk at h
      rw [hc] at h
      exact h
    have hp := prims_afterWait l f done delay
    have hpending : (afterWait l f done delay).1.NoAck (afterWait l f done delay).2.pending := by
      intro t ht
      rw [ack_prims hp]
      exact ack_unfinished (afterWait_pending l f done delay t ht)
    have hcontrol := hok'.control
    have hno := fun hflatten => hok'.core.noAck hflatten hpending
    unfold AckOk
    unfold ControlOk at hcontrol
    split
    · exact hsafe
    · rename_i hc'
      rw [hc'] at hcontrol
      exact ⟨fun _ => hno hcontrol.1, fun _ => hsafe⟩
    · rename_i hc'
      rw [hc'] at hcontrol
      exact ⟨fun _ => hno hcontrol.1, fun _ => hsafe⟩
    · exact hsafe
    · trivial
    · trivial
  | concluded hc hall =>
    obtain ⟨reason, hreason⟩ := conclude_failure f
    unfold AckOk at h
    rw [hc] at h
    simp only [AckOk, hreason]
    exact h
  | unwound hc =>
    simp only [AckOk, unwind]
    split_ifs <;> trivial
  | raised e hc hall => trivial

end

/-- **Step.** -/
theorem ackOk_step {i : Nat} {s s' : EventLoop × List Frame}
    {e : Transact.PoolEvent LoopEvent StartEvent MoveEvent} {u : Unit} {safe : Prop}
    (h : system.step s e = .ok (s', u)) (hok : ∀ f, s.2[i]? = some f → FrameOk s.1 f)
    (hack : ∀ f, s.2[i]? = some f → AckOk s.1 f safe) (habsent : s.2[i]? = none → safe) :
    (∀ f, s'.2[i]? = some f → AckOk s'.1 f (safe ∧ AckSafe i s e)) ∧
    (s'.2[i]? = none → safe ∧ AckSafe i s e) := by
  constructor
  · intro f hf
    cases Transact.Pool.component_ok h hf with
    | kept hk =>
      have hlt : i < s.2.length := (List.getElem?_eq_some_iff.mp hk).1
      rcases step_loop h with ⟨t, o, rfl, ht, hnone, heq⟩ | ⟨hne, hp⟩
      · have hsafe : AckSafe i s (.shared (.finish t o)) ↔
            (f.control = .gathering → t ∈ f.pending → o.ack = none) := by
          simp only [AckSafe, hk, Option.some.injEq, forall_eq']
        rw [heq, hsafe]
        exact (hack f hk).finish (hok f hk) ht hnone
      · have hsafe : AckSafe i s e := by
          unfold AckSafe
          split
          · intro hi
            omega
          · rename_i t o
            exact absurd rfl (hne t o)
          · trivial
        simp only [hsafe, and_true]
        exact (hack f hk).prims hp
    | started b he hi hb =>
      subst he
      have hnone : s.2[i]? = none := List.getElem?_eq_none (by omega)
      exact AckOk.start hi (startEvent_ok hb) (habsent hnone)
    | moved c k he hk hm =>
      subst he
      have hsafe : AckSafe i s (.move i c) := trivial
      simp only [hsafe, and_true]
      exact (hack k hk).move (hok k hk) (moveEvent_ok hm)
  · intro hnone
    obtain ⟨hbefore, hstart⟩ := Transact.Pool.missing_ok h hnone
    refine ⟨habsent hbefore, ?_⟩
    unfold AckSafe
    split
    · intro hi
      exact absurd hi (hstart _ rfl)
    · intro f hf
      rw [hbefore] at hf
      cases hf
    · trivial

/-- **Run.** -/
theorem ackOk_run (s : EventLoop) (events : Schedule) (i : Nat) :
    (∀ f, (system.exec (s, []) events).2[i]? = some f →
      AckOk (system.exec (s, []) events).1 f (system.AllSteps (AckSafe i) (s, []) events)) ∧
    ((system.exec (s, []) events).2[i]? = none → system.AllSteps (AckSafe i) (s, []) events) := by
  induction events using List.reverseRecOn with
  | nil => exact ⟨by simp, fun _ => trivial⟩
  | append_singleton events e ih =>
    rw [Transact.Machine.exec_concat, Transact.Machine.allSteps_concat]
    cases hs : system.step (system.exec (s, []) events) e with
    | error err =>
      rw [Transact.Machine.next_error hs]
      simpa using ih
    | ok r =>
      obtain ⟨s', u⟩ := r
      rw [Transact.Machine.next_ok hs]
      have hstep := ackOk_step hs (fun f hf => run_ok s events hf) ih.1 ih.2
      simpa using hstep

/-- **When no ACK is lost.** A call that returned, in any schedule of any calls: it reported a
success if one of its critical tasks finished with an ACK, exactly if every step was safe for it.
After a failure every critical task has finished, so an ACK at the end of the run was there when
the call returned. -/
theorem no_lost_ack_iff (now resolution : ℚ) (events : Schedule) (i : Nat) (f : Frame)
    (response : Response) (hf : (system.exec (start now resolution) events).2[i]? = some f)
    (hc : f.control = .returned response) :
    ((∃ t ∈ f.criticalTasks, (system.exec (start now resolution) events).1.ack t ≠ none) →
        response.isSuccess = true) ↔
      system.AllSteps (AckSafe i) (start now resolution) events := by
  have hack := (ackOk_run _ events i).1 f hf
  unfold AckOk at hack
  rw [hc] at hack
  cases response with
  | success winner details => exact ⟨fun _ => hack, fun _ _ => rfl⟩
  | failure reason =>
    have hnone : (∃ t ∈ f.criticalTasks,
        (system.exec (start now resolution) events).1.ack t ≠ none) ↔
        ¬ (system.exec (start now resolution) events).1.NoAck f.criticalTasks := by
      simp [EventLoop.NoAck]
    have hfalse : ¬ (Response.failure reason).isSuccess = true := by simp [Response.isSuccess]
    rw [hnone]
    constructor
    · intro h
      by_contra hunsafe
      exact hfalse (h fun hno => hunsafe (hack.mpr hno))
    · intro hsafe hlost
      exact absurd (hack.mp hsafe) hlost

theorem no_lost_ack_sample : system.AllSteps (AckSafe 0) (start 0 0) sampleSchedule := by
  obtain ⟨f, hf, hcontrol⟩ := Option.map_eq_some_iff.mp
    (show ((system.exec (start 0 0) sampleSchedule).2[0]?).map (·.control) = some
      (.returned (.success "slc" { success := true, region := some "slc" })) by decide +kernel)
  exact (no_lost_ack_iff 0 0 sampleSchedule 0 f _ hf hcontrol).mp fun _ => rfl

/-- The timer fires, the relayer is cancelled, and it finishes with an ACK nevertheless. -/
def lostSchedule : Schedule :=
  [.shared (.spawn "ny"), .start (.runRelayers [0] 1 0), .shared (.advance 1), .move 0 (.wake [] 0),
    .shared (.finish 0 (.dict { success := true, region := some "ny" })), .move 0 .gathered]

/-- **A lost ACK.** The bundle was acknowledged before the call returned, and the call reports a
timeout without an ACK. -/
theorem lost_ack :
    ((system.exec (start 0 0) lostSchedule).2[0]?).map (fun f => (f.criticalTasks, f.control)) =
      some ([0], .returned (.failure (.timeout 1 []))) ∧
    (system.exec (start 0 0) lostSchedule).1.ack 0 =
      some { success := true, region := some "ny" } ∧
    (FailureReason.timeout 1 []).text = "Timeout 1000ms alcanzado sin ACK exitoso" := by
  refine ⟨?_, ?_, ?_⟩
  · decide +kernel
  · decide +kernel
  · decide +kernel

end Relayer
end SolanaGuardian
