import SolanaGuardian.Relayer.Cancel
import SolanaGuardian.Relayer.Jobs

/-!
# What `dispatch` returns

The channels alone decide what a call of `dispatch` can return, over every schedule of any calls:
its tasks finish with what `_send_raw_bundle` says of their region (`Task.Honest`), and nobody but its
own call and its callers cancels them (`CancelledBy`).

* `dispatch_result`: who can win, what each error line says, and when all can fail.
* `fire_and_forget`: the send to a background region, which no call of `dispatch` awaits or cancels.
-/

namespace SolanaGuardian
namespace Relayer

/-- The error lines of a failure. -/
def FailureReason.errors : FailureReason → List String
  | .noCriticalTasks => []
  | .allFailed errors => errors
  | .timeout _ errors => errors

section

variable {executor : Executor} {l : EventLoop} {f : Frame} {region : String}

theorem job_name {t : TaskId} (h : l.job t = some (executor.job region)) : l.name t = region := by
  obtain ⟨a, ha, hjob⟩ := Option.map_eq_some_iff.mp h
  rw [EventLoop.name, ha]
  exact congrArg Job.name hjob

/-- A send succeeds on a channel that is a true value. -/
theorem sendRawBundle_success (h : (sendRawBundle executor region).success = true) :
    executor.channels.lookup region = some true ∧
      sendRawBundle executor region = { region := some region, success := true, error := none } := by
  unfold sendRawBundle at h ⊢
  split at h
  · rename_i hlookup
    rw [if_pos hlookup]
    exact ⟨hlookup, rfl⟩
  · cases h

theorem sendRawBundle_live (h : executor.channels.lookup region = some true) :
    (sendRawBundle executor region).success = true := by
  rw [sendRawBundle, if_pos h]

/-- The error line of a send. -/
theorem sendRawBundle_line {line : String}
    (h : (Outcome.dict (sendRawBundle executor region)).errorLine region = some line) :
    executor.channels.lookup region ≠ some true ∧
      line = region ++ ": " ++ "Canal no inicializado" := by
  unfold sendRawBundle at h
  split at h
  · cases h
  · rename_i hlookup
    cases h
    exact ⟨hlookup, rfl⟩

/-- The error lines of a failure are those of processed tasks. -/
theorem FrameOk.failure_errors (hok : FrameOk l f) {reason : FailureReason}
    (hc : f.control = .returned (.failure reason)) {line : String} (hline : line ∈ reason.errors) :
    ∃ t ∈ f.criticalTasks, ∃ o, l.outcome t = some o ∧ o.errorLine (l.name t) = some line := by
  have hcontrol := hok.control
  rw [ControlOk, hc] at hcontrol
  have herrors : line ∈ f.errors := by
    rcases hcontrol.2.2 with ⟨-, rfl⟩ | hconclude
    · cases hline
    · unfold conclude at hconclude
      split at hconclude
      · cases hconclude
        exact hline
      · cases hconclude
        exact hline
  rw [hok.core.errors] at herrors
  obtain ⟨t, ht, herror⟩ := List.mem_filterMap.mp herrors
  obtain ⟨o, ho, hline⟩ := Option.bind_eq_some_iff.mp herror
  have hcritical : t ∈ f.criticalTasks.dedup := hok.core.perm.subset (List.mem_append_left _ ht)
  exact ⟨t, List.mem_dedup.mp hcritical, o, ho, hline⟩

/-- A failure without critical tasks is that of a call that has none. -/
theorem Raced.noCriticalTasks_iff (h : Raced executor l f) (hok : FrameOk l f)
    {reason : FailureReason} (hc : f.control = .returned (.failure reason)) :
    reason = .noCriticalTasks ↔ executor.racing = [] := by
  have hnil : f.criticalTasks = [] ↔ executor.racing = [] := by
    constructor
    · intro hnil
      refine List.eq_nil_iff_forall_not_mem.mpr fun region hregion => ?_
      obtain ⟨t, ht, -⟩ := h.tasks.task region hregion
      rw [hnil] at ht
      cases ht
    · intro hnil
      refine List.eq_nil_iff_forall_not_mem.mpr fun t ht => ?_
      obtain ⟨region, hregion, -⟩ := h.tasks.region t ht
      rw [hnil] at hregion
      cases hregion
  rw [← hnil]
  constructor
  · rintro rfl
    have hcontrol := hok.control
    rw [ControlOk, hc] at hcontrol
    rcases hcontrol.2.2 with ⟨hnil, -⟩ | hconclude
    · exact hnil
    · unfold conclude at hconclude
      split at hconclude <;> cases hconclude
  · intro hnil
    rw [h.empty hnil] at hc
    cases hc
    rfl

/-- The winner of a dispatch. -/
theorem Raced.success (h : Raced executor l f) (hok : FrameOk l f) (hhonest : l.Honest)
    {winner : String} {details : RelayResult}
    (hc : f.control = .returned (.success winner details)) :
    winner ∈ executor.criticalRegions ∧ executor.channels.lookup winner = some true ∧
      details = { region := some winner, success := true, error := none } := by
  have hcontrol := hok.control
  rw [ControlOk, hc] at hcontrol
  obtain ⟨-, pre, done, t, hwake, -, ht, hack, hname⟩ := hcontrol
  have hcritical : t ∈ f.criticalTasks.dedup := by
    refine hok.core.perm.subset (List.mem_append_left _ ?_)
    rw [hwake]
    simp [ht]
  obtain ⟨region, hregion, hjob⟩ := h.tasks.region t (List.mem_dedup.mp hcritical)
  obtain ⟨o, ho, hres⟩ := Option.bind_eq_some_iff.mp hack
  rcases hhonest.outcome hjob (by simp) ho with rfl | ⟨rfl, -⟩
  · unfold Outcome.ack at hres
    dsimp only at hres
    split at hres
    · rename_i hsuccess
      obtain ⟨hlookup, hsend⟩ := sendRawBundle_success hsuccess
      cases hres
      rw [hsend] at hname ⊢
      subst hname
      exact ⟨(List.mem_filter.mp hregion).1, hlookup, rfl⟩
    · cases hres
  · cases hres

/-- The error lines of a dispatch: regions whose channel is a false value. -/
theorem Raced.errors (h : Raced executor l f) (hok : FrameOk l f) (hhonest : l.Honest)
    {reason : FailureReason} (hc : f.control = .returned (.failure reason)) {line : String}
    (hline : line ∈ reason.errors) :
    ∃ region ∈ executor.criticalRegions, executor.channels.lookup region = some false ∧
      line = region ++ ": " ++ "Canal no inicializado" := by
  obtain ⟨t, ht, o, ho, herror⟩ := hok.failure_errors hc hline
  obtain ⟨region, hregion, hjob⟩ := h.tasks.region t ht
  obtain ⟨hmem, hchannel⟩ := List.mem_filter.mp hregion
  rw [job_name hjob] at herror
  rcases hhonest.outcome hjob (by simp) ho with rfl | ⟨rfl, -⟩
  · obtain ⟨hdead, hline⟩ := sendRawBundle_line herror
    refine ⟨region, hmem, ?_, hline⟩
    unfold Executor.hasChannel at hchannel
    cases hlookup : executor.channels.lookup region with
    | none => rw [hlookup] at hchannel; cases hchannel
    | some live =>
      cases live with
      | false => rfl
      | true => exact absurd hlookup hdead
  · cases herror

/-- When all have failed, the task of a live channel was asked to cancel, and not by this call. -/
theorem Raced.allFailed (h : Raced executor l f) (hok : FrameOk l f) (hhonest : l.Honest)
    {errors : List String} (hc : f.control = .returned (.failure (.allFailed errors)))
    (hregion : region ∈ executor.criticalRegions)
    (hlive : executor.channels.lookup region = some true) :
    f.asked = [] ∧ ∃ t ∈ f.criticalTasks, l.cancelRequested t = true := by
  have hcontrol := hok.control
  rw [ControlOk, hc] at hcontrol
  obtain ⟨hno, -, hreason⟩ := hcontrol
  have hpending : f.pending = [] := by
    rcases hreason with ⟨-, hreason⟩ | hreason
    · cases hreason
    · unfold conclude at hreason
      split at hreason
      · rename_i hnil
        exact hnil.1
      · cases hreason
  have hracing : region ∈ executor.racing :=
    List.mem_filter.mpr ⟨hregion, by rw [Executor.hasChannel, hlive]; rfl⟩
  obtain ⟨t, ht, hjob⟩ := h.tasks.task region hracing
  have hprocessed : t ∈ f.wakeUps.flatten := by
    rcases hok.core.processed_or_pending ht with hmem | hmem
    · exact hmem
    · rw [hpending] at hmem
      cases hmem
  refine ⟨?_, t, ht, ?_⟩
  · unfold Frame.asked
    split
    · rfl
    · exact hpending
  · obtain ⟨o, ho⟩ := Option.isSome_iff_exists.mp (hok.core.processed t hprocessed)
    rcases hhonest.outcome hjob (by simp) ho with rfl | ⟨-, hasked⟩
    · have hack := hno t hprocessed
      rw [EventLoop.ack, ho, Option.bind_some, Outcome.ack, if_pos (sendRawBundle_live hlive)] at hack
      cases hack
    · exact hasked

end

/-- A dispatch starts. -/
theorem dispatch_step (s : EventLoop × List Frame) (executor : Executor) (timeoutMs : ℚ) {delay : ℚ}
    (hdelay : 0 ≤ delay) :
    system.next s (.start (.dispatch executor timeoutMs delay)) =
      ((dispatch s.1 executor timeoutMs delay).1,
        s.2 ++ [(dispatch s.1 executor timeoutMs delay).2]) := by
  have hstep : system.step s (.start (.dispatch executor timeoutMs delay)) =
      .ok (((dispatch s.1 executor timeoutMs delay).1,
        s.2 ++ [(dispatch s.1 executor timeoutMs delay).2]), ()) := by
    simp [system, Transact.Pool.machine, calls, StartEvent.step, ensure, hdelay, bind, Except.bind,
      Except.map]
  exact Transact.Machine.next_ok hstep

/-- What the call of a dispatch has from its start on. -/
theorem dispatch_kept (s : EventLoop × List Frame) (executor : Executor) (timeoutMs delay : ℚ)
    (hdelay : 0 ≤ delay) (after : Schedule) {f : Frame}
    (hf : (system.exec s (.start (.dispatch executor timeoutMs delay) :: after)).2[s.2.length]? =
      some f) :
    Raced executor (system.exec s (.start (.dispatch executor timeoutMs delay) :: after)).1 f := by
  rw [Transact.Machine.exec_cons, dispatch_step s executor timeoutMs hdelay] at hf ⊢
  obtain ⟨f', hf', hraced⟩ := calls_keepJobs.kept (I := Raced executor) Raced.stable
    (fun hraced hm => raced_move hraced (moveEvent_ok hm)
      (EventLoop.keepsJobs_prims (moveEvent_prims hm)))
    (s := ((dispatch s.1 executor timeoutMs delay).1,
      s.2 ++ [(dispatch s.1 executor timeoutMs delay).2]))
    List.getElem?_concat_length (dispatch_raced s.1 executor timeoutMs delay) after
  rw [hf'] at hf
  cases hf
  exact hraced

/-- **What a dispatch returns**, over every schedule of any calls: the winner is a critical region whose
channel is a true value; it reports no critical tasks exactly if no critical region has a channel; its
error lines are those of regions whose channel is a false value; and it reports that all have failed,
in spite of a live channel, only if someone else cancelled a task of it. -/
theorem dispatch_result (now resolution : ℚ) (before after : Schedule) (executor : Executor)
    (timeoutMs delay : ℚ) (hdelay : 0 ≤ delay) (f : Frame)
    (hf : (system.exec (start now resolution)
        (before ++ .start (.dispatch executor timeoutMs delay) :: after)).2[
      (system.exec (start now resolution) before).2.length]? = some f) :
    (∀ winner details, f.control = .returned (.success winner details) →
      winner ∈ executor.criticalRegions ∧ executor.channels.lookup winner = some true ∧
        details = { region := some winner, success := true, error := none }) ∧
    (∀ reason, f.control = .returned (.failure reason) →
      (reason = .noCriticalTasks ↔ executor.racing = []) ∧
      ∀ line ∈ reason.errors, ∃ region ∈ executor.criticalRegions,
        executor.channels.lookup region = some false ∧
          line = region ++ ": " ++ "Canal no inicializado") ∧
    (∀ errors, f.control = .returned (.failure (.allFailed errors)) →
      ∀ region ∈ executor.criticalRegions, executor.channels.lookup region = some true →
      ∃ t ∈ f.criticalTasks,
        .shared (.cancel t) ∈ before ++ .start (.dispatch executor timeoutMs delay) :: after ∨
        ∃ (j : Nat) (g : Frame), j ≠ (system.exec (start now resolution) before).2.length ∧
          (system.exec (start now resolution)
            (before ++ .start (.dispatch executor timeoutMs delay) :: after)).2[j]? = some g ∧
          t ∈ g.criticalTasks) := by
  have hok : FrameOk _ f := run_ok _ _ hf
  have hhonest := honest_run now resolution
    (before ++ .start (.dispatch executor timeoutMs delay) :: after)
  have hraced : Raced executor (system.exec (start now resolution)
      (before ++ .start (.dispatch executor timeoutMs delay) :: after)).1 f := by
    rw [Transact.Machine.exec_append] at hf ⊢
    exact dispatch_kept _ executor timeoutMs delay hdelay after hf
  refine ⟨fun winner details hc => hraced.success hok hhonest hc, fun reason hc =>
    ⟨hraced.noCriticalTasks_iff hok hc, fun line hline => hraced.errors hok hhonest hc hline⟩, ?_⟩
  intro errors hc region hregion hlive
  obtain ⟨hnone, t, ht, hasked⟩ := hraced.allFailed hok hhonest hc hregion hlive
  refine ⟨t, ht, ?_⟩
  rcases cancelledBy_run now resolution _ t hasked with hevent | ⟨j, g, hg, hmem⟩
  · exact .inl hevent
  · refine .inr ⟨j, g, ?_, hg, ?_⟩
    · rintro rfl
      rw [hf] at hg
      cases hg
      rw [hnone] at hmem
      cases hmem
    · exact (run_ok _ _ hg).core.asked_critical t hmem

/-- A channel of the first critical region and one of the background region. -/
def sampleExecutor : Executor := { channels := [("ny", true), ("slc", false), ("fra", true)] }

/-- The dispatch wins with its first region. -/
def dispatchSchedule : Schedule :=
  [.shared (.finish 1 (.dict (sendRawBundle sampleExecutor "ny"))), .move 0 (.wake [1] 0)]

theorem dispatch_result_sample :
    ∃ f, (system.exec (start 0 0)
        ([] ++ .start (.dispatch sampleExecutor 45 0) :: dispatchSchedule)).2[0]? = some f ∧
      f.control = .returned (.success "ny"
        { region := some "ny", success := true, error := none }) ∧
      sampleExecutor.channels.lookup "ny" = some true := by
  obtain ⟨f, hf, hcontrol⟩ := Option.map_eq_some_iff.mp
    (show ((system.exec (start 0 0) ([] ++ .start (.dispatch sampleExecutor 45 0) ::
        dispatchSchedule)).2[0]?).map (·.control) = some (.returned (.success "ny"
          { region := some "ny", success := true, error := none })) by decide +kernel)
  obtain ⟨hwon, -⟩ := dispatch_result 0 0 [] dispatchSchedule sampleExecutor 45 0 (by norm_num) f hf
  exact ⟨f, hf, hcontrol, (hwon _ _ hcontrol).2.1⟩

/-- **Fire and forget.** A dispatch sends to every background region with a channel, over every
schedule of any calls, in a task that was not there before it. Until that send has finished
`_BACKGROUND_TASKS` holds it, and it finishes with its own result, unless a caller cancels it or races
it in a call of its own. -/
theorem fire_and_forget (now resolution : ℚ) (before after : Schedule) (executor : Executor)
    (timeoutMs delay : ℚ) (hdelay : 0 ≤ delay) (bg : String)
    (hbg : bg ∈ executor.backgroundRegions) (hchannel : executor.hasChannel bg = true) :
    ∃ (t : TaskId) (a : Task),
      (system.exec (start now resolution) before).1.tasks.length ≤ t ∧
      (system.exec (start now resolution)
        (before ++ .start (.dispatch executor timeoutMs delay) :: after)).1.tasks[t]? = some a ∧
      a.name = "jito-bg-" ++ bg ∧
      (a.outcome = none → t ∈ (system.exec (start now resolution)
        (before ++ .start (.dispatch executor timeoutMs delay) :: after)).1.background) ∧
      ∀ o, a.outcome = some o → o = .dict (sendRawBundle executor bg) ∨
        o = .cancelled ∧
          (.shared (.cancel t) ∈ before ++ .start (.dispatch executor timeoutMs delay) :: after ∨
            ∃ (i : Nat) (f : Frame), (system.exec (start now resolution)
                (before ++ .start (.dispatch executor timeoutMs delay) :: after)).2[i]? = some f ∧
              t ∈ f.criticalTasks) := by
  obtain ⟨t, hnew, hjob⟩ := dispatch_background hbg hchannel
    (system.exec (start now resolution) before).1 timeoutMs delay
  have hkeeps := calls_keepJobs.run
    (system.next (system.exec (start now resolution) before)
      (.start (.dispatch executor timeoutMs delay))) after
  have hlater : (system.exec (start now resolution)
      (before ++ .start (.dispatch executor timeoutMs delay) :: after)).1.job t =
        some (executor.backgroundJob bg) := by
    rw [Transact.Machine.exec_append, Transact.Machine.exec_cons]
    refine hkeeps t _ ?_
    rw [dispatch_step _ executor timeoutMs hdelay]
    exact hjob
  have hregistered := registered_run now resolution
    (before ++ .start (.dispatch executor timeoutMs delay) :: after)
  have hhonest := honest_run now resolution
    (before ++ .start (.dispatch executor timeoutMs delay) :: after)
  obtain ⟨a, ha, haJob⟩ := Option.map_eq_some_iff.mp hlater
  obtain ⟨hname, hkind, hsends⟩ := Job.mk.inj haJob
  refine ⟨t, a, hnew, ha, hname, fun hnone => (hregistered t a ha (by rw [hkind]; simp)).1 hnone, ?_⟩
  intro o ho
  rcases hhonest t a ha _ hsends (by rw [hkind]; simp) o ho with rfl | ⟨rfl, hasked⟩
  · exact .inl rfl
  · have hrequested : (system.exec (start now resolution)
        (before ++ .start (.dispatch executor timeoutMs delay) :: after)).1.cancelRequested t =
          true := by
      rw [EventLoop.cancelRequested, ha]
      exact hasked
    refine .inr ⟨rfl, ?_⟩
    rcases cancelledBy_run now resolution _ t hrequested with hevent | ⟨i, f, hf, hmem⟩
    · exact .inl hevent
    · exact .inr ⟨i, f, hf, (run_ok _ _ hf).core.asked_critical t hmem⟩

/-- The send to `fra` runs on while the race is won. -/
theorem fire_and_forget_sample :
    ∃ (t : TaskId) (a : Task), (system.exec (start 0 0)
        ([] ++ .start (.dispatch sampleExecutor 45 0) :: dispatchSchedule)).1.tasks[t]? = some a ∧
      a.name = "jito-bg-fra" := by
  obtain ⟨t, a, -, ha, hname, -⟩ := fire_and_forget 0 0 [] dispatchSchedule sampleExecutor 45 0
    (by norm_num) "fra" (by decide) (by decide)
  exact ⟨t, a, ha, hname⟩

end Relayer
end SolanaGuardian
