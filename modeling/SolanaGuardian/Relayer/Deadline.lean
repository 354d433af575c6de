import SolanaGuardian.Relayer.Ack

/-!
# The deadline

The clock never runs backwards and keeps its resolution (`calls_clock`). A call leaves its loop when no
task is pending, or at its deadline, up to that resolution (`Timely`). A wait starts before the
deadline, but a wake-up that comes later still takes what has finished by then.

* `started_timely`, `moved_timely`: the steps of a call. `timely_run` is that for runs.
* `deadline_kept`: so a reported timeout is a real one, or every critical task was cancelled.
-/

namespace SolanaGuardian
namespace Relayer

/-- Time passes. -/
structure EventLoop.Passes (l l' : EventLoop) : Prop where
  now : l.now ≤ l'.now
  resolution : l'.resolution = l.resolution

/-- No time passes. -/
structure EventLoop.SameClock (l l' : EventLoop) : Prop where
  now : l'.now = l.now
  resolution : l'.resolution = l.resolution

section

variable {l l' l'' : EventLoop}

theorem EventLoop.SameClock.trans (h : l.SameClock l') (h' : l'.SameClock l'') : l.SameClock l'' :=
  ⟨h'.now.trans h.now, h'.resolution.trans h.resolution⟩

theorem EventLoop.SameClock.passes (h : l.SameClock l') : l.Passes l' := ⟨h.now.ge, h.resolution⟩

theorem EventLoop.Passes.trans (h : l.Passes l') (h' : l'.Passes l'') : l.Passes l'' :=
  ⟨h.now.trans h'.now, h'.resolution.trans h.resolution⟩

theorem passes_advance {dt : ℚ} (h : 0 ≤ dt) : l.Passes (l.advance dt) :=
  ⟨by simpa [EventLoop.advance] using h, rfl⟩

theorem sameClock_cancelAll (tasks : List TaskId) : l.SameClock (l.cancelAll tasks) := by
  induction tasks generalizing l with
  | nil => exact ⟨rfl, rfl⟩
  | cons t tasks ih =>
    have hfirst : l.SameClock (l.cancelTask t) := ⟨rfl, rfl⟩
    exact hfirst.trans ih

theorem sameClock_afterLoop (l : EventLoop) (f : Frame) : l.SameClock (afterLoop l f).1 := by
  unfold afterLoop
  split
  · exact ⟨rfl, rfl⟩
  · exact sameClock_cancelAll f.pending

theorem sameClock_loopHead (l : EventLoop) (f : Frame) : l.SameClock (loopHead l f).1 := by
  unfold loopHead
  split
  · exact sameClock_afterLoop l f
  split
  · exact sameClock_afterLoop l f
  · exact ⟨rfl, rfl⟩

theorem sameClock_fastPath (l : EventLoop) (f : Frame) (t : TaskId) (res : RelayResult) :
    l.SameClock (fastPath l f t res).1 := by
  have hcancel := sameClock_cancelAll (l := l) f.pending
  unfold fastPath
  dsimp only
  split
  · exact hcancel
  · exact ⟨hcancel.now, hcancel.resolution⟩

theorem sameClock_unwind (l : EventLoop) (f : Frame) : l.SameClock (unwind l f).1 := by
  unfold unwind
  split
  · exact ⟨rfl, rfl⟩
  · exact sameClock_cancelAll f.pending

theorem passes_afterWait (f : Frame) (done : List TaskId) {delay : ℚ} (h : 0 ≤ delay) :
    l.Passes (afterWait l f done delay).1 := by
  unfold afterWait
  dsimp only
  split
  · exact (sameClock_afterLoop l _).passes
  · split
    · exact (sameClock_fastPath l _ _ _).passes
    · exact (passes_advance h).trans (sameClock_loopHead (l.advance delay) _).passes

theorem passes_runRelayers (critical : List TaskId) (timeoutSec : ℚ) {delay : ℚ} (h : 0 ≤ delay) :
    l.Passes (runRelayers l critical timeoutSec delay).1 := by
  unfold runRelayers
  split
  · exact ⟨le_refl _, rfl⟩
  · exact (passes_advance h).trans (sameClock_loopHead (l.advance delay) _).passes

theorem sameClock_background (executor : Executor) (regions : List String) (l : EventLoop) :
    l.SameClock (regions.foldl (dispatchBackground executor) l) := by
  induction regions generalizing l with
  | nil => exact ⟨rfl, rfl⟩
  | cons bg regions ih =>
    have hfirst : l.SameClock (dispatchBackground executor l bg) := by
      unfold dispatchBackground
      split <;> exact ⟨rfl, rfl⟩
    exact hfirst.trans (ih _)

theorem sameClock_critical (executor : Executor) (regions : List String)
    (s : EventLoop × List TaskId) :
    s.1.SameClock (regions.foldl (dispatchCritical executor) s).1 := by
  induction regions generalizing s with
  | nil => exact ⟨rfl, rfl⟩
  | cons region regions ih =>
    have hfirst : s.1.SameClock (dispatchCritical executor s region).1 := by
      unfold dispatchCritical
      split <;> exact ⟨rfl, rfl⟩
    exact hfirst.trans (ih _)

/-- A wake-up without a finished task is the timer. -/
theorem wake_ok {f : Frame} {done : List TaskId} {delay : ℚ} {r : EventLoop × Frame}
    (h : MoveEvent.step l f (.wake done delay) = .ok r) :
    f.control = .waiting ∧ (done = [] → f.deadline ≤ l.now + l.resolution) ∧ 0 ≤ delay ∧
      r = afterWait l f done delay := by
  rw [MoveEvent.step, ensure_bind] at h
  obtain ⟨⟨hc, -, htimer, hdelay⟩, h⟩ := h
  cases h
  exact ⟨hc, fun hnil => htimer.resolve_left (not_not_intro hnil), hdelay, rfl⟩

theorem passes_loopEvent {e : LoopEvent} (h : e.step l = .ok l') : l.Passes l' := by
  cases e with
  | advance dt =>
    rw [LoopEvent.step, ensure_bind] at h
    cases h.2
    exact passes_advance h.1
  | spawn name =>
    cases h
    exact ⟨le_refl _, rfl⟩
  | finish t o =>
    rcases loopEvent_ok h with ⟨t, o, -, -, -, rfl⟩ | ⟨hne, -⟩
    · exact ⟨le_refl _, rfl⟩
    · exact absurd rfl (hne t o)
  | cancel t =>
    cases h
    exact ⟨le_refl _, rfl⟩
  | cleanup t =>
    simp only [LoopEvent.step] at h
    split at h
    · cases h
    · rw [ensure_bind] at h
      cases h.2
      exact ⟨le_refl _, rfl⟩

theorem passes_startEvent {e : StartEvent} {r : EventLoop × Frame} (h : e.step l = .ok r) :
    l.Passes r.1 := by
  cases e with
  | runRelayers critical timeoutSec delay =>
    rw [StartEvent.step, ensure_bind] at h
    obtain ⟨⟨-, hdelay⟩, h⟩ := h
    cases h
    exact passes_runRelayers critical timeoutSec hdelay
  | dispatch executor timeoutMs delay =>
    rw [StartEvent.step, ensure_bind] at h
    obtain ⟨hdelay, h⟩ := h
    cases h
    exact ((sameClock_background executor _ l).trans
      (sameClock_critical executor _ (_, []))).passes.trans (passes_runRelayers _ _ hdelay)

theorem passes_moveEvent {f : Frame} {e : MoveEvent} {r : EventLoop × Frame}
    (h : e.step l f = .ok r) : l.Passes r.1 := by
  cases hm : moveEvent_ok h with
  | wake done delay _ _ =>
    obtain ⟨-, -, hdelay, -⟩ := wake_ok h
    exact passes_afterWait f done hdelay
  | concluded _ _ => exact ⟨le_refl _, rfl⟩
  | unwound _ => exact (sameClock_unwind l f).passes
  | raised _ _ _ => exact ⟨le_refl _, rfl⟩

end

/-- What every call relies on: the clock never runs backwards. -/
theorem calls_clock : Transact.Pool.Guarantee calls EventLoop.Passes where
  refl := fun _ => ⟨le_refl _, rfl⟩
  trans := EventLoop.Passes.trans
  shared := fun h => passes_loopEvent h
  start := fun h => passes_startEvent h
  move := fun h => passes_moveEvent h

/-! ## The end of the loop -/

/-- A call that has left its loop with tasks pending was at its deadline, up to the resolution of the
clock. -/
def Timely (l : EventLoop) (f : Frame) : Prop :=
  match f.control with
  | .gathering => f.deadline ≤ l.now + l.resolution
  | .returned (.failure _) => f.pending ≠ [] → f.deadline ≤ l.now + l.resolution
  | _ => True

section

variable {l l' : EventLoop} {f : Frame}

theorem Timely.stable (h : l.Passes l') (ht : Timely l f) : Timely l' f := by
  have hlater : f.deadline ≤ l.now + l.resolution → f.deadline ≤ l'.now + l'.resolution := by
    intro hdeadline
    rw [h.resolution]
    linarith [h.now]
  unfold Timely at ht ⊢
  split at ht
  · exact hlater ht
  · exact fun hne => hlater (ht hne)
  · trivial

/-- After the loop: the deadline has come, unless nothing is pending. -/
theorem timely_afterLoop (h : f.pending ≠ [] → f.deadline ≤ l.now + l.resolution) :
    Timely (afterLoop l f).1 (afterLoop l f).2 := by
  unfold afterLoop
  split
  · obtain ⟨reason, hreason⟩ := conclude_failure f
    rename_i hnil
    simp only [Timely, hreason]
    exact fun hne => absurd hnil hne
  · rename_i hne
    have hclock := sameClock_cancelAll (l := l) f.pending
    show f.deadline ≤ (l.cancelAll f.pending).now + (l.cancelAll f.pending).resolution
    rw [hclock.now, hclock.resolution]
    exact h hne

/-- At the head of the loop: a wait starts before the deadline. -/
theorem timely_loopHead (hresolution : 0 ≤ l.resolution) :
    Timely (loopHead l f).1 (loopHead l f).2 ∧
      ((loopHead l f).2.control = .waiting → (loopHead l f).1.now < (loopHead l f).2.deadline) := by
  have hafter : (afterLoop l f).2.control ≠ .waiting := by
    unfold afterLoop
    split <;> simp
  unfold loopHead
  split
  · rename_i hnil
    exact ⟨timely_afterLoop fun hne => absurd hnil hne, fun hc => absurd hc hafter⟩
  split
  · rename_i hlate
    exact ⟨timely_afterLoop fun _ => by linarith, fun hc => absurd hc hafter⟩
  · rename_i hearly
    refine ⟨trivial, fun _ => ?_⟩
    show l.now < f.deadline
    linarith

theorem runRelayers_timely (hresolution : 0 ≤ l.resolution) (critical : List TaskId)
    (timeoutSec delay : ℚ) :
    Timely (runRelayers l critical timeoutSec delay).1 (runRelayers l critical timeoutSec delay).2 ∧
      ((runRelayers l critical timeoutSec delay).2.control = .waiting →
        (runRelayers l critical timeoutSec delay).1.now <
          (runRelayers l critical timeoutSec delay).2.deadline) := by
  unfold runRelayers
  split
  · rename_i hnil
    subst hnil
    exact ⟨fun hne => absurd rfl hne, by simp⟩
  · exact timely_loopHead (l := l.advance delay) hresolution

/-- A call starts in time. -/
theorem started_timely {e : StartEvent} {r : EventLoop × Frame} (hresolution : 0 ≤ l.resolution)
    (h : e.step l = .ok r) : Timely r.1 r.2 ∧ (r.2.control = .waiting → r.1.now < r.2.deadline) := by
  cases e with
  | runRelayers critical timeoutSec delay =>
    rw [StartEvent.step, ensure_bind] at h
    cases h.2
    exact runRelayers_timely hresolution critical timeoutSec delay
  | dispatch executor timeoutMs delay =>
    rw [StartEvent.step, ensure_bind] at h
    cases h.2
    have hclock := (sameClock_background executor executor.backgroundRegions l).trans
      (sameClock_critical executor executor.criticalRegions (_, []))
    refine runRelayers_timely ?_ _ _ _
    rw [hclock.resolution]
    exact hresolution

/-- A call goes on in time. -/
theorem moved_timely {e : MoveEvent} {r : EventLoop × Frame} (hresolution : 0 ≤ l.resolution)
    (ht : Timely l f) (h : e.step l f = .ok r) :
    Timely r.1 r.2 ∧ (r.2.control = .waiting → r.1.now < r.2.deadline) := by
  cases hm : moveEvent_ok h with
  | wake done delay hc hdone =>
    obtain ⟨-, htimer, -, -⟩ := wake_ok h
    unfold afterWait
    dsimp only
    split
    · rename_i hnil
      refine ⟨timely_afterLoop fun _ => htimer hnil, fun hwait => ?_⟩
      unfold afterLoop at hwait
      split at hwait <;> simp at hwait
    · split
      · exact ⟨trivial, fun hwait => by simp [fastPath] at hwait⟩
      · exact timely_loopHead (l := l.advance delay) hresolution
  | concluded hc _ =>
    obtain ⟨reason, hreason⟩ := conclude_failure f
    unfold Timely at ht
    rw [hc] at ht
    refine ⟨?_, by simp⟩
    simp only [Timely, hreason]
    exact fun _ => ht
  | unwound _ =>
    unfold unwind
    split
    · exact ⟨trivial, by simp⟩
    · exact ⟨trivial, by simp⟩
  | raised _ _ _ => exact ⟨trivial, by simp⟩

end

/-! ## Runs -/

/-- The resolution of the clock, and what calls have in time, in every reachable state. -/
theorem timely_run {now resolution : ℚ} (hresolution : 0 ≤ resolution) (events : Schedule) {i : Nat}
    {f : Frame} (hf : (system.exec (start now resolution) events).2[i]? = some f) :
    Timely (system.exec (start now resolution) events).1 f := by
  have hrun := calls_clock.invariant (I := fun l f => 0 ≤ l.resolution → Timely l f)
    (fun hp ht hres => (ht (hp.resolution ▸ hres)).stable hp)
    (fun h hres => (started_timely ((passes_startEvent h).resolution ▸ hres) h).1)
    (fun ht h hres => (moved_timely ((passes_moveEvent h).resolution ▸ hres)
      (ht ((passes_moveEvent h).resolution ▸ hres)) h).1)
    { now, resolution, tasks := [], background := ∅ } events hf
  refine hrun ?_
  have hclock := calls_clock.run (start now resolution) events
  have hres : (system.exec (start now resolution) events).1.resolution = resolution := hclock.resolution
  show 0 ≤ (system.exec (start now resolution) events).1.resolution
  rw [hres]
  exact hresolution

/-- A finished task without an ACK and without an error line was cancelled. -/
theorem outcome_cancelled {l : EventLoop} {t : TaskId} (hfinished : l.finished t = true)
    (hack : l.ack t = none) (hline : l.errorLine t = none) : l.outcome t = some .cancelled := by
  obtain ⟨o, ho⟩ := Option.isSome_iff_exists.mp hfinished
  rw [EventLoop.ack, ho, Option.bind_some] at hack
  rw [EventLoop.errorLine, ho, Option.bind_some] at hline
  rw [ho]
  cases o with
  | cancelled => rfl
  | exception text => cases hline
  | nonDict text => cases hline
  | dict res =>
    unfold Outcome.ack at hack
    unfold Outcome.errorLine at hline
    dsimp only at hack hline
    split at hack
    · cases hack
    · rename_i hsuccess
      rw [if_neg hsuccess] at hline
      cases hline

/-- **The deadline**, over every schedule of any calls. A step after which a call waits leaves the call
as it was or ends before its deadline. A call that reports a timeout was at its deadline, up to the
resolution of the clock, or every critical task was cancelled and none left an error. -/
theorem deadline_kept (now resolution : ℚ) (hresolution : 0 ≤ resolution) (events : Schedule)
    (i : Nat) (f : Frame) :
    (∀ e s', system.step (system.exec (start now resolution) events) e = .ok (s', ()) →
      s'.2[i]? = some f → f.control = .waiting →
      (system.exec (start now resolution) events).2[i]? = some f ∨ s'.1.now < f.deadline) ∧
    (∀ timeoutSec errors, (system.exec (start now resolution) events).2[i]? = some f →
      f.control = .returned (.failure (.timeout timeoutSec errors)) →
      timeoutSec = f.timeoutSec ∧
      (f.deadline ≤ (system.exec (start now resolution) events).1.now + resolution ∨
        errors = [] ∧ ∀ t ∈ f.criticalTasks,
          (system.exec (start now resolution) events).1.outcome t = some .cancelled)) := by
  have hres : (system.exec (start now resolution) events).1.resolution = resolution :=
    (calls_clock.run (start now resolution) events).resolution
  have hpos : 0 ≤ (system.exec (start now resolution) events).1.resolution := by
    rw [hres]
    exact hresolution
  refine ⟨fun e s' h hf hwait => ?_, fun timeoutSec errors hf hc => ?_⟩
  · cases Transact.Pool.component_ok h hf with
    | kept hk => exact .inl hk
    | started b _ _ hb => exact .inr ((started_timely hpos hb).2 hwait)
    | moved c k _ hk hm => exact .inr ((moved_timely hpos (timely_run hresolution events hk) hm).2 hwait)
  · have htimely := timely_run hresolution events hf
    have hok := run_ok _ events hf
    have hcontrol := hok.control
    unfold Timely at htimely
    rw [hc] at htimely
    rw [ControlOk, hc] at hcontrol
    obtain ⟨hno, -, hreason⟩ := hcontrol
    have hconclude : conclude f = .failure (.timeout timeoutSec errors) := by
      rcases hreason with ⟨-, hreason⟩ | hconclude
      · cases hreason
      · exact hconclude
    unfold conclude at hconclude
    split at hconclude
    · cases hconclude
    · rename_i hnot
      cases hconclude
      refine ⟨rfl, ?_⟩
      by_cases hpending : f.pending = []
      · -- Everything was processed, and nothing left an error line.
        have herrors : f.errors = [] := by
          by_contra hne
          exact hnot ⟨hpending, hne⟩
        refine .inr ⟨herrors, fun t ht => ?_⟩
        have hprocessed : t ∈ f.wakeUps.flatten := by
          rcases hok.core.processed_or_pending ht with hmem | hmem
          · exact hmem
          · rw [hpending] at hmem
            cases hmem
        have hline := hok.core.errors
        rw [herrors] at hline
        exact outcome_cancelled (hok.core.processed t hprocessed) (hno t hprocessed)
          (List.filterMap_eq_nil_iff.mp hline.symm t hprocessed)
      · have hdeadline := htimely hpending
        rw [hres] at hdeadline
        exact .inl hdeadline

/-- The timeout of a call whose timer fired: the clock has come to the deadline. -/
theorem deadline_kept_sample :
    ∃ f, (system.exec (start 0 0) lostSchedule).2[0]? = some f ∧
      f.deadline ≤ (system.exec (start 0 0) lostSchedule).1.now + 0 := by
  obtain ⟨f, hf, hfields⟩ := Option.map_eq_some_iff.mp
    (show ((system.exec (start 0 0) lostSchedule).2[0]?).map (fun f => (f.criticalTasks, f.control)) =
      some ([0], .returned (.failure (.timeout 1 []))) by decide +kernel)
  obtain ⟨hcritical, hcontrol⟩ := Prod.mk.inj hfields
  obtain ⟨-, htimeout⟩ := deadline_kept 0 0 (le_refl 0) lostSchedule 0 f
  obtain ⟨-, hdeadline | ⟨-, hcancelled⟩⟩ := htimeout 1 [] hf hcontrol
  · exact ⟨f, hf, hdeadline⟩
  · -- The task finished with an ACK.
    have hack : (system.exec (start 0 0) lostSchedule).1.outcome 0 ≠ some .cancelled := by
      decide +kernel
    exact absurd (hcancelled 0 (by rw [hcritical]; simp)) hack

end Relayer
end SolanaGuardian
