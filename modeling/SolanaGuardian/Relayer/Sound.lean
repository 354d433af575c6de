import SolanaGuardian.Relayer.Race

/-!
# The race is sound and ends

`FrameOk` is the invariant of one call next to the loop: the processed wake-ups and the pending
tasks are the critical tasks, each once; the error lines are those of the processed tasks, in order;
every wake-up before the last one is without an ACK; and each wait but the last one had a wake-up
(`Core`). `ControlOk` is what holds at each place of the call.

* `FrameOk.stable`: what other calls and the loop do keeps it (`EventLoop.Evolves`).
* `started_ok` and `moved_ok`: a call starts with it and keeps it.
* `race_sound`: what a returned result says about the critical tasks, over every schedule.
-/

namespace SolanaGuardian
namespace Relayer

/-- The error line of a finished task. -/
def EventLoop.errorLine (l : EventLoop) (t : TaskId) : Option String :=
  (l.outcome t).bind fun o => o.errorLine (l.name t)

/-- None of the tasks has finished with an ACK. -/
def EventLoop.NoAck (l : EventLoop) (tasks : List TaskId) : Prop := ∀ t ∈ tasks, l.ack t = none

/-! ## The loop over `done` -/

theorem scanTask_eq (l : EventLoop) (s : List String × Option (TaskId × RelayResult))
    (t : TaskId) : scanTask l s t =
      (s.1 ++ (l.errorLine t).toList, s.2.or ((l.ack t).map fun res => (t, res))) := by
  unfold scanTask EventLoop.errorLine EventLoop.ack
  cases l.outcome t <;> simp

theorem scan_eq (l : EventLoop) (done : List TaskId) (errors : List String) :
    scan l done errors = (errors ++ done.filterMap l.errorLine,
      done.findSome? fun t => (l.ack t).map fun res => (t, res)) := by
  have h : ∀ s : List String × Option (TaskId × RelayResult), done.foldl (scanTask l) s =
      (s.1 ++ done.filterMap l.errorLine,
        s.2.or (done.findSome? fun t => (l.ack t).map fun res => (t, res))) := by
    induction done with
    | nil => intro s; simp
    | cons t done ih =>
      intro s
      rw [List.foldl_cons, ih, scanTask_eq, List.filterMap_cons, List.findSome?_cons]
      refine Prod.ext ?_ ?_
      · cases l.errorLine t <;> simp
      · cases s.2 <;> cases l.ack t <;> rfl
  rw [scan, h]
  simp

/-- The winner of a wake-up is a task of it that finished with an ACK. -/
theorem scan_winner {l : EventLoop} {done : List TaskId} {errors : List String} {t : TaskId}
    {res : RelayResult} (h : (scan l done errors).2 = some (t, res)) :
    t ∈ done ∧ l.ack t = some res := by
  rw [scan_eq] at h
  obtain ⟨s, hs, hres⟩ := List.exists_of_findSome?_eq_some h
  obtain ⟨r, hr, heq⟩ := Option.map_eq_some_iff.mp hres
  cases heq
  exact ⟨hs, hr⟩

/-- A wake-up without a winner has no ACK. -/
theorem scan_noAck {l : EventLoop} {done : List TaskId} {errors : List String}
    (h : (scan l done errors).2 = none) : l.NoAck done := by
  rw [scan_eq] at h
  intro t ht
  have ht' := List.findSome?_eq_none_iff.mp h t ht
  exact Option.map_eq_none_iff.mp ht'

/-! ## The invariant of a call -/

/-- Every task of the list is finished or asked to cancel. -/
def EventLoop.Settled (l : EventLoop) (tasks : List TaskId) : Prop :=
  ∀ t ∈ tasks, l.finished t = true ∨ l.cancelRequested t = true

/-- The invariant of a call at every place. -/
structure Core (l : EventLoop) (f : Frame) : Prop where
  valid : ∀ t ∈ f.criticalTasks, t < l.tasks.length
  perm : (f.wakeUps.flatten ++ f.pending).Perm f.criticalTasks.dedup
  processed : ∀ t ∈ f.wakeUps.flatten, l.finished t = true
  errors : f.errors = f.wakeUps.flatten.filterMap l.errorLine
  nonempty : ∀ done ∈ f.wakeUps, done ≠ []
  waits : f.waits ≤ f.wakeUps.length + if f.pending = [] then 0 else 1

/-- The result says who won, in the first wake-up with an ACK. -/
def Won (l : EventLoop) (f : Frame) (winner : String) (details : RelayResult) : Prop :=
  ∃ pre done t, f.wakeUps = pre ++ [done] ∧ l.NoAck pre.flatten ∧ t ∈ done ∧
    l.ack t = some details ∧ winner = details.region.getD (l.name t)

/-- The invariant of a call at its place. -/
def ControlOk (l : EventLoop) (f : Frame) : Prop :=
  match f.control with
  | .waiting => l.NoAck f.wakeUps.flatten ∧ f.pending ≠ []
  | .gathering => l.NoAck f.wakeUps.flatten ∧ f.pending ≠ [] ∧ l.Settled f.pending
  | .unwinding => l.Settled f.pending
  | .returned (.failure reason) => l.NoAck f.wakeUps.flatten ∧ f.Gathered l ∧
      (f.criticalTasks = [] ∧ reason = .noCriticalTasks ∨ conclude f = .failure reason)
  | .returned (.success winner details) => l.Settled f.pending ∧ Won l f winner details
  | .raised => f.Gathered l

structure FrameOk (l : EventLoop) (f : Frame) : Prop where
  core : Core l f
  control : ControlOk l f

section Stable

variable {l l' : EventLoop} {f : Frame}

theorem EventLoop.Evolves.ack_eq {t : TaskId} (h : l.Evolves l') (hf : l.finished t = true) :
    l'.ack t = l.ack t := by
  rw [EventLoop.ack, EventLoop.ack, h.outcome_eq hf]

theorem EventLoop.Evolves.errorLine_eq {t : TaskId} (h : l.Evolves l')
    (hf : l.finished t = true) : l'.errorLine t = l.errorLine t := by
  rw [EventLoop.errorLine, EventLoop.errorLine, h.outcome_eq hf, h.name (EventLoop.finished_lt hf)]

theorem EventLoop.Evolves.noAck {tasks : List TaskId} (h : l.Evolves l')
    (hf : ∀ t ∈ tasks, l.finished t = true) (hno : l.NoAck tasks) : l'.NoAck tasks := by
  intro t ht
  rw [h.ack_eq (hf t ht)]
  exact hno t ht

theorem EventLoop.Evolves.settled {tasks : List TaskId} (h : l.Evolves l')
    (hs : l.Settled tasks) : l'.Settled tasks := by
  intro t ht
  rcases hs t ht with hf | hc
  · exact .inl (h.finished hf)
  · exact .inr (h.cancelRequested hc)

theorem Core.stable (h : l.Evolves l') (hc : Core l f) : Core l' f where
  valid := fun t ht => h.length (hc.valid t ht)
  perm := hc.perm
  processed := fun t ht => h.finished (hc.processed t ht)
  errors := by
    rw [hc.errors]
    refine List.filterMap_congr fun t ht => ?_
    rw [h.errorLine_eq (hc.processed t ht)]
  nonempty := hc.nonempty
  waits := hc.waits

theorem Won.stable {winner : String} {details : RelayResult} (h : l.Evolves l') (hc : Core l f)
    (hw : Won l f winner details) : Won l' f winner details := by
  obtain ⟨pre, done, t, hwake, hno, ht, hack, hname⟩ := hw
  have hprocessed : ∀ s ∈ (pre ++ [done]).flatten, l.finished s = true := by
    rw [← hwake]
    exact hc.processed
  have hpre : ∀ s ∈ pre.flatten, l.finished s = true := fun s hs => hprocessed s (by simp [hs])
  have hf : l.finished t = true := hprocessed t (by simp [ht])
  refine ⟨pre, done, t, hwake, h.noAck hpre hno, ht, ?_, ?_⟩
  · rw [h.ack_eq hf]
    exact hack
  · rw [h.name (EventLoop.finished_lt hf)]
    exact hname

/-- **Stability.** What the loop and the other calls do keeps the invariant. -/
theorem FrameOk.stable (h : l.Evolves l') (hf : FrameOk l f) : FrameOk l' f := by
  refine ⟨hf.core.stable h, ?_⟩
  have hno := h.noAck hf.core.processed
  have hgathered : f.Gathered l → f.Gathered l' := fun hg t ht => h.finished (hg t ht)
  have hc := hf.control
  unfold ControlOk at hc ⊢
  split at hc
  · exact ⟨hno hc.1, hc.2⟩
  · exact ⟨hno hc.1, hc.2.1, h.settled hc.2.2⟩
  · exact h.settled hc
  · exact ⟨hno hc.1, hgathered hc.2.1, hc.2.2⟩
  · exact ⟨h.settled hc.1, hc.2.stable h hf.core⟩
  · exact hgathered hc

end Stable

/-! ## The steps of a call -/

section Steps

variable {l : EventLoop} {f : Frame}

/-- The invariant of the variables does not depend on the place. -/
theorem Core.withControl (h : Core l f) (control : Control) : Core l { f with control } :=
  ⟨h.valid, h.perm, h.processed, h.errors, h.nonempty, h.waits⟩

/-- A critical task was processed, or it is pending. -/
theorem Core.processed_or_pending (h : Core l f) {t : TaskId} (ht : t ∈ f.criticalTasks) :
    t ∈ f.wakeUps.flatten ∨ t ∈ f.pending :=
  List.mem_append.mp (h.perm.symm.subset (List.mem_dedup.mpr ht))

theorem Core.pending_sub (h : Core l f) : ∀ t ∈ f.pending, t ∈ f.criticalTasks := by
  intro t ht
  have hmem : t ∈ f.criticalTasks.dedup := h.perm.subset (List.mem_append_right _ ht)
  exact List.mem_dedup.mp hmem

/-- After `_cancel_and_gather` has cancelled them, the pending tasks are settled. -/
theorem Core.settled (h : Core l f) : (l.cancelAll f.pending).Settled f.pending :=
  EventLoop.cancelAll_spec fun t ht => h.valid t (h.pending_sub t ht)

theorem conclude_failure (f : Frame) : ∃ reason, conclude f = .failure reason := by
  unfold conclude
  split
  · exact ⟨_, rfl⟩
  · exact ⟨_, rfl⟩

/-- The result after the loop, when everything gathered has finished. -/
theorem concluded_ok (hc : Core l f) (hno : l.NoAck f.wakeUps.flatten) (hall : f.Gathered l) :
    FrameOk l { f with control := .returned (conclude f) } := by
  obtain ⟨reason, hreason⟩ := conclude_failure f
  refine ⟨hc.withControl _, ?_⟩
  rw [hreason]
  exact ⟨hno, hall, .inr hreason⟩

theorem afterLoop_ok (hc : Core l f) (hno : l.NoAck f.wakeUps.flatten) :
    FrameOk (afterLoop l f).1 (afterLoop l f).2 := by
  unfold afterLoop
  split
  · rename_i hnil
    have hall : f.Gathered l := by
      intro t ht
      rw [hnil] at ht
      cases ht
    exact concluded_ok hc hno hall
  · rename_i hne
    have hcancel := EventLoop.evolves_prims (prims_cancelAll l f.pending)
    have hc' := hc.stable hcancel
    exact ⟨hc'.withControl _, hcancel.noAck hc.processed hno, hne, hc.settled⟩

theorem loopHead_ok (hc : Core l f) (hno : l.NoAck f.wakeUps.flatten)
    (hwaits : f.waits ≤ f.wakeUps.length) : FrameOk (loopHead l f).1 (loopHead l f).2 := by
  unfold loopHead
  split
  · exact afterLoop_ok hc hno
  split
  · exact afterLoop_ok hc hno
  · rename_i hne _
    refine ⟨⟨hc.valid, hc.perm, hc.processed, hc.errors, hc.nonempty, ?_⟩, hno, hne⟩
    rw [if_neg hne]
    exact Nat.succ_le_succ hwaits

/-- A call starts with the invariant. -/
theorem runRelayers_ok {critical : List TaskId} {timeoutSec delay : ℚ}
    (hvalid : ∀ t ∈ critical, t < l.tasks.length) :
    FrameOk (runRelayers l critical timeoutSec delay).1
      (runRelayers l critical timeoutSec delay).2 := by
  unfold runRelayers
  dsimp only
  split
  · rename_i hnil
    subst hnil
    refine ⟨⟨hvalid, by simp, by simp, rfl, by simp, by simp⟩, ?_⟩
    exact ⟨by simp [EventLoop.NoAck], by simp [Frame.Gathered], .inl ⟨rfl, rfl⟩⟩
  · refine loopHead_ok ⟨hvalid, by simp, by simp, rfl, by simp, by simp⟩ ?_ (by simp)
    simp [EventLoop.NoAck]

theorem fastPath_ok {t : TaskId} {res : RelayResult} {pre : List (List TaskId)}
    {done : List TaskId} (hc : Core l f) (hwake : f.wakeUps = pre ++ [done])
    (hno : l.NoAck pre.flatten) (ht : t ∈ done) (hack : l.ack t = some res) :
    FrameOk (fastPath l f t res).1 (fastPath l f t res).2 := by
  have hevolves := EventLoop.evolves_prims (prims_fastPath l f t res)
  have hwon : Won l f (res.region.getD (l.name t)) res :=
    ⟨pre, done, t, hwake, hno, ht, hack, rfl⟩
  have hwon' := hwon.stable hevolves hc
  refine ⟨(hc.stable hevolves).withControl _, ?_, hwon'⟩
  have hcancel := hc.settled
  unfold fastPath
  split
  · exact hcancel
  · exact (EventLoop.evolves_prim (.createRegistered _ _ _ _)).settled hcancel

/-- A wake-up takes the finished tasks of the wait. -/
theorem Core.wake {done : List TaskId} (hc : Core l f)
    (hdone : done.Perm (f.pending.filter l.finished)) :
    ((f.wakeUps ++ [done]).flatten ++ f.pending.filter fun t => !l.finished t).Perm
      f.criticalTasks.dedup := by
  have hsplit : (done ++ f.pending.filter fun t => !l.finished t).Perm f.pending :=
    (hdone.append_right _).trans (List.filter_append_perm l.finished f.pending)
  rw [List.flatten_append, List.flatten_singleton, List.append_assoc]
  exact (hsplit.append_left _).trans hc.perm

theorem afterWait_ok {done : List TaskId} {delay : ℚ} (hf : FrameOk l f)
    (hwaiting : f.control = .waiting) (hdone : done.Perm (f.pending.filter l.finished)) :
    FrameOk (afterWait l f done delay).1 (afterWait l f done delay).2 := by
  have hc := hf.core
  obtain ⟨hno, hne⟩ : l.NoAck f.wakeUps.flatten ∧ f.pending ≠ [] := by
    have hcontrol := hf.control
    rw [ControlOk, hwaiting] at hcontrol
    exact hcontrol
  have hmem : ∀ t ∈ done, l.finished t = true := fun t ht =>
    (List.mem_filter.mp (hdone.subset ht)).2
  have hperm := hc.wake hdone
  unfold afterWait
  split
  · -- The timer: nothing finished, so the pending tasks are those of the wait.
    rename_i hnil
    subst hnil
    have hnone : f.pending.filter l.finished = [] := (List.nil_perm.mp hdone)
    have hsame : (f.pending.filter fun t => !l.finished t) = f.pending := by
      rw [List.filter_eq_self]
      intro t ht
      simpa using List.filter_eq_nil_iff.mp hnone t ht
    rw [hsame]
    exact afterLoop_ok ⟨hc.valid, hc.perm, hc.processed, hc.errors, hc.nonempty, hc.waits⟩ hno
  · rename_i hdne
    have hwaits : f.waits ≤ (f.wakeUps ++ [done]).length := by
      have hw := hc.waits
      rw [if_neg hne] at hw
      rw [List.length_append, List.length_singleton]
      exact hw
    have hcore : Core l { f with
        pending := f.pending.filter fun t => !l.finished t
        errors := (scan l done f.errors).1
        wakeUps := f.wakeUps ++ [done] } := by
      refine ⟨hc.valid, hperm, ?_, ?_, ?_, Nat.le_add_right_of_le hwaits⟩
      · intro t ht
        rw [List.flatten_append, List.flatten_singleton] at ht
        rcases List.mem_append.mp ht with ht | ht
        · exact hc.processed t ht
        · exact hmem t ht
      · rw [scan_eq, hc.errors, List.flatten_append, List.flatten_singleton,
          List.filterMap_append]
      · intro ids hids
        rcases List.mem_append.mp hids with hids | hids
        · exact hc.nonempty ids hids
        · rw [List.mem_singleton.mp hids]
          exact hdne
    dsimp only
    split
    · rename_i t res hwinner
      obtain ⟨ht, hack⟩ := scan_winner hwinner
      exact fastPath_ok hcore rfl hno ht hack
    · rename_i hwinner
      have hall : l.NoAck (f.wakeUps ++ [done]).flatten := by
        intro t ht
        rw [List.flatten_append, List.flatten_singleton] at ht
        rcases List.mem_append.mp ht with ht | ht
        · exact hno t ht
        · exact scan_noAck hwinner t ht
      have hadvance := EventLoop.evolves_prim (.advance l delay)
      exact loopHead_ok (hcore.stable hadvance) (hadvance.noAck hcore.processed hall) hwaits

theorem unwind_ok (hc : Core l f) : FrameOk (unwind l f).1 (unwind l f).2 := by
  unfold unwind
  split
  · rename_i hnil
    refine ⟨hc.withControl _, fun t ht => ?_⟩
    rw [show f.pending = [] from hnil] at ht
    cases ht
  · have hcancel := EventLoop.evolves_prims (prims_cancelAll l f.pending)
    exact ⟨(hc.stable hcancel).withControl _, hc.settled⟩

/-- A call keeps the invariant. -/
theorem moved_ok {e : MoveEvent} {r : EventLoop × Frame} (hf : FrameOk l f)
    (h : Moved l f e r) : FrameOk r.1 r.2 := by
  cases h with
  | wake done delay hc hdone => exact afterWait_ok hf hc hdone
  | concluded hc hall =>
    have hcontrol := hf.control
    rw [ControlOk, hc] at hcontrol
    exact concluded_ok hf.core hcontrol.1 hall
  | unwound _ => exact unwind_ok hf.core
  | raised e _ hall => exact ⟨hf.core.withControl _, hall⟩

theorem started_ok {e : StartEvent} {r : EventLoop × Frame} (h : Started l e r) :
    FrameOk r.1 r.2 := by
  cases h with
  | called critical timeoutSec delay hvalid => exact runRelayers_ok hvalid
  | dispatched executor timeoutMs delay s hs => exact runRelayers_ok hs.valid

end Steps

/-- A schedule: the events of the system, in any order. -/
abbrev Schedule := List (Transact.PoolEvent LoopEvent StartEvent MoveEvent)

/-- **Run.** After every schedule, every call has the invariant. -/
theorem run_ok (s : EventLoop) (events : Schedule) {i : Nat} {f : Frame}
    (hf : (system.exec (s, []) events).2[i]? = some f) :
    FrameOk (system.exec (s, []) events).1 f :=
  calls_evolve.invariant (I := FrameOk) FrameOk.stable (fun h => started_ok (startEvent_ok h))
    (fun hok h => moved_ok hok (moveEvent_ok h)) s events hf

/-! ## Results -/

theorem length_le_flatten {α : Type} {l : List (List α)} (h : ∀ xs ∈ l, xs ≠ []) :
    l.length ≤ l.flatten.length := by
  induction l with
  | nil => exact Nat.le_refl 0
  | cons xs l ih =>
    have hpos : 0 < xs.length := List.length_pos_iff.mpr (h xs (by simp))
    have hrest := ih fun ys hys => h ys (List.mem_cons_of_mem _ hys)
    rw [List.length_cons, List.flatten_cons, List.length_append]
    omega

/-- A call waits at most once for each critical task. -/
theorem Core.waits_le {l : EventLoop} {f : Frame} (h : Core l f) :
    f.waits ≤ f.criticalTasks.dedup.length := by
  have hflatten := length_le_flatten h.nonempty
  have hlength := h.perm.length_eq
  rw [List.length_append] at hlength
  have hwaits := h.waits
  split at hwaits
  · omega
  · rename_i hne
    have hpos : 0 < f.pending.length := List.length_pos_iff.mpr hne
    omega

/-- Without pending tasks, the processed ones are the critical tasks, each once. -/
theorem Core.processed_perm {l : EventLoop} {f : Frame} (h : Core l f) (hnil : f.pending = []) :
    f.wakeUps.flatten.Perm f.criticalTasks.dedup := by
  have hperm := h.perm
  rw [hnil, List.append_nil] at hperm
  exact hperm

/-- When no processed task has an ACK, each one that was not cancelled left its error line. -/
theorem Core.errors_length {l : EventLoop} {f : Frame} (h : Core l f)
    (hno : l.NoAck f.wakeUps.flatten) (hnil : f.pending = []) :
    f.errors.length =
      (f.criticalTasks.dedup.filter fun t => l.outcome t ≠ some .cancelled).length := by
  have hline : ∀ t ∈ f.wakeUps.flatten,
      (l.errorLine t).isSome = decide (l.outcome t ≠ some .cancelled) := by
    intro t ht
    obtain ⟨o, ho⟩ := Option.isSome_iff_exists.mp (h.processed t ht)
    have hack := hno t ht
    rw [EventLoop.ack, ho, Option.bind_some] at hack
    rw [EventLoop.errorLine, ho, Option.bind_some]
    cases o with
    | cancelled => rfl
    | exception text => rfl
    | nonDict text => rfl
    | dict res =>
      have hfalse : res.success = false := by
        cases hs : res.success with
        | false => rfl
        | true => simp [Outcome.ack, hs] at hack
      simp [Outcome.errorLine, hfalse]
  rw [h.errors, List.length_filterMap_eq_countP, ← List.countP_eq_length_filter,
    ← (h.processed_perm hnil).countP_eq]
  exact List.countP_congr fun t ht => by rw [hline t ht]

/-- **Soundness and termination** of the race, over every schedule of any calls: the waits of a call,
the winner of a success, and when all have failed the error lines, in the order in which the tasks were
processed, each task once. -/
theorem race_sound (now resolution : ℚ) (events : Schedule) (i : Nat) (f : Frame)
    (hf : (system.exec (start now resolution) events).2[i]? = some f) :
    f.waits ≤ f.criticalTasks.dedup.length ∧
    (∀ winner details, f.control = .returned (.success winner details) →
      ∃ pre done t, f.wakeUps = pre ++ [done] ∧
        (∀ s ∈ pre.flatten, (system.exec (start now resolution) events).1.ack s = none) ∧
        t ∈ done ∧ t ∈ f.criticalTasks ∧
        (system.exec (start now resolution) events).1.ack t = some details ∧
        winner = details.region.getD ((system.exec (start now resolution) events).1.name t)) ∧
    (∀ errors, f.control = .returned (.failure (.allFailed errors)) →
      (∀ t ∈ f.criticalTasks, t ∈ f.wakeUps.flatten ∧
        (system.exec (start now resolution) events).1.finished t = true ∧
        (system.exec (start now resolution) events).1.ack t = none) ∧
      f.wakeUps.flatten.Perm f.criticalTasks.dedup ∧
      errors = f.wakeUps.flatten.filterMap
        (system.exec (start now resolution) events).1.errorLine ∧
      errors.length = (f.criticalTasks.dedup.filter fun t =>
        (system.exec (start now resolution) events).1.outcome t ≠ some .cancelled).length) := by
  have hok := run_ok _ events hf
  have hcore := hok.core
  refine ⟨hcore.waits_le, fun winner details hc => ?_, fun errors hc => ?_⟩
  · have hcontrol := hok.control
    rw [ControlOk, hc] at hcontrol
    obtain ⟨-, pre, done, t, hwake, hno, ht, hack, hname⟩ := hcontrol
    have hcritical : t ∈ f.criticalTasks.dedup := by
      refine hcore.perm.subset (List.mem_append_left _ ?_)
      rw [hwake]
      simp [ht]
    exact ⟨pre, done, t, hwake, hno, ht, List.mem_dedup.mp hcritical, hack, hname⟩
  · have hcontrol := hok.control
    rw [ControlOk, hc] at hcontrol
    obtain ⟨hno, -, hreason⟩ := hcontrol
    obtain ⟨hnil, rfl⟩ : f.pending = [] ∧ errors = f.errors := by
      rcases hreason with ⟨-, hreason⟩ | hreason
      · cases hreason
      · unfold conclude at hreason
        split at hreason
        · rename_i h
          cases hreason
          exact ⟨h.1, rfl⟩
        · cases hreason
    refine ⟨fun t ht => ?_, hcore.processed_perm hnil, hcore.errors, hcore.errors_length hno hnil⟩
    have hmem : t ∈ f.wakeUps.flatten := by
      rcases hcore.processed_or_pending ht with hmem | hmem
      · exact hmem
      · rw [hnil] at hmem
        cases hmem
    exact ⟨hmem, hcore.processed t hmem, hno t hmem⟩

/-- Two relayers: the first one fails, the second one acknowledges. -/
def sampleSchedule : Schedule :=
  [.shared (.spawn "ny"), .shared (.spawn "slc"), .start (.runRelayers [0, 1] 1 0),
    .shared (.finish 0 (.dict { success := false, error := some "down" })), .move 0 (.wake [0] 0),
    .shared (.finish 1 (.dict { success := true, region := some "slc" })), .move 0 (.wake [1] 0)]

theorem race_sound_sample :
    ∃ f, (system.exec (start 0 0) sampleSchedule).2[0]? = some f ∧ f.waits ≤ 2 ∧
      ∃ t ∈ [0, 1], (system.exec (start 0 0) sampleSchedule).1.ack t =
        some { success := true, region := some "slc" } := by
  obtain ⟨f, hf, hfields⟩ := Option.map_eq_some_iff.mp
    (show ((system.exec (start 0 0) sampleSchedule).2[0]?).map
        (fun f => (f.criticalTasks, f.control)) = some ([0, 1],
          .returned (.success "slc" { success := true, region := some "slc" })) by decide +kernel)
  obtain ⟨hcritical, hcontrol⟩ := Prod.mk.inj hfields
  obtain ⟨hwaits, hsuccess, -⟩ := race_sound 0 0 sampleSchedule 0 f hf
  obtain ⟨pre, done, t, -, -, -, ht, hack, -⟩ := hsuccess _ _ hcontrol
  rw [hcritical] at hwaits ht
  exact ⟨f, hf, hwaits, t, ht, hack⟩

end Relayer
end SolanaGuardian
