import Mathlib.Data.List.Dedup
import Mathlib.Data.List.Perm.Basic
import SolanaGuardian.Lib.Pool
import SolanaGuardian.Relayer.Loop

/-!
# The relayer race (`app/core/jito_fanout_executor.py`)

`run_relayers` as a coroutine of the event loop: a `Frame` has its variables and where it waits
(`Control`). Between two waits it runs alone. `loopHead` is the head of its `while`, `afterWait` the
body from the `asyncio.wait` on, `afterLoop` what follows the loop.

The system is a pool (`Transact.Pool`) of such calls over one loop, with `dispatch` and any other
caller starting them. The schedule is the list of events: which task finishes when and how, what the
clock does, which wake-up sees which tasks in which order, and when a call is cancelled.

* A wake-up takes every task of the wait that has finished by then, in any order. It needs one, or
  the timer. The loop fires a timer up to its clock's resolution early.
* A call that waits for `asyncio.gather` goes on when everything gathered has finished, also if it
  is cancelled meanwhile: the cancellation goes to the gathered tasks.
* `_send_raw_bundle` does not await: a task that runs it gives its result at once, unless it was
  cancelled before it ran. The payload and the gRPC branches, which nothing reaches, are left out.

`waits` and `wakeUps` are ghosts: how often the call waited, and the wake-ups that its loop
processed.
-/

namespace SolanaGuardian
namespace Relayer

/-- The `reason` of a failure. -/
inductive FailureReason where
  | noCriticalTasks
  | allFailed (errors : List String)
  | timeout (timeoutSec : ℚ) (errors : List String)
  deriving DecidableEq

def FailureReason.text : FailureReason → String
  | .noCriticalTasks => "No se proporcionaron tareas críticas para ejecutar."
  | .allFailed errors => "Todos los relayers fallaron: " ++ "; ".intercalate errors
  | .timeout timeoutSec errors =>
    "Timeout " ++ toString (Python.int (timeoutSec * 1000)) ++ "ms alcanzado sin ACK exitoso" ++
      if errors = [] then "" else " (Errores previos: " ++ "; ".intercalate errors ++ ")"

/-- What `run_relayers` returns. -/
inductive Response where
  | success (winner : String) (details : RelayResult)
  | failure (reason : FailureReason)
  deriving DecidableEq

def Response.isSuccess : Response → Bool
  | .success _ _ => true
  | .failure _ => false

/-- Where a call is: at its `asyncio.wait`, at the `gather` after the loop, at the `gather` of the
`CancelledError` handler, or at its end. -/
inductive Control where
  | waiting
  | gathering
  | unwinding
  | returned (response : Response)
  | raised
  deriving DecidableEq

/-- One call of `run_relayers`. -/
structure Frame where
  criticalTasks : List TaskId
  timeoutSec : ℚ
  deadline : ℚ
  pending : List TaskId
  errors : List String := []
  control : Control := .waiting
  waits : Nat := 0
  wakeUps : List (List TaskId) := []

/-! ## The body -/

/-- The line that a completed task leaves in `errors`. -/
def Outcome.errorLine (name : String) : Outcome → Option String
  | .cancelled => none
  | .exception exc => some (name ++ ": " ++ exc)
  | .dict res =>
    if res.success then none
    else some (res.region.getD name ++ ": " ++
      Python.orDefault "" res.error (Python.orDefault "" res.reason "Respuesta no exitosa"))
  | .nonDict res => some (name ++ ": " ++ "Retorno inválido: " ++ res)

/-- One task of `done`: its error line, and the winner if there is none yet. -/
def scanTask (l : EventLoop) (s : List String × Option (TaskId × RelayResult)) (t : TaskId) :
    List String × Option (TaskId × RelayResult) :=
  match l.outcome t with
  | none => s
  | some o =>
    (s.1 ++ (o.errorLine (l.name t)).toList, s.2.or (o.ack.map fun res => (t, res)))

/-- The loop over `done`. -/
def scan (l : EventLoop) (done : List TaskId) (errors : List String) :
    List String × Option (TaskId × RelayResult) :=
  done.foldl (scanTask l) (errors, none)

/-- The result after the loop. -/
def conclude (f : Frame) : Response :=
  if f.pending = [] ∧ f.errors ≠ [] then .failure (.allFailed f.errors)
  else .failure (.timeout f.timeoutSec f.errors)

/-- After the loop: `await _cancel_and_gather(pending)`, which does not wait for nothing. -/
def afterLoop (l : EventLoop) (f : Frame) : EventLoop × Frame :=
  if f.pending = [] then (l, { f with control := .returned (conclude f) })
  else (l.cancelAll f.pending, { f with control := .gathering })

/-- The head of the loop, up to `asyncio.wait`. -/
def loopHead (l : EventLoop) (f : Frame) : EventLoop × Frame :=
  if f.pending = [] then afterLoop l f
  else if f.deadline - l.now ≤ 0 then afterLoop l f
  else (l, { f with control := .waiting, waits := f.waits + 1 })

/-- The fast path: the losers are cancelled and drained in the background. -/
def fastPath (l : EventLoop) (f : Frame) (winner : TaskId) (res : RelayResult) : EventLoop × Frame :=
  let cancelled := l.cancelAll f.pending
  let drained :=
    if f.pending = [] then cancelled
    else cancelled.createRegistered "jito-drain-losing" (.drain f.pending) none
  (drained, { f with control := .returned (.success (res.region.getD (l.name winner)) res) })

/-- From a wake-up of `asyncio.wait` on. `done` has the finished tasks in their order, and `delay`
is the time until the next look at the clock. -/
def afterWait (l : EventLoop) (f : Frame) (done : List TaskId) (delay : ℚ) : EventLoop × Frame :=
  let pending := f.pending.filter fun t => !l.finished t
  if done = [] then afterLoop l { f with pending }
  else
    let r := scan l done f.errors
    let f := { f with pending, errors := r.1, wakeUps := f.wakeUps ++ [done] }
    match r.2 with
    | some (winner, res) => fastPath l f winner res
    | none => loopHead (l.advance delay) f

/-- `run_relayers`, up to its first wait. -/
def runRelayers (l : EventLoop) (criticalTasks : List TaskId) (timeoutSec delay : ℚ) :
    EventLoop × Frame :=
  let f : Frame :=
    { criticalTasks, timeoutSec, deadline := l.now + timeoutSec, pending := criticalTasks.dedup }
  if criticalTasks = [] then
    (l, { f with control := .returned (.failure .noCriticalTasks) })
  else loopHead (l.advance delay) f

/-- The handler of `CancelledError`: `await _cancel_and_gather(pending)`, then `raise`. -/
def unwind (l : EventLoop) (f : Frame) : EventLoop × Frame :=
  if f.pending = [] then (l, { f with control := .raised })
  else (l.cancelAll f.pending, { f with control := .unwinding })

/-! ## The executor -/

/-- `JitoFanOutExecutor`: the regions with a channel, and whether it is a true value. -/
structure Executor where
  channels : List (String × Bool)
  criticalRegions : List String := ["ny", "slc"]
  backgroundRegions : List String := ["fra"]

/-- `_send_raw_bundle`. -/
def sendRawBundle (executor : Executor) (region : String) : RelayResult :=
  if executor.channels.lookup region = some true then
    { region := some region, success := true, error := none }
  else { region := some region, success := false, error := some "Canal no inicializado" }

/-- The loop's task for one background region. -/
def dispatchBackground (executor : Executor) (l : EventLoop) (bg : String) : EventLoop :=
  if (executor.channels.lookup bg).isSome then
    l.createRegistered ("jito-bg-" ++ bg) .background (some (sendRawBundle executor bg))
  else l

/-- The loop's task for one critical region, with the list of those so far. -/
def dispatchCritical (executor : Executor) (s : EventLoop × List TaskId) (region : String) :
    EventLoop × List TaskId :=
  if (executor.channels.lookup region).isSome then
    let r := s.1.createTask region .critical (some (sendRawBundle executor region))
    (r.1, s.2 ++ [r.2])
  else s

/-- `dispatch`, up to the first wait of `run_relayers`. -/
def dispatch (l : EventLoop) (executor : Executor) (timeoutMs delay : ℚ) : EventLoop × Frame :=
  let l := executor.backgroundRegions.foldl (dispatchBackground executor) l
  let s := executor.criticalRegions.foldl (dispatchCritical executor) (l, [])
  runRelayers s.1 s.2 (timeoutMs / 1000) delay

/-! ## Events -/

/-- An event that is not possible in a state. -/
inductive Blocked where
  | notEnabled
  deriving DecidableEq

def ensure (p : Prop) [Decidable p] : Except Blocked Unit := if p then .ok () else .error .notEnabled

theorem ensure_bind {α : Type} {p : Prop} [Decidable p] {x : Except Blocked α} {r : α} :
    (ensure p >>= fun _ => x) = .ok r ↔ p ∧ x = .ok r := by
  unfold ensure
  split
  · rename_i h
    simp [h, bind, Except.bind]
  · rename_i h
    simp [h, bind, Except.bind]

/-- Whether a task can finish so. -/
def Task.canFinish (l : EventLoop) (task : Task) (o : Outcome) : Prop :=
  match task.kind with
  | .drain awaited => (∀ t ∈ awaited, l.finished t = true) ∧ o = .nonDict "None" ∨
      task.cancelRequested = true ∧ o = .cancelled
  | _ =>
    match task.sends with
    | some res => o = if task.cancelRequested then .cancelled else .dict res
    | none => True

instance (l : EventLoop) (task : Task) (o : Outcome) : Decidable (task.canFinish l o) := by
  unfold Task.canFinish
  split
  · infer_instance
  · split <;> infer_instance

/-- Events of the loop. `spawn` is a caller's own relayer task. -/
inductive LoopEvent where
  | advance (dt : ℚ)
  | spawn (name : String)
  | finish (t : TaskId) (o : Outcome)
  | cancel (t : TaskId)
  | cleanup (t : TaskId)
  deriving DecidableEq

def LoopEvent.step (l : EventLoop) : LoopEvent → Except Blocked EventLoop
  | .advance dt => do
    ensure (0 ≤ dt)
    .ok (l.advance dt)
  | .spawn name => .ok (l.createTask name .critical none).1
  | .finish t o =>
    match l.tasks[t]? with
    | none => .error .notEnabled
    | some task => do
      ensure (task.outcome = none ∧ task.canFinish l o)
      .ok (l.finish t o)
  | .cancel t => .ok (l.cancelTask t)
  | .cleanup t =>
    match l.tasks[t]? with
    | none => .error .notEnabled
    | some task => do
      ensure (task.cleanup = .registered ∧ task.outcome ≠ none)
      .ok (l.cleanupTask t)

/-- A call of `run_relayers` starts: by a caller with its tasks, or by `dispatch`. -/
inductive StartEvent where
  | runRelayers (criticalTasks : List TaskId) (timeoutSec delay : ℚ)
  | dispatch (executor : Executor) (timeoutMs delay : ℚ)

def StartEvent.step (l : EventLoop) : StartEvent → Except Blocked (EventLoop × Frame)
  | .runRelayers criticalTasks timeoutSec delay => do
    ensure ((∀ t ∈ criticalTasks, t < l.tasks.length) ∧ 0 ≤ delay)
    .ok (Relayer.runRelayers l criticalTasks timeoutSec delay)
  | .dispatch executor timeoutMs delay => do
    ensure (0 ≤ delay)
    .ok (Relayer.dispatch l executor timeoutMs delay)

/-- A call goes on: from `asyncio.wait`, from a `gather`, or with a `CancelledError`. -/
inductive MoveEvent where
  | wake (done : List TaskId) (delay : ℚ)
  | gathered
  | cancel
  deriving DecidableEq

/-- Everything that the call gathers has finished. -/
def Frame.Gathered (l : EventLoop) (f : Frame) : Prop := ∀ t ∈ f.pending, l.finished t = true

instance (l : EventLoop) (f : Frame) : Decidable (f.Gathered l) := by
  unfold Frame.Gathered
  infer_instance

def MoveEvent.step (l : EventLoop) (f : Frame) : MoveEvent → Except Blocked (EventLoop × Frame)
  | .wake done delay => do
    ensure (f.control = .waiting ∧ done.Perm (f.pending.filter l.finished) ∧
      (done ≠ [] ∨ f.deadline ≤ l.now + l.resolution) ∧ 0 ≤ delay)
    .ok (afterWait l f done delay)
  | .gathered =>
    match f.control with
    | .gathering => do
      ensure (f.Gathered l)
      .ok (l, { f with control := .returned (conclude f) })
    | .unwinding => do
      ensure (f.Gathered l)
      .ok (l, { f with control := .raised })
    | _ => .error .notEnabled
  | .cancel =>
    match f.control with
    | .waiting => .ok (unwind l f)
    | .gathering => do
      ensure (f.Gathered l)
      .ok (unwind l f)
    | .unwinding => do
      ensure (f.Gathered l)
      .ok (l, { f with control := .raised })
    | _ => .error .notEnabled

/-- The calls of `run_relayers` over one loop. -/
def calls : Transact.Pool EventLoop Frame LoopEvent StartEvent MoveEvent Blocked where
  shared := LoopEvent.step
  start := StartEvent.step
  move := MoveEvent.step
  absent := .notEnabled

/-- The system. -/
abbrev system : Transact.Machine (EventLoop × List Frame)
    (Transact.PoolEvent LoopEvent StartEvent MoveEvent) Blocked Unit := calls.machine

/-- A loop without tasks. -/
def start (now resolution : ℚ) : EventLoop × List Frame :=
  ({ now, resolution, tasks := [], background := ∅ }, [])

/-- The end of the loop changes no task set. -/
theorem afterLoop_sets (l : EventLoop) (f : Frame) :
    (afterLoop l f).2.criticalTasks = f.criticalTasks ∧ (afterLoop l f).2.pending = f.pending := by
  unfold afterLoop
  split <;> exact ⟨rfl, rfl⟩

theorem loopHead_sets (l : EventLoop) (f : Frame) :
    (loopHead l f).2.criticalTasks = f.criticalTasks ∧ (loopHead l f).2.pending = f.pending := by
  unfold loopHead
  split
  · exact afterLoop_sets l f
  split
  · exact afterLoop_sets l f
  · exact ⟨rfl, rfl⟩

/-! ## What a step does to the loop -/

theorem prims_afterLoop (l : EventLoop) (f : Frame) : Prims l (afterLoop l f).1 := by
  unfold afterLoop
  split
  · exact .refl
  · exact prims_cancelAll l f.pending

theorem prims_loopHead (l : EventLoop) (f : Frame) : Prims l (loopHead l f).1 := by
  unfold loopHead
  split
  · exact prims_afterLoop l f
  split
  · exact prims_afterLoop l f
  · exact .refl

theorem prims_fastPath (l : EventLoop) (f : Frame) (t : TaskId) (res : RelayResult) :
    Prims l (fastPath l f t res).1 := by
  unfold fastPath
  split
  · exact prims_cancelAll l f.pending
  · exact (prims_cancelAll l f.pending).tail (.createRegistered _ _ _ _)

theorem prims_afterWait (l : EventLoop) (f : Frame) (done : List TaskId) (delay : ℚ) :
    Prims l (afterWait l f done delay).1 := by
  unfold afterWait
  split
  · exact prims_afterLoop l _
  · dsimp only
    split
    · exact prims_fastPath l _ _ _
    · exact .head (.advance l delay) (prims_loopHead _ _)

theorem prims_runRelayers (l : EventLoop) (critical : List TaskId) (timeoutSec delay : ℚ) :
    Prims l (runRelayers l critical timeoutSec delay).1 := by
  unfold runRelayers
  split
  · exact .refl
  · exact .head (.advance l delay) (prims_loopHead _ _)

theorem prims_unwind (l : EventLoop) (f : Frame) : Prims l (unwind l f).1 := by
  unfold unwind
  split
  · exact .refl
  · exact prims_cancelAll l f.pending

theorem prims_background (executor : Executor) (regions : List String) (l : EventLoop) :
    Prims l (regions.foldl (dispatchBackground executor) l) := by
  induction regions generalizing l with
  | nil => exact .refl
  | cons bg regions ih =>
    refine .trans ?_ (ih _)
    unfold dispatchBackground
    split
    · exact .single (.createRegistered _ _ _ _)
    · exact .refl

/-- The critical tasks of a `dispatch` are new tasks of the loop, not finished. -/
structure Created (l : EventLoop) (s : EventLoop × List TaskId) : Prop where
  prims : Prims l s.1
  valid : ∀ t ∈ s.2, t < s.1.tasks.length
  unfinished : ∀ t ∈ s.2, s.1.finished t = false

theorem created_critical (executor : Executor) (regions : List String) {l : EventLoop}
    {s : EventLoop × List TaskId} (h : Created l s) :
    Created l (regions.foldl (dispatchCritical executor) s) := by
  induction regions generalizing s with
  | nil => exact h
  | cons region regions ih =>
    refine ih ?_
    unfold dispatchCritical
    split
    · have hold : ∀ t, t < s.1.tasks.length →
          (s.1.createTask region .critical (some (sendRawBundle executor region))).1.tasks[t]? =
            s.1.tasks[t]? := fun t ht => List.getElem?_append_left ht
      refine ⟨h.prims.tail (.create _ _ _), fun t ht => ?_, fun t ht => ?_⟩
      · simp only [EventLoop.createTask, List.length_append, List.length_singleton]
        rcases List.mem_append.mp ht with ht | ht
        · exact Nat.lt_succ_of_lt (h.valid t ht)
        · rw [List.mem_singleton.mp ht]
          exact Nat.lt_succ_self _
      · rcases List.mem_append.mp ht with ht | ht
        · have hf := h.unfinished t ht
          rw [EventLoop.finished, EventLoop.outcome] at hf ⊢
          rw [hold t (h.valid t ht)]
          exact hf
        · rw [List.mem_singleton.mp ht]
          simp [EventLoop.finished, EventLoop.outcome, EventLoop.createTask]
    · exact h

/-- What `dispatch` does before it awaits `run_relayers`. -/
theorem dispatch_created (l : EventLoop) (executor : Executor) (timeoutMs delay : ℚ) :
    ∃ s, Created l s ∧ dispatch l executor timeoutMs delay =
      runRelayers s.1 s.2 (timeoutMs / 1000) delay := by
  refine ⟨_, created_critical executor executor.criticalRegions ?_, rfl⟩
  exact ⟨prims_background executor executor.backgroundRegions l, by simp, by simp⟩

/-- **What a step does to the loop**: a task finishes, or primitive steps. -/
theorem loopEvent_ok {l l' : EventLoop} {e : LoopEvent} (h : e.step l = .ok l') :
    (∃ t o, e = .finish t o ∧ t < l.tasks.length ∧ l.outcome t = none ∧ l' = l.finish t o) ∨
    (∀ t o, e ≠ .finish t o) ∧ Prims l l' := by
  cases e with
  | advance dt =>
    rw [LoopEvent.step, ensure_bind] at h
    cases h.2
    exact .inr ⟨by simp, .single (.advance l dt)⟩
  | spawn name =>
    cases h
    exact .inr ⟨by simp, .single (.create l name none)⟩
  | finish t o =>
    simp only [LoopEvent.step] at h
    split at h
    · cases h
    · rename_i task htask
      rw [ensure_bind] at h
      obtain ⟨⟨hnone, -⟩, h⟩ := h
      cases h
      have ht : t < l.tasks.length := (List.getElem?_eq_some_iff.mp htask).1
      exact .inl ⟨t, o, rfl, ht, by rw [EventLoop.outcome, htask]; exact hnone, rfl⟩
  | cancel t =>
    cases h
    exact .inr ⟨by simp, .single (.cancel l t)⟩
  | cleanup t =>
    simp only [LoopEvent.step] at h
    split at h
    · cases h
    · rename_i task htask
      rw [ensure_bind] at h
      obtain ⟨⟨-, hsome⟩, h⟩ := h
      cases h
      refine .inr ⟨by simp, .single (.cleanup l t ?_)⟩
      rw [EventLoop.finished, EventLoop.outcome, htask]
      exact Option.isSome_iff_ne_none.mpr hsome

/-- **How a call starts**: with the tasks of a caller, or with those that `dispatch` creates. -/
inductive Started (l : EventLoop) : StartEvent → EventLoop × Frame → Prop
  | called (critical : List TaskId) (timeoutSec delay : ℚ)
      (hvalid : ∀ t ∈ critical, t < l.tasks.length) :
      Started l (.runRelayers critical timeoutSec delay) (runRelayers l critical timeoutSec delay)
  | dispatched (executor : Executor) (timeoutMs delay : ℚ) (s : EventLoop × List TaskId)
      (hs : Created l s) :
      Started l (.dispatch executor timeoutMs delay) (runRelayers s.1 s.2 (timeoutMs / 1000) delay)

theorem startEvent_ok {l : EventLoop} {e : StartEvent} {r : EventLoop × Frame}
    (h : e.step l = .ok r) : Started l e r := by
  cases e with
  | runRelayers critical timeoutSec delay =>
    rw [StartEvent.step, ensure_bind] at h
    cases h.2
    exact .called critical timeoutSec delay h.1.1
  | dispatch executor timeoutMs delay =>
    rw [StartEvent.step, ensure_bind] at h
    obtain ⟨s, hs, hd⟩ := dispatch_created l executor timeoutMs delay
    cases h.2
    rw [hd]
    exact .dispatched executor timeoutMs delay s hs

theorem startEvent_prims {l : EventLoop} {e : StartEvent} {r : EventLoop × Frame}
    (h : e.step l = .ok r) : Prims l r.1 := by
  cases startEvent_ok h with
  | called critical timeoutSec delay _ => exact prims_runRelayers l critical timeoutSec delay
  | dispatched executor timeoutMs delay s hs => exact hs.prims.trans (prims_runRelayers _ _ _ _)

/-- **What a move does**: one of the three continuations of a call. -/
inductive Moved (l : EventLoop) (f : Frame) : MoveEvent → EventLoop × Frame → Prop
  | wake (done : List TaskId) (delay : ℚ) (hc : f.control = .waiting)
      (hdone : done.Perm (f.pending.filter l.finished)) :
      Moved l f (.wake done delay) (afterWait l f done delay)
  | concluded (hc : f.control = .gathering) (hall : f.Gathered l) :
      Moved l f .gathered (l, { f with control := .returned (conclude f) })
  | unwound (hc : f.control = .waiting ∨ f.control = .gathering) : Moved l f .cancel (unwind l f)
  | raised (e : MoveEvent) (hc : f.control = .unwinding) (hall : f.Gathered l) :
      Moved l f e (l, { f with control := .raised })

theorem moveEvent_ok {l : EventLoop} {f : Frame} {e : MoveEvent} {r : EventLoop × Frame}
    (h : e.step l f = .ok r) : Moved l f e r := by
  cases e with
  | wake done delay =>
    rw [MoveEvent.step, ensure_bind] at h
    obtain ⟨⟨hc, hdone, -⟩, h⟩ := h
    cases h
    exact .wake done delay hc hdone
  | gathered =>
    simp only [MoveEvent.step] at h
    split at h
    · rename_i hc
      rw [ensure_bind] at h
      cases h.2
      exact .concluded hc h.1
    · rename_i hc
      rw [ensure_bind] at h
      cases h.2
      exact .raised .gathered hc h.1
    · cases h
  | cancel =>
    simp only [MoveEvent.step] at h
    split at h
    · rename_i hc
      cases h
      exact .unwound (.inl hc)
    · rename_i hc
      rw [ensure_bind] at h
      cases h.2
      exact .unwound (.inr hc)
    · rename_i hc
      rw [ensure_bind] at h
      cases h.2
      exact .raised .cancel hc h.1
    · cases h

theorem moveEvent_prims {l : EventLoop} {f : Frame} {e : MoveEvent} {r : EventLoop × Frame}
    (h : e.step l f = .ok r) : Prims l r.1 := by
  cases moveEvent_ok h with
  | wake done delay _ _ => exact prims_afterWait l f done delay
  | concluded _ _ => exact .refl
  | unwound _ => exact prims_unwind l f
  | raised _ _ => exact .refl

/-- What a committed step does to the loop. -/
theorem step_loop {s s' : EventLoop × List Frame}
    {e : Transact.PoolEvent LoopEvent StartEvent MoveEvent} {u : Unit}
    (h : system.step s e = .ok (s', u)) :
    (∃ t o, e = .shared (.finish t o) ∧ t < s.1.tasks.length ∧ s.1.outcome t = none ∧
      s'.1 = s.1.finish t o) ∨
    (∀ t o, e ≠ .shared (.finish t o)) ∧ Prims s.1 s'.1 := by
  cases Transact.Pool.step_ok h with
  | shared a ha _ =>
    rcases loopEvent_ok ha with ⟨t, o, rfl, ht, hnone, heq⟩ | ⟨hne, hp⟩
    · exact .inl ⟨t, o, rfl, ht, hnone, heq⟩
    · exact .inr ⟨by simpa using hne, hp⟩
  | start b k hb _ => exact .inr ⟨by simp, startEvent_prims hb⟩
  | move i c k k' _ hm _ => exact .inr ⟨by simp, moveEvent_prims hm⟩

/-- What every call relies on: outcomes and requests to cancel stay. -/
theorem calls_evolve : Transact.Pool.Guarantee calls EventLoop.Evolves where
  refl := EventLoop.Evolves.refl
  trans := EventLoop.Evolves.trans
  shared := by
    intro l e l' h
    rcases loopEvent_ok h with ⟨t, o, -, -, hnone, rfl⟩ | ⟨-, hp⟩
    · exact EventLoop.evolves_finish hnone
    · exact EventLoop.evolves_prims hp
  start := fun h => EventLoop.evolves_prims (startEvent_prims h)
  move := fun h => EventLoop.evolves_prims (moveEvent_prims h)

end Relayer
end SolanaGuardian
