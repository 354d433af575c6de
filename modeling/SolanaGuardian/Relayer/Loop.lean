import Mathlib.Data.Finset.Insert
import Mathlib.Data.Finset.Erase
import Mathlib.Logic.Relation
import SolanaGuardian.Lib.Python

/-!
# The event loop

What `app/core/jito_fanout_executor.py` uses of asyncio: tasks that finish once, with a result, an
exception or a cancellation; requests to cancel, which a task may outrun; done callbacks that run
some time after their task has finished; and the clock. `_BACKGROUND_TASKS` is here as well, since
tasks enter and leave it together with their callback.

Every change of the loop is a task that finishes (`EventLoop.finish`) or is made of the primitive
steps of `Prim`, which finish no task. Two things follow from those alone, for any run of the loop:

* `EventLoop.Evolves`: an outcome is final and a request to cancel is never withdrawn.
* `EventLoop.Registered`: of the tasks that nobody awaits, an unfinished one is in
  `_BACKGROUND_TASKS`, and one whose callback has run is not.
-/

namespace SolanaGuardian
namespace Relayer

/-- A task, by its place in the order of creation. -/
abbrev TaskId := Nat

/-- The dictionary that a relayer task returns. `success` is the truth value of that key. -/
structure RelayResult where
  success : Bool
  region : Option String := none
  error : Option String := none
  reason : Option String := none
  deriving DecidableEq

/-- How a task finished: `nonDict` has the text of a result that is no dictionary. -/
inductive Outcome where
  | dict (res : RelayResult)
  | nonDict (text : String)
  | exception (text : String)
  | cancelled
  deriving DecidableEq

/-- A result that acknowledges the bundle. -/
def Outcome.ack : Outcome → Option RelayResult
  | .dict res => if res.success then some res else none
  | _ => none

/-- A relayer task whose result someone awaits, a background task of `dispatch`, or a drain of
`run_relayers`, which awaits some tasks. -/
inductive Kind where
  | critical
  | background
  | drain (awaited : List TaskId)
  deriving DecidableEq

/-- The callback `_cleanup_task` of a task. -/
inductive Cleanup where
  | absent | registered | ran
  deriving DecidableEq

/-- `asyncio.Task`. `sends` is the result of a task that runs `_send_raw_bundle`. -/
structure Task where
  name : String
  kind : Kind
  sends : Option RelayResult := none
  cancelRequested : Bool := false
  outcome : Option Outcome := none
  cleanup : Cleanup := .absent
  deriving DecidableEq

/-- `task.cancel()`: no effect on a finished task. -/
def Task.cancel (task : Task) : Task :=
  if task.outcome.isSome then task else { task with cancelRequested := true }

/-- The loop, with the resolution of its clock and `_BACKGROUND_TASKS`. -/
structure EventLoop where
  now : ℚ
  resolution : ℚ
  tasks : List Task
  background : Finset TaskId

namespace EventLoop

variable (l : EventLoop) (t : TaskId)

def outcome : Option Outcome := l.tasks[t]?.bind (·.outcome)

def name : String := (l.tasks[t]?.map (·.name)).getD ""

/-- `task.done()`. -/
def finished : Bool := (l.outcome t).isSome

/-- The task finished with a result that acknowledges the bundle. -/
def ack : Option RelayResult := (l.outcome t).bind Outcome.ack

def cancelRequested : Bool := (l.tasks[t]?.map (·.cancelRequested)).getD false

/-! ## Primitive steps -/

def advance (dt : ℚ) : EventLoop := { l with now := l.now + dt }

def modify (g : Task → Task) : EventLoop := { l with tasks := l.tasks.modify t g }

/-- `asyncio.create_task`: the task, and its id. -/
def createTask (name : String) (kind : Kind) (sends : Option RelayResult) : EventLoop × TaskId :=
  ({ l with tasks := l.tasks ++ [{ name, kind, sends }] }, l.tasks.length)

/-- `_BACKGROUND_TASKS.add(t)` and `t.add_done_callback(_cleanup_task)`. -/
def register : EventLoop :=
  { l.modify t fun task => { task with cleanup := .registered } with
    background := insert t l.background }

/-- A background task or a drain: created and registered, before anything else can run. -/
def createRegistered (name : String) (kind : Kind) (sends : Option RelayResult) : EventLoop :=
  let r := l.createTask name kind sends
  r.1.register r.2

def cancelTask : EventLoop := l.modify t Task.cancel

/-- `for t in tasks: t.cancel()`. -/
def cancelAll (tasks : List TaskId) : EventLoop := tasks.foldl cancelTask l

/-- A task finishes. -/
def finish (o : Outcome) : EventLoop := l.modify t fun task => { task with outcome := some o }

/-- `_cleanup_task`. -/
def cleanupTask : EventLoop :=
  { l.modify t fun task => { task with cleanup := .ran } with background := l.background.erase t }

end EventLoop

/-- The primitive steps of the loop that finish no task. -/
inductive Prim : EventLoop → EventLoop → Prop
  | advance (l : EventLoop) (dt : ℚ) : Prim l (l.advance dt)
  | create (l : EventLoop) (name : String) (sends : Option RelayResult) :
      Prim l (l.createTask name .critical sends).1
  | createRegistered (l : EventLoop) (name : String) (kind : Kind) (sends : Option RelayResult) :
      Prim l (l.createRegistered name kind sends)
  | cancel (l : EventLoop) (t : TaskId) : Prim l (l.cancelTask t)
  | cleanup (l : EventLoop) (t : TaskId) (h : l.finished t = true) : Prim l (l.cleanupTask t)

/-- Any number of primitive steps. -/
abbrev Prims : EventLoop → EventLoop → Prop := Relation.ReflTransGen Prim

theorem prims_cancelAll (l : EventLoop) (tasks : List TaskId) : Prims l (l.cancelAll tasks) := by
  induction tasks generalizing l with
  | nil => exact .refl
  | cons t tasks ih => exact .head (.cancel l t) (ih (l.cancelTask t))

/-! ## What stays -/

/-- What stays of a task: its name, its work, a request to cancel and its outcome. -/
structure Task.Evolves (a b : Task) : Prop where
  name : b.name = a.name
  kind : b.kind = a.kind
  cancelRequested : a.cancelRequested = true → b.cancelRequested = true
  outcome : ∀ o, a.outcome = some o → b.outcome = some o

theorem Task.Evolves.refl (a : Task) : a.Evolves a := ⟨rfl, rfl, id, fun _ h => h⟩

theorem Task.Evolves.trans {a b c : Task} (h : a.Evolves b) (h' : b.Evolves c) : a.Evolves c :=
  ⟨h'.name.trans h.name, h'.kind.trans h.kind, fun hc => h'.cancelRequested (h.cancelRequested hc),
    fun o ho => h'.outcome o (h.outcome o ho)⟩

theorem Task.evolves_cancel (a : Task) : a.Evolves a.cancel := by
  unfold Task.cancel
  split
  · exact .refl a
  · exact ⟨rfl, rfl, fun _ => rfl, fun _ h => h⟩

namespace EventLoop

/-- Every task of the loop evolves. -/
def Evolves (l l' : EventLoop) : Prop :=
  ∀ (t : TaskId) (a : Task), l.tasks[t]? = some a → ∃ b, l'.tasks[t]? = some b ∧ a.Evolves b

variable {l l' l'' : EventLoop} {t : TaskId}

theorem Evolves.refl (l : EventLoop) : l.Evolves l := fun _ a h => ⟨a, h, .refl a⟩

theorem Evolves.trans (h : l.Evolves l') (h' : l'.Evolves l'') : l.Evolves l'' := by
  intro t a ha
  obtain ⟨b, hb, hab⟩ := h t a ha
  obtain ⟨c, hc, hbc⟩ := h' t b hb
  exact ⟨c, hc, hab.trans hbc⟩

@[simp] theorem tasks_modify (g : Task → Task) (s : TaskId) :
    (l.modify t g).tasks[s]? = if t = s then l.tasks[s]?.map g else l.tasks[s]? := by
  rw [modify, List.getElem?_modify]
  split <;> simp

theorem evolves_modify {g : Task → Task} (hg : ∀ a, l.tasks[t]? = some a → a.Evolves (g a)) :
    l.Evolves (l.modify t g) := by
  intro s a ha
  rw [tasks_modify, ha]
  by_cases hs : t = s
  · subst hs
    rw [if_pos rfl]
    exact ⟨g a, rfl, hg a ha⟩
  · rw [if_neg hs]
    exact ⟨a, rfl, .refl a⟩

theorem evolves_createTask (name : String) (kind : Kind) (sends : Option RelayResult) :
    l.Evolves (l.createTask name kind sends).1 := by
  intro s a ha
  have hs : s < l.tasks.length := (List.getElem?_eq_some_iff.mp ha).1
  refine ⟨a, ?_, .refl a⟩
  rw [createTask, List.getElem?_append_left hs]
  exact ha

theorem evolves_register : l.Evolves (l.register t) :=
  @evolves_modify l t (fun task => { task with cleanup := .registered }) fun _ _ =>
    ⟨rfl, rfl, id, fun _ h => h⟩

/-- **Primitive steps** keep what stays of every task. -/
theorem evolves_prim (h : Prim l l') : l.Evolves l' := by
  cases h with
  | advance dt => exact Evolves.refl l
  | create name sends => exact evolves_createTask name .critical sends
  | createRegistered name kind sends =>
    exact (evolves_createTask name kind sends).trans evolves_register
  | cancel t => exact evolves_modify fun a _ => a.evolves_cancel
  | cleanup t =>
    exact @evolves_modify l t (fun task => { task with cleanup := .ran }) fun _ _ =>
      ⟨rfl, rfl, id, fun _ h => h⟩

theorem evolves_prims (h : Prims l l') : l.Evolves l' := by
  induction h with
  | refl => exact Evolves.refl l
  | tail _ hp ih => exact ih.trans (evolves_prim hp)

theorem evolves_finish {o : Outcome} (hnone : l.outcome t = none) : l.Evolves (l.finish t o) := by
  refine evolves_modify fun a ha => ⟨rfl, rfl, id, fun o' ho' => ?_⟩
  rw [outcome, ha, Option.bind_some, ho'] at hnone
  cases hnone

section

variable (h : l.Evolves l')
include h

theorem Evolves.outcome {o : Outcome} (ho : l.outcome t = some o) : l'.outcome t = some o := by
  obtain ⟨a, ha, hao⟩ := Option.bind_eq_some_iff.mp ho
  obtain ⟨b, hb, hab⟩ := h t a ha
  rw [EventLoop.outcome, hb]
  exact hab.outcome o hao

theorem Evolves.finished (hf : l.finished t = true) : l'.finished t = true := by
  obtain ⟨o, ho⟩ := Option.isSome_iff_exists.mp hf
  exact Option.isSome_iff_exists.mpr ⟨o, h.outcome ho⟩

/-- The outcome of a finished task is the same. -/
theorem Evolves.outcome_eq (hf : l.finished t = true) : l'.outcome t = l.outcome t := by
  obtain ⟨o, ho⟩ := Option.isSome_iff_exists.mp hf
  rw [ho, h.outcome ho]

theorem Evolves.name (ht : t < l.tasks.length) : l'.name t = l.name t := by
  obtain ⟨a, ha⟩ : ∃ a, l.tasks[t]? = some a := ⟨_, List.getElem?_eq_getElem ht⟩
  obtain ⟨b, hb, hab⟩ := h t a ha
  rw [EventLoop.name, EventLoop.name, ha, hb]
  exact hab.name

theorem Evolves.length (ht : t < l.tasks.length) : t < l'.tasks.length := by
  obtain ⟨b, hb, -⟩ := h t _ (List.getElem?_eq_getElem ht)
  exact (List.getElem?_eq_some_iff.mp hb).1

theorem Evolves.cancelRequested (hc : l.cancelRequested t = true) :
    l'.cancelRequested t = true := by
  unfold EventLoop.cancelRequested at hc ⊢
  cases ha : l.tasks[t]? with
  | none => rw [ha] at hc; cases hc
  | some a =>
    obtain ⟨b, hb, hab⟩ := h t a ha
    rw [ha] at hc
    rw [hb]
    exact hab.cancelRequested hc

end

/-! ## Outcomes -/

theorem outcome_modify {g : Task → Task} (hg : ∀ a, (g a).outcome = a.outcome) (s : TaskId) :
    (l.modify t g).outcome s = l.outcome s := by
  unfold outcome
  rw [tasks_modify]
  split
  · cases l.tasks[s]? with
    | none => rfl
    | some a => exact hg a
  · rfl

theorem outcome_createTask (name : String) (kind : Kind) (sends : Option RelayResult)
    (s : TaskId) : (l.createTask name kind sends).1.outcome s = l.outcome s := by
  unfold outcome
  by_cases hs : s < l.tasks.length
  · rw [createTask, List.getElem?_append_left hs]
  · have hnone : l.tasks[s]? = none := List.getElem?_eq_none (Nat.le_of_not_lt hs)
    rw [createTask, List.getElem?_append_right (Nat.le_of_not_lt hs), List.getElem?_singleton, hnone]
    split <;> rfl

/-- **Primitive steps** finish no task. -/
theorem outcome_prim (h : Prim l l') (s : TaskId) : l'.outcome s = l.outcome s := by
  cases h with
  | advance dt => rfl
  | create name sends => exact outcome_createTask name .critical sends s
  | createRegistered name kind sends =>
    have hmodify := @outcome_modify (l.createTask name kind sends).1 (l.createTask name kind sends).2
      (fun task => { task with cleanup := .registered }) (fun _ => rfl) s
    rw [outcome_createTask] at hmodify
    exact hmodify
  | cancel t =>
    refine outcome_modify (fun a => ?_) s
    unfold Task.cancel
    split <;> rfl
  | cleanup t => exact @outcome_modify l t (fun task => { task with cleanup := .ran }) (fun _ => rfl) s

theorem outcome_prims (h : Prims l l') (s : TaskId) : l'.outcome s = l.outcome s := by
  induction h with
  | refl => rfl
  | tail _ hp ih => rw [outcome_prim hp, ih]

theorem outcome_finish (ht : t < l.tasks.length) (o : Outcome) (s : TaskId) :
    (l.finish t o).outcome s = if t = s then some o else l.outcome s := by
  unfold outcome finish
  rw [tasks_modify]
  split
  · rename_i hs
    subst hs
    rw [List.getElem?_eq_getElem ht]
    rfl
  · rfl

/-- A finished task is a task of the loop. -/
theorem finished_lt (h : l.finished t = true) : t < l.tasks.length := by
  obtain ⟨o, ho⟩ := Option.isSome_iff_exists.mp h
  obtain ⟨a, ha, -⟩ := Option.bind_eq_some_iff.mp ho
  exact (List.getElem?_eq_some_iff.mp ha).1

/-- After `cancel()` a task is finished or asked to cancel. -/
theorem cancelTask_spec (ht : t < l.tasks.length) :
    (l.cancelTask t).finished t = true ∨ (l.cancelTask t).cancelRequested t = true := by
  have ha : l.tasks[t]? = some l.tasks[t] := List.getElem?_eq_getElem ht
  have hb : (l.cancelTask t).tasks[t]? = some (l.tasks[t]).cancel := by
    rw [cancelTask, tasks_modify, if_pos rfl, ha]
    rfl
  rw [EventLoop.finished, EventLoop.outcome, EventLoop.cancelRequested, hb]
  unfold Task.cancel
  split
  · rename_i hsome
    exact .inl hsome
  · exact .inr rfl

/-- After `for t in tasks: t.cancel()`, each is finished or asked to cancel. -/
theorem cancelAll_spec {tasks : List TaskId} (hvalid : ∀ t ∈ tasks, t < l.tasks.length) :
    ∀ t ∈ tasks, (l.cancelAll tasks).finished t = true ∨
      (l.cancelAll tasks).cancelRequested t = true := by
  induction tasks generalizing l with
  | nil => intro t ht; cases ht
  | cons s tasks ih =>
    intro t ht
    have hfirst : l.Evolves (l.cancelTask s) := evolves_prim (.cancel l s)
    have hrest := evolves_prims (prims_cancelAll (l.cancelTask s) tasks)
    rcases List.mem_cons.mp ht with rfl | ht
    · rcases cancelTask_spec (hvalid t (by simp)) with h | h
      · exact .inl (hrest.finished h)
      · exact .inr (hrest.cancelRequested h)
    · exact ih (fun t ht => hfirst.length (hvalid t (List.mem_cons_of_mem _ ht))) t ht

/-! ## The registry -/

/-- Of the tasks that nobody awaits, an unfinished one is in `_BACKGROUND_TASKS`, and one whose
callback has run is not. -/
def Registered (l : EventLoop) : Prop :=
  ∀ (t : TaskId) (a : Task), l.tasks[t]? = some a → a.kind ≠ .critical →
    (a.outcome = none → t ∈ l.background) ∧ (a.cleanup = .ran → t ∉ l.background)

/-- A change of one task that keeps its kind and its callback and unsets no outcome. -/
theorem Registered.modify {g : Task → Task} (h : l.Registered)
    (hg : ∀ a, l.tasks[t]? = some a → (g a).kind = a.kind ∧ (g a).cleanup = a.cleanup ∧
      ((g a).outcome = none → a.outcome = none)) : (l.modify t g).Registered := by
  intro s b hb hkind
  rw [tasks_modify] at hb
  split at hb
  · rename_i hs
    subst hs
    obtain ⟨a, ha, rfl⟩ := Option.map_eq_some_iff.mp hb
    obtain ⟨hk, hc, ho⟩ := hg a ha
    obtain ⟨hin, hout⟩ := h t a ha (by rw [← hk]; exact hkind)
    exact ⟨fun hnone => hin (ho hnone), fun hran => hout (by rw [← hc]; exact hran)⟩
  · exact h s b hb hkind

/-- **Primitive steps** keep the registry. -/
theorem registered_prim (h : l.Registered) (hp : Prim l l') : l'.Registered := by
  cases hp with
  | advance dt => exact h
  | create name sends =>
    intro s b hb hkind
    by_cases hs : s < l.tasks.length
    · rw [createTask, List.getElem?_append_left hs] at hb
      exact h s b hb hkind
    · rw [createTask, List.getElem?_append_right (Nat.le_of_not_lt hs),
        List.getElem?_singleton] at hb
      split at hb
      · cases hb
        exact absurd rfl hkind
      · cases hb
  | createRegistered name kind sends =>
    intro s b hb hkind
    simp only [createRegistered, register, createTask] at hb ⊢
    rw [tasks_modify] at hb
    by_cases hs : s < l.tasks.length
    · rw [if_neg (Nat.ne_of_gt hs), List.getElem?_append_left hs] at hb
      obtain ⟨hin, hout⟩ := h s b hb hkind
      refine ⟨fun hnone => Finset.mem_insert_of_mem (hin hnone), fun hran hmem => ?_⟩
      rcases Finset.mem_insert.mp hmem with heq | hmem
      · exact absurd heq (Nat.ne_of_lt hs)
      · exact hout hran hmem
    · have hge : l.tasks.length ≤ s := Nat.le_of_not_lt hs
      rw [List.getElem?_append_right hge, List.getElem?_singleton] at hb
      have hlen : s = l.tasks.length := by
        by_contra hne
        have hpos : ¬ s - l.tasks.length = 0 := fun h0 =>
          hne (Nat.le_antisymm (Nat.sub_eq_zero_iff_le.mp h0) hge)
        rw [if_neg (Ne.symm hne), if_neg hpos] at hb
        cases hb
      subst hlen
      simp only [Nat.sub_self, if_true, Option.map_some, Option.some.injEq] at hb
      refine ⟨fun _ => Finset.mem_insert_self _ _, fun hran => ?_⟩
      rw [← hb] at hran
      cases hran
  | cancel t =>
    refine h.modify fun a _ => ?_
    unfold Task.cancel
    split <;> exact ⟨rfl, rfl, id⟩
  | cleanup t hf =>
    intro s b hb hkind
    simp only [cleanupTask] at hb ⊢
    rw [tasks_modify] at hb
    split at hb
    · rename_i hs
      subst hs
      obtain ⟨a, ha, rfl⟩ := Option.map_eq_some_iff.mp hb
      refine ⟨fun hnone => ?_, fun _ => Finset.notMem_erase _ _⟩
      have ho : l.outcome t = none := by rw [outcome, ha]; exact hnone
      rw [finished, ho] at hf
      cases hf
    · rename_i hs
      obtain ⟨hin, hout⟩ := h s b hb hkind
      exact ⟨fun hnone => Finset.mem_erase.mpr ⟨Ne.symm hs, hin hnone⟩,
        fun hran hmem => hout hran (Finset.mem_of_mem_erase hmem)⟩

theorem registered_finish {o : Outcome} (h : l.Registered) : (l.finish t o).Registered :=
  h.modify fun a _ => ⟨rfl, rfl, fun ho => by cases ho⟩

theorem registered_prims (h : l.Registered) (hp : Prims l l') : l'.Registered := by
  induction hp with
  | refl => exact h
  | tail _ hp ih => exact registered_prim ih hp

end EventLoop

end Relayer
end SolanaGuardian
