import Mathlib.Data.List.Induction
import Mathlib.Logic.Function.Basic

/-!
# Transactional machines

A machine whose steps are transactions: a step commits with a new state and an output, or it fails
and leaves the state as it was.

* `Machine.exec`: the state after a run; `Machine.log`: the committed steps of a run with their
  outputs. A failed step is in neither.
* `Machine.AllSteps`: a property of every committed step of a run and the state before it.
* `Machine.run_rule`: a relation between the state and the log that holds at the start and that
  every committed step keeps holds after every run. `Machine.invariant` is the case without a log.
* `Machine.replay_rule`: a party that rebuilds part of the state from the messages of the committed
  steps, and may refuse one, refuses none of a run and ends with that part of the state.
* `observed`: a machine next to a party that sees its outputs and nothing else. What the party
  knows is a fold over the log (`observed_snd`).
* `keyed`: one machine per key, over a store of states. An input names at most one key and steps
  only the machine of that key. `keyed_exec` and `keyed_log` project a run of the store to one
  key: what happens there is the run of that machine on the inputs that name it.
-/

namespace Transact

/-- A machine whose every step commits or fails. -/
structure Machine (σ ι ε ο : Type*) where
  step : σ → ι → Except ε (σ × ο)

namespace Machine

variable {σ ι ε ο : Type*} (M : Machine σ ι ε ο)

/-- The state after one step: a failed step leaves it as it was. -/
def next (s : σ) (i : ι) : σ :=
  match M.step s i with
  | .ok (s', _) => s'
  | .error _ => s

/-- The state after a run. -/
def exec (s : σ) (is : List ι) : σ := is.foldl M.next s

/-- The committed steps of a run, each with its output. -/
def log (s : σ) : List ι → List (ι × ο)
  | [] => []
  | i :: is =>
    match M.step s i with
    | .ok (s', o) => (i, o) :: log s' is
    | .error _ => log s is

variable {M}

theorem next_ok {s s' : σ} {i : ι} {o : ο} (h : M.step s i = .ok (s', o)) : M.next s i = s' := by
  simp [next, h]

theorem next_error {s : σ} {i : ι} {e : ε} (h : M.step s i = .error e) : M.next s i = s := by
  simp [next, h]

@[simp] theorem exec_nil (s : σ) : M.exec s [] = s := rfl

@[simp] theorem exec_cons (s : σ) (i : ι) (is : List ι) :
    M.exec s (i :: is) = M.exec (M.next s i) is := rfl

theorem exec_append (s : σ) (is js : List ι) :
    M.exec s (is ++ js) = M.exec (M.exec s is) js := List.foldl_append

theorem exec_concat (s : σ) (is : List ι) (i : ι) :
    M.exec s (is ++ [i]) = M.next (M.exec s is) i := exec_append s is [i]

@[simp] theorem log_nil (s : σ) : M.log s [] = [] := rfl

theorem log_cons_ok {s s' : σ} {i : ι} {o : ο} (h : M.step s i = .ok (s', o)) (is : List ι) :
    M.log s (i :: is) = (i, o) :: M.log s' is := by
  simp [log, h]

theorem log_cons_error {s : σ} {i : ι} {e : ε} (h : M.step s i = .error e) (is : List ι) :
    M.log s (i :: is) = M.log s is := by
  simp [log, h]

theorem log_append (s : σ) (is js : List ι) :
    M.log s (is ++ js) = M.log s is ++ M.log (M.exec s is) js := by
  induction is generalizing s with
  | nil => rfl
  | cons i is ih =>
    rw [List.cons_append, exec_cons]
    cases h : M.step s i with
    | error e => rw [log_cons_error h, log_cons_error h, next_error h, ih]
    | ok r =>
      obtain ⟨s', o⟩ := r
      rw [log_cons_ok h, log_cons_ok h, next_ok h, ih, List.cons_append]

/-- **Runs.** A relation between the state and the log that every committed step keeps. -/
theorem run_rule {I : σ → List (ι × ο) → Prop} {s : σ} (h0 : I s []) (is : List ι)
    (hstep : ∀ s l i s' o, i ∈ is → I s l → M.step s i = .ok (s', o) → I s' (l ++ [(i, o)])) :
    I (M.exec s is) (M.log s is) := by
  induction is using List.reverseRecOn with
  | nil => exact h0
  | append_singleton is i ih =>
    have ih := ih fun s l j s' o hj => hstep s l j s' o (List.mem_append_left _ hj)
    rw [exec_concat, log_append]
    cases h : M.step (M.exec s is) i with
    | error e => rw [next_error h, log_cons_error h, log_nil, List.append_nil]; exact ih
    | ok r =>
      obtain ⟨s', o⟩ := r
      rw [next_ok h, log_cons_ok h, log_nil]
      exact hstep _ _ _ _ _ (by simp) ih h

/-- An invariant that every committed step keeps. -/
theorem invariant {I : σ → Prop} {s : σ} (h0 : I s) (is : List ι)
    (hstep : ∀ s i s' o, I s → M.step s i = .ok (s', o) → I s') : I (M.exec s is) :=
  @run_rule _ _ _ _ M (fun s _ => I s) s h0 is fun s _ i s' o _ => hstep s i s' o

/-- **Replay.** A step emits messages, `take` is what the party does with one, and `view` what it
should know of the state. If it takes those of every step that commits after a run, it takes all. -/
theorem replay_rule {μ τ : Type*} {emit : ο → List μ} {take : τ → μ → Option τ} {view : σ → τ}
    {s : σ} (is : List ι)
    (hstep : ∀ pre i s' o, M.step (M.exec s pre) i = .ok (s', o) →
      (emit o).foldlM take (view (M.exec s pre)) = some (view s')) :
    ((M.log s is).flatMap fun r => emit r.2).foldlM take (view s) = some (view (M.exec s is)) := by
  induction is using List.reverseRecOn with
  | nil => rfl
  | append_singleton is i ih =>
    rw [exec_concat, log_append, List.flatMap_append, List.foldlM_append, ih]
    cases h : M.step (M.exec s is) i with
    | error e =>
      rw [next_error h, log_cons_error h]
      rfl
    | ok r =>
      have htake := hstep is i r.1 r.2 h
      rw [next_ok h, log_cons_ok h]
      simp [htake]

variable (M) in
/-- Every committed step of the run has the property, at the state before it. -/
def AllSteps (P : σ → ι → Prop) (s : σ) : List ι → Prop
  | [] => True
  | i :: is => ((∃ r, M.step s i = .ok r) → P s i) ∧ AllSteps P (M.next s i) is

theorem allSteps_concat {P : σ → ι → Prop} {s : σ} {is : List ι} {i : ι} :
    M.AllSteps P s (is ++ [i]) ↔
      M.AllSteps P s is ∧ ((∃ r, M.step (M.exec s is) i = .ok r) → P (M.exec s is) i) := by
  induction is generalizing s with
  | nil => simp [AllSteps]
  | cons j is ih => rw [List.cons_append, AllSteps, ih, AllSteps, exec_cons, and_assoc]

/-- A committed step stands somewhere in the run. -/
theorem mem_log {s : σ} {is : List ι} {i : ι} {o : ο} (h : (i, o) ∈ M.log s is) :
    ∃ pre post s', is = pre ++ i :: post ∧ M.step (M.exec s pre) i = .ok (s', o) := by
  induction is generalizing s with
  | nil => cases h
  | cons j is ih =>
    cases hs : M.step s j with
    | error e =>
      rw [log_cons_error hs] at h
      obtain ⟨pre, post, s', rfl, hi⟩ := ih h
      exact ⟨j :: pre, post, s', rfl, by rw [exec_cons, next_error hs]; exact hi⟩
    | ok r =>
      rw [log_cons_ok hs] at h
      rcases List.mem_cons.mp h with h | h
      · cases h
        exact ⟨[], is, r.1, rfl, hs⟩
      · obtain ⟨pre, post, s', rfl, hi⟩ := ih h
        exact ⟨j :: pre, post, s', rfl, by rw [exec_cons, next_ok hs]; exact hi⟩

/-- Inputs that never commit can be dropped from a run. -/
theorem run_filter {p : ι → Bool} {is : List ι}
    (h : ∀ i ∈ is, p i = false → ∀ s, ∃ e, M.step s i = .error e) (s : σ) :
    M.exec s (is.filter p) = M.exec s is ∧ M.log s (is.filter p) = M.log s is := by
  induction is generalizing s with
  | nil => exact ⟨rfl, rfl⟩
  | cons i is ih =>
    have ih := ih fun j hj => h j (List.mem_cons_of_mem _ hj)
    cases hp : p i with
    | false =>
      obtain ⟨e, he⟩ := h i List.mem_cons_self hp s
      rw [List.filter_cons_of_neg (by simp [hp]), exec_cons, next_error he, log_cons_error he]
      exact ih s
    | true =>
      rw [List.filter_cons_of_pos hp, exec_cons, exec_cons]
      refine ⟨(ih _).1, ?_⟩
      cases hs : M.step s i with
      | error e => rw [log_cons_error hs, log_cons_error hs, (ih s).2]
      | ok r => rw [log_cons_ok hs, log_cons_ok hs, (ih r.1).2]

/-- A step that changes the state committed. -/
theorem step_of_next_ne {s : σ} {i : ι} (h : M.next s i ≠ s) :
    ∃ s' o, M.step s i = .ok (s', o) ∧ M.next s i = s' := by
  cases hs : M.step s i with
  | error e => exact absurd (next_error hs) h
  | ok r => exact ⟨r.1, r.2, rfl, next_ok hs⟩

end Machine

/-! ## A party that sees the outputs -/

section Observed

variable {σ τ ι ε ο : Type*}

/-- A machine next to a party that takes each output of a committed step. -/
def observed (M : Machine σ ι ε ο) (take : τ → ο → τ) : Machine (σ × τ) ι ε ο where
  step s i := (M.step s.1 i).map fun r => ((r.1, take s.2 r.2), r.2)

variable {M : Machine σ ι ε ο} {take : τ → ο → τ}

theorem observed_run (s : σ × τ) (is : List ι) :
    (observed M take).exec s is =
      (M.exec s.1 is, (M.log s.1 is).foldl (fun t r => take t r.2) s.2) := by
  induction is generalizing s with
  | nil => rfl
  | cons i is ih =>
    cases h : M.step s.1 i with
    | error e =>
      have hs : (observed M take).step s i = .error e := by simp [observed, h, Except.map]
      rw [Machine.exec_cons, Machine.exec_cons, Machine.next_error h, Machine.next_error hs,
        Machine.log_cons_error h]
      exact ih s
    | ok r =>
      have hs : (observed M take).step s i = .ok ((r.1, take s.2 r.2), r.2) := by
        simp [observed, h, Except.map]
      rw [Machine.exec_cons, Machine.exec_cons, Machine.next_ok h, Machine.next_ok hs,
        Machine.log_cons_ok h, ih]
      rfl

/-- The party does not change the machine. -/
theorem observed_fst (s : σ × τ) (is : List ι) :
    ((observed M take).exec s is).1 = M.exec s.1 is := by rw [observed_run]

/-- What the party knows after a run. -/
theorem observed_snd (s : σ × τ) (is : List ι) :
    ((observed M take).exec s is).2 = (M.log s.1 is).foldl (fun t r => take t r.2) s.2 := by
  rw [observed_run]

theorem observed_step_ok {s s' : σ × τ} {i : ι} {o : ο}
    (h : (observed M take).step s i = .ok (s', o)) :
    M.step s.1 i = .ok (s'.1, o) ∧ s'.2 = take s.2 o := by
  simp only [observed] at h
  cases hm : M.step s.1 i with
  | error e => rw [hm] at h; cases h
  | ok r => rw [hm] at h; cases h; exact ⟨rfl, rfl⟩

/-- A fact that single messages teach and that nothing takes back: it holds after some messages
if it held before, or one of them taught it. -/
theorem foldl_learned {α : Type*} {take : τ → α → τ} {teaches : α → Prop} (knows : τ → Prop)
    (h : ∀ t a, knows (take t a) ↔ knows t ∨ teaches a) (t : τ) (l : List α) :
    knows (l.foldl take t) ↔ knows t ∨ ∃ a ∈ l, teaches a := by
  induction l generalizing t with
  | nil => simp
  | cons a l ih => simp [ih, h, or_assoc]

end Observed

/-! ## One machine per key -/

section Keyed

variable {κ σ ι ε ο : Type*} [DecidableEq κ]

/-- A store of machines: an input steps the machine of the key that it names. -/
def keyed (addr : ι → Option κ) (missing : ε) (M : κ → Machine σ ι ε ο) :
    Machine (κ → σ) ι ε ο where
  step s i :=
    match addr i with
    | none => .error missing
    | some k =>
      match (M k).step (s k) i with
      | .ok (c, o) => .ok (Function.update s k c, o)
      | .error e => .error e

variable {addr : ι → Option κ} {missing : ε} {M : κ → Machine σ ι ε ο}

/-- What a committed step of the store does: it commits at the key that it names. -/
theorem keyed_step_ok {s s' : κ → σ} {i : ι} {o : ο}
    (h : (keyed addr missing M).step s i = .ok (s', o)) :
    ∃ k c, addr i = some k ∧ (M k).step (s k) i = .ok (c, o) ∧ s' = Function.update s k c := by
  simp only [keyed] at h
  split at h
  · cases h
  · rename_i k hk
    split at h
    · rename_i c o' hc
      cases h
      exact ⟨k, c, hk, hc, rfl⟩
    · cases h

theorem keyed_step_at {s : κ → σ} {i : ι} {k : κ} (hk : addr i = some k) :
    (keyed addr missing M).step s i =
      ((M k).step (s k) i).map fun r => (Function.update s k r.1, r.2) := by
  simp only [keyed, hk]
  cases (M k).step (s k) i <;> rfl

/-- Why a step of the store fails: it names no key, or the machine that it names fails. -/
theorem keyed_step_error {s : κ → σ} {i : ι} {e : ε}
    (h : (keyed addr missing M).step s i = .error e) :
    (addr i = none ∧ e = missing) ∨ ∃ k, addr i = some k ∧ (M k).step (s k) i = .error e := by
  simp only [keyed] at h
  split at h
  · rename_i hk
    cases h
    exact .inl ⟨hk, rfl⟩
  · rename_i k hk
    split at h
    · cases h
    · rename_i he
      cases h
      exact .inr ⟨k, hk, he⟩

theorem keyed_next_at {s : κ → σ} {i : ι} {k : κ} (hk : addr i = some k) :
    (keyed addr missing M).next s i k = (M k).next (s k) i := by
  cases h : (M k).step (s k) i with
  | error e =>
    have hs : (keyed addr missing M).step s i = .error e := by rw [keyed_step_at hk, h]; rfl
    rw [Machine.next_error h, Machine.next_error hs]
  | ok r =>
    have hs : (keyed addr missing M).step s i = .ok (Function.update s k r.1, r.2) := by
      rw [keyed_step_at hk, h]; rfl
    rw [Machine.next_ok h, Machine.next_ok hs, Function.update_self]

/-- **Frame.** A step leaves every key that it does not name. -/
theorem keyed_next_ne {s : κ → σ} {i : ι} {k : κ} (hk : addr i ≠ some k) :
    (keyed addr missing M).next s i k = s k := by
  cases h : (keyed addr missing M).step s i with
  | error e => rw [Machine.next_error h]
  | ok r =>
    obtain ⟨j, c, hj, -, hr⟩ := keyed_step_ok h
    rw [Machine.next_ok h, hr, Function.update_of_ne]
    rintro rfl
    exact hk hj

/-- **Projection.** The state at a key after a run is the run of its machine on the inputs that
name it. -/
theorem keyed_exec (s : κ → σ) (is : List ι) (k : κ) :
    (keyed addr missing M).exec s is k = (M k).exec (s k) (is.filter (addr · = some k)) := by
  induction is generalizing s with
  | nil => rfl
  | cons i is ih =>
    rw [Machine.exec_cons, ih]
    by_cases hk : addr i = some k
    · rw [List.filter_cons_of_pos (by simpa using hk), Machine.exec_cons, keyed_next_at hk]
    · rw [List.filter_cons_of_neg (by simpa using hk), keyed_next_ne hk]

/-- The inputs that name a key determine what happens there. -/
theorem keyed_exec_filter (s : κ → σ) (is : List ι) (k : κ) :
    (keyed addr missing M).exec s (is.filter (addr · = some k)) k =
      (keyed addr missing M).exec s is k := by
  rw [keyed_exec, keyed_exec, List.filter_filter]
  simp only [Bool.and_self]

/-- The committed steps at a key are those of the run of its machine. -/
theorem keyed_log (s : κ → σ) (is : List ι) (k : κ) :
    ((keyed addr missing M).log s is).filter (addr ·.1 = some k) =
      (M k).log (s k) (is.filter (addr · = some k)) := by
  induction is generalizing s with
  | nil => rfl
  | cons i is ih =>
    by_cases hk : addr i = some k
    · rw [List.filter_cons_of_pos (by simpa using hk)]
      cases h : (M k).step (s k) i with
      | error e =>
        have hs : (keyed addr missing M).step s i = .error e := by rw [keyed_step_at hk, h]; rfl
        rw [Machine.log_cons_error hs, Machine.log_cons_error h, ih]
      | ok r =>
        have hs : (keyed addr missing M).step s i = .ok (Function.update s k r.1, r.2) := by
          rw [keyed_step_at hk, h]; rfl
        rw [Machine.log_cons_ok hs, Machine.log_cons_ok h,
          List.filter_cons_of_pos (by simpa using hk), ih, Function.update_self]
    · rw [List.filter_cons_of_neg (by simpa using hk)]
      have hn : (keyed addr missing M).next s i k = s k := keyed_next_ne hk
      cases hs : (keyed addr missing M).step s i with
      | error e => rw [Machine.log_cons_error hs, ih]
      | ok r =>
        rw [Machine.next_ok hs] at hn
        rw [Machine.log_cons_ok hs, List.filter_cons_of_neg (by simpa using hk), ih, hn]

end Keyed

end Transact
