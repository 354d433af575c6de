import SolanaGuardian.Lib.Machine

/-!
# One machine in the form of another

A machine whose states are written in another form, or whose inputs arrive in another form.

* `Encodes enc err M N`: `N` steps a state in the form `enc` as `M` steps the state itself, with
  errors in the form `err`. Runs, logs and errors of `N` are then those of `M` (`Encodes.exec`,
  `Encodes.log`, `Encodes.step_error`), and a store of machines in that form is the store in that
  form (`Encodes.keyed`).
* `decoding dec M`: the inputs of `M` are read off other inputs, which `dec` can refuse. A refused
  input is a failed step, so a run is the run of `M` on the inputs that were read (`decoding_exec`).
-/

namespace Transact

variable {σ τ ι κ ε ε' ο : Type*}

/-! ## Another form of the states -/

/-- `N` is `M` with its states in the form `enc` and its errors in the form `err`. -/
def Encodes (enc : σ → τ) (err : ε → ε') (M : Machine σ ι ε ο) (N : Machine τ ι ε' ο) : Prop :=
  ∀ s i, N.step (enc s) i = ((M.step s i).map fun r => (enc r.1, r.2)).mapError err

namespace Encodes

variable {enc : σ → τ} {err : ε → ε'} {M : Machine σ ι ε ο} {N : Machine τ ι ε' ο}

theorem step_ok (h : Encodes enc err M N) {s s' : σ} {i : ι} {o : ο}
    (hs : M.step s i = .ok (s', o)) : N.step (enc s) i = .ok (enc s', o) := by
  rw [h, hs]
  rfl

theorem step_of_error (h : Encodes enc err M N) {s : σ} {i : ι} {e : ε}
    (hs : M.step s i = .error e) : N.step (enc s) i = .error (err e) := by
  rw [h, hs]
  rfl

/-- An error of `N` at a state in the form is an error of `M`. -/
theorem step_error (h : Encodes enc err M N) {s : σ} {i : ι} {e' : ε'}
    (hs : N.step (enc s) i = .error e') : ∃ e, M.step s i = .error e ∧ err e = e' := by
  cases hm : M.step s i with
  | error e =>
    rw [h.step_of_error hm] at hs
    cases hs
    exact ⟨e, rfl, rfl⟩
  | ok r =>
    rw [h.step_ok hm] at hs
    cases hs

/-- A run of `N` is the run of `M`, with its commits and their outputs. -/
theorem run (h : Encodes enc err M N) (s : σ) (is : List ι) :
    N.exec (enc s) is = enc (M.exec s is) ∧ N.log (enc s) is = M.log s is := by
  induction is generalizing s with
  | nil => exact ⟨rfl, rfl⟩
  | cons i is ih =>
    cases hm : M.step s i with
    | error e =>
      have hn := h.step_of_error hm
      rw [Machine.exec_cons, Machine.exec_cons, Machine.next_error hn, Machine.next_error hm,
        Machine.log_cons_error hn, Machine.log_cons_error hm]
      exact ih s
    | ok r =>
      have hn := h.step_ok hm
      rw [Machine.exec_cons, Machine.exec_cons, Machine.next_ok hn, Machine.next_ok hm,
        Machine.log_cons_ok hn, Machine.log_cons_ok hm, (ih r.1).2]
      exact ⟨(ih r.1).1, rfl⟩

theorem exec (h : Encodes enc err M N) (s : σ) (is : List ι) :
    N.exec (enc s) is = enc (M.exec s is) := (h.run s is).1

theorem log (h : Encodes enc err M N) (s : σ) (is : List ι) :
    N.log (enc s) is = M.log s is := (h.run s is).2

/-- A store of machines in the form. -/
theorem keyed [DecidableEq κ] {addr : ι → Option κ} {missing : ε} (h : Encodes enc err M N) :
    Encodes (fun s k => enc (s k)) err (keyed addr missing fun _ => M)
      (keyed addr (err missing) fun _ => N) := by
  intro s i
  cases hk : addr i with
  | none => simp [Transact.keyed, hk, Except.map, Except.mapError]
  | some k =>
    rw [keyed_step_at hk, keyed_step_at hk, h]
    cases M.step (s k) i with
    | error e => rfl
    | ok r =>
      have hupdate : (fun j => enc (Function.update s k r.1 j)) =
          Function.update (fun j => enc (s j)) k (enc r.1) := Function.comp_update enc s k r.1
      simp [Except.map, Except.mapError, hupdate]

end Encodes

/-! ## Another form of the inputs -/

section Decoding

/-- `M`, with its inputs read off other inputs. -/
def decoding (dec : κ → Except ε ι) (M : Machine σ ι ε ο) : Machine σ κ ε ο where
  step s j :=
    match dec j with
    | .ok i => M.step s i
    | .error e => .error e

variable {dec : κ → Except ε ι} {M : Machine σ ι ε ο}

theorem decoding_step {s : σ} {j : κ} {i : ι} (h : dec j = .ok i) :
    (decoding dec M).step s j = M.step s i := by
  simp [decoding, h]

theorem decoding_refused {s : σ} {j : κ} {e : ε} (h : dec j = .error e) :
    (decoding dec M).step s j = .error e := by
  simp [decoding, h]

/-- A run on the inputs that were read. -/
theorem decoding_exec (s : σ) (js : List κ) :
    (decoding dec M).exec s js = M.exec s (js.filterMap fun j => (dec j).toOption) := by
  induction js generalizing s with
  | nil => rfl
  | cons j js ih =>
    cases hj : dec j with
    | error e =>
      rw [Machine.exec_cons, Machine.next_error (decoding_refused hj), ih]
      simp [hj, Except.toOption]
    | ok i =>
      have hnext : (decoding dec M).next s j = M.next s i := by
        rw [Machine.next, Machine.next, decoding_step hj]
      rw [Machine.exec_cons, hnext, ih]
      simp [hj, Except.toOption]

end Decoding

end Transact
