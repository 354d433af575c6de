import SolanaGuardian.Lib.Machine

/-!
# Machines that run down

Some inputs of a machine do a piece of the work that is left (`works`), others bring no work
(`idles`), and what remains may bring new work. `Machine.Drains` is a measure of the work that is
left, next to an invariant.

* `Drains.bound`: as long as no work is brought, a run has at most as many working steps as there
  was work, whatever the order.
* `Drains.completes`: if every state that is not done has a working step, then working steps alone
  lead from every state to one that is done.
-/

namespace Transact
namespace Machine

variable {σ ι ε ο : Type*}

/-- `work` measures the work that is left: a working step does some of it, an idle one brings
none. -/
structure Drains (M : Machine σ ι ε ο) (I : σ → Prop) (works idles : ι → Prop)
    (work : σ → Nat) : Prop where
  keeps : ∀ {s i s' o}, I s → M.step s i = .ok (s', o) → I s'
  decreases : ∀ {s i s' o}, I s → works i → M.step s i = .ok (s', o) → work s' < work s
  idle : ∀ {s i s' o}, I s → idles i → M.step s i = .ok (s', o) → work s' ≤ work s

variable {M : Machine σ ι ε ο} {I : σ → Prop} {works idles : ι → Prop} {work : σ → Nat}

/-- **Bound.** The working steps of a run that brings no work. -/
theorem Drains.bound [DecidablePred works] (D : M.Drains I works idles work) {s : σ} (hs : I s)
    {is : List ι} (h : ∀ i ∈ is, works i ∨ idles i) :
    ((M.log s is).filter (works ·.1)).length + work (M.exec s is) ≤ work s := by
  induction is generalizing s with
  | nil => simp
  | cons i is ih =>
    have hrest : ∀ j ∈ is, works j ∨ idles j := fun j hj => h j (List.mem_cons_of_mem _ hj)
    rw [exec_cons]
    cases hstep : M.step s i with
    | error e =>
      rw [log_cons_error hstep, next_error hstep]
      exact ih hs hrest
    | ok r =>
      obtain ⟨s', o⟩ := r
      have hnext := ih (D.keeps hs hstep) hrest
      rw [log_cons_ok hstep, next_ok hstep]
      by_cases hi : works i
      · have hless := D.decreases hs hi hstep
        rw [List.filter_cons_of_pos (by simpa using hi), List.length_cons]
        omega
      · have hle := D.idle hs ((h i (by simp)).resolve_left hi) hstep
        rw [List.filter_cons_of_neg (by simpa using hi)]
        omega

/-- **Completion.** -/
theorem Drains.completes (D : M.Drains I works idles work) {Done : σ → Prop}
    (hprogress : ∀ s, I s → ¬ Done s → ∃ i r, works i ∧ M.step s i = .ok r) {s : σ} (hs : I s) :
    ∃ is, (∀ i ∈ is, works i) ∧ is.length ≤ work s ∧ Done (M.exec s is) := by
  induction hn : work s using Nat.strongRecOn generalizing s with
  | _ n ih =>
    subst hn
    by_cases hdone : Done s
    · exact ⟨[], by simp, Nat.zero_le _, hdone⟩
    obtain ⟨i, ⟨s', o⟩, hi, hstep⟩ := hprogress s hs hdone
    have hless := D.decreases hs hi hstep
    obtain ⟨is, hworks, hlength, hend⟩ := ih _ hless (D.keeps hs hstep) rfl
    refine ⟨i :: is, ?_, ?_, ?_⟩
    · intro j hj
      rcases List.mem_cons.mp hj with rfl | hj
      · exact hi
      · exact hworks j hj
    · rw [List.length_cons]
      omega
    · rw [exec_cons, next_ok hstep]
      exact hend

end Machine
end Transact
