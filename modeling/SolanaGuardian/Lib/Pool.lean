import SolanaGuardian.Lib.Machine

/-!
# Pools

Components over one shared store, as a machine (`Pool.machine`): an event changes the store alone,
starts a component, or moves one component, which may change the store too. The events of different
components come in any order.

* `Pool.step_ok`: what a committed step can do. `Pool.component_ok` is the same for one component:
  it was kept, it was started, or it moved.
* `Pool.Guarantee`: every event keeps a preorder on the stores, what a component relies on.
  `Guarantee.run` is that for runs.
* `Guarantee.invariant`: a property of a component and the store that the preorder keeps, that a started
  component has and that a move keeps, holds of every component after every run. `Guarantee.kept` is
  the same for one component, from a state on at which it has the property.
-/

namespace Transact

/-- An event of a pool. -/
inductive PoolEvent (α β γ : Type*) where
  | shared (a : α)
  | start (b : β)
  | move (i : Nat) (c : γ)

/-- Components of type `κ` over a store of type `σ`. -/
structure Pool (σ κ α β γ ε : Type*) where
  shared : σ → α → Except ε σ
  start : σ → β → Except ε (σ × κ)
  move : σ → κ → γ → Except ε (σ × κ)
  absent : ε

namespace Pool

variable {σ κ α β γ ε : Type*} (P : Pool σ κ α β γ ε)

def machine : Machine (σ × List κ) (PoolEvent α β γ) ε Unit where
  step s e :=
    match e with
    | .shared a => (P.shared s.1 a).map fun s' => ((s', s.2), ())
    | .start b => (P.start s.1 b).map fun r => ((r.1, s.2 ++ [r.2]), ())
    | .move i c =>
      match s.2[i]? with
      | none => .error P.absent
      | some k => (P.move s.1 k c).map fun r => ((r.1, s.2.set i r.2), ())

/-- What a committed step can do. -/
inductive Stepped (s s' : σ × List κ) : PoolEvent α β γ → Prop
  | shared (a : α) (h : P.shared s.1 a = .ok s'.1) (hs : s'.2 = s.2) : Stepped s s' (.shared a)
  | start (b : β) (k : κ) (h : P.start s.1 b = .ok (s'.1, k)) (hs : s'.2 = s.2 ++ [k]) :
      Stepped s s' (.start b)
  | move (i : Nat) (c : γ) (k k' : κ) (hk : s.2[i]? = some k)
      (h : P.move s.1 k c = .ok (s'.1, k')) (hs : s'.2 = s.2.set i k') : Stepped s s' (.move i c)

/-- What a committed step can be for the component `i`, which is `k` after it. -/
inductive Component (s s' : σ × List κ) (i : Nat) (k : κ) (e : PoolEvent α β γ) : Prop
  | kept (hk : s.2[i]? = some k)
  | started (b : β) (he : e = .start b) (hi : i = s.2.length) (h : P.start s.1 b = .ok (s'.1, k))
  | moved (c : γ) (k₀ : κ) (he : e = .move i c) (hk : s.2[i]? = some k₀)
      (h : P.move s.1 k₀ c = .ok (s'.1, k))

variable {P}

theorem step_ok {s s' : σ × List κ} {e : PoolEvent α β γ} {u : Unit}
    (h : P.machine.step s e = .ok (s', u)) : Stepped P s s' e := by
  cases e with
  | shared a =>
    simp only [machine] at h
    cases hs : P.shared s.1 a with
    | error e => rw [hs] at h; cases h
    | ok r => rw [hs] at h; cases h; exact .shared a hs rfl
  | start b =>
    simp only [machine] at h
    cases hs : P.start s.1 b with
    | error e => rw [hs] at h; cases h
    | ok r => rw [hs] at h; cases h; exact .start b r.2 hs rfl
  | move i c =>
    simp only [machine] at h
    split at h
    · cases h
    · rename_i k hk
      cases hs : P.move s.1 k c with
      | error e => rw [hs] at h; cases h
      | ok r => rw [hs] at h; cases h; exact .move i c k r.2 hk hs rfl

/-- What a committed step does to one component. -/
theorem component_ok {s s' : σ × List κ} {e : PoolEvent α β γ} {u : Unit} {i : Nat} {k : κ}
    (h : P.machine.step s e = .ok (s', u)) (hk : s'.2[i]? = some k) : Component P s s' i k e := by
  cases step_ok h with
  | shared a ha hs => exact .kept (by rw [← hs]; exact hk)
  | start b k' hb hs =>
    rw [hs] at hk
    by_cases hi : i < s.2.length
    · rw [List.getElem?_append_left hi] at hk
      exact .kept hk
    · rw [List.getElem?_append_right (by omega), List.getElem?_singleton] at hk
      split at hk
      · cases hk
        exact .started b rfl (by omega) hb
      · cases hk
  | move j c k₀ k' hk₀ hm hs =>
    rw [hs] at hk
    by_cases hij : j = i
    · subst hij
      rw [List.getElem?_set_self (List.getElem?_eq_some_iff.mp hk₀).1] at hk
      cases hk
      exact .moved c k₀ rfl hk₀ hm
    · rw [List.getElem?_set_ne hij] at hk
      exact .kept hk

/-- Components stay: one that is missing after a step was missing before, and was not started. -/
theorem missing_ok {s s' : σ × List κ} {e : PoolEvent α β γ} {u : Unit} {i : Nat}
    (h : P.machine.step s e = .ok (s', u)) (hnone : s'.2[i]? = none) :
    s.2[i]? = none ∧ ∀ b, e = .start b → i ≠ s.2.length := by
  rw [List.getElem?_eq_none_iff] at hnone ⊢
  cases step_ok h with
  | shared a _ hs =>
    rw [hs] at hnone
    exact ⟨hnone, by simp⟩
  | start b k _ hs =>
    rw [hs, List.length_append, List.length_singleton] at hnone
    exact ⟨by omega, fun _ _ => by omega⟩
  | move j c k k' _ _ hs =>
    rw [hs, List.length_set] at hnone
    exact ⟨hnone, by simp⟩

variable (P) in
/-- Every event keeps a preorder on the stores. -/
structure Guarantee (R : σ → σ → Prop) : Prop where
  refl : ∀ s, R s s
  trans : ∀ {s₁ s₂ s₃}, R s₁ s₂ → R s₂ s₃ → R s₁ s₃
  shared : ∀ {s a s'}, P.shared s a = .ok s' → R s s'
  start : ∀ {s b s' k}, P.start s b = .ok (s', k) → R s s'
  move : ∀ {s k c s' k'}, P.move s k c = .ok (s', k') → R s s'

section

variable {R : σ → σ → Prop} (G : Guarantee P R)
include G

theorem Guarantee.step {s s' : σ × List κ} {e : PoolEvent α β γ} {u : Unit}
    (h : P.machine.step s e = .ok (s', u)) : R s.1 s'.1 := by
  cases step_ok h with
  | shared a ha _ => exact G.shared ha
  | start b k hb _ => exact G.start hb
  | move i c k k' _ hm _ => exact G.move hm

/-- Every run keeps the preorder. -/
theorem Guarantee.run (s : σ × List κ) (es : List (PoolEvent α β γ)) :
    R s.1 (P.machine.exec s es).1 :=
  Machine.invariant (M := P.machine) (I := fun s' => R s.1 s'.1) (G.refl s.1) es
    fun _ _ _ _ hr h => G.trans hr (G.step h)

/-- **Step.** A property of single components over the store, for all of them. -/
theorem Guarantee.step_all {I : σ → κ → Prop} (hstable : ∀ {s s' k}, R s s' → I s k → I s' k)
    (hstart : ∀ {s b s' k}, P.start s b = .ok (s', k) → I s' k)
    (hmove : ∀ {s k c s' k'}, I s k → P.move s k c = .ok (s', k') → I s' k')
    {s s' : σ × List κ} {e : PoolEvent α β γ} {u : Unit}
    (hs : ∀ (i : Nat) (k : κ), s.2[i]? = some k → I s.1 k)
    (h : P.machine.step s e = .ok (s', u)) (i : Nat) (k : κ) (hk : s'.2[i]? = some k) :
    I s'.1 k := by
  cases component_ok h hk with
  | kept hk => exact hstable (G.step h) (hs i k hk)
  | started b _ _ hb => exact hstart hb
  | moved c k₀ _ hk₀ hm => exact hmove (hs i k₀ hk₀) hm

/-- **Rule.** A property of single components over the store. -/
theorem Guarantee.invariant {I : σ → κ → Prop} (hstable : ∀ {s s' k}, R s s' → I s k → I s' k)
    (hstart : ∀ {s b s' k}, P.start s b = .ok (s', k) → I s' k)
    (hmove : ∀ {s k c s' k'}, I s k → P.move s k c = .ok (s', k') → I s' k')
    (s : σ) (es : List (PoolEvent α β γ)) {i : Nat} {k : κ}
    (hk : (P.machine.exec (s, []) es).2[i]? = some k) : I (P.machine.exec (s, []) es).1 k := by
  let All (s : σ × List κ) : Prop := ∀ (i : Nat) (k : κ), s.2[i]? = some k → I s.1 k
  have hall : All (P.machine.exec (s, []) es) := by
    refine Machine.invariant (M := P.machine) (I := All) (by simp [All]) es ?_
    intro s e s' u hs h i k hk
    exact G.step_all (I := I) hstable hstart hmove hs h i k hk
  exact hall i k hk

/-- **Rule.** A component stays, and keeps a property that it has at some state. -/
theorem Guarantee.kept {I : σ → κ → Prop} (hstable : ∀ {s s' k}, R s s' → I s k → I s' k)
    (hmove : ∀ {s k c s' k'}, I s k → P.move s k c = .ok (s', k') → I s' k')
    {s : σ × List κ} {i : Nat} {k : κ} (hk : s.2[i]? = some k) (hI : I s.1 k)
    (es : List (PoolEvent α β γ)) :
    ∃ k', (P.machine.exec s es).2[i]? = some k' ∧ I (P.machine.exec s es).1 k' := by
  refine Machine.invariant (M := P.machine) (I := fun s => ∃ k, s.2[i]? = some k ∧ I s.1 k)
    ⟨k, hk, hI⟩ es ?_
  rintro s e s' u ⟨k, hk, hI⟩ h
  cases hk' : s'.2[i]? with
  | none =>
    obtain ⟨hnone, -⟩ := missing_ok h hk'
    rw [hnone] at hk
    cases hk
  | some k' =>
    refine ⟨k', rfl, ?_⟩
    cases component_ok h hk' with
    | kept hk₀ =>
      rw [hk] at hk₀
      cases hk₀
      exact hstable (G.step h) hI
    | started b _ hi _ => exact absurd (List.getElem?_eq_some_iff.mp hk).1 (by omega)
    | moved c k₀ _ hk₀ hm =>
      rw [hk] at hk₀
      cases hk₀
      exact hmove hI hm

end

end Pool

end Transact
