import Mathlib.Algebra.Order.Field.Basic
import Mathlib.Tactic.Linarith
import SolanaGuardian.Response.Pipeline

/-!
# The projections of the simulator (`app/core/simulator.py`)

The simulator projects the pool with and without a pause, and divides by what is left of it. The
projections are bounded for every pool and every drain (`savedCapital_le`, `solvency_le`), but the
division is not guarded: on an empty pool the stage raises, and the pipeline ends before anything
is signed (`respond_error`). `simulation_within_iff` is the result: the simulation returns within
its bounds, and the pipeline with it, exactly on a pool that is not empty.
-/

namespace SolanaGuardian
namespace Response

open Detector (CompoundVerdict)
open Program (Sha256)

variable {a d : ℚ}

/-! ## Bounds -/

theorem withGuardian_nonneg (a d : ℚ) : 0 ≤ withGuardian a d := le_max_left _ _

theorem withGuardian_le (ha : 0 ≤ a) (hd : 0 ≤ d) : withGuardian a d ≤ a :=
  max_le ha (sub_le_self a hd)

/-- A pause never costs anything. -/
theorem savedCapital_nonneg (a : ℚ) (hd : 0 ≤ d) : 0 ≤ savedCapital a d := by
  have hlegs : a - d * (35 / 10) ≤ a - d := by linarith
  have hle : withoutGuardian a d ≤ withGuardian a d := max_le_max_left 0 hlegs
  exact sub_nonneg.mpr hle

/-- It saves at most what is there, and at most the second leg of the attack. -/
theorem savedCapital_le (ha : 0 ≤ a) (hd : 0 ≤ d) : savedCapital a d ≤ min a (5 / 2 * d) := by
  have hleft : 0 ≤ withoutGuardian a d := le_max_left _ _
  have hsecond : a - d * (35 / 10) ≤ withoutGuardian a d := le_max_right _ _
  apply le_min
  · have hwith := withGuardian_le ha hd
    show withGuardian a d - withoutGuardian a d ≤ a
    linarith
  · show withGuardian a d - withoutGuardian a d ≤ 5 / 2 * d
    by_cases hdrained : a ≤ d
    · have hwith : withGuardian a d = 0 := max_eq_left (sub_nonpos.mpr hdrained)
      rw [hwith]
      linarith
    · have hwith : withGuardian a d = a - d := max_eq_right (by linarith)
      rw [hwith]
      linarith

theorem solvency_nonneg (ha : 0 ≤ a) (d : ℚ) : 0 ≤ withGuardian a d / a :=
  div_nonneg (withGuardian_nonneg a d) ha

theorem solvency_le (ha : 0 ≤ a) (hd : 0 ≤ d) : withGuardian a d / a ≤ 1 :=
  div_le_one_of_le₀ (withGuardian_le ha hd) ha

/-! ## Totality -/

variable {poolState : PoolState} {verdict : AnomalyVerdict}

/-- On an empty pool it raises. -/
theorem simulateEmergencyPause_error (hpool : poolState.availableLiquidityUsd = some 0)
    (verdict : AnomalyVerdict) :
    simulateEmergencyPause poolState verdict = .error .zeroDivisionError := by
  unfold simulateEmergencyPause
  simp only [hpool, Option.getD_some, Python.div_zero]
  rfl

/-- Then nothing is signed and nothing is dispatched. -/
theorem respond_error (hpool : poolState.availableLiquidityUsd = some 0) (sha : Sha256)
    (settings : Settings) (agent : Agent) (detection : CompoundVerdict) (slot : Option ℤ) :
    respond sha settings agent poolState detection slot = .error .zeroDivisionError := by
  unfold respond
  rw [simulateEmergencyPause_error hpool]
  rfl

/-- The simulation of a drain of `d` from a pool of `a` returns, within its bounds. -/
structure SimulatesWithin (poolState : PoolState) (verdict : AnomalyVerdict) (a d : ℚ) : Prop where
  returns : ∃ simulation, simulateEmergencyPause poolState verdict = .ok simulation ∧
    simulation.liquidityPreservedUsd = Python.round (savedCapital a d) 2 ∧
    simulation.projectedSolvencyRatio = Python.round (withGuardian a d / a) 4
  preserved : 0 ≤ savedCapital a d ∧ savedCapital a d ≤ min a (5 / 2 * d)
  solvency : 0 ≤ withGuardian a d / a ∧ withGuardian a d / a ≤ 1

/-- **When the simulation holds up**, for every pool and every drain that are not negative: the
simulation returns within its bounds, and the pipeline returns on every detection of that drain,
exactly if the pool is not empty. -/
theorem simulation_within_iff (poolState : PoolState) (verdict : AnomalyVerdict) (a d : ℚ)
    (ha : 0 ≤ a) (hd : 0 ≤ d) (hpool : poolState.availableLiquidityUsd = some a)
    (hdrained : verdict.totalDrainedUsd = some d) :
    (SimulatesWithin poolState verdict a d ∧
      ∀ sha settings agent detection slot, detection.totalDrainedUsd = d →
        ∃ intercept, respond sha settings agent poolState detection slot = .ok intercept) ↔
      0 < a := by
  constructor
  · rintro ⟨⟨⟨simulation, hok, -⟩, -, -⟩, -⟩
    refine lt_of_le_of_ne ha fun hempty => ?_
    rw [← hempty] at hpool
    rw [simulateEmergencyPause_error hpool] at hok
    cases hok
  · intro hpos
    have hliquid : poolState.availableLiquidityUsd.getD 32500000 ≠ 0 := by
      rw [hpool]
      exact hpos.ne'
    refine ⟨⟨?_, ?_, ?_⟩, ?_⟩
    · obtain ⟨simulation, hok, -, hreports⟩ := simulateEmergencyPause_ok hliquid verdict
      rw [hpool, hdrained] at hreports
      exact ⟨simulation, hok, hreports⟩
    · exact ⟨savedCapital_nonneg a hd, savedCapital_le ha hd⟩
    · exact ⟨solvency_nonneg ha d, solvency_le ha hd⟩
    · intro sha settings agent detection slot _
      obtain ⟨intercept, hok, -⟩ := respond_pauses sha settings agent poolState hliquid detection slot
      exact ⟨intercept, hok⟩

/-- 6M of 30M are drained. -/
theorem simulation_within_sample :
    SimulatesWithin { availableLiquidityUsd := some 30000000 }
      { totalDrainedUsd := some 6000000, targetedAsset := some "USDC" } 30000000 6000000 :=
  ((simulation_within_iff { availableLiquidityUsd := some 30000000 }
    { totalDrainedUsd := some 6000000, targetedAsset := some "USDC" } 30000000 6000000 (by norm_num)
    (by norm_num) rfl rfl).mpr (by norm_num)).1

/-- The second leg finds the pool empty. -/
theorem empty_pool_raises :
    simulateEmergencyPause { availableLiquidityUsd := some 0 }
      { totalDrainedUsd := some 6000000, targetedAsset := some "USDC" } =
      .error .zeroDivisionError := by
  decide +kernel

end Response
end SolanaGuardian
