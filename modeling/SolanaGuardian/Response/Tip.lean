import Mathlib.Algebra.Order.Field.Basic
import SolanaGuardian.Response.Stages

/-!
# The tip (`calculate_dynamic_priority_fee`)

What the executor offers for the inclusion of its bundle. Without a severe drain it is the larger of
a defensive tip, from the 99th percentile of recent tips, and a tip proportional to the value at
risk, up to the cap (`dynamicTip_eq`). In a severe drain it is the fixed emergency tip, up to the
cap.

* `dynamicTip_monotone`: the bounds of the dynamic tip, and its order in each of its inputs. The
  truncations do not disturb it, since `int()` is monotone (`Python.int_mono`).
* `emergencyTip_iff`: when the emergency tip is no lower than the dynamic one. It does not look at
  the value at risk, so a large one can be above it (`emergencyTip_below`).
-/

namespace SolanaGuardian
namespace Response

/-- `p99_defensive_tip`. -/
def Executor.p99DefensiveTip (executor : Executor) : ℤ :=
  Python.int (executor.tipP99Floor * (15 / 10))

/-- `var_proportional_tip`. -/
def varProportionalTip (valueAtRiskUsd solPriceUsd : ℚ) : ℤ :=
  let varInSol := if 0 < solPriceUsd then valueAtRiskUsd / solPriceUsd else 0
  Python.int (Python.int (varInSol * 1000000000) * (5 / 1000))

variable (executor : Executor) (valueAtRiskUsd solPriceUsd : ℚ)

/-- The dynamic tip is the larger of its two terms, up to the cap. -/
theorem dynamicTip_eq :
    executor.calculateDynamicPriorityFee valueAtRiskUsd false solPriceUsd =
      min (max executor.p99DefensiveTip (varProportionalTip valueAtRiskUsd solPriceUsd))
        executor.maxPriorityFee := by
  have hdef : executor.calculateDynamicPriorityFee valueAtRiskUsd false solPriceUsd =
      min (max executor.p99DefensiveTip
        (min (varProportionalTip valueAtRiskUsd solPriceUsd) executor.maxPriorityFee))
        executor.maxPriorityFee := rfl
  rw [hdef, max_min_distrib_left, min_assoc, min_eq_right (le_max_right _ _)]

/-! ## The terms -/

theorem p99DefensiveTip_mono {a b : Executor} (h : a.tipP99Floor ≤ b.tipP99Floor) :
    a.p99DefensiveTip ≤ b.p99DefensiveTip := by
  have hcast : (a.tipP99Floor : ℚ) ≤ b.tipP99Floor := Int.cast_le.mpr h
  apply Python.int_mono
  exact mul_le_mul_of_nonneg_right hcast (by norm_num)

theorem p99DefensiveTip_floor (h : 0 ≤ executor.tipP99Floor) :
    executor.p99DefensiveTip = ⌊(executor.tipP99Floor : ℚ) * (15 / 10)⌋ := by
  have hcast : (0 : ℚ) ≤ executor.tipP99Floor := Int.cast_nonneg h
  exact Python.int_of_nonneg (mul_nonneg hcast (by norm_num))

/-- At a positive price the tip is that of the value at risk in SOL. -/
theorem varProportionalTip_eq (h : 0 < solPriceUsd) :
    varProportionalTip valueAtRiskUsd solPriceUsd =
      Python.int (Python.int (valueAtRiskUsd / solPriceUsd * 1000000000) * (5 / 1000)) := by
  unfold varProportionalTip
  rw [if_pos h]

/-- A tip follows the value at risk in SOL, through both truncations. -/
theorem lamports_mono {x y : ℚ} (h : x ≤ y) :
    Python.int (Python.int (x * 1000000000) * (5 / 1000)) ≤
      Python.int (Python.int (y * 1000000000) * (5 / 1000)) := by
  have hlamports : Python.int (x * 1000000000) ≤ Python.int (y * 1000000000) :=
    Python.int_mono (mul_le_mul_of_nonneg_right h (by norm_num))
  have hcast : (Python.int (x * 1000000000) : ℚ) ≤ Python.int (y * 1000000000) :=
    Int.cast_le.mpr hlamports
  apply Python.int_mono
  exact mul_le_mul_of_nonneg_right hcast (by norm_num)

variable {valueAtRiskUsd solPriceUsd}

theorem varProportionalTip_mono {valueAtRiskUsd' : ℚ} (hprice : 0 < solPriceUsd)
    (h : valueAtRiskUsd ≤ valueAtRiskUsd') :
    varProportionalTip valueAtRiskUsd solPriceUsd ≤
      varProportionalTip valueAtRiskUsd' solPriceUsd := by
  rw [varProportionalTip_eq _ _ hprice, varProportionalTip_eq _ _ hprice]
  apply lamports_mono
  exact div_le_div_of_nonneg_right h hprice.le

/-- A higher price makes a value at risk that is not negative fewer SOL. -/
theorem varProportionalTip_antitone {solPriceUsd' : ℚ} (hvalue : 0 ≤ valueAtRiskUsd)
    (hprice : 0 < solPriceUsd) (h : solPriceUsd ≤ solPriceUsd') :
    varProportionalTip valueAtRiskUsd solPriceUsd' ≤
      varProportionalTip valueAtRiskUsd solPriceUsd := by
  rw [varProportionalTip_eq _ _ hprice, varProportionalTip_eq _ _ (hprice.trans_le h)]
  apply lamports_mono
  exact div_le_div_of_nonneg_left hvalue hprice h

/-! ## The dynamic tip -/

/-- The tip moves with its two terms and the cap. -/
theorem dynamicTip_le {a b : Executor} {valueAtRiskUsd' solPriceUsd' : ℚ}
    (hp99 : a.tipP99Floor ≤ b.tipP99Floor) (hcap : a.maxPriorityFee ≤ b.maxPriorityFee)
    (hvar : varProportionalTip valueAtRiskUsd solPriceUsd ≤
      varProportionalTip valueAtRiskUsd' solPriceUsd') :
    a.calculateDynamicPriorityFee valueAtRiskUsd false solPriceUsd ≤
      b.calculateDynamicPriorityFee valueAtRiskUsd' false solPriceUsd' := by
  rw [dynamicTip_eq, dynamicTip_eq]
  exact min_le_min (max_le_max (p99DefensiveTip_mono hp99) hvar) hcap

/-- **Bounds and order** of the dynamic tip, for every floor that is not negative, every cap, every
value at risk and every positive price. While the floor is under the cap, the tip is the one that
the docstring of the source gives, in truncated lamports. -/
theorem dynamicTip_monotone (executor : Executor) (hp99 : 0 ≤ executor.tipP99Floor)
    (valueAtRiskUsd solPriceUsd : ℚ) (hprice : 0 < solPriceUsd) :
    let floor := ⌊(executor.tipP99Floor : ℚ) * (15 / 10)⌋
    let cap := executor.maxPriorityFee
    let tip := executor.calculateDynamicPriorityFee valueAtRiskUsd false solPriceUsd
    (min floor cap ≤ tip ∧ tip ≤ cap) ∧
    (∀ valueAtRiskUsd', valueAtRiskUsd ≤ valueAtRiskUsd' →
      tip ≤ executor.calculateDynamicPriorityFee valueAtRiskUsd' false solPriceUsd) ∧
    (∀ cap', cap ≤ cap' → tip ≤ Executor.calculateDynamicPriorityFee
      { executor with maxPriorityFee := cap' } valueAtRiskUsd false solPriceUsd) ∧
    (∀ p99', executor.tipP99Floor ≤ p99' → tip ≤ Executor.calculateDynamicPriorityFee
      { executor with tipP99Floor := p99' } valueAtRiskUsd false solPriceUsd) ∧
    (0 ≤ valueAtRiskUsd → ∀ solPriceUsd', solPriceUsd ≤ solPriceUsd' →
      executor.calculateDynamicPriorityFee valueAtRiskUsd false solPriceUsd' ≤ tip) ∧
    (floor ≤ cap → tip = max floor (min
      (Python.int (Python.int (valueAtRiskUsd / solPriceUsd * 1000000000) * (5 / 1000))) cap)) := by
  intro floor cap tip
  have hfloor : executor.p99DefensiveTip = floor := p99DefensiveTip_floor executor hp99
  have htip : tip = min (max floor (varProportionalTip valueAtRiskUsd solPriceUsd)) cap := by
    rw [← hfloor]
    exact dynamicTip_eq executor valueAtRiskUsd solPriceUsd
  refine ⟨⟨?_, ?_⟩, fun v' hv => ?_, fun cap' hcap => ?_, fun p99' hp => ?_,
    fun hvalue price' hle => ?_, fun hunder => ?_⟩
  · rw [htip]
    exact min_le_min_right cap (le_max_left _ _)
  · rw [htip]
    exact min_le_right _ _
  · exact dynamicTip_le le_rfl le_rfl (varProportionalTip_mono hprice hv)
  · exact dynamicTip_le le_rfl hcap le_rfl
  · exact dynamicTip_le hp le_rfl le_rfl
  · exact dynamicTip_le le_rfl le_rfl (varProportionalTip_antitone hvalue hprice hle)
  · rw [htip, ← varProportionalTip_eq _ _ hprice, min_max_distrib_right, min_eq_left hunder]

/-- The executor of the settings: an emergency tip of 1 SOL under a cap of 2 SOL. -/
def sampleExecutor : Executor := Executor.init {}

/-- 2000000 USD at 140 and at 150. -/
theorem dynamicTip_monotone_sample :
    sampleExecutor.calculateDynamicPriorityFee 2000000 false 150 ≤
      sampleExecutor.calculateDynamicPriorityFee 2000000 false 140 ∧
    sampleExecutor.calculateDynamicPriorityFee 2000000 false 140 ≤ 2000000000 := by
  obtain ⟨hbounds, -, -, -, hprice, -⟩ :=
    dynamicTip_monotone sampleExecutor (by decide) 2000000 140 (by norm_num)
  exact ⟨hprice (by norm_num) 150 (by norm_num), hbounds.2⟩

/-! ## The emergency tip -/

/-- **Escalation.** The tip of a severe drain is the emergency tip, up to the cap, whatever is at
risk. It is no lower than the dynamic tip exactly if the emergency tip reaches the cap, or both
terms of the dynamic tip. -/
theorem emergencyTip_iff (executor : Executor) (valueAtRiskUsd solPriceUsd : ℚ) :
    executor.calculateDynamicPriorityFee valueAtRiskUsd true solPriceUsd =
      min executor.emergencyFixedTip executor.maxPriorityFee ∧
    (executor.calculateDynamicPriorityFee valueAtRiskUsd false solPriceUsd ≤
        executor.calculateDynamicPriorityFee valueAtRiskUsd true solPriceUsd ↔
      executor.maxPriorityFee ≤ executor.emergencyFixedTip ∨
        executor.p99DefensiveTip ≤ executor.emergencyFixedTip ∧
          varProportionalTip valueAtRiskUsd solPriceUsd ≤ executor.emergencyFixedTip) := by
  have hsevere : executor.calculateDynamicPriorityFee valueAtRiskUsd true solPriceUsd =
      min executor.emergencyFixedTip executor.maxPriorityFee := rfl
  refine ⟨hsevere, ?_⟩
  rw [hsevere, dynamicTip_eq, le_min_iff, min_le_iff, max_le_iff]
  constructor
  · rintro ⟨hterms | hcap, -⟩
    · exact .inr hterms
    · exact .inl hcap
  · rintro (hcap | hterms)
    · exact ⟨.inr hcap, min_le_right _ _⟩
    · exact ⟨.inl hterms, min_le_right _ _⟩

/-- 10000000 USD at 140: 1 SOL in a severe drain, and 2 SOL in any other. -/
theorem emergencyTip_below :
    sampleExecutor.calculateDynamicPriorityFee 10000000 true 140 = 1000000000 ∧
    sampleExecutor.calculateDynamicPriorityFee 10000000 false 140 = 2000000000 := by
  constructor
  · rfl
  · decide +kernel

end Response
end SolanaGuardian
