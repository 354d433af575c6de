import Mathlib.Algebra.Order.BigOperators.Group.List
import Mathlib.Algebra.Order.Field.Basic
import SolanaGuardian.Detector.Probes

/-!
# The velocity verdict

`calculate_outflow_velocity` reads the pruned window only through two totals, what flowed out and
what was repaid.

* `AlarmOn`: the alarm as a condition on the totals. `isAnomalous_iff` is its refinement by the
  verdict's Booleans, and `AlarmOn.mono` its one monotonicity: a larger share of the pool and a
  smaller ratio keep it.
* `velocity_iff`: over every run, the alarm and the classification in terms of what was recorded
  within the window. For the epsilons in use the liquidators do not matter.
* `less_tvl`: with less value locked, an alarm stays until the value is zero, where there is none.
* `poorly_repaid`: a further outflow that is repaid no better than the window keeps the alarm if the
  window has an outflow. Without one, the window's ratio is the default 1.
-/

namespace SolanaGuardian
namespace Detector

/-! ## The alarm on totals -/

/-- The share of the pool that flowed out, in percent; 0 for an empty pool. -/
def outflowPct (tvl outflow : ℚ) : ℚ := if 0 < tvl then outflow / tvl * 100 else 0

theorem outflowPct_of_pos {tvl : ℚ} (htvl : 0 < tvl) (outflow : ℚ) :
    outflowPct tvl outflow = 100 * outflow / tvl := by
  rw [outflowPct, if_pos htvl]
  ring

/-- The totals raise the alarm. -/
structure AlarmOn (config : Config) (tvl : ℚ) (liquidators : ℤ) (outflow repaid : ℚ) : Prop where
  reached : config.maxOutflowPct ≤ outflowPct tvl outflow
  broken : repaymentRatio repaid outflow < config.epsilonInvariant
  unhealthy : ¬ (3 < liquidators ∧ 8 / 10 ≤ repaymentRatio repaid outflow)

theorem AlarmOn.mono {config : Config} {tvl tvl' outflow outflow' repaid repaid' : ℚ}
    {liquidators : ℤ} (h : AlarmOn config tvl liquidators outflow repaid)
    (hpct : outflowPct tvl outflow ≤ outflowPct tvl' outflow')
    (hratio : repaymentRatio repaid' outflow' ≤ repaymentRatio repaid outflow) :
    AlarmOn config tvl' liquidators outflow' repaid' where
  reached := le_trans h.reached hpct
  broken := lt_of_le_of_lt hratio h.broken
  unhealthy := fun hhealthy => h.unhealthy ⟨hhealthy.1, le_trans hhealthy.2 hratio⟩

/-- Below an epsilon of at most 1, the ratio is that of an outflow. -/
theorem repaymentRatio_lt {epsilon : ℚ} (h : epsilon ≤ 1) (repaid outflow : ℚ) :
    repaymentRatio repaid outflow < epsilon ↔ 0 < outflow ∧ repaid / outflow < epsilon := by
  unfold repaymentRatio
  by_cases hpos : 0 < outflow
  · simp [hpos]
  · simp only [hpos, if_false, false_and, iff_false, not_lt]
    exact h

/-- With an epsilon of at most 0.8, an alarm is an outflow that reaches the limit and is not repaid. -/
theorem alarmOn_iff {config : Config} (h : config.epsilonInvariant ≤ 8 / 10) {tvl : ℚ} (htvl : 0 < tvl)
    (liquidators : ℤ) (outflow repaid : ℚ) :
    AlarmOn config tvl liquidators outflow repaid ↔
      config.maxOutflowPct ≤ 100 * outflow / tvl ∧ 0 < outflow ∧
        repaid / outflow < config.epsilonInvariant := by
  rw [← repaymentRatio_lt (by linarith), ← outflowPct_of_pos htvl]
  constructor
  · intro halarm
    exact ⟨halarm.reached, halarm.broken⟩
  · rintro ⟨hreached, hbroken⟩
    exact ⟨hreached, hbroken, fun hhealthy => by linarith [hhealthy.2]⟩

/-- An empty pool never raises an alarm. -/
theorem not_alarmOn_empty {config : Config} (h : 0 < config.maxOutflowPct) {tvl : ℚ} (htvl : ¬ 0 < tvl)
    {liquidators : ℤ} {outflow repaid : ℚ} : ¬ AlarmOn config tvl liquidators outflow repaid := by
  intro halarm
  have hreached := halarm.reached
  rw [outflowPct, if_neg htvl] at hreached
  exact absurd h (not_lt.mpr hreached)

theorem outflowPct_mono (tvl : ℚ) {outflow outflow' : ℚ} (h : outflow ≤ outflow') :
    outflowPct tvl outflow ≤ outflowPct tvl outflow' := by
  unfold outflowPct
  by_cases htvl : 0 < tvl
  · rw [if_pos htvl, if_pos htvl]
    have hdiv : outflow / tvl ≤ outflow' / tvl := div_le_div_of_nonneg_right h htvl.le
    linarith
  · rw [if_neg htvl, if_neg htvl]

/-- The mediant: a further outflow with no better ratio does not raise the ratio. -/
theorem repaymentRatio_add_le {outflow repaid x r : ℚ} (houtflow : 0 < outflow) (hx : 0 < x)
    (h : r / x ≤ repaid / outflow) :
    repaymentRatio (repaid + r) (outflow + x) ≤ repaymentRatio repaid outflow := by
  have hsum : 0 < outflow + x := add_pos houtflow hx
  rw [div_le_div_iff₀ hx houtflow] at h
  rw [repaymentRatio, repaymentRatio, if_pos hsum, if_pos houtflow, div_le_div_iff₀ hsum houtflow]
  calc (repaid + r) * outflow = repaid * outflow + r * outflow := by ring
    _ ≤ repaid * outflow + repaid * x := by linarith
    _ = repaid * (outflow + x) := by ring

/-- A further outflow, repaid no better, keeps the alarm of totals with an outflow. Totals without
one have raised it at the default ratio, which the further outflow replaces. -/
theorem AlarmOn.add_iff {config : Config} {tvl outflow repaid x r : ℚ} {liquidators : ℤ}
    (h : AlarmOn config tvl liquidators outflow repaid) (houtflow : 0 ≤ outflow) (hx : 0 < x)
    (hratio : r / x ≤ repaymentRatio repaid outflow) :
    AlarmOn config tvl liquidators (outflow + x) (repaid + r) ↔
      0 < outflow ∨ repaid + r < config.epsilonInvariant * x := by
  have hpct : outflowPct tvl outflow ≤ outflowPct tvl (outflow + x) := outflowPct_mono tvl (by linarith)
  by_cases hpos : 0 < outflow
  · rw [repaymentRatio, if_pos hpos] at hratio
    have hadd := h.mono hpct (repaymentRatio_add_le hpos hx hratio)
    exact ⟨fun _ => .inl hpos, fun _ => hadd⟩
  · have hzero : outflow = 0 := le_antisymm (not_lt.mp hpos) houtflow
    subst hzero
    have hdefault : repaymentRatio repaid 0 = 1 := if_neg hpos
    have hnew : repaymentRatio (repaid + r) (0 + x) = (repaid + r) / x := by
      rw [zero_add, repaymentRatio, if_pos hx]
    rw [← div_lt_iff₀ hx, ← hnew]
    constructor
    · intro hadd
      exact .inr hadd.broken
    · rintro (hpos' | hbroken)
      · exact absurd hpos' hpos
      · refine ⟨le_trans h.reached hpct, hbroken, fun hhealthy => ?_⟩
        refine h.unhealthy ⟨hhealthy.1, ?_⟩
        rw [hdefault]
        norm_num

/-! ## The verdict refines it -/

/-- What flowed out, by a list of events. -/
def totalOutflow (events : List OutflowEvent) : ℚ := (events.map (·.amountUsd)).sum

/-- What was repaid. -/
def totalRepaid (events : List OutflowEvent) : ℚ := (events.map (·.debtRepaidUsd)).sum

theorem isAnomalous_iff (d : AnomalyDetector) (tvl : ℚ) (liquidators : ℤ) :
    (velocityVerdict d tvl liquidators).isAnomalous = true ↔
      AlarmOn d.toConfig tvl liquidators (totalOutflow d.outflowEvents)
        (totalRepaid d.outflowEvents) := by
  simp only [velocityVerdict, Bool.and_eq_true, Bool.not_eq_true', decide_eq_true_eq,
    Bool.and_eq_false_iff, decide_eq_false_iff_not, ← not_and_or]
  constructor
  · rintro ⟨⟨hreached, hbroken⟩, hunhealthy⟩
    exact ⟨hreached, hbroken, hunhealthy⟩
  · rintro ⟨hreached, hbroken, hunhealthy⟩
    exact ⟨⟨hreached, hbroken⟩, hunhealthy⟩

/-- The classification is a function of the alarm and of whether the limit is reached. -/
theorem classification_iff (d : AnomalyDetector) (tvl : ℚ) (liquidators : ℤ) :
    let verdict := velocityVerdict d tvl liquidators
    let reached := d.maxOutflowPct ≤ outflowPct tvl (totalOutflow d.outflowEvents)
    (verdict.classification = .exploitDrain ↔ verdict.isAnomalous = true) ∧
    (verdict.classification = .legitimateLiquidationWave ↔ reached ∧ verdict.isAnomalous = false) ∧
    (verdict.classification = .normalVolume ↔ ¬ reached) := by
  unfold velocityVerdict outflowPct totalOutflow
  dsimp only
  by_cases hreached : d.maxOutflowPct ≤
      if 0 < tvl then (d.outflowEvents.map (·.amountUsd)).sum / tvl * 100 else 0
  · simp only [hreached, decide_true, Bool.true_and]
    generalize decide (repaymentRatio _ _ < d.epsilonInvariant) = broken
    generalize (decide (3 < liquidators) && decide (8 / 10 ≤ repaymentRatio _ _)) = healthy
    cases broken <;> cases healthy <;> simp
  · simp [hreached]

/-- With an epsilon of at most 0.8, the liquidators do not matter: who repaid 80% has not broken the
invariant. -/
theorem liquidators_irrelevant {d : AnomalyDetector} (h : d.epsilonInvariant ≤ 8 / 10) (tvl : ℚ)
    (liquidators others : ℤ) :
    velocityVerdict d tvl others = velocityVerdict d tvl liquidators := by
  unfold velocityVerdict
  dsimp only
  generalize repaymentRatio _ _ = ratio
  by_cases hbroken : ratio < d.epsilonInvariant
  · have hpoor : ¬ 8 / 10 ≤ ratio := not_le.mpr (lt_of_lt_of_le hbroken h)
    simp only [hpoor, decide_false, Bool.and_false]
  · simp only [hbroken, decide_false, Bool.not_false, Bool.true_or, Bool.and_false, Bool.false_and]

/-! ## Over every run -/

/-- Pruning after a run leaves the outflows of the window, exactly. -/
theorem recent_run (config : Config) {ops : List Op} {now : ℚ}
    (hclock : (clock ops ++ [now]).Pairwise (· ≤ ·)) :
    ((run config ops).pruneExpired now).outflowEvents =
      (outflowLog ops).filter (now - config.windowSeconds ≤ ·.timestamp) := by
  obtain ⟨hpast, -, hlater⟩ := List.pairwise_append.mp hclock
  have hcovers : CoversAt (run config ops) now (outflowLog ops) (probeLog ops) :=
    tracks_run config hpast now fun r hr => hlater r hr now (by simp)
  obtain ⟨ho, hp⟩ := logs_sorted hpast
  have hexact := (hcovers.exact ho hp).1
  rw [run_config] at hexact
  exact hexact

/-- **The velocity verdict**, after every run with a clock that never decreases. -/
theorem velocity_iff (config : Config) (ops : List Op) (now tvl : ℚ) (liquidators : ℤ)
    (hclock : (clock ops ++ [now]).Pairwise (· ≤ ·)) (htvl : 0 < tvl)
    (hepsilon : config.epsilonInvariant ≤ 8 / 10) :
    let recent := (outflowLog ops).filter (now - config.windowSeconds ≤ ·.timestamp)
    let outflow := (recent.map (·.amountUsd)).sum
    let repaid := (recent.map (·.debtRepaidUsd)).sum
    let verdict := ((run config ops).calculateOutflowVelocity now tvl liquidators).2
    (verdict.isAnomalous = true ↔ config.maxOutflowPct ≤ 100 * outflow / tvl ∧ 0 < outflow ∧
      repaid / outflow < config.epsilonInvariant) ∧
    (verdict.classification = .exploitDrain ↔ verdict.isAnomalous = true) ∧
    (verdict.classification = .legitimateLiquidationWave ↔
      config.maxOutflowPct ≤ 100 * outflow / tvl ∧ verdict.isAnomalous = false) ∧
    (verdict.classification = .normalVolume ↔ ¬ config.maxOutflowPct ≤ 100 * outflow / tvl) ∧
    ∀ others, ((run config ops).calculateOutflowVelocity now tvl others).2 = verdict := by
  have hconfig : ((run config ops).pruneExpired now).toConfig = config := run_config config ops
  have hrecent := recent_run config hclock
  generalize (outflowLog ops).filter (now - config.windowSeconds ≤ ·.timestamp) = recent at hrecent ⊢
  have halarm := isAnomalous_iff ((run config ops).pruneExpired now) tvl liquidators
  obtain ⟨hexploit, hwave, hnormal⟩ :=
    classification_iff ((run config ops).pruneExpired now) tvl liquidators
  rw [hrecent, hconfig, alarmOn_iff hepsilon htvl] at halarm
  rw [hrecent, hconfig, outflowPct_of_pos htvl] at hwave hnormal
  refine ⟨halarm, hexploit, hwave, hnormal, fun others => liquidators_irrelevant ?_ tvl _ others⟩
  rw [hconfig]
  exact hepsilon

/-- 5M out of 20M within the window, of which nothing is repaid, and an older outflow. -/
theorem velocity_iff_sample :
    ((run sampleConfig [.recordOutflow 0 9000000 9000000 "a", .recordOutflow 200 5000000 0 "b"]
      ).calculateOutflowVelocity 400 20000000 7).2.isAnomalous = true :=
  (velocity_iff sampleConfig [.recordOutflow 0 9000000 9000000 "a", .recordOutflow 200 5000000 0 "b"]
    400 20000000 7 (by decide +kernel) (by norm_num) (by decide +kernel)).1.mpr (by decide +kernel)

/-! ## Less value locked -/

section

variable {d : AnomalyDetector} {now : ℚ}

theorem velocity_alarm (d : AnomalyDetector) (now tvl : ℚ) (liquidators : ℤ) :
    (d.calculateOutflowVelocity now tvl liquidators).2.isAnomalous = true ↔
      AlarmOn d.toConfig tvl liquidators (totalOutflow (d.pruneExpired now).outflowEvents)
        (totalRepaid (d.pruneExpired now).outflowEvents) :=
  isAnomalous_iff (d.pruneExpired now) tvl liquidators

theorem mem_pruned {e : OutflowEvent} (h : e ∈ (d.pruneExpired now).outflowEvents) :
    e ∈ d.outflowEvents := (List.dropWhile_sublist _).subset h

theorem totalOutflow_nonneg {events : List OutflowEvent} (h : ∀ e ∈ events, 0 ≤ e.amountUsd) :
    0 ≤ totalOutflow events := by
  apply List.sum_nonneg
  intro amount hamount
  obtain ⟨e, he, rfl⟩ := List.mem_map.mp hamount
  exact h e he

theorem outflowPct_anti {tvl tvl' outflow : ℚ} (htvl : 0 < tvl) (hle : tvl ≤ tvl')
    (houtflow : 0 ≤ outflow) : outflowPct tvl' outflow ≤ outflowPct tvl outflow := by
  have hdiv : outflow / tvl' ≤ outflow / tvl := div_le_div_of_nonneg_left houtflow htvl hle
  rw [outflowPct, outflowPct, if_pos htvl, if_pos (lt_of_lt_of_le htvl hle)]
  linarith

/-- **Less value locked keeps an alarm**, until the value is zero: an empty pool is normal. -/
theorem less_tvl (d : AnomalyDetector) (now v₁ v₂ : ℚ) (liquidators : ℤ)
    (hamounts : ∀ e ∈ d.outflowEvents, 0 ≤ e.amountUsd) (hmax : 0 < d.maxOutflowPct)
    (hle : v₁ ≤ v₂) (halarm : (d.calculateOutflowVelocity now v₂ liquidators).2.isAnomalous = true) :
    ((d.calculateOutflowVelocity now v₁ liquidators).2.isAnomalous = true ↔ 0 < v₁) ∧
    (v₁ = 0 → (d.calculateOutflowVelocity now v₁ liquidators).2.classification = .normalVolume) := by
  have hnonneg : 0 ≤ totalOutflow (d.pruneExpired now).outflowEvents :=
    totalOutflow_nonneg fun e he => hamounts e (mem_pruned he)
  rw [velocity_alarm] at halarm ⊢
  constructor
  · constructor
    · intro halarm'
      by_contra hzero
      exact not_alarmOn_empty hmax hzero halarm'
    · intro hpos
      exact halarm.mono (outflowPct_anti hpos hle hnonneg) (le_refl _)
  · rintro rfl
    apply (classification_iff (d.pruneExpired now) 0 liquidators).2.2.mpr
    rw [outflowPct, if_neg (lt_irrefl 0)]
    exact not_le.mpr hmax

/-- The alarm at 20M stays at 10M. -/
theorem less_tvl_sample :
    ((run sampleConfig [.recordOutflow 0 5000000 0 "a"]).calculateOutflowVelocity 1 10000000
      1).2.isAnomalous = true :=
  (less_tvl (run sampleConfig [.recordOutflow 0 5000000 0 "a"]) 1 10000000 20000000 1
    (by decide +kernel) (by decide +kernel) (by norm_num) (by decide +kernel)).1.mpr (by norm_num)

/-- The pool has lost everything: no alarm. -/
theorem drained_pool_is_normal :
    ((run sampleConfig [.recordOutflow 0 5000000 0 "a"]).calculateOutflowVelocity 1 20000000
      1).2.isAnomalous = true ∧
    ((run sampleConfig [.recordOutflow 0 5000000 0 "a"]).calculateOutflowVelocity 1 0
      1).2.isAnomalous = false ∧
    ((run sampleConfig [.recordOutflow 0 5000000 0 "a"]).calculateOutflowVelocity 1 0
      1).2.classification = .normalVolume := by
  refine ⟨?_, ?_, ?_⟩
  all_goals decide +kernel

/-! ## A further outflow -/

/-- What the window holds after a further outflow at the same instant. A negative window expires it
at once, unless an older event is in front of it. -/
theorem pruned_recordOutflow (d : AnomalyDetector) (t x r : ℚ) (caller : String) :
    (((d.pruneExpired t).recordOutflow t x r caller).pruneExpired t).outflowEvents =
      if (d.pruneExpired t).outflowEvents = [] ∧ d.windowSeconds < 0 then []
      else (d.pruneExpired t).outflowEvents ++ [⟨t, x, r, caller⟩] := by
  have hwindow : (d.pruneExpired t).outflowEvents =
      Window.prune OutflowEvent.timestamp (t - d.windowSeconds) d.outflowEvents := rfl
  have hafter : (((d.pruneExpired t).recordOutflow t x r caller).pruneExpired t).outflowEvents =
      Window.prune OutflowEvent.timestamp (t - d.windowSeconds)
        (Window.prune OutflowEvent.timestamp (t - d.windowSeconds)
          (Window.prune OutflowEvent.timestamp (t - d.windowSeconds) d.outflowEvents ++
            [⟨t, x, r, caller⟩])) := rfl
  have hstamp : ∀ e ∈ [(⟨t, x, r, caller⟩ : OutflowEvent)], e.timestamp = t := by simp
  rw [hafter, hwindow, Window.prune_prune, Window.prune_prune_append,
    Window.prune_append_stamped hstamp]
  by_cases hempty : Window.prune OutflowEvent.timestamp (t - d.windowSeconds) d.outflowEvents = []
  · simp [hempty, expired_at_once]
  · simp [hempty]

/-- **A further outflow**, repaid no better than the window: the alarm stays if the window has an
outflow. If it has none, the alarm was one of the default ratio 1, and it stays exactly if the new
ratio is below epsilon as well. -/
theorem poorly_repaid (d : AnomalyDetector) (t tvl : ℚ) (liquidators : ℤ) (x r : ℚ) (caller : String)
    (hamounts : ∀ e ∈ d.outflowEvents, 0 ≤ e.amountUsd) (hx : 0 < x)
    (hratio : r / x ≤ repaymentRatio (totalRepaid (d.pruneExpired t).outflowEvents)
      (totalOutflow (d.pruneExpired t).outflowEvents))
    (halarm : (d.calculateOutflowVelocity t tvl liquidators).2.isAnomalous = true) :
    (((d.calculateOutflowVelocity t tvl liquidators).1.recordOutflow t x r
        caller).calculateOutflowVelocity t tvl liquidators).2.isAnomalous = true ↔
      0 < totalOutflow (d.pruneExpired t).outflowEvents ∨
        totalRepaid (d.pruneExpired t).outflowEvents + r < d.epsilonInvariant * x := by
  have hnonneg : 0 ≤ totalOutflow (d.pruneExpired t).outflowEvents :=
    totalOutflow_nonneg fun e he => hamounts e (mem_pruned he)
  rw [velocity_alarm] at halarm ⊢
  have hafter := pruned_recordOutflow d t x r caller
  show AlarmOn d.toConfig tvl liquidators
    (totalOutflow (((d.pruneExpired t).recordOutflow t x r caller).pruneExpired t).outflowEvents)
    (totalRepaid (((d.pruneExpired t).recordOutflow t x r caller).pruneExpired t).outflowEvents) ↔ _
  rw [hafter]
  generalize (d.pruneExpired t).outflowEvents = window at halarm hratio hnonneg ⊢
  by_cases hlost : window = [] ∧ d.windowSeconds < 0
  · -- Nothing was recorded, and the ratio is the default one.
    obtain ⟨rfl, hnegative⟩ := hlost
    rw [if_pos ⟨rfl, hnegative⟩]
    have hsmall : r / x < d.epsilonInvariant := lt_of_le_of_lt hratio halarm.broken
    rw [div_lt_iff₀ hx] at hsmall
    have hrepaid : totalRepaid [] + r = r := zero_add r
    rw [hrepaid]
    exact ⟨fun _ => .inr hsmall, fun _ => halarm⟩
  · have hsum : totalOutflow (window ++ [⟨t, x, r, caller⟩]) = totalOutflow window + x ∧
        totalRepaid (window ++ [⟨t, x, r, caller⟩]) = totalRepaid window + r := by
      simp [totalOutflow, totalRepaid]
    rw [if_neg hlost, hsum.1, hsum.2]
    exact halarm.add_iff hnonneg hx hratio

/-- 1M more, of which nothing is repaid either. -/
theorem poorly_repaid_sample :
    ((((run sampleConfig [.recordOutflow 0 5000000 0 "a"]).calculateOutflowVelocity 1 20000000
        1).1.recordOutflow 1 1000000 0 "b").calculateOutflowVelocity 1 20000000
      1).2.isAnomalous = true :=
  (poorly_repaid (run sampleConfig [.recordOutflow 0 5000000 0 "a"]) 1 20000000 1 1000000 0 "b"
    (by decide +kernel) (by norm_num) (by decide +kernel) (by decide +kernel)).mpr
    (.inl (by decide +kernel))

/-- A limit that an empty window reaches, and an epsilon above its default ratio. -/
def eagerConfig : Config := { windowSeconds := 300, maxOutflowPct := -1, epsilonInvariant := 2 }

/-- An outflow of 1 that repays 1 brings the earlier repayment into the ratio and clears the alarm. -/
theorem default_ratio_clears :
    (1 : ℚ) / 1 ≤ repaymentRatio 100 0 ∧
    ((run eagerConfig [.recordOutflow 0 0 100 "a"]).calculateOutflowVelocity 0 1000
      1).2.isAnomalous = true ∧
    ((((run eagerConfig [.recordOutflow 0 0 100 "a"]).calculateOutflowVelocity 0 1000
        1).1.recordOutflow 0 1 1 "b").calculateOutflowVelocity 0 1000 1).2.isAnomalous = false := by
  refine ⟨?_, ?_, ?_⟩
  all_goals decide +kernel

end

end Detector
end SolanaGuardian
