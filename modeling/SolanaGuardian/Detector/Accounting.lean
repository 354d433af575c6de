import SolanaGuardian.Detector.Trigger
import SolanaGuardian.Detector.Velocity

/-!
# The accounting invariant, twice

Both paths of the detector compare what was repaid with what flowed out. The velocity path counts
every repayment that was recorded. The compound path counts a repayment only if its own transaction
drains (`evidence_amounts`). `invariants_agree_iff` is the exact set of batches on which they agree.
-/

namespace SolanaGuardian
namespace Detector

/-- Records each transaction's drain and repayment, at one instant. -/
def recordBatch (d : AnomalyDetector) (now : ℚ) (txs : List SlotTransaction) : AnomalyDetector :=
  txs.foldl (fun d tx => d.recordOutflow now tx.drainAmount tx.repaidAmount "Unknown") d

/-- The outflow that a transaction is recorded as. -/
def SlotTransaction.outflow (tx : SlotTransaction) (now : ℚ) : OutflowEvent :=
  ⟨now, tx.drainAmount, tx.repaidAmount, "Unknown"⟩

variable {txs : List SlotTransaction}

/-- Pruning on the way does not matter. -/
theorem recordBatch_pruned (d : AnomalyDetector) (now : ℚ) (txs : List SlotTransaction) :
    ((recordBatch d now txs).pruneExpired now).outflowEvents =
      Window.prune OutflowEvent.timestamp (now - d.windowSeconds)
        (d.outflowEvents ++ txs.map (·.outflow now)) := by
  induction txs generalizing d with
  | nil => rw [List.map_nil, List.append_nil]; rfl
  | cons tx txs ih =>
    have hnext : recordBatch d now (tx :: txs) = recordBatch (d.recordOutflow now tx.drainAmount
      tx.repaidAmount "Unknown") now txs := rfl
    have hevents : (d.recordOutflow now tx.drainAmount tx.repaidAmount "Unknown").outflowEvents =
        Window.prune OutflowEvent.timestamp (now - d.windowSeconds)
          (d.outflowEvents ++ [tx.outflow now]) := rfl
    have hwindow : (d.recordOutflow now tx.drainAmount tx.repaidAmount "Unknown").windowSeconds =
        d.windowSeconds := rfl
    rw [hnext, ih, hevents, hwindow, List.map_cons, Window.prune_prune_append, List.append_assoc]
    rfl

/-- In a fresh detector, the window holds the whole batch, or nothing if it is negative. -/
theorem recordBatch_fresh (config : Config) (now : ℚ) (txs : List SlotTransaction) :
    ((recordBatch (fresh config) now txs).pruneExpired now).outflowEvents =
      if config.windowSeconds < 0 then [] else txs.map (·.outflow now) := by
  have hstamp : ∀ e ∈ txs.map (·.outflow now), e.timestamp = now := by
    intro e he
    obtain ⟨tx, -, rfl⟩ := List.mem_map.mp he
    rfl
  rw [recordBatch_pruned]
  show Window.prune _ (now - config.windowSeconds) ([] ++ _) = _
  rw [List.nil_append, Window.prune_stamped hstamp]
  simp only [expired_at_once]

theorem recordBatch_config (d : AnomalyDetector) (now : ℚ) (txs : List SlotTransaction) :
    (recordBatch d now txs).toConfig = d.toConfig := by
  induction txs generalizing d with
  | nil => rfl
  | cons tx txs ih => exact ih _

/-- Every drain is counted on both paths, every repayment only on one. -/
theorem evidence_le (hdrain : ∀ tx ∈ txs, 0 ≤ tx.drainAmount)
    (hrepaid : ∀ tx ∈ txs, 0 ≤ tx.repaidAmount) :
    (evidence txs).drained = (txs.map (·.drainAmount)).sum ∧
    (evidence txs).repaid ≤ (txs.map (·.repaidAmount)).sum := by
  induction txs with
  | nil => exact ⟨rfl, le_refl _⟩
  | cons tx txs ih =>
    obtain ⟨ihd, ihr⟩ := ih (fun t ht => hdrain t (List.mem_cons_of_mem _ ht))
      fun t ht => hrepaid t (List.mem_cons_of_mem _ ht)
    have hone : tx.evidence.drained = tx.drainAmount ∧ tx.evidence.repaid ≤ tx.repaidAmount := by
      by_cases hpos : 0 < tx.drainAmount
      · obtain ⟨hd, hr⟩ := SlotTransaction.evidence_of_drain hpos
        exact ⟨hd, hr.le⟩
      · obtain ⟨hd, hr⟩ := SlotTransaction.evidence_of_not_drain hpos
        have hzero : tx.drainAmount = 0 := le_antisymm (not_lt.mp hpos) (hdrain tx (by simp))
        exact ⟨by rw [hd, hzero], by rw [hr]; exact hrepaid tx (by simp)⟩
    simp only [List.map_cons, List.sum_cons, evidence_cons, Evidence.drained_add,
      Evidence.repaid_add]
    exact ⟨by rw [hone.1, ihd], add_le_add hone.2 ihr⟩

theorem repaymentRatio_lt_iff {outflow : ℚ} (h : 0 < outflow) (repaid epsilon : ℚ) :
    repaymentRatio repaid outflow < epsilon ↔ repaid < epsilon * outflow := by
  rw [repaymentRatio, if_pos h, div_lt_iff₀ h]

/-- The compound path, on a batch that drains something. -/
theorem compound_broken_iff (d : AnomalyDetector) (txs : List (ℚ × SlotTransaction))
    (oracleVerdict : Option OracleVerdict) (hpos : 0 < (evidence (txs.map (·.2))).drained) :
    (d.detectCompoundExploit txs oracleVerdict).2.invariantBroken = true ↔
      (evidence (txs.map (·.2))).repaid < d.epsilonInvariant * (evidence (txs.map (·.2))).drained := by
  obtain ⟨-, -, hdrained, hrepaid⟩ := scan_sums (txs.map (·.2))
  rw [detectCompoundExploit_snd, ← repaymentRatio_lt_iff hpos, ← hdrained, ← hrepaid]
  exact decide_eq_true_iff

/-- The velocity path, on a batch that drains something. -/
theorem velocity_broken_iff (config : Config) (now tvl : ℚ) (liquidators : ℤ)
    (txs : List SlotTransaction) (hpos : 0 < (txs.map (·.drainAmount)).sum) :
    ((recordBatch (fresh config) now txs).calculateOutflowVelocity now tvl
        liquidators).2.invariantBroken = true ↔
      if config.windowSeconds < 0 then 1 < config.epsilonInvariant
      else (txs.map (·.repaidAmount)).sum <
        config.epsilonInvariant * (txs.map (·.drainAmount)).sum := by
  have hepsilon : (recordBatch (fresh config) now txs).epsilonInvariant = config.epsilonInvariant := by
    rw [recordBatch_config]; rfl
  have hbroken : ((recordBatch (fresh config) now txs).calculateOutflowVelocity now tvl
      liquidators).2.invariantBroken = true ↔
      repaymentRatio (totalRepaid ((recordBatch (fresh config) now txs).pruneExpired now).outflowEvents)
        (totalOutflow ((recordBatch (fresh config) now txs).pruneExpired now).outflowEvents) <
      (recordBatch (fresh config) now txs).epsilonInvariant := decide_eq_true_iff
  rw [hbroken, hepsilon, recordBatch_fresh]
  by_cases hnegative : config.windowSeconds < 0
  · rw [if_pos hnegative, if_pos hnegative]
    exact Iff.rfl
  · have htotals : totalRepaid (txs.map (·.outflow now)) = (txs.map (·.repaidAmount)).sum ∧
        totalOutflow (txs.map (·.outflow now)) = (txs.map (·.drainAmount)).sum := by
      simp only [totalRepaid, totalOutflow, List.map_map]
      exact ⟨rfl, rfl⟩
    rw [if_neg hnegative, if_neg hnegative, htotals.1, htotals.2, repaymentRatio_lt_iff hpos]

/-- **When the two invariants agree**, for every batch that drains something. With a window that
keeps what is recorded: unless the repayments of transactions that do not drain make up for what is
missing. With a negative window the velocity path reads no outflow at all. -/
theorem invariants_agree_iff (config₁ config₂ : Config) (now tvl : ℚ) (liquidators : ℤ)
    (txs : List (ℚ × SlotTransaction)) (oracleVerdict : Option OracleVerdict)
    (hepsilon : config₁.epsilonInvariant = config₂.epsilonInvariant)
    (hdrain : ∀ tx ∈ txs.map (·.2), 0 ≤ tx.drainAmount)
    (hrepaid : ∀ tx ∈ txs.map (·.2), 0 ≤ tx.repaidAmount)
    (hpos : 0 < ((txs.map (·.2)).map (·.drainAmount)).sum) :
    let drained := ((txs.map (·.2)).map (·.drainAmount)).sum
    let repaidByDrains := ((draining (txs.map (·.2))).map (·.repaidAmount)).sum
    let repaid := ((txs.map (·.2)).map (·.repaidAmount)).sum
    ((recordBatch (fresh config₁) now (txs.map (·.2))).calculateOutflowVelocity now tvl
        liquidators).2.invariantBroken =
      ((fresh config₂).detectCompoundExploit txs oracleVerdict).2.invariantBroken ↔
    if config₁.windowSeconds < 0 then
      1 < config₂.epsilonInvariant ↔ repaidByDrains < config₂.epsilonInvariant * drained
    else ¬ (repaidByDrains < config₂.epsilonInvariant * drained ∧
      config₂.epsilonInvariant * drained ≤ repaid) := by
  obtain ⟨hdrained, hle⟩ := evidence_le hdrain hrepaid
  have hcompound := compound_broken_iff (fresh config₂) txs oracleVerdict (by rw [hdrained]; exact hpos)
  rw [hdrained] at hcompound
  dsimp only
  rw [Bool.eq_iff_iff, velocity_broken_iff config₁ now tvl liquidators _ hpos, hcompound, hepsilon,
    ← (evidence_amounts _).2]
  show (_ ↔ _ < config₂.epsilonInvariant * _) ↔ _
  by_cases hnegative : config₁.windowSeconds < 0
  · rw [if_pos hnegative, if_pos hnegative]
  · rw [if_neg hnegative, if_neg hnegative]
    grind

/-- A drain of 2M and, in a transaction of its own, a repayment of `repaid`. -/
def drainAndRepay (repaid : ℚ) : List (ℚ × SlotTransaction) :=
  [(0, { drainAmountUsd := some 2000000, debtRepaidUsd := some 0 }),
    (0, { drainAmountUsd := some 0, debtRepaidUsd := some repaid })]

/-- 1% repaid: broken on both paths. -/
theorem invariants_agree_sample :
    ((recordBatch (fresh sampleConfig) 0 ((drainAndRepay 20000).map (·.2))).calculateOutflowVelocity
        0 1000000 1).2.invariantBroken =
      ((fresh sampleConfig).detectCompoundExploit (drainAndRepay 20000) none).2.invariantBroken :=
  (invariants_agree_iff sampleConfig sampleConfig 0 1000000 1 (drainAndRepay 20000) none rfl
    (by decide +kernel) (by decide +kernel) (by decide +kernel)).mpr (by decide +kernel)

/-- 95% repaid: a liquidation on one path and a broken invariant on the other. -/
theorem separate_repayment :
    ((recordBatch (fresh sampleConfig) 0
        ((drainAndRepay 1900000).map (·.2))).calculateOutflowVelocity 0 1000000
      1).2.invariantBroken = false ∧
    ((fresh sampleConfig).detectCompoundExploit (drainAndRepay 1900000)
      none).2.invariantBroken = true := by
  constructor
  · decide +kernel
  · decide +kernel

end Detector
end SolanaGuardian
