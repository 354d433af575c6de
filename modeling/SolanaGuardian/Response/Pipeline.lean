import SolanaGuardian.Detector.Batch
import SolanaGuardian.Oracle.Service
import SolanaGuardian.Response.Stages

/-!
# The pipeline (`run_attack_simulation` of `app/main.py`)

The replay of an attack: the oracle check, a synthetic batch through the detector, then the stages
of the response on the detection. What the endpoint reports of them is in `Response/Replay`.

* `scan_target`: the targeted asset is that of the last transaction that drains.
* `paused_asset`: so the pipeline simulates, signs for and dispatches a pause of that asset.
  `target_not_maximal` is a batch that loses far more of another one.
* `runAttackSimulation_usdc`: on its own batch, that is the asset that is drained.
-/

namespace SolanaGuardian
namespace Response

open Detector (AnomalyDetector SlotTransaction CompoundVerdict OracleVerdict draining scan)
open Oracle (OracleService HttpClient Divergence)
open Program (Sha256)

/-- The singletons of the application that the pipeline uses. -/
structure Agent where
  detector : AnomalyDetector
  oracles : OracleService
  signer : Signer
  executor : Executor

/-- What the detector reads of an oracle check. -/
def oracleVerdictOf (check : Divergence) : OracleVerdict := { isManipulated := some check.isManipulated }

/-- What the simulator reads of a detection. -/
def anomalyVerdictOf (detection : CompoundVerdict) : AnomalyVerdict :=
  { totalDrainedUsd := some detection.totalDrainedUsd
    targetedAsset := some detection.targetedAsset }

/-- `stream_lending_pool_reserves`: the catalog's baseline. -/
def streamLendingPoolReserves : PoolState := { availableLiquidityUsd := some 32500000 }

/-- What the stages leave. -/
structure Intercept where
  detection : CompoundVerdict
  simResult : Simulation
  kmsSig : PauseSignature
  jitoBundle : Bundle

/-- The stages after the detection. -/
def respond (sha : Sha256) (settings : Settings) (agent : Agent) (poolState : PoolState)
    (detection : CompoundVerdict) (slot : Option ℤ) : Except Python.Exception Intercept := do
  let simResult ← simulateEmergencyPause poolState (anomalyVerdictOf detection)
  let kmsSig := agent.signer.signEmergencyPause sha detection.targetedAsset slot
  let jitoBundle :=
    agent.executor.dispatchEmergencyBundle sha settings detection.targetedAsset slot 0 false
  return { detection, simResult, kmsSig, jitoBundle }

/-- The synthetic batch. -/
def attackBatch : List SlotTransaction :=
  [{ isFlashLoan := some true, borrowAmountUsd := some 25000000 },
    { drainAmountUsd := some 7000000, asset := some "USDC" }, { isProbing := some true }]

def pythSolId : String := "ef0d8b6fda2ceba41da15d4095d1da392a0d2f8ed0c6c7bc0f4cfac8c280b56d"

/-- The oracle check. Without an HTTP client it raises, and the fallback reports no manipulation. -/
def oracleCheck (agent : Agent) (client : Option HttpClient) : OracleService × OracleVerdict :=
  match client with
  | some client =>
    let check := agent.oracles.evaluateDivergence "SOL" pythSolId "SOLUSDT" client
    (check.1, oracleVerdictOf check.2)
  | none => (agent.oracles, { isManipulated := some false })

/-- `run_attack_simulation`, with the clock readings of `record_outflow` and of the probe. -/
def runAttackSimulation (sha : Sha256) (settings : Settings) (agent : Agent) (now now' : ℚ)
    (slot : Option ℤ) (client : Option HttpClient) : Agent × Except Python.Exception Intercept :=
  let poolState := streamLendingPoolReserves
  let check := oracleCheck agent client
  let recorded := agent.detector.recordOutflow now 7000000 0 "Unknown"
  let detected := recorded.detectAt now' attackBatch (some check.2)
  ({ agent with detector := detected.1, oracles := check.1 },
    respond sha settings agent poolState detected.2 slot)

/-! ## The target -/

theorem scan_concat (txs : List SlotTransaction) (tx : SlotTransaction) :
    scan (txs ++ [tx]) = (scan txs).step tx := by
  simp [scan]

theorem step_target (s : Detector.Scan) (tx : SlotTransaction) :
    (s.step tx).targetedAsset =
      if 0 < tx.drainAmount then tx.asset.getD s.targetedAsset else s.targetedAsset := by
  unfold Detector.Scan.step
  split <;> rfl

/-- The loop's target is the asset of the last transaction that drains. -/
theorem scan_target {txs : List SlotTransaction} {tx : SlotTransaction} {asset : String}
    (hlast : (draining txs).getLast? = some tx) (hasset : tx.asset = some asset) :
    (scan txs).targetedAsset = asset := by
  induction txs using List.reverseRecOn with
  | nil => cases hlast
  | append_singleton txs x ih =>
    rw [scan_concat, step_target]
    by_cases hdrain : 0 < x.drainAmount
    · have happend : draining (txs ++ [x]) = draining txs ++ [x] := by simp [draining, hdrain]
      rw [happend, List.getLast?_concat, Option.some.injEq] at hlast
      rw [if_pos hdrain, hlast, hasset, Option.getD_some]
    · have hsame : draining (txs ++ [x]) = draining txs := by simp [draining, hdrain]
      rw [hsame] at hlast
      rw [if_neg hdrain]
      exact ih hlast

/-- What a batch drains of one asset. -/
def assetTotal (asset : String) (txs : List SlotTransaction) : ℚ :=
  (((draining txs).filter (·.asset = some asset)).map (·.drainAmount)).sum

theorem assetTotal_pos {txs : List SlotTransaction} {tx : SlotTransaction} {asset : String}
    (hmem : tx ∈ draining txs) (hasset : tx.asset = some asset) : 0 < assetTotal asset txs := by
  apply List.sum_pos
  · intro amount hamount
    obtain ⟨t, ht, rfl⟩ := List.mem_map.mp hamount
    have hdrain := List.mem_filter.mp (List.mem_filter.mp ht).1
    simpa using hdrain.2
  · have hfilter : tx ∈ (draining txs).filter (·.asset = some asset) :=
      List.mem_filter.mpr ⟨hmem, by simpa using hasset⟩
    exact List.ne_nil_of_mem (List.mem_map_of_mem hfilter)

/-! ## The stages act on the target -/

/-- Every stage acts on the asset, and the one account that the bundle's instruction writes is the
reserve of it. -/
structure Pauses (sha : Sha256) (settings : Settings) (agent : Agent) (slot : Option ℤ)
    (intercept : Intercept) (asset : String) : Prop where
  simulated : intercept.simResult.assetTargeted = asset
  signed : intercept.kmsSig = agent.signer.signEmergencyPause sha asset slot
  dispatched : intercept.jitoBundle.isolatedAsset = asset
  written : ((resolvedIx sha settings intercept.jitoBundle.isolatedAsset).instruction.accounts.filter
    (·.isWritable)).map (·.pubkey) = [reservePubkey asset]

theorem respond_pauses (sha : Sha256) (settings : Settings) (agent : Agent) (poolState : PoolState)
    (hpool : poolState.availableLiquidityUsd.getD 32500000 ≠ 0) (detection : CompoundVerdict)
    (slot : Option ℤ) :
    ∃ intercept, respond sha settings agent poolState detection slot = .ok intercept ∧
      intercept.detection = detection ∧
      Pauses sha settings agent slot intercept detection.targetedAsset := by
  obtain ⟨simulation, hsimulation, hasset, -⟩ :=
    simulateEmergencyPause_ok hpool (anomalyVerdictOf detection)
  unfold respond
  rw [hsimulation]
  exact ⟨_, rfl, rfl, hasset, rfl, rfl, resolvedIx_writes sha settings _⟩

/-- **What is paused.** For every state, oracle verdict and batch that triggers and names what it
drains: the target is the asset of the last transaction that drains, which loses something, and on
this detection the stages simulate, sign for and dispatch a pause of the target. -/
theorem paused_asset (d : AnomalyDetector) (txs : List (ℚ × SlotTransaction))
    (oracleVerdict : Option OracleVerdict)
    (hnamed : ∀ tx ∈ draining (txs.map (·.2)), tx.asset.isSome = true)
    (htrigger : (d.detectCompoundExploit txs oracleVerdict).2.shouldTriggerCircuitBreaker = true) :
    let detection := (d.detectCompoundExploit txs oracleVerdict).2
    (∃ tx, (draining (txs.map (·.2))).getLast? = some tx ∧
      tx.asset = some detection.targetedAsset) ∧
    0 < assetTotal detection.targetedAsset (txs.map (·.2)) ∧
    ∀ sha settings agent slot, ∃ intercept,
      respond sha settings agent streamLendingPoolReserves detection slot = .ok intercept ∧
      Pauses sha settings agent slot intercept detection.targetedAsset := by
  have hdetection := Detector.detectCompoundExploit_snd d txs oracleVerdict
  have hdrains : draining (txs.map (·.2)) ≠ [] := by
    intro hnone
    rw [hdetection, Detector.shouldTrigger_iff] at htrigger
    have hlarge := htrigger.large
    rw [(Detector.evidence_amounts _).1, hnone] at hlarge
    norm_num at hlarge
  have hlast := List.getLast?_eq_some_getLast hdrains
  have hmem := List.getLast_mem hdrains
  generalize (draining (txs.map (·.2))).getLast hdrains = tx at hlast hmem
  obtain ⟨asset, hasset⟩ := Option.isSome_iff_exists.mp (hnamed tx hmem)
  have htarget : (d.detectCompoundExploit txs oracleVerdict).2.targetedAsset = asset := by
    rw [hdetection]
    exact scan_target hlast hasset
  dsimp only
  refine ⟨⟨tx, hlast, by rw [htarget]; exact hasset⟩, ?_, ?_⟩
  · rw [htarget]
    exact assetTotal_pos hmem hasset
  · intro sha settings agent slot
    obtain ⟨intercept, hok, -, hpauses⟩ := respond_pauses sha settings agent streamLendingPoolReserves
      (by decide +kernel) (d.detectCompoundExploit txs oracleVerdict).2 slot
    exact ⟨intercept, hok, hpauses⟩

/-- 5M of USDC, and then 1 of SOL. -/
def dustAfterDrain : List (ℚ × SlotTransaction) :=
  [(0, { isFlashLoan := some true }), (0, { drainAmountUsd := some 5000000, asset := some "USDC" }),
    (0, { drainAmountUsd := some 1, asset := some "SOL" })]

theorem paused_asset_sample :
    0 < assetTotal ((Detector.fresh Detector.sampleConfig).detectCompoundExploit dustAfterDrain
      none).2.targetedAsset (dustAfterDrain.map (·.2)) :=
  (paused_asset (Detector.fresh Detector.sampleConfig) dustAfterDrain none (by decide +kernel)
    (by decide +kernel)).2.1

/-- Every drain is named and the breaker triggers, but the target is SOL, of which 1 is lost, next to
5M of USDC. -/
theorem target_not_maximal :
    (∀ tx ∈ draining (dustAfterDrain.map (·.2)), tx.asset.isSome = true) ∧
    ((Detector.fresh Detector.sampleConfig).detectCompoundExploit dustAfterDrain
      none).2.shouldTriggerCircuitBreaker = true ∧
    ((Detector.fresh Detector.sampleConfig).detectCompoundExploit dustAfterDrain
      none).2.targetedAsset = "SOL" ∧
    assetTotal "SOL" (dustAfterDrain.map (·.2)) < assetTotal "USDC" (dustAfterDrain.map (·.2)) := by
  refine ⟨?_, ?_, ?_, ?_⟩
  all_goals decide +kernel

/-! ## The replay -/

theorem assetTotal_attackBatch (asset : String) :
    assetTotal asset attackBatch = if asset = "USDC" then 7000000 else 0 := by
  have hdrains : draining attackBatch =
      [{ drainAmountUsd := some 7000000, asset := some "USDC" }] := by decide +kernel
  rw [assetTotal, hdrains]
  by_cases h : asset = "USDC"
  · simp [h, SlotTransaction.drainAmount]
  · simp [h, Ne.symm h]

/-- **The replay returns**, from every state, and pauses the asset that its batch drains most. -/
theorem runAttackSimulation_usdc (sha : Sha256) (settings : Settings) (agent : Agent) (now now' : ℚ)
    (slot : Option ℤ) (client : Option HttpClient) :
    (∃ intercept,
      (runAttackSimulation sha settings agent now now' slot client).2 = .ok intercept ∧
      Pauses sha settings agent slot intercept "USDC") ∧
    ∀ asset, assetTotal asset attackBatch ≤ assetTotal "USDC" attackBatch := by
  constructor
  · have htarget (d : AnomalyDetector) (verdict : Option OracleVerdict) :
        (d.detectAt now' attackBatch verdict).2.targetedAsset = "USDC" := by
      rw [Detector.detectAt_eq]
      show (scan attackBatch).targetedAsset = "USDC"
      decide +kernel
    obtain ⟨intercept, hok, -, hpauses⟩ := respond_pauses sha settings agent streamLendingPoolReserves
      (by decide +kernel) ((agent.detector.recordOutflow now 7000000 0 "Unknown").detectAt now'
        attackBatch (some (oracleCheck agent client).2)).2 slot
    rw [htarget] at hpauses
    exact ⟨intercept, hok, hpauses⟩
  · intro asset
    rw [assetTotal_attackBatch, assetTotal_attackBatch, if_pos rfl]
    split <;> norm_num

end Response
end SolanaGuardian
