import Mathlib.Algebra.Order.Ring.Rat
import SolanaGuardian.Lib.Python
import SolanaGuardian.Lib.Window
import SolanaGuardian.Settings

/-!
# The anomaly detector (`app/core/detector.py`)

The detector with its two sliding-window buffers, the velocity verdict and the compound verdict.
Amounts, ratios and times are rationals. A reading of `time.time()` is an argument of the operation
that makes it. `detect_compound_exploit` reads the clock once for each transaction that it records
as a probe, so it takes its transactions each with the time at which it comes to it.

A key that a transaction's dictionary may lack is an `Option`. The evaluation's own latency and the
set of callers, which nothing reads, are left out.
-/

namespace SolanaGuardian
namespace Detector

structure OutflowEvent where
  timestamp : ℚ
  amountUsd : ℚ
  debtRepaidUsd : ℚ
  callerPubkey : String
  deriving DecidableEq

structure ProbingAttempt where
  timestamp : ℚ
  sender : String
  volumeUsd : ℚ
  hasCpi : Bool
  error : Option String
  deriving DecidableEq

/-- What `__init__` fixes. -/
structure Config where
  windowSeconds : ℚ
  maxOutflowPct : ℚ
  epsilonInvariant : ℚ
  deriving DecidableEq

/-- `AnomalyDetector`. -/
structure AnomalyDetector extends Config where
  outflowEvents : List OutflowEvent
  probingAttempts : List ProbingAttempt
  deriving DecidableEq

/-- The arguments of `__init__`, or the settings. -/
def Config.init (settings : Settings) (windowMinutes : Option ℤ)
    (maxOutflowPct epsilonInvariant : Option ℚ) : Config :=
  { windowSeconds := Python.orDefault 0 windowMinutes settings.outflowVelocityWindowMinutes * 60
    maxOutflowPct := Python.orDefault 0 maxOutflowPct settings.maxOutflowPercentThreshold
    epsilonInvariant := Python.orDefault 0 epsilonInvariant settings.outflowEpsilonInvariant }

/-- A new detector. -/
def fresh (config : Config) : AnomalyDetector :=
  { config with outflowEvents := [], probingAttempts := [] }

namespace AnomalyDetector

/-- `_prune_expired`. -/
def pruneExpired (d : AnomalyDetector) (currentTime : ℚ) : AnomalyDetector :=
  let cutoff := currentTime - d.windowSeconds
  { d with
    outflowEvents := Window.prune OutflowEvent.timestamp cutoff d.outflowEvents
    probingAttempts := Window.prune ProbingAttempt.timestamp cutoff d.probingAttempts }

/-- `record_outflow`. -/
def recordOutflow (d : AnomalyDetector) (now amountUsd debtRepaidUsd : ℚ) (callerPubkey : String) :
    AnomalyDetector :=
  let events := d.outflowEvents ++ [⟨now, amountUsd, debtRepaidUsd, callerPubkey⟩]
  { d with outflowEvents := events }.pruneExpired now

/-- `record_probing_attempt`. -/
def recordProbingAttempt (d : AnomalyDetector) (now : ℚ) (senderPubkey : String) (volumeUsd : ℚ)
    (hasCpiSequence : Bool) (instructionError : Option String) : AnomalyDetector :=
  let attempts := d.probingAttempts ++
    [⟨now, senderPubkey, volumeUsd, hasCpiSequence, instructionError⟩]
  { d with probingAttempts := attempts }.pruneExpired now

end AnomalyDetector

/-! ## The velocity verdict -/

inductive Classification where
  | legitimateLiquidationWave | exploitDrain | normalVolume
  deriving DecidableEq, Repr

/-- What `calculate_outflow_velocity` returns. -/
structure VelocityVerdict where
  windowDurationSeconds : ℚ
  cumulativeOutflowUsd : ℚ
  totalDebtRepaidUsd : ℚ
  repaymentRatio : ℚ
  epsilonInvariant : ℚ
  invariantBroken : Bool
  totalTvlUsd : ℚ
  outflowVelocityPct : ℚ
  thresholdLimitPct : ℚ
  isAnomalous : Bool
  classification : Classification
  deriving DecidableEq

/-- `total_repaid / total_outflow`, and 1 without an outflow. -/
def repaymentRatio (totalRepaid totalOutflow : ℚ) : ℚ :=
  if 0 < totalOutflow then totalRepaid / totalOutflow else 1

/-- The verdict of `calculate_outflow_velocity` on the pruned buffer. -/
def velocityVerdict (d : AnomalyDetector) (totalPoolTvlUsd : ℚ) (concurrentLiquidators : ℤ) :
    VelocityVerdict :=
  let totalOutflow := (d.outflowEvents.map (·.amountUsd)).sum
  let totalDebtRepaid := (d.outflowEvents.map (·.debtRepaidUsd)).sum
  let outflowPct := if 0 < totalPoolTvlUsd then totalOutflow / totalPoolTvlUsd * 100 else 0
  let exceedsThreshold := decide (d.maxOutflowPct ≤ outflowPct)
  let ratio := repaymentRatio totalDebtRepaid totalOutflow
  let isInvariantBroken := decide (ratio < d.epsilonInvariant)
  let healthyLiquidators := decide (3 < concurrentLiquidators) && decide (8 / 10 ≤ ratio)
  let isLegitimateLiquidation := !isInvariantBroken || healthyLiquidators
  let isCriticalAnomalous := exceedsThreshold && isInvariantBroken && !healthyLiquidators
  { windowDurationSeconds := d.windowSeconds
    cumulativeOutflowUsd := totalOutflow
    totalDebtRepaidUsd := totalDebtRepaid
    repaymentRatio := Python.round ratio 4
    epsilonInvariant := d.epsilonInvariant
    invariantBroken := isInvariantBroken
    totalTvlUsd := totalPoolTvlUsd
    outflowVelocityPct := Python.round outflowPct 2
    thresholdLimitPct := d.maxOutflowPct
    isAnomalous := isCriticalAnomalous
    classification :=
      if exceedsThreshold && isLegitimateLiquidation then .legitimateLiquidationWave
      else if isCriticalAnomalous then .exploitDrain
      else .normalVolume }

/-- `calculate_outflow_velocity`. -/
def AnomalyDetector.calculateOutflowVelocity (d : AnomalyDetector) (now totalPoolTvlUsd : ℚ)
    (concurrentLiquidators : ℤ) : AnomalyDetector × VelocityVerdict :=
  let d := d.pruneExpired now
  (d, velocityVerdict d totalPoolTvlUsd concurrentLiquidators)

/-! ## The compound verdict -/

/-- A transaction of a slot. -/
structure SlotTransaction where
  sender : Option String := none
  isFlashLoan : Option Bool := none
  borrowAmountUsd : Option ℚ := none
  drainAmountUsd : Option ℚ := none
  debtRepaidUsd : Option ℚ := none
  asset : Option String := none
  volumeUsd : Option ℚ := none
  valueUsd : Option ℚ := none
  instructionError : Option String := none
  isSimulationRevert : Option Bool := none
  isDisposableWallet : Option Bool := none
  isProbing : Option Bool := none
  deriving DecidableEq

namespace SlotTransaction

variable (tx : SlotTransaction)

def caller : String := tx.sender.getD "anon"

def flashLoan : Bool := tx.isFlashLoan.getD false

def drainAmount : ℚ := tx.drainAmountUsd.getD 0

def repaidAmount : ℚ := tx.debtRepaidUsd.getD 0

def vol : ℚ := tx.volumeUsd.getD (tx.valueUsd.getD 999)

/-- The transaction is recorded as a probe. -/
def isProbe : Bool :=
  let isMicroVol := decide (tx.vol ≤ 5)
  let hasError := tx.instructionError.isSome || tx.isSimulationRevert.getD false
  let isDisposable := tx.isDisposableWallet.getD false
  tx.isProbing.getD false || (isMicroVol && (tx.flashLoan || hasError || isDisposable))

/-- The entry that a probe leaves in the buffer. -/
def probe (now : ℚ) : ProbingAttempt := ⟨now, tx.caller, tx.vol, true, tx.instructionError⟩

end SlotTransaction

/-- `oracle_verdict`, of which one key is read. -/
structure OracleVerdict where
  isManipulated : Option Bool := none
  deriving DecidableEq

/-- The loop's variables. -/
structure Scan where
  hasFlashLoan : Bool := false
  hasDrain : Bool := false
  totalDrained : ℚ := 0
  totalRepaid : ℚ := 0
  targetedAsset : String := "USDC"
  deriving DecidableEq

/-- The flash-loan and the drain part of the loop. -/
def Scan.step (scan : Scan) (tx : SlotTransaction) : Scan :=
  let scan := { scan with
    hasFlashLoan := scan.hasFlashLoan || tx.flashLoan || decide (5000000 < tx.borrowAmountUsd.getD 0) }
  if 0 < tx.drainAmount then
    { scan with
      hasDrain := true
      totalDrained := scan.totalDrained + tx.drainAmount
      totalRepaid := scan.totalRepaid + tx.repaidAmount
      targetedAsset := tx.asset.getD scan.targetedAsset }
  else scan

/-- The probing part of the loop. -/
def AnomalyDetector.observe (d : AnomalyDetector) (now : ℚ) (tx : SlotTransaction) :
    AnomalyDetector :=
  if tx.isProbe then d.recordProbingAttempt now tx.caller tx.vol true tx.instructionError else d

/-- One transaction of the loop. -/
def step (s : AnomalyDetector × Scan) (tx : ℚ × SlotTransaction) : AnomalyDetector × Scan :=
  (s.1.observe tx.1 tx.2, s.2.step tx.2)

/-- The rule on the probing buffer. -/
def probingRule (attempts : List ProbingAttempt) : Bool :=
  let probingSenders := (attempts.map (·.sender)).dedup
  let repeatedErrors := attempts.countP (·.error.isSome)
  decide (2 ≤ attempts.length) && (decide (probingSenders.length ≤ 2) || decide (2 ≤ repeatedErrors))

inductive ThreatLevel where
  | criticalExploit | elevated | normal
  deriving DecidableEq, Repr

/-- What `detect_compound_exploit` returns. -/
structure CompoundVerdict where
  threatScore : ℚ
  threatScorePct : ℚ
  shouldTriggerCircuitBreaker : Bool
  targetedAsset : String
  hasFlashLoan : Bool
  hasDrain : Bool
  totalDrainedUsd : ℚ
  totalRepaidUsd : ℚ
  repaymentRatio : ℚ
  invariantBroken : Bool
  probingDetected : Bool
  oracleCompromised : Bool
  threatLevel : ThreatLevel
  deriving DecidableEq

/-- The weighted score of the threat matrix. -/
def threatScore (scan : Scan) (invariantBroken oracleCompromised probingDetected : Bool) : ℚ :=
  let severe := scan.hasDrain && decide (3000000 < scan.totalDrained)
  (if scan.hasFlashLoan then 35 / 100 else 0) +
    (if severe && invariantBroken then 45 / 100 else if severe && !invariantBroken then 10 / 100 else 0) +
    (if oracleCompromised then 20 / 100 else 0) +
    (if probingDetected then 15 / 100 else 0)

/-- The verdict after the loop. -/
def compoundVerdict (epsilonInvariant : ℚ) (scan : Scan) (attempts : List ProbingAttempt)
    (oracleVerdict : Option OracleVerdict) : CompoundVerdict :=
  let probingDetected := probingRule attempts
  let oracleCompromised := (oracleVerdict.bind (·.isManipulated)).getD false
  let ratio := repaymentRatio scan.totalRepaid scan.totalDrained
  let invariantBroken := decide (ratio < epsilonInvariant)
  let score := threatScore scan invariantBroken oracleCompromised probingDetected
  let shouldTrigger := decide (75 / 100 ≤ score) && invariantBroken
  { threatScore := Python.round score 3
    threatScorePct := Python.round (score * 100) 1
    shouldTriggerCircuitBreaker := shouldTrigger
    targetedAsset := scan.targetedAsset
    hasFlashLoan := scan.hasFlashLoan
    hasDrain := scan.hasDrain
    totalDrainedUsd := scan.totalDrained
    totalRepaidUsd := scan.totalRepaid
    repaymentRatio := Python.round ratio 4
    invariantBroken
    probingDetected
    oracleCompromised
    threatLevel :=
      if shouldTrigger then .criticalExploit else if 3 / 10 < score then .elevated else .normal }

/-- `detect_compound_exploit`. -/
def AnomalyDetector.detectCompoundExploit (d : AnomalyDetector)
    (slotTransactions : List (ℚ × SlotTransaction)) (oracleVerdict : Option OracleVerdict) :
    AnomalyDetector × CompoundVerdict :=
  let s := slotTransactions.foldl step (d, {})
  (s.1, compoundVerdict d.epsilonInvariant s.2 s.1.probingAttempts oracleVerdict)

end Detector
end SolanaGuardian
