import SolanaGuardian.Adapter.Resolver
import SolanaGuardian.Lib.Python

/-!
# The stages of the response

What the agent does about a detection: `StateSimulator` (`app/core/simulator.py`) projects the pool
with and without a pause, `KMSSecuritySigner` (`app/security/kms_signer.py`) signs the pause of one
asset, and `JitoMEVExecutor` (`app/core/jito_executor.py`) builds the bundle with the instruction.

Latencies that a stage measures of itself are left out. A slot is `None` when the cluster could not
be polled.
-/

namespace SolanaGuardian
namespace Response

open Adapter (Pubkey Resolver BuiltInstruction Instruction)
open Program (Sha256 utf8)

/-! ## The simulator -/

/-- What the simulator reads of the pool's reserves. -/
structure PoolState where
  availableLiquidityUsd : Option ℚ := none

/-- What the simulator reads of a detection. -/
structure AnomalyVerdict where
  totalDrainedUsd : Option ℚ := none
  targetedAsset : Option String := none

/-- What `simulate_emergency_pause` returns. -/
structure Simulation where
  simulationValid : Bool
  assetTargeted : String
  liquidityPreservedUsd : ℚ
  projectedSolvencyRatio : ℚ
  simulatedInstruction : String
  falsePositiveRiskPct : ℚ
  deriving DecidableEq

/-- The pool after the attacker's second leg. -/
def withoutGuardian (currentAvailable drainedInSlot : ℚ) : ℚ :=
  max 0 (currentAvailable - drainedInSlot * (35 / 10))

/-- The pool if it is halted at once. -/
def withGuardian (currentAvailable drainedInSlot : ℚ) : ℚ := max 0 (currentAvailable - drainedInSlot)

def savedCapital (currentAvailable drainedInSlot : ℚ) : ℚ :=
  withGuardian currentAvailable drainedInSlot - withoutGuardian currentAvailable drainedInSlot

/-- `simulate_emergency_pause`. -/
def simulateEmergencyPause (poolState : PoolState) (anomalyVerdict : AnomalyVerdict) :
    Except Python.Exception Simulation := do
  let currentAvailable := poolState.availableLiquidityUsd.getD 32500000
  let drainedInSlot := anomalyVerdict.totalDrainedUsd.getD 0
  let asset := anomalyVerdict.targetedAsset.getD "USDC"
  let solvency ← Python.div (withGuardian currentAvailable drainedInSlot) currentAvailable
  return {
    simulationValid := true
    assetTargeted := asset
    liquidityPreservedUsd := Python.round (savedCapital currentAvailable drainedInSlot) 2
    projectedSolvencyRatio := Python.round solvency 4
    simulatedInstruction := "pause_asset(token='" ++ asset ++ "')"
    falsePositiveRiskPct := 2 / 100 }

/-- On a pool that is not empty the simulation returns: it is about the asset of the verdict, and
reports the two projections. -/
theorem simulateEmergencyPause_ok {poolState : PoolState}
    (h : poolState.availableLiquidityUsd.getD 32500000 ≠ 0) (verdict : AnomalyVerdict) :
    let currentAvailable := poolState.availableLiquidityUsd.getD 32500000
    let drainedInSlot := verdict.totalDrainedUsd.getD 0
    ∃ simulation, simulateEmergencyPause poolState verdict = .ok simulation ∧
      simulation.assetTargeted = verdict.targetedAsset.getD "USDC" ∧
      simulation.liquidityPreservedUsd =
        Python.round (savedCapital currentAvailable drainedInSlot) 2 ∧
      simulation.projectedSolvencyRatio =
        Python.round (withGuardian currentAvailable drainedInSlot / currentAvailable) 4 := by
  unfold simulateEmergencyPause
  simp only [Python.div_ok h]
  exact ⟨_, rfl, rfl, rfl, rfl⟩

/-! ## The signer -/

/-- `KMSSecuritySigner`. -/
structure Signer where
  keyId : String
  provider : String

/-- `KMSSecuritySigner.__init__`. -/
def Signer.init (settings : Settings) (keyId provider : Option String) : Signer :=
  { keyId := Python.orDefault "" keyId settings.kmsKeyId
    provider := Python.orDefault "" provider settings.kmsProvider }

/-- What `sign_emergency_pause` returns. -/
structure PauseSignature where
  authorized : Bool
  instruction : String
  assetTarget : String
  kmsKeyId : String
  kmsProvider : String
  signatureHex : Option String
  rbacScope : String
  deriving DecidableEq

/-- `str(slot)`. -/
def slotText (slot : Option ℤ) : String :=
  match slot with
  | some n => toString n
  | none => "None"

/-- The message that is signed. -/
def Signer.canonicalMsg (signer : Signer) (asset : String) (slot : Option ℤ) : List UInt8 :=
  utf8 ("SOLANA_GUARDIAN_PAUSE:" ++ asset ++ ":" ++ slotText slot ++ ":" ++ signer.keyId)

/-- `sign_emergency_pause`. -/
def Signer.signEmergencyPause (sha : Sha256) (signer : Signer) (asset : String) (slot : Option ℤ) :
    PauseSignature :=
  let signature := String.ofList (Python.hex (sha (signer.canonicalMsg asset slot)).toList)
  { authorized := true
    instruction := "guardian_pause"
    assetTarget := asset
    kmsKeyId := signer.keyId
    kmsProvider := signer.provider
    signatureHex := if signer.provider = "SIMULATED_LOCAL_SIGNER" then none else some ("0x" ++ signature)
    rbacScope := "READ_ONLY_PLUS_PAUSE_INSTRUCTION_STRICT" }

/-! ## The executor -/

/-- `JitoMEVExecutor`. -/
structure Executor where
  regionalEndpoints : List String
  maxPriorityFee : ℤ
  tipP99Floor : ℤ
  emergencyFixedTip : ℤ

/-- `JitoMEVExecutor.__init__`. -/
def Executor.init (settings : Settings) : Executor :=
  { regionalEndpoints := settings.jitoRegionalEndpoints
    maxPriorityFee := settings.maxPriorityFeeLamports
    tipP99Floor := settings.jitoTipP99Lamports
    emergencyFixedTip := settings.emergencyFixedTipLamports }

/-- `calculate_dynamic_priority_fee`. -/
def Executor.calculateDynamicPriorityFee (executor : Executor) (valueAtRiskUsd : ℚ)
    (isSevereDrain : Bool) (solPriceUsd : ℚ) : ℤ :=
  if isSevereDrain then min executor.emergencyFixedTip executor.maxPriorityFee
  else
    let varInSol := if 0 < solPriceUsd then valueAtRiskUsd / solPriceUsd else 0
    let varInLamports := Python.int (varInSol * 1000000000)
    let varProportionalTip := Python.int (varInLamports * (5 / 1000))
    let p99DefensiveTip := Python.int (executor.tipP99Floor * (15 / 10))
    let calculatedTip := max p99DefensiveTip (min varProportionalTip executor.maxPriorityFee)
    min calculatedTip executor.maxPriorityFee

inductive ExecutionStatus where
  | jitoDryRun | jitoDispatchArmed
  deriving DecidableEq, Repr

inductive TipStrategy where
  | emergencyFixed | dynamicP99VarScaled
  deriving DecidableEq, Repr

/-- What `dispatch_emergency_bundle` returns. -/
structure Bundle where
  executionStatus : ExecutionStatus
  channel : String
  regionalEndpointsBroadcasted : List String
  jitoBundleHash : Option String
  actionExecuted : String
  targetProtocol : String
  authorizationMode : String
  discriminatorHex : String
  anchorInstruction : String
  priorityTipLamports : ℤ
  tipStrategy : TipStrategy
  targetSlot : Option ℤ
  isolatedAsset : String
  protocolWideHalt : Bool
  note : String
  deriving DecidableEq

/-- The reserve account of an asset. -/
def reservePubkey (assetTarget : String) : Pubkey :=
  ⟨"Reserve" ++ assetTarget ++ "11111111111111111111111111111"⟩

/-- The instruction of the bundle, as the resolver builds it. -/
def resolvedIx (sha : Sha256) (settings : Settings) (assetTarget : String) : BuiltInstruction :=
  (Resolver.init sha settings none none).buildInstruction sha settings ⟨settings.lendingProgramId⟩
    ⟨"GuardianKey11111111111111111111111111111111"⟩ ⟨settings.lendingMarketPubkey⟩
    (reservePubkey assetTarget) none none

/-- `repr(ix)`. -/
def reprInstruction (ix : Instruction) : String :=
  "Instruction(program_id=" ++ ix.programId.key ++ ", data_len=" ++ toString ix.data.length ++
    ", accounts_cnt=" ++ toString ix.accounts.length ++ ")"

/-- `dispatch_emergency_bundle`. The signature is among its arguments, but it does not read it. -/
def Executor.dispatchEmergencyBundle (sha : Sha256) (settings : Settings) (executor : Executor)
    (assetTarget : String) (slot : Option ℤ) (valueAtRiskUsd : ℚ) (isSevereDrain : Bool) : Bundle :=
  let dynamicFee := executor.calculateDynamicPriorityFee valueAtRiskUsd isSevereDrain 140
  let resolvedIxData := resolvedIx sha settings assetTarget
  let armed := settings.jitoSignerKey.getD "" ≠ ""
  { executionStatus := if armed then .jitoDispatchArmed else .jitoDryRun
    channel :=
      if armed then "HTTPS_Block_Engine_Bundle_Relay" else "JITO_DRY_RUN (Simulated Pipeline)"
    regionalEndpointsBroadcasted := if armed then executor.regionalEndpoints else []
    jitoBundleHash := none
    actionExecuted := resolvedIxData.instructionName ++ "('" ++ assetTarget ++ "')"
    targetProtocol := resolvedIxData.protocolName
    authorizationMode := resolvedIxData.authorizationMode
    discriminatorHex := resolvedIxData.discriminatorHex
    anchorInstruction := reprInstruction resolvedIxData.instruction
    priorityTipLamports := dynamicFee
    tipStrategy := if isSevereDrain then .emergencyFixed else .dynamicP99VarScaled
    targetSlot := slot.bind fun n => if n = 0 then none else some (n + 1)
    isolatedAsset := assetTarget
    protocolWideHalt := false
    note :=
      if armed then "Key detected: Ready for Block Engine relay."
      else "Dry-run mode: On-chain Jito bundle broadcast gated pending signer key injection." }

/-- The one account that the instruction writes is the reserve of the asset. -/
theorem resolvedIx_writes (sha : Sha256) (settings : Settings) (assetTarget : String) :
    ((resolvedIx sha settings assetTarget).instruction.accounts.filter (·.isWritable)).map (·.pubkey) =
      [reservePubkey assetTarget] := by
  unfold resolvedIx Resolver.buildInstruction
  by_cases h : (Resolver.init sha settings none none).authMode = "delegated_pda_cpi"
  · rw [if_pos h]; rfl
  · rw [if_neg h]; rfl

/-- Two assets have two reserve accounts. -/
theorem reservePubkey_injective : Function.Injective reservePubkey := by
  intro a b h
  have hkey : "Reserve" ++ a ++ "11111111111111111111111111111" =
      "Reserve" ++ b ++ "11111111111111111111111111111" := congrArg Pubkey.key h
  have hlist := congrArg String.toList hkey
  simp only [String.toList_append, List.append_left_inj, List.append_right_inj] at hlist
  exact String.toList_injective hlist

end Response
end SolanaGuardian
