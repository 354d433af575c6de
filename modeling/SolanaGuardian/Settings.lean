import Mathlib.Data.Rat.Defs

/-!
# The settings (`config/settings.py`)

The settings that the modelled functions read, with their defaults. The environment of the process
can set each of them.
-/

namespace SolanaGuardian

structure Settings where
  jitoRegionalEndpoints : List String :=
    ["https://ny.mainnet.block-engine.jito.wtf", "https://slc.mainnet.block-engine.jito.wtf",
      "https://frankfurt.mainnet.block-engine.jito.wtf",
      "https://amsterdam.mainnet.block-engine.jito.wtf"]
  maxPriorityFeeLamports : ℤ := 2000000000
  jitoTipP99Lamports : ℤ := 5000000
  emergencyFixedTipLamports : ℤ := 1000000000
  jitoSignerKey : Option String := none
  outflowEpsilonInvariant : ℚ := 5 / 100
  targetProtocol : String := "kamino_klend"
  authorizationMode : String := "direct_guardian_signer"
  lendingProgramId : String := "KLend2gQjcU6xiprGoMsF9hMYDzR7sFNvjKLGV9V7wnq"
  lendingMarketPubkey : String := "7u3HeHxYDLhnCoErrtycNokbQYbWGzLs6JSDqGAv5PfF"
  gatewayProgramId : String := "Guard1anBreaker111111111111111111111111111111"
  kmsProvider : String := "SIMULATED_LOCAL_SIGNER"
  kmsKeyId : String :=
    "projects/sentinel-lab/locations/global/keyRings/guardian/cryptoKeys/pause-signer"
  oracleMaxDivergencePct : ℚ := 35 / 10
  oracleStalenessSeconds : ℤ := 15
  outflowVelocityWindowMinutes : ℤ := 5
  maxOutflowPercentThreshold : ℚ := 15

/-- The settings of the services around the response. -/
structure ServiceSettings extends Settings where
  projectName : String := "Solana DeFi Guardian Agent"
  version : String := "1.0.0"
  environment : String := "production"
  solanaRpcUrl : String := "https://api.mainnet-beta.solana.com"
  jitoDryRun : Bool := true
  squadsMultisigProgramId : String := "SQDS4ep65T869zMMBKyuUq6aD6EgTu8psMjkvj52pCf"
  alertWebhookUrl : Option String := none
  telegramBotToken : Option String := none
  telegramChatId : Option String := none

end SolanaGuardian
