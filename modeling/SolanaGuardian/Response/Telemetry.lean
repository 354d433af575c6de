import SolanaGuardian.Oracle.Service
import SolanaGuardian.Response.Pipeline

/-!
# Telemetry and health (`app/core/geyser_client.py`, `app/api/v1/health.py`)

Both ask the cluster for its slot, and both the health check and the oracle service ask Pyth for the
price of SOL. The JSON-RPC server is a parameter: it answers a request at a URL with an exception
(`none`) or with a response, whose body is a JSON object with a `result`, or raises when it is read.

`health_agrees` compares the four readers on the same answers. The health check takes a `result` of
null for an online cluster, where the telemetry does not. On Pyth it says what the oracle service
says, so an oracle verdict is never given next to an offline Pyth.
-/

namespace SolanaGuardian
namespace Response

open Oracle (HttpClient OracleService)

/-! ## The cluster -/

/-- What a `getSlot` body has under `result`: no such key, null, or a slot. -/
inductive SlotResult where
  | absent | null
  | slot (n : ℤ)
  deriving DecidableEq

/-- A request, as far as the two callers differ in it. -/
structure RpcRequest where
  method : String
  params : Option (List String)
  deriving DecidableEq

/-- The server: `none` is an exception of the transport. -/
abbrev RpcServer := String → RpcRequest → Option (Oracle.Response SlotResult)

/-- The body of a response with status 200; `none` if there is none or it cannot be read. -/
def okBody {β : Type} (resp : Option (Oracle.Response β)) : Option β :=
  match resp with
  | some resp => if resp.statusCode = 200 then resp.json else none
  | none => none

/-! ## The telemetry -/

/-- `SolanaRPCPollClient`. -/
structure SolanaRPCPollClient where
  rpcUrl : String

/-- `__init__`. The gRPC endpoint is not used. -/
def SolanaRPCPollClient.init (settings : ServiceSettings) (rpcUrl rpcFallback : Option String) :
    SolanaRPCPollClient :=
  { rpcUrl := Python.orDefault "" rpcUrl (Python.orDefault "" rpcFallback settings.solanaRpcUrl) }

inductive TelemetryStatus where
  | offline | rpcPollActive
  deriving DecidableEq, Repr

/-- What `fetch_slot_telemetry` returns. -/
structure Telemetry where
  channel : String
  status : TelemetryStatus
  currentSlot : Option ℤ
  ingestionLatencyMs : Option ℚ
  timestamp : ℚ
  deriving DecidableEq

/-- `fetch_slot_telemetry`, with the time that the request took and the clock reading at the end. A
latency is reported once the server answered, whatever it answered. -/
def SolanaRPCPollClient.fetchSlotTelemetry (geyser : SolanaRPCPollClient) (server : RpcServer)
    (elapsedMs now : ℚ) : Telemetry :=
  let resp := server geyser.rpcUrl { method := "getSlot", params := some [] }
  let slot :=
    match okBody resp with
    | some (.slot n) => some n
    | _ => none
  { channel := "solana-json-rpc-poll"
    status := if slot.isSome then .rpcPollActive else .offline
    currentSlot := slot
    ingestionLatencyMs := resp.map fun _ => Python.round elapsedMs 2
    timestamp := now }

/-! ## The health check -/

inductive HealthStatus where
  | healthy | degraded
  deriving DecidableEq, Repr

/-- What `health_check` returns. -/
structure Health where
  status : HealthStatus
  agent : String
  version : String
  environment : String
  heartbeatTimestamp : ℚ
  targetLatencyCap : String
  stage1IngestionTarget : String
  stage2EvaluationTarget : String
  stage3ExecutionTarget : String
  solanaRpcOnline : Bool
  solanaCurrentSlot : Option ℤ
  pythOracleOnline : Bool
  pythSolPrice : Option ℚ
  jitoBlockEngineLive : Bool
  jitoExecutionMode : String
  kmsSignerMode : String
  squadsRecoveryGate : String
  deriving DecidableEq

/-- The feed that the health check reads. -/
def healthPythUrl : String :=
  "https://hermes.pyth.network/v2/updates/price/latest?ids[]=ef0d8b6fda2ceba41da15d4095d1da392a0d2f8ed0c6c7bc0f4cfac8c280b56d"

/-- `health_check`. A body without a parsed feed cannot be read as a price. -/
def healthCheck (settings : ServiceSettings) (server : RpcServer) (client : HttpClient) (now : ℚ) :
    Health :=
  let rpc := okBody (server settings.solanaRpcUrl { method := "getSlot", params := none })
  let rpcOnline :=
    match rpc with
    | some .absent => false
    | some _ => true
    | none => false
  let rpcSlot :=
    match rpc with
    | some (.slot n) => some n
    | _ => none
  let pythPrice := (okBody (client.pyth healthPythUrl)).map fun parsed => parsed.price * 10 ^ parsed.expo
  let pythOnline := pythPrice.isSome
  { status := if rpcOnline || pythOnline then .healthy else .degraded
    agent := settings.projectName
    version := settings.version
    environment := settings.environment
    heartbeatTimestamp := now
    targetLatencyCap := "< 30 ms (Target: 26 ms)"
    stage1IngestionTarget := "< 8 ms (RPC Poll / Geyser stream)"
    stage2EvaluationTarget := "< 6 ms (Anomaly heuristic & Oracle cross-check)"
    stage3ExecutionTarget := "< 12 ms (KMS signing & Jito bundle submission)"
    solanaRpcOnline := rpcOnline
    solanaCurrentSlot := rpcSlot
    pythOracleOnline := pythOnline
    pythSolPrice := pythPrice
    jitoBlockEngineLive := if settings.jitoDryRun then false else true
    jitoExecutionMode := if settings.jitoDryRun then "JITO_DRY_RUN" else "JITO_LIVE_BUNDLE"
    kmsSignerMode := settings.kmsProvider
    squadsRecoveryGate := "SIMULATED_RECOVERY_GATE" }

/-! ## The readers agree -/

section

variable {settings : ServiceSettings} {server : RpcServer} {client : HttpClient}

/-- The server answers the two requests for its slot alike: an empty list of parameters can be left
out. -/
def SameAnswer (server : RpcServer) (url : String) : Prop :=
  server url { method := "getSlot", params := some [] } =
    server url { method := "getSlot", params := none }

/-- The answer of the cluster: a slot. -/
def AnswersSlot (server : RpcServer) (url : String) (result : SlotResult) : Prop :=
  okBody (server url { method := "getSlot", params := none }) = some result

theorem telemetry_slot (hsame : SameAnswer server settings.solanaRpcUrl) (elapsedMs now : ℚ)
    (n : ℤ) :
    ((SolanaRPCPollClient.init settings none none).fetchSlotTelemetry server elapsedMs
      now).currentSlot = some n ↔ AnswersSlot server settings.solanaRpcUrl (.slot n) := by
  have hurl : (SolanaRPCPollClient.init settings none none).rpcUrl = settings.solanaRpcUrl := rfl
  unfold SolanaRPCPollClient.fetchSlotTelemetry AnswersSlot
  rw [hurl, hsame]
  dsimp only
  split <;> simp_all

theorem telemetry_active (elapsedMs now : ℚ) (geyser : SolanaRPCPollClient) :
    (geyser.fetchSlotTelemetry server elapsedMs now).status = .rpcPollActive ↔
      ∃ n, (geyser.fetchSlotTelemetry server elapsedMs now).currentSlot = some n := by
  unfold SolanaRPCPollClient.fetchSlotTelemetry
  dsimp only
  split <;> simp

theorem health_slot (now : ℚ) (n : ℤ) :
    (healthCheck settings server client now).solanaCurrentSlot = some n ↔
      AnswersSlot server settings.solanaRpcUrl (.slot n) := by
  unfold healthCheck AnswersSlot
  dsimp only
  split <;> simp_all

theorem health_rpc (now : ℚ) :
    (healthCheck settings server client now).solanaRpcOnline = true ↔
      AnswersSlot server settings.solanaRpcUrl .null ∨
        ∃ n, AnswersSlot server settings.solanaRpcUrl (.slot n) := by
  unfold healthCheck AnswersSlot
  dsimp only
  rcases okBody (server settings.solanaRpcUrl { method := "getSlot", params := none }) with
    _ | _ | _ | n
  all_goals simp

/-- The health check reads the feed that an oracle service with the default URL reads. -/
theorem health_pyth (now : ℚ) {service : OracleService}
    (hurl : service.pythHermesUrl = "https://hermes.pyth.network") :
    (healthCheck settings server client now).pythSolPrice =
      service.getPythPrice pythSolId client := by
  have hsame : healthPythUrl =
      service.pythHermesUrl ++ "/v2/updates/price/latest?ids[]=" ++ pythSolId := by
    rw [hurl]
    decide +kernel
  unfold healthCheck OracleService.getPythPrice okBody
  dsimp only
  rw [hsame]
  cases client.pyth (service.pythHermesUrl ++ "/v2/updates/price/latest?ids[]=" ++ pythSolId) with
  | none => rfl
  | some resp =>
    dsimp only
    split <;> rfl

end

/-- **Who is online**, on the same answers of the cluster and of Pyth. An active telemetry has the
slot that the health check has. The health check alone is online on a `result` of null. It has the
price that the oracle service has, so whenever that reaches a verdict on SOL, Pyth is online. The
agent is healthy exactly if one of the two answered. -/
theorem health_agrees (settings : ServiceSettings) (server : RpcServer) (client : HttpClient)
    (elapsedMs now now' : ℚ) (service : OracleService)
    (hsame : SameAnswer server settings.solanaRpcUrl)
    (hurl : service.pythHermesUrl = "https://hermes.pyth.network") :
    let telemetry := (SolanaRPCPollClient.init settings none none).fetchSlotTelemetry server
      elapsedMs now
    let health := healthCheck settings server client now'
    (telemetry.status = .rpcPollActive → health.solanaRpcOnline = true) ∧
    health.solanaCurrentSlot = telemetry.currentSlot ∧
    (health.solanaRpcOnline = true ∧ telemetry.status = .offline ↔
      AnswersSlot server settings.solanaRpcUrl .null) ∧
    health.pythSolPrice = service.getPythPrice pythSolId client ∧
    (∀ token cexPair, (service.evaluateDivergence token pythSolId cexPair client).2.status ≠
      .insufficientData → health.pythOracleOnline = true) ∧
    (health.status = .healthy ↔ telemetry.status = .rpcPollActive ∨
      AnswersSlot server settings.solanaRpcUrl .null ∨
      (service.getPythPrice pythSolId client).isSome = true) := by
  intro telemetry health
  have hactive : telemetry.status = .rpcPollActive ↔
      ∃ n, AnswersSlot server settings.solanaRpcUrl (.slot n) := by
    rw [telemetry_active]
    exact exists_congr fun n => telemetry_slot hsame elapsedMs now n
  have honline : health.solanaRpcOnline = true ↔
      AnswersSlot server settings.solanaRpcUrl .null ∨ telemetry.status = .rpcPollActive := by
    rw [hactive]
    exact health_rpc now'
  have hprice : health.pythSolPrice = service.getPythPrice pythSolId client :=
    health_pyth now' hurl
  have hpyth : health.pythOracleOnline = health.pythSolPrice.isSome := rfl
  have hoffline : telemetry.status = .offline ↔ ¬ telemetry.status = .rpcPollActive := by
    cases telemetry.status <;> simp
  refine ⟨fun h => honline.mpr (.inr h), ?_, ?_, hprice, fun token cexPair h => ?_, ?_⟩
  · apply Option.ext
    intro n
    rw [health_slot, telemetry_slot hsame]
  · rw [honline, hoffline, hactive]
    constructor
    · rintro ⟨hnull | hslot, hnone⟩
      · exact hnull
      · exact absurd hslot hnone
    · intro hnull
      refine ⟨.inl hnull, ?_⟩
      rintro ⟨n, hslot⟩
      unfold AnswersSlot at hnull hslot
      rw [hnull] at hslot
      cases hslot
  · rw [hpyth, hprice]
    cases hget : service.getPythPrice pythSolId client with
    | some p => rfl
    | none => simp [OracleService.evaluateDivergence, OracleService.missing, hget,
        OracleService.insufficientData] at h
  · have hhealthy : health.status = .healthy ↔
        health.solanaRpcOnline = true ∨ health.pythOracleOnline = true := by
      show (if health.solanaRpcOnline || health.pythOracleOnline then HealthStatus.healthy
        else .degraded) = .healthy ↔ _
      cases health.solanaRpcOnline <;> cases health.pythOracleOnline <;> simp
    rw [hhealthy, honline, hpyth, hprice]
    grind

/-- A cluster whose answer is null, and no Pyth: the agent is healthy, and has no slot. -/
theorem health_agrees_sample :
    (healthCheck {} (fun _ _ => some ⟨200, some .null⟩) ⟨fun _ => none, fun _ => none⟩ 0).status =
      .healthy :=
  ((health_agrees {} (fun _ _ => some ⟨200, some .null⟩) ⟨fun _ => none, fun _ => none⟩ 0 0 0
    (OracleService.init {} none none none none) rfl rfl).2.2.2.2.2).mpr (.inr (.inl rfl))

end Response
end SolanaGuardian
