import SolanaGuardian.Detector.Isolation
import SolanaGuardian.Oracle.Cache
import SolanaGuardian.Response.Notifier
import SolanaGuardian.Response.Telemetry

/-!
# The endpoint (`app/main.py`)

`POST /api/v1/simulate-attack` is the pipeline with the telemetry before it and the incident proof
and the alerts after it. The singletons of the application live across requests, so the synthetic
attacks of a run go through one detector. A request awaits the oracle check alone, before it
touches the detector, so the requests of a run take effect one at a time.

* `handle_report`: what one request reports, from the stages.
* `detector_run`: a run of requests is a run of the detector on `Request.ops`. `detection_run`: so a
  request is judged on its own batch and on the probes of the run that are in the window.
* `replay_run` is the result over every run: a request never raises. Whatever the verdict, it
  reports and announces a pause of USDC with the same preserved capital. Its score is that of the
  synthetic batch, the oracle check and one more fact: an earlier request within the window makes the
  batch's own probe count as probing.
* `replay_outflow`: each request leaves its synthetic 7M in the outflow window of the detector.
-/

namespace SolanaGuardian
namespace Response

open Detector (Config Op OutflowEvent ProbingAttempt fresh run clock outflowLog probeLog atInstant
  probesAt scan)
open Oracle (HttpClient)
open Program (Sha256)

/-! ## Requests -/

/-- The singletons of the application. -/
structure Application extends Agent where
  geyser : SolanaRPCPollClient
  notifier : IncidentNotifier

/-- What a request finds outside: its clock readings, in order, the measured latencies and the
answers of the cluster, of the prices' servers (`none`: there is no client) and of the webhooks. -/
structure Request where
  telemetryTime : ℚ
  recordTime : ℚ
  batchTime : ℚ
  incidentTime : ℚ
  proofTime : ℚ
  elapsedMs : ℚ
  totalLatencyMs : ℚ
  server : RpcServer
  client : Option HttpClient
  post : Post

/-- What a request returns, with what it posted. -/
structure Report where
  status : String
  incidentProof : IncidentProof
  dispatchStatus : AlertReport
  posts : List (String × Payload)

/-- The report that is built from the stages. -/
def Application.report (app : Application) (request : Request) (slot : Option ℤ)
    (intercept : Intercept) : Report :=
  let incidentProof := generateIncidentProof slot intercept.detection.targetedAsset
    intercept.detection intercept.simResult intercept.jitoBundle
    (Python.round request.totalLatencyMs 3) request.incidentTime request.proofTime
  let dispatch := app.notifier.dispatchAlerts request.post incidentProof
  { status := "SIMULATED_INTERCEPT_DRY_RUN"
    incidentProof
    dispatchStatus := dispatch.1
    posts := dispatch.2 }

section

variable {sha : Sha256} {settings : Settings}

/-- The verdict of a request on its synthetic batch. -/
def Application.detection (app : Application) (request : Request) : Detector.CompoundVerdict :=
  ((app.detector.recordOutflow request.recordTime 7000000 0 "Unknown").detectAt request.batchTime
    attackBatch (some (oracleCheck app.toAgent request.client).2)).2

/-- What a request does to the detector. -/
def Request.ops (request : Request) : List Op :=
  [.recordOutflow request.recordTime 7000000 0 "Unknown",
    .detectCompoundExploit (atInstant request.batchTime attackBatch) none]

/-- The probe of the synthetic batch. -/
def Request.probe (request : Request) : ProbingAttempt := ⟨request.batchTime, "anon", 999, true, none⟩

end

/-! ## What a run reports -/

end Response
end SolanaGuardian
