import SolanaGuardian.Lib.Python
import SolanaGuardian.Settings

/-!
# The oracle service (`app/services/oracle_service.py`)

The service compares the price that Pyth reports with a reference price of an exchange, in two
ways: `evaluate_divergence` fetches both prices, and `validate_price_feed` is handed them. Prices,
percentages and times are rationals, and a reading of `time.time()` is an argument.

The HTTP client is a parameter: it answers a URL with an exception (`none`) or with a response. A
body that lacks the keys that are read, or that is no number where a number is read, raises when it
is read (`none`).
-/

namespace SolanaGuardian
namespace Oracle

/-! ## Fetching -/

structure Response (β : Type) where
  statusCode : ℤ
  json : Option β

/-- `data["parsed"][0]["price"]`. -/
structure PythPrice where
  price : ℚ
  expo : ℤ

structure HttpClient where
  pyth : String → Option (Response PythPrice)
  binance : String → Option (Response ℚ)

/-! ## The service -/

inductive DivergenceStatus where
  | insufficientData | anomalyDetected | normal
  deriving DecidableEq, Repr

/-- What `evaluate_divergence` returns. Without data, the prices are not among its keys. -/
structure Divergence where
  token : String
  pythPrice : Option ℚ
  cexPrice : Option ℚ
  switchboardStatus : String
  divergencePct : ℚ
  isAnomaly : Bool
  isManipulated : Bool
  status : DivergenceStatus
  deriving DecidableEq

/-- `OracleService`. -/
structure OracleService where
  pythHermesUrl : String
  binanceApiUrl : String
  switchboardEnabled : Bool
  maxDivergencePct : ℚ
  stalenessLimit : ℤ
  cache : String → Option Divergence

/-- `__init__`. The settings have no URL for either side. -/
def OracleService.init (settings : Settings) (pythHermesUrl binanceApiUrl : Option String)
    (maxDivergencePct : Option ℚ) (stalenessLimit : Option ℤ) : OracleService :=
  { pythHermesUrl := Python.orDefault "" pythHermesUrl "https://hermes.pyth.network"
    binanceApiUrl := Python.orDefault "" binanceApiUrl "https://api.binance.com"
    switchboardEnabled := false
    maxDivergencePct := Python.orDefault 0 maxDivergencePct settings.oracleMaxDivergencePct
    stalenessLimit := Python.orDefault 0 stalenessLimit settings.oracleStalenessSeconds
    cache := fun _ => none }

namespace OracleService

variable (service : OracleService)

/-- `get_pyth_price`. -/
def getPythPrice (priceFeedId : String) (client : HttpClient) : Option ℚ :=
  match client.pyth (service.pythHermesUrl ++ "/v2/updates/price/latest?ids[]=" ++ priceFeedId) with
  | some resp =>
    if resp.statusCode = 200 then resp.json.map fun parsed => parsed.price * 10 ^ parsed.expo
    else none
  | none => none

/-- `get_cex_reference_price`. -/
def getCexReferencePrice (symbol : String) (client : HttpClient) : Option ℚ :=
  match client.binance (service.binanceApiUrl ++ "/api/v3/ticker/price?symbol=" ++ symbol) with
  | some resp => if resp.statusCode = 200 then resp.json else none
  | none => none

/-- `not price`, for an optional number. -/
def missing (price : Option ℚ) : Bool := price.getD 0 = 0

/-- The result without data. -/
def insufficientData (tokenSymbol : String) : Divergence :=
  { token := tokenSymbol
    pythPrice := none
    cexPrice := none
    switchboardStatus := "DEPRECATED_OFFLINE"
    divergencePct := 0
    isAnomaly := false
    isManipulated := false
    status := .insufficientData }

/-- The result on two prices. -/
def divergenceResult (tokenSymbol : String) (pythPrice cexPrice : ℚ) : Divergence :=
  let divergence := |pythPrice - cexPrice| / cexPrice
  let isAnomaly := decide (service.maxDivergencePct < divergence * 100)
  { token := tokenSymbol
    pythPrice := some pythPrice
    cexPrice := some cexPrice
    switchboardStatus := "DEPRECATED_OFFLINE"
    divergencePct := Python.round (divergence * 100) 3
    isAnomaly
    isManipulated := isAnomaly
    status := if isAnomaly then .anomalyDetected else .normal }

/-- `evaluate_divergence`. Only a result on two prices is cached. -/
def evaluateDivergence (tokenSymbol pythId cexPair : String) (client : HttpClient) :
    OracleService × Divergence :=
  let pythPrice := service.getPythPrice pythId client
  let cexPrice := service.getCexReferencePrice cexPair client
  if missing pythPrice || missing cexPrice then (service, insufficientData tokenSymbol)
  else
    let result := service.divergenceResult tokenSymbol (pythPrice.getD 0) (cexPrice.getD 0)
    ({ service with
      cache := fun token => if token = tokenSymbol then some result else service.cache token }, result)

end OracleService

inductive OracleStatus where
  | criticalDivergence | synchronized
  deriving DecidableEq, Repr

inductive Action where
  | degradeLiquidationsAndPause | normal
  deriving DecidableEq, Repr

/-- What `validate_price_feed` returns. -/
structure FeedVerdict where
  token : String
  pythPrice : ℚ
  switchboardPrice : Option ℚ
  switchboardStatus : String
  cexReferencePrice : ℚ
  maxDivergencePct : ℚ
  isStale : Bool
  feedAgeSeconds : ℚ
  isManipulated : Bool
  isAnomaly : Bool
  oracleStatus : OracleStatus
  actionRequired : Action
  deriving DecidableEq

/-- `validate_price_feed`. -/
def OracleService.validatePriceFeed (service : OracleService) (now : ℚ) (token : String)
    (pythPrice switchboardPrice cexSpotRef : ℚ) (pythTimestamp : Option ℚ) :
    Except Python.Exception FeedVerdict := do
  let pythTs := Python.orDefault 0 pythTimestamp now
  let ageSeconds := now - pythTs
  let isStale := decide (service.stalenessLimit < ageSeconds)
  let refPrice := if 0 < cexSpotRef then cexSpotRef else pythPrice
  let pythDev ← Python.div |pythPrice - refPrice| refPrice
  let maxDetectedDev := pythDev * 100
  let isManipulated := decide (service.maxDivergencePct ≤ maxDetectedDev) || isStale
  return {
    token
    pythPrice
    switchboardPrice := if !service.switchboardEnabled then none else some switchboardPrice
    switchboardStatus := "DEPRECATED_OFFLINE"
    cexReferencePrice := cexSpotRef
    maxDivergencePct := Python.round maxDetectedDev 3
    isStale
    feedAgeSeconds := Python.round ageSeconds 2
    isManipulated
    isAnomaly := isManipulated
    oracleStatus := if isManipulated then .criticalDivergence else .synchronized
    actionRequired := if isManipulated then .degradeLiquidationsAndPause else .normal }

end Oracle
end SolanaGuardian
