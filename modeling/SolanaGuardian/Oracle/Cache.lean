import Mathlib.Data.List.Induction
import SolanaGuardian.Oracle.Agreement

/-!
# The cache of the oracle service

`evaluate_divergence` awaits both prices and then caches its result without another await, so the
evaluations of a run take effect one at a time, in the order in which they complete. The cache is
written and never read, so what an evaluation returns does not depend on the run before
(`evaluate_snd`).

`cache_run` is the result over every run: the cache holds, for each token, the last result on two
prices, and such a result has both prices, neither of them zero, with the verdict on them. An
evaluation without data leaves the cache as it was.
-/

namespace SolanaGuardian
namespace Oracle

/-- One evaluation of a run, with the answers that it gets. -/
structure Evaluation where
  tokenSymbol : String
  pythId : String
  cexPair : String
  client : HttpClient

namespace OracleService

/-- The evaluation, on a service. -/
def evaluate (service : OracleService) (e : Evaluation) : OracleService × Divergence :=
  service.evaluateDivergence e.tokenSymbol e.pythId e.cexPair e.client

/-- The service after a run. -/
def evaluateAll (service : OracleService) (es : List Evaluation) : OracleService :=
  es.foldl (fun s e => (s.evaluate e).1) service

/-- What the evaluations of a run return, if they run one by one. -/
def answers (service : OracleService) : List Evaluation → List Divergence
  | [] => []
  | e :: es => (service.evaluate e).2 :: answers (service.evaluate e).1 es

end OracleService

open OracleService (missing insufficientData)

/-- A result on two prices. -/
def Conclusive (result : Divergence) : Prop := result.status ≠ .insufficientData

instance : DecidablePred Conclusive := fun result =>
  inferInstanceAs (Decidable (result.status ≠ .insufficientData))

/-- The verdict of a service on two prices other than zero, for a token. -/
structure OracleService.Judged (service : OracleService) (token : String) (result : Divergence) :
    Prop where
  token : result.token = token
  prices : ∃ p c, result.pythPrice = some p ∧ result.cexPrice = some c ∧ p ≠ 0 ∧ c ≠ 0 ∧
    (result.isManipulated = true ↔ service.maxDivergencePct < deviationPct p c) ∧
    result.divergencePct = Python.round (deviationPct p c) 3
  status : result.status = if result.isManipulated then .anomalyDetected else .normal

section

variable {service : OracleService}

/-- An evaluation without data changes nothing, and says so. Any other judges the two prices that it
fetched, and caches that. -/
theorem evaluate_cases (service : OracleService) (e : Evaluation) :
    (service.evaluate e = (service, insufficientData e.tokenSymbol) ∧
      (service.getPythPrice e.pythId e.client = none ∨
        service.getPythPrice e.pythId e.client = some 0 ∨
        service.getCexReferencePrice e.cexPair e.client = none ∨
        service.getCexReferencePrice e.cexPair e.client = some 0)) ∨
    (∃ p c result, service.getPythPrice e.pythId e.client = some p ∧
      service.getCexReferencePrice e.cexPair e.client = some c ∧
      result = service.divergenceResult e.tokenSymbol p c ∧ p ≠ 0 ∧ c ≠ 0 ∧
      service.evaluate e = ({ service with
        cache := Function.update service.cache e.tokenSymbol (some result) }, result)) := by
  unfold OracleService.evaluate OracleService.evaluateDivergence
  cases hp : service.getPythPrice e.pythId e.client with
  | none => simp [missing]
  | some p =>
    cases hc : service.getCexReferencePrice e.cexPair e.client with
    | none => simp [missing]
    | some c =>
      by_cases hp0 : p = 0
      · simp [missing, hp0]
      by_cases hc0 : c = 0
      · simp [missing, hc0]
      refine .inr ⟨p, c, _, rfl, rfl, rfl, hp0, hc0, ?_⟩
      have hupdate : (fun token => if token = e.tokenSymbol then
          some (service.divergenceResult e.tokenSymbol p c) else service.cache token) =
          Function.update service.cache e.tokenSymbol
            (some (service.divergenceResult e.tokenSymbol p c)) := by
        funext token
        simp [Function.update_apply]
      simp [missing, hp0, hc0, hupdate]

/-- What is judged of two prices. -/
theorem judged_divergenceResult {p c : ℚ} (hp : p ≠ 0) (hc : c ≠ 0) (token : String) :
    service.Judged token (service.divergenceResult token p c) where
  token := rfl
  prices := ⟨p, c, rfl, rfl, hp, hc, by simp [OracleService.divergenceResult, deviationPct], rfl⟩
  status := rfl

theorem conclusive_divergenceResult (token : String) (p c : ℚ) :
    Conclusive (service.divergenceResult token p c) := by
  unfold Conclusive OracleService.divergenceResult
  dsimp only
  split <;> simp

/-- A service with another cache. -/
theorem evaluate_snd (cache : String → Option Divergence) (e : Evaluation) :
    (({ service with cache } : OracleService).evaluate e).2 = (service.evaluate e).2 := by
  unfold OracleService.evaluate OracleService.evaluateDivergence
  dsimp only
  rw [apply_ite Prod.snd, apply_ite Prod.snd]
  rfl

/-- Evaluations change nothing but the cache. -/
theorem evaluate_fst (service : OracleService) (e : Evaluation) :
    ∃ cache, (service.evaluate e).1 = { service with cache } := by
  rcases evaluate_cases service e with ⟨h, -⟩ | ⟨p, c, result, -, -, -, -, -, h⟩
  · rw [h]
    exact ⟨service.cache, rfl⟩
  · rw [h]
    exact ⟨_, rfl⟩

end

/-! ## Runs -/

/-- What the evaluations of a run return does not depend on the cache. -/
theorem answers_eq (service : OracleService) (es : List Evaluation) :
    service.answers es = es.map fun e => (service.evaluate e).2 := by
  induction es generalizing service with
  | nil => rfl
  | cons e es ih =>
    obtain ⟨cache, hcache⟩ := evaluate_fst service e
    rw [OracleService.answers, ih, hcache, List.map_cons]
    congr 1
    apply List.map_congr_left
    intro e' _
    exact evaluate_snd cache e'

theorem evaluateAll_concat (service : OracleService) (es : List Evaluation) (e : Evaluation) :
    service.evaluateAll (es ++ [e]) = ((service.evaluateAll es).evaluate e).1 := by
  simp [OracleService.evaluateAll]

theorem evaluateAll_fst (service : OracleService) (es : List Evaluation) :
    ∃ cache, service.evaluateAll es = { service with cache } := by
  induction es using List.reverseRecOn with
  | nil => exact ⟨service.cache, rfl⟩
  | append_singleton es e ih =>
    obtain ⟨cache, hcache⟩ := ih
    obtain ⟨cache', hcache'⟩ := evaluate_fst (service.evaluateAll es) e
    rw [evaluateAll_concat, hcache', hcache]
    exact ⟨cache', rfl⟩

/-- **The cache**, over every run of a new service: for each token it holds the last conclusive
result, if there was one, and that is the verdict on two prices other than zero. -/
theorem cache_run (settings : Settings) (pythHermesUrl binanceApiUrl : Option String)
    (maxDivergencePct : Option ℚ) (stalenessLimit : Option ℤ) (es : List Evaluation)
    (token : String) :
    let service := OracleService.init settings pythHermesUrl binanceApiUrl maxDivergencePct
      stalenessLimit
    (service.evaluateAll es).cache token =
      ((service.answers es).filter fun r => r.token = token ∧ Conclusive r).getLast? ∧
    ∀ result, (service.evaluateAll es).cache token = some result →
      service.Judged token result := by
  intro service
  rw [answers_eq]
  induction es using List.reverseRecOn with
  | nil => exact ⟨rfl, fun result h => by cases h⟩
  | append_singleton es e ih =>
    obtain ⟨ihcache, ihjudged⟩ := ih
    obtain ⟨cache, hcache⟩ := evaluateAll_fst service es
    -- The evaluation is that of the service before the run, with the cache of the run.
    have hanswer : ((service.evaluateAll es).evaluate e).2 = (service.evaluate e).2 := by
      rw [hcache]
      exact evaluate_snd cache e
    rw [evaluateAll_concat, List.map_append, List.map_cons, List.map_nil, List.filter_append,
      ← hanswer]
    rcases evaluate_cases (service.evaluateAll es) e with ⟨h, -⟩ | ⟨p, c, r, -, -, hr, hp, hc, h⟩
    · have hnot : ¬ Conclusive (insufficientData e.tokenSymbol) := fun hne => hne rfl
      rw [h]
      simpa [hnot] using And.intro ihcache ihjudged
    · have hconclusive : Conclusive r := by
        rw [hr]
        exact conclusive_divergenceResult _ _ _
      have htoken : r.token = e.tokenSymbol := by rw [hr]; rfl
      have hjudged : service.Judged e.tokenSymbol r := by
        rw [hr, hcache]
        exact judged_divergenceResult hp hc _
      rw [h]
      dsimp only
      by_cases ht : token = e.tokenSymbol
      · subst ht
        simpa [htoken, hconclusive] using hjudged
      · have hne : ¬ r.token = token := fun h => ht (h.symm.trans htoken)
        simpa [Function.update_of_ne ht, hne] using And.intro ihcache ihjudged

end Oracle
end SolanaGuardian
