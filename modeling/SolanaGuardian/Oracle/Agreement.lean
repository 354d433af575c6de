import Mathlib.Algebra.Order.Field.Basic
import Mathlib.Tactic.Linarith
import SolanaGuardian.Oracle.Service

/-!
# The divergence law, twice

Both checks of the service compare the relative distance of the two prices with one limit.
`deviationPct` is that distance. `evaluateDivergence_iff` and `validatePriceFeed_iff` are the two
checks in its terms, and `checks_agree_iff` is the exact set of prices on which they agree: not at
the limit itself, and not at a price of zero, which `evaluate_divergence` takes for a missing one.
-/

namespace SolanaGuardian
namespace Oracle

/-- The distance of the price from the reference, in percent of the reference. -/
def deviationPct (price reference : ℚ) : ℚ := |price - reference| / reference * 100

/-- A price of zero is all of the reference away from it. -/
theorem deviationPct_zero {reference : ℚ} (h : 0 < reference) : deviationPct 0 reference = 100 := by
  rw [deviationPct, zero_sub, abs_neg, abs_of_pos h, div_self h.ne']
  norm_num

variable {service : OracleService} {client : HttpClient} {pythId cexPair : String} {p c : ℚ}

/-- `evaluate_divergence` on two fetched prices. -/
theorem evaluateDivergence_snd (hpyth : service.getPythPrice pythId client = some p)
    (hcex : service.getCexReferencePrice cexPair client = some c) (tokenSymbol : String) :
    (service.evaluateDivergence tokenSymbol pythId cexPair client).2 =
      if p = 0 ∨ c = 0 then OracleService.insufficientData tokenSymbol
      else service.divergenceResult tokenSymbol p c := by
  have hmissing : (OracleService.missing (some p) || OracleService.missing (some c)) = true ↔
      p = 0 ∨ c = 0 := by
    simp [OracleService.missing]
  unfold OracleService.evaluateDivergence
  rw [hpyth, hcex]
  by_cases h : p = 0 ∨ c = 0
  · simp only [hmissing.mpr h, if_pos h, if_true]
  · simp only [mt hmissing.mp h, if_neg h, Bool.false_eq_true, if_false, Option.getD_some]

/-- With a positive reference, it reports a price other than zero that deviates by more than the
limit. -/
theorem evaluateDivergence_iff (hpyth : service.getPythPrice pythId client = some p)
    (hcex : service.getCexReferencePrice cexPair client = some c) (hc : 0 < c)
    (tokenSymbol : String) :
    (service.evaluateDivergence tokenSymbol pythId cexPair client).2.isManipulated = true ↔
      p ≠ 0 ∧ service.maxDivergencePct < deviationPct p c := by
  rw [evaluateDivergence_snd hpyth hcex]
  by_cases hp : p = 0
  · simp [hp, OracleService.insufficientData]
  · simp [hp, hc.ne', OracleService.divergenceResult, deviationPct]

/-- The price that `validate_price_feed` compares with: Pyth's own, without one of the exchange. -/
def referencePrice (pythPrice cexSpotRef : ℚ) : ℚ := if 0 < cexSpotRef then cexSpotRef else pythPrice

/-- How old the feed is. A timestamp of zero counts as a missing one, and a missing one as `now`. -/
def feedAge (now : ℚ) (pythTimestamp : Option ℚ) : ℚ :=
  now - Python.orDefault 0 pythTimestamp now

/-- `validate_price_feed` on a reference other than zero: it returns, and reports a price that
deviates by the limit or more, or that is stale. -/
theorem validatePriceFeed_ok (service : OracleService) (now : ℚ) (token : String) (sb : ℚ)
    (pythTimestamp : Option ℚ) (href : referencePrice p c ≠ 0) :
    ∃ verdict, service.validatePriceFeed now token p sb c pythTimestamp = .ok verdict ∧
      (verdict.isManipulated = true ↔
        service.maxDivergencePct ≤ deviationPct p (referencePrice p c) ∨
          service.stalenessLimit < feedAge now pythTimestamp) := by
  have hdiv : Python.div |p - referencePrice p c| (referencePrice p c) =
      .ok (|p - referencePrice p c| / referencePrice p c) := Python.div_ok href
  unfold referencePrice at hdiv
  unfold OracleService.validatePriceFeed
  simp only [hdiv]
  refine ⟨_, rfl, ?_⟩
  rw [Bool.or_eq_true, decide_eq_true_iff, decide_eq_true_iff]
  rfl

/-- On a reference of zero it raises. -/
theorem validatePriceFeed_error (service : OracleService) (now : ℚ) (token : String) (sb : ℚ)
    (pythTimestamp : Option ℚ) (href : referencePrice p c = 0) :
    service.validatePriceFeed now token p sb c pythTimestamp = .error .zeroDivisionError := by
  have hdiv : Python.div |p - referencePrice p c| (referencePrice p c) =
      .error .zeroDivisionError := by rw [href, Python.div_zero]
  unfold referencePrice at hdiv
  unfold OracleService.validatePriceFeed
  simp only [hdiv]
  rfl

/-- `validate_price_feed` against a positive reference: it returns, and a price that is not stale is
manipulated exactly if it deviates by the limit or more. -/
theorem validatePriceFeed_iff (service : OracleService) (now : ℚ) (token : String) (sb : ℚ)
    (pythTimestamp : Option ℚ) (hc : 0 < c)
    (hfresh : now - Python.orDefault 0 pythTimestamp now ≤ service.stalenessLimit) :
    ∃ verdict, service.validatePriceFeed now token p sb c pythTimestamp = .ok verdict ∧
      (verdict.isManipulated = true ↔ service.maxDivergencePct ≤ deviationPct p c) := by
  have href : referencePrice p c = c := if_pos hc
  have hstale : ¬ service.stalenessLimit < feedAge now pythTimestamp := not_lt.mpr hfresh
  obtain ⟨verdict, hverdict, hreports⟩ :=
    validatePriceFeed_ok (p := p) service now token sb pythTimestamp (href.symm ▸ hc.ne')
  refine ⟨verdict, hverdict, ?_⟩
  rw [hreports, href, or_iff_left hstale]

/-- **When the two checks agree**, for every limit, every fetched price and a feed that is not
stale: a positive price off the limit, or a price of zero under a limit above 100%. -/
theorem checks_agree_iff (service : OracleService) (client : HttpClient)
    (tokenSymbol pythId cexPair token : String) (p c sb now : ℚ) (pythTimestamp : Option ℚ)
    (hpyth : service.getPythPrice pythId client = some p)
    (hcex : service.getCexReferencePrice cexPair client = some c) (hp : 0 ≤ p) (hc : 0 < c)
    (hfresh : now - Python.orDefault 0 pythTimestamp now ≤ service.stalenessLimit) :
    ∃ verdict, service.validatePriceFeed now token p sb c pythTimestamp = .ok verdict ∧
      ((service.evaluateDivergence tokenSymbol pythId cexPair client).2.isManipulated =
          verdict.isManipulated ↔
        0 < p ∧ |p - c| / c * 100 ≠ service.maxDivergencePct ∨
          p = 0 ∧ 100 < service.maxDivergencePct) := by
  obtain ⟨verdict, hverdict, hvalidate⟩ :=
    validatePriceFeed_iff (p := p) service now token sb pythTimestamp hc hfresh
  have hevaluate := evaluateDivergence_iff hpyth hcex hc tokenSymbol
  refine ⟨verdict, hverdict, ?_⟩
  rw [Bool.eq_iff_iff, hevaluate, hvalidate]
  show _ ↔ 0 < p ∧ deviationPct p c ≠ service.maxDivergencePct ∨ _
  by_cases hzero : p = 0
  · have hdev : deviationPct p c = 100 := by rw [hzero, deviationPct_zero hc]
    rw [hdev]
    grind
  · have hpos : 0 < p := lt_of_le_of_ne hp (Ne.symm hzero)
    grind

/-- The service of the settings. -/
def sampleService : OracleService := OracleService.init {} none none none none

/-- A client that answers every request with the two prices. -/
def sampleClient (p c : ℚ) : HttpClient where
  pyth := fun _ => some { statusCode := 200, json := some { price := p, expo := 0 } }
  binance := fun _ => some { statusCode := 200, json := some c }

theorem sampleClient_prices (p c : ℚ) (id : String) :
    sampleService.getPythPrice id (sampleClient p c) = some p ∧
    sampleService.getCexReferencePrice id (sampleClient p c) = some c := by
  constructor
  · simp [OracleService.getPythPrice, sampleClient]
  · simp [OracleService.getCexReferencePrice, sampleClient]

/-- 125 against 140: manipulated on both paths. -/
theorem checks_agree_sample :
    ∃ verdict, sampleService.validatePriceFeed 1000 "SOL" 125 126 140 none = .ok verdict ∧
      (sampleService.evaluateDivergence "SOL" "id" "SOLUSDT" (sampleClient 125 140)).2.isManipulated =
        verdict.isManipulated := by
  obtain ⟨verdict, hverdict, hagree⟩ := checks_agree_iff sampleService (sampleClient 125 140) "SOL" "id"
    "SOLUSDT" "SOL" 125 140 126 1000 none (sampleClient_prices 125 140 "id").1
    (sampleClient_prices 125 140 "SOLUSDT").2 (by norm_num) (by norm_num) (by decide +kernel)
  exact ⟨verdict, hverdict, hagree.mpr (.inl (by decide +kernel))⟩

/-- A service with a limit of 1.5%. -/
def limitService : OracleService := OracleService.init {} none none (some (3 / 2)) none

/-- At a limit of 1.5%, and at a price of zero, only one of the two reports manipulation. -/
theorem checks_disagree :
    ((limitService.evaluateDivergence "SOL" "id" "SOLUSDT"
        (sampleClient (203 / 2) 100)).2.isManipulated = false ∧
      (limitService.validatePriceFeed 1000 "SOL" (203 / 2) 100 100 none).map (·.isManipulated) =
        .ok true) ∧
    ((sampleService.evaluateDivergence "SOL" "id" "SOLUSDT" (sampleClient 0 100)).2.isManipulated =
        false ∧
      (sampleService.validatePriceFeed 1000 "SOL" 0 100 100 none).map (·.isManipulated) =
        .ok true) := by
  refine ⟨⟨?_, ?_⟩, ?_, ?_⟩
  all_goals decide +kernel

end Oracle
end SolanaGuardian
