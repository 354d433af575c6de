import SolanaGuardian.Oracle.Agreement

/-!
# An older feed

`validate_price_feed` has two fallbacks, and each takes a number for a missing value. Without a
price of the exchange it compares Pyth's price with itself, which divides by zero when that price is
zero too (`referencePrice_eq_zero`). A timestamp of zero is read as `now`, so the oldest feed of all
is fresh (`feedAge_zero`).

`older_feed_iff` is the exact set of inputs on which neither shows: the check returns, and a feed
that it reports at one timestamp is also reported at an older one.
-/

namespace SolanaGuardian
namespace Oracle

variable {p c now ts₁ ts₂ : ℚ}

/-! ## The reference -/

/-- The reference is zero only if both prices are. -/
theorem referencePrice_eq_zero (hp : 0 ≤ p) :
    referencePrice p c = 0 ↔ ¬ (0 < c ∨ 0 < p) := by
  unfold referencePrice
  by_cases h : 0 < c
  · simp [h, h.ne']
  · rw [if_neg h, or_iff_right h, not_lt]
    exact ⟨le_of_eq, fun hle => le_antisymm hle hp⟩

theorem referencePrice_nonneg (hp : 0 ≤ p) : 0 ≤ referencePrice p c := by
  unfold referencePrice
  split
  · rename_i h
    exact h.le
  · exact hp

theorem deviationPct_lt {price reference limit : ℚ} (h : 0 < reference) :
    deviationPct price reference < limit ↔ 100 * |price - reference| < limit * reference := by
  rw [deviationPct, div_mul_eq_mul_div, div_lt_iff₀ h, mul_comm 100]

/-! ## The age -/

theorem feedAge_zero (now : ℚ) : feedAge now (some 0) = 0 := sub_self now

theorem feedAge_of_ne {ts : ℚ} (h : ts ≠ 0) : feedAge now (some ts) = now - ts := by
  simp [feedAge, Python.orDefault, h]

/-- An older timestamp gives a feed that is no younger, unless the older one is zero. -/
theorem feedAge_le (hle : ts₁ ≤ ts₂) (hnow : ts₂ ≤ now) (hne : ts₁ ≠ 0) :
    feedAge now (some ts₂) ≤ feedAge now (some ts₁) := by
  rw [feedAge_of_ne hne]
  by_cases h : ts₂ = 0
  · rw [h, feedAge_zero]
    linarith
  · rw [feedAge_of_ne h]
    linarith

/-! ## Ageing -/

/-- The prices agree, the feed is stale at the later timestamp, and the earlier one is zero, at which
no feed is stale. -/
structure ClearedAtZero (service : OracleService) (price reference now ts₁ ts₂ : ℚ) : Prop where
  zero : ts₁ = 0
  later : 0 < ts₂
  agree : 100 * |price - reference| < service.maxDivergencePct * reference
  fresh : 0 ≤ service.stalenessLimit
  stale : service.stalenessLimit < now - ts₂

/-- Where an older timestamp clears a report. -/
theorem clearedAtZero_iff {service : OracleService} (href : 0 < referencePrice p c)
    (hle : ts₁ ≤ ts₂) (hnow : ts₂ ≤ now) :
    ClearedAtZero service p (referencePrice p c) now ts₁ ts₂ ↔
      (service.maxDivergencePct ≤ deviationPct p (referencePrice p c) ∨
        service.stalenessLimit < feedAge now (some ts₂)) ∧
      ¬ (service.maxDivergencePct ≤ deviationPct p (referencePrice p c) ∨
        service.stalenessLimit < feedAge now (some ts₁)) := by
  constructor
  · rintro ⟨rfl, hlater, hagree, hfresh, hstale⟩
    have hdev := (deviationPct_lt href).mpr hagree
    rw [feedAge_zero, feedAge_of_ne hlater.ne']
    refine ⟨.inr hstale, not_or.mpr ⟨not_le.mpr hdev, not_lt.mpr ?_⟩⟩
    exact Int.cast_nonneg hfresh
  · rintro ⟨hreport, hclear⟩
    obtain ⟨hdev, hage⟩ := not_or.mp hclear
    have hstale := hreport.resolve_left hdev
    have hzero : ts₁ = 0 := by
      by_contra hne
      exact hage (hstale.trans_le (feedAge_le hle hnow hne))
    rw [hzero, feedAge_zero, not_lt] at hage
    have hlater : ts₂ ≠ 0 := by
      intro h
      rw [h, feedAge_zero] at hstale
      exact absurd hstale (not_lt.mpr hage)
    rw [feedAge_of_ne hlater] at hstale
    exact {
      zero := hzero
      later := lt_of_le_of_ne (hzero ▸ hle) hlater.symm
      agree := (deviationPct_lt href).mp (not_le.mp hdev)
      fresh := Int.cast_nonneg_iff.mp hage
      stale := hstale }

/-- **When an older feed is no better**, for every service, clock and two timestamps up to it, every
price of Pyth that is not negative and every price of the exchange: the check returns at every
timestamp and a report at the later one is also made at the earlier one, exactly if some price is
positive and the earlier timestamp is not a zero that hides a stale feed. -/
theorem older_feed_iff (service : OracleService) (token : String) (p sb c now ts₁ ts₂ : ℚ)
    (hp : 0 ≤ p) (hle : ts₁ ≤ ts₂) (hnow : ts₂ ≤ now) :
    ((∀ ts, ∃ verdict, service.validatePriceFeed now token p sb c (some ts) = .ok verdict) ∧
      ∀ verdict₁ verdict₂,
        service.validatePriceFeed now token p sb c (some ts₁) = .ok verdict₁ →
        service.validatePriceFeed now token p sb c (some ts₂) = .ok verdict₂ →
        verdict₂.isManipulated = true → verdict₁.isManipulated = true) ↔
      (0 < c ∨ 0 < p) ∧ ¬ ClearedAtZero service p (referencePrice p c) now ts₁ ts₂ := by
  by_cases href : referencePrice p c = 0
  · have hnone := (referencePrice_eq_zero hp).mp href
    refine ⟨fun h => ?_, fun h => absurd h.1 hnone⟩
    obtain ⟨verdict, hok⟩ := h.1 now
    rw [validatePriceFeed_error service now token sb _ href] at hok
    cases hok
  · have hprice : 0 < c ∨ 0 < p := not_not.mp (mt (referencePrice_eq_zero hp).mpr href)
    have hpos := lt_of_le_of_ne (referencePrice_nonneg hp) (Ne.symm href)
    have hreturns (ts : Option ℚ) := validatePriceFeed_ok service now token sb ts href
    obtain ⟨v₁, hok₁, hreports₁⟩ := hreturns (some ts₁)
    obtain ⟨v₂, hok₂, hreports₂⟩ := hreturns (some ts₂)
    rw [clearedAtZero_iff hpos hle hnow, ← hreports₁, ← hreports₂]
    constructor
    · rintro ⟨-, hages⟩
      exact ⟨hprice, fun h => h.2 (hages v₁ v₂ hok₁ hok₂ h.1)⟩
    · rintro ⟨-, hcleared⟩
      refine ⟨fun ts => ?_, fun verdict₁ verdict₂ h₁ h₂ hreport => ?_⟩
      · obtain ⟨verdict, hok, -⟩ := hreturns (some ts)
        exact ⟨verdict, hok⟩
      · rw [hok₁, Except.ok.injEq] at h₁
        rw [hok₂, Except.ok.injEq] at h₂
        subst h₁ h₂
        by_contra hclear
        exact hcleared ⟨hreport, hclear⟩

/-- A feed of 980 seconds is stale, so one of 990 is too. -/
theorem older_feed_sample :
    ∃ verdict, sampleService.validatePriceFeed 1000 "SOL" 100 100 100 (some 10) = .ok verdict ∧
      verdict.isManipulated = true := by
  obtain ⟨hreturns, hages⟩ := (older_feed_iff sampleService "SOL" 100 100 100 1000 10 20
    (by norm_num) (by norm_num) (by norm_num)).mpr
    ⟨.inl (by norm_num), fun h => absurd h.zero (by norm_num)⟩
  obtain ⟨verdict₁, h₁⟩ := hreturns 10
  obtain ⟨verdict₂, h₂⟩ := hreturns 20
  have hstale : (sampleService.validatePriceFeed 1000 "SOL" 100 100 100 (some 20)).map
      (·.isManipulated) = .ok true := by decide +kernel
  rw [h₂] at hstale
  exact ⟨verdict₁, h₁, hages verdict₁ verdict₂ h₁ h₂ (Except.ok.inj hstale)⟩

/-- No price raises; and at the timestamp 1 the feed is reported, but not at the timestamp 0. -/
theorem older_feed_cleared :
    sampleService.validatePriceFeed 1000 "SOL" 0 0 0 (some 990) = .error .zeroDivisionError ∧
    (sampleService.validatePriceFeed 1000 "SOL" 100 100 100 (some 1)).map (·.isManipulated) =
      .ok true ∧
    (sampleService.validatePriceFeed 1000 "SOL" 100 100 100 (some 0)).map (·.isManipulated) =
      .ok false := by
  refine ⟨?_, ?_, ?_⟩
  all_goals decide +kernel

end Oracle
end SolanaGuardian
