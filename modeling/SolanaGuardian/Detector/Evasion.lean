import SolanaGuardian.Detector.Batch

/-!
# Disarming the breaker

Two ways to change a batch that triggers the breaker, at one instant, so that it does not.

* `extra_activity`: one more transaction, which does not drain. It disarms exactly if the trigger
  rests on the probing rule and recording the transaction breaks the rule: the rule has an upper
  bound on the senders.
* `split_batch`: one transaction split in two. Drains and probes do not get smaller, so it disarms
  exactly if the trigger rests on the borrow of that transaction, which the loop compares with its
  limit one transaction at a time.
-/

namespace SolanaGuardian
namespace Detector

variable {d : AnomalyDetector} {now : ℚ} {oracleVerdict : Option OracleVerdict}

/-! ## Extra activity -/

/-- A transaction that is no probe leaves the buffer of the batch before it. -/
theorem detectAt_quiet {txs : List SlotTransaction} {x : SlotTransaction} (h : x.isProbe = false) :
    (d.detectAt now (txs ++ [x]) oracleVerdict).1 = (d.detectAt now txs oracleVerdict).1 := by
  have hnone : probesAt now [x] = [] := by simp [probesAt, h]
  simp only [detectAt_eq, probesAt_append, hnone, List.append_nil]

/-- **What one more transaction can do**, if it does not drain: a triggered breaker stays triggered
exactly if there is a loan signal, the transaction is no probe, or the probing rule holds with it. -/
theorem extra_activity (d : AnomalyDetector) (now : ℚ) (txs : List SlotTransaction)
    (x : SlotTransaction) (oracleVerdict : Option OracleVerdict) (hdrain : ¬ 0 < x.drainAmount)
    (htrigger : (d.detectAt now txs oracleVerdict).2.shouldTriggerCircuitBreaker = true) :
    (d.detectAt now (txs ++ [x]) oracleVerdict).2.shouldTriggerCircuitBreaker = true ↔
      (∃ tx ∈ txs ++ [x], tx.signal = true) ∨ x.isProbe = false ∨
        probingRule (d.detectAt now (txs ++ [x]) oracleVerdict).1.probingAttempts = true := by
  obtain ⟨hdrained, hrepaid⟩ := SlotTransaction.evidence_of_not_drain hdrain
  have hsum : evidence (txs ++ [x]) = evidence txs + x.evidence := by simp [evidence]
  rw [detectAt_trigger] at htrigger
  rw [detectAt_trigger, htrigger.iff_corroborated (by simp [hsum, hdrained])
    (by simp [hsum, hrepaid]), ← evidence_signal]
  constructor
  · rintro (hsignal | ⟨-, hrule⟩)
    · exact .inl hsignal
    · exact .inr (.inr hrule)
  · intro h
    by_cases hsignal : (evidence (txs ++ [x])).signal = true
    · exact .inl hsignal
    · -- Without a signal, the trigger of the batch rests on the alert.
      have hbefore : ¬ (evidence txs).signal = true := by
        intro hbatch
        exact hsignal (by simp [hsum, hbatch])
      obtain ⟨hmanipulated, hrule⟩ := htrigger.corroborated.resolve_left hbefore
      refine .inr ⟨hmanipulated, ?_⟩
      rcases h.resolve_left hsignal with hquiet | hrule'
      · rw [detectAt_quiet hquiet]
        exact hrule
      · exact hrule'

/-- Two probes of two senders, at time 0. -/
def twoSenders : List Op :=
  [.recordProbingAttempt 0 "a" 1 true none, .recordProbingAttempt 0 "b" 1 true none]

/-- A probe of one of the two senders does not disarm. -/
theorem extra_activity_sample :
    ((run sampleConfig twoSenders).detectAt 1 ([{ drainAmountUsd := some 5000000 }] ++
      [({ sender := some "a", isProbing := some true } : SlotTransaction)])
      (some { isManipulated := some true })).2.shouldTriggerCircuitBreaker = true :=
  (extra_activity (run sampleConfig twoSenders) 1 [{ drainAmountUsd := some 5000000 }]
    { sender := some "a", isProbing := some true } (some { isManipulated := some true })
    (by decide +kernel) (by decide +kernel)).mpr (.inr (.inr (by decide +kernel)))

/-- A probe of a third sender, which drains nothing, clears the alarm about a drain of 5M next to a
manipulated oracle. -/
theorem third_sender_disarms :
    ¬ 0 < ({ sender := some "c", isProbing := some true } : SlotTransaction).drainAmount ∧
    ((run sampleConfig twoSenders).detectAt 1 [{ drainAmountUsd := some 5000000 }]
      (some { isManipulated := some true })).2.shouldTriggerCircuitBreaker = true ∧
    ((run sampleConfig twoSenders).detectAt 1 ([{ drainAmountUsd := some 5000000 }] ++
      [({ sender := some "c", isProbing := some true } : SlotTransaction)])
      (some { isManipulated := some true })).2.shouldTriggerCircuitBreaker = false := by
  refine ⟨?_, ?_, ?_⟩
  all_goals decide +kernel

/-! ## Splitting -/

/-- More entries of the same senders keep the probing rule. -/
theorem probingRule_mono {ps qs : List ProbingAttempt} (hsub : ps.Sublist qs) (hmem : qs ⊆ ps)
    (h : probingRule ps = true) : probingRule qs = true := by
  rw [probingRule_iff] at h ⊢
  obtain ⟨hlength, hrule⟩ := h
  have hsenders : (qs.map (·.sender)).toFinset.card ≤ (ps.map (·.sender)).toFinset.card := by
    apply Finset.card_le_card
    intro sender hs
    rw [List.mem_toFinset] at hs ⊢
    exact List.map_subset _ hmem hs
  refine ⟨le_trans hlength hsub.length_le, ?_⟩
  rcases hrule with hfew | herrors
  · exact .inl (le_trans hsenders hfew)
  · exact .inr (le_trans herrors hsub.countP_le)

/-- Recording entries more than once keeps the probing rule. -/
theorem recordAll_mono {ps qs : List ProbingAttempt} (hsub : ps.Sublist qs) (hmem : qs ⊆ ps)
    (hstamp : ∀ p ∈ ps, p.timestamp = now)
    (h : probingRule (d.recordAll now ps).probingAttempts = true) :
    probingRule (d.recordAll now qs).probingAttempts = true := by
  have hempty : qs.isEmpty = ps.isEmpty := isEmpty_congr hsub.subset hmem
  rw [recordAll_attempts d now hstamp] at h
  rw [recordAll_attempts d now fun q hq => hstamp q (hmem hq), hempty]
  refine probingRule_mono (List.Sublist.append_left ?_ _) ?_ h
  · split
    · exact .refl _
    · exact hsub
  · refine List.append_subset.mpr ⟨List.subset_append_left _ _, List.subset_append_of_subset_right _ ?_⟩
    split
    · exact List.Subset.refl _
    · exact hmem

/-- `p` and `q` share out the amounts of `tx` and keep all its other fields. -/
structure SplitInto (tx p q : SlotTransaction) : Prop where
  fst : p = { tx with
    borrowAmountUsd := p.borrowAmountUsd
    drainAmountUsd := p.drainAmountUsd
    debtRepaidUsd := p.debtRepaidUsd }
  snd : q = { tx with
    borrowAmountUsd := q.borrowAmountUsd
    drainAmountUsd := q.drainAmountUsd
    debtRepaidUsd := q.debtRepaidUsd }
  borrow : 0 ≤ p.borrowAmount ∧ 0 ≤ q.borrowAmount ∧
    p.borrowAmount + q.borrowAmount = tx.borrowAmount
  drain : 0 ≤ p.drainAmount ∧ 0 ≤ q.drainAmount ∧ p.drainAmount + q.drainAmount = tx.drainAmount
  repaid : 0 ≤ p.repaidAmount ∧ 0 ≤ q.repaidAmount ∧
    p.repaidAmount + q.repaidAmount = tx.repaidAmount

section

variable {tx p q : SlotTransaction}

theorem SplitInto.symm (h : SplitInto tx p q) : SplitInto tx q p where
  fst := h.snd
  snd := h.fst
  borrow := ⟨h.borrow.2.1, h.borrow.1, by rw [add_comm]; exact h.borrow.2.2⟩
  drain := ⟨h.drain.2.1, h.drain.1, by rw [add_comm]; exact h.drain.2.2⟩
  repaid := ⟨h.repaid.2.1, h.repaid.1, by rw [add_comm]; exact h.repaid.2.2⟩

/-- Both parts drain as much as the transaction, and repay no more. -/
theorem SplitInto.amounts (h : SplitInto tx p q) :
    p.evidence.drained + q.evidence.drained = tx.evidence.drained ∧
    p.evidence.repaid + q.evidence.repaid ≤ tx.evidence.repaid := by
  obtain ⟨hp, hq, hdrain⟩ := h.drain
  obtain ⟨hp', hq', hrepaid⟩ := h.repaid
  unfold SlotTransaction.evidence
  constructor
  · split <;> split <;> split <;> dsimp only <;> linarith
  · split <;> split <;> split <;> dsimp only <;> linarith

/-- A part has a loan signal exactly if the transaction is a flash loan or the part's own borrow is
over the limit. -/
theorem SplitInto.signal_iff (h : SplitInto tx p q) :
    p.signal = true ∨ q.signal = true ↔
      tx.flashLoan = true ∨ 5000000 < p.borrowAmount ∨ 5000000 < q.borrowAmount := by
  have hp : p.flashLoan = tx.flashLoan := by rw [h.fst]; rfl
  have hq : q.flashLoan = tx.flashLoan := by rw [h.snd]; rfl
  simp only [SlotTransaction.signal, hp, hq, Bool.or_eq_true, decide_eq_true_eq]
  grind

/-- A part is the same probe as the transaction, or none as well. -/
theorem SplitInto.probes (h : SplitInto tx p q) : probesAt now [p] = probesAt now [tx] := by
  have hprobe : p.isProbe = tx.isProbe := by rw [h.fst]; rfl
  have hentry : p.probe now = tx.probe now := by rw [h.fst]; rfl
  by_cases hp : tx.isProbe = true
  · simp [probesAt, hprobe, hp, hentry]
  · simp [probesAt, hprobe, hp]

/-- The evasion: the borrow of the transaction is the only loan signal of the batch, each part of it
is within the limit, and the batch with the parts raises no alert. -/
structure BorrowEvades (others : List SlotTransaction) (tx p q : SlotTransaction) (alert : Prop) :
    Prop where
  large : 5000000 < tx.borrowAmount
  flashLoan : tx.flashLoan = false
  fst : p.borrowAmount ≤ 5000000
  snd : q.borrowAmount ≤ 5000000
  others : ∀ other ∈ others, other.signal = false
  quiet : ¬ alert

/-- The split batch drains as much and repays no more. -/
theorem SplitInto.evidence (h : SplitInto tx p q) (pre post : List SlotTransaction) :
    (evidence (pre ++ p :: q :: post)).drained = (evidence (pre ++ tx :: post)).drained ∧
    (evidence (pre ++ p :: q :: post)).repaid ≤ (evidence (pre ++ tx :: post)).repaid := by
  obtain ⟨hdrained, hrepaid⟩ := h.amounts
  simp only [evidence_append, evidence_cons, Evidence.drained_add, Evidence.repaid_add]
  constructor <;> linarith

/-- The split batch raises an alert if the batch did: it records the same entries, some twice. -/
theorem SplitInto.probingRule (h : SplitInto tx p q) (d : AnomalyDetector) (now : ℚ)
    (pre post : List SlotTransaction) (oracleVerdict : Option OracleVerdict)
    (hrule : probingRule (d.detectAt now (pre ++ tx :: post) oracleVerdict).1.probingAttempts = true) :
    probingRule (d.detectAt now (pre ++ p :: q :: post) oracleVerdict).1.probingAttempts = true := by
  have hone : probesAt now (pre ++ tx :: post) =
      probesAt now pre ++ (probesAt now [tx] ++ probesAt now post) := by
    rw [probesAt_append, probesAt_cons now tx]
  have htwo : probesAt now (pre ++ p :: q :: post) =
      probesAt now pre ++ (probesAt now [tx] ++ (probesAt now [tx] ++ probesAt now post)) := by
    rw [probesAt_append, probesAt_cons now p, probesAt_cons now q, h.probes, h.symm.probes]
  rw [detectAt_eq] at hrule ⊢
  refine recordAll_mono ?_ ?_ (probesAt_stamp now _) hrule
  · rw [hone, htwo]
    exact ((List.sublist_append_right _ _).append_left _).append_left _
  · rw [hone, htwo]
    intro entry hentry
    simp only [List.mem_append] at hentry ⊢
    grind

/-- The split batch has a signal or an alert, if the batch had a signal or the split batch has an
alert, unless the split evades the borrow limit. -/
theorem SplitInto.not_evades_iff (h : SplitInto tx p q) {pre post : List SlotTransaction}
    {alert : Prop} (hbefore : (Detector.evidence (pre ++ tx :: post)).signal = true ∨ alert) :
    (Detector.evidence (pre ++ p :: q :: post)).signal = true ∨ alert ↔
      ¬ BorrowEvades (pre ++ post) tx p q alert := by
  have hsignal : (Detector.evidence (pre ++ p :: q :: post)).signal = true ↔
      (p.signal = true ∨ q.signal = true) ∨ ∃ other ∈ pre ++ post, other.signal = true := by
    simp only [evidence_signal, List.mem_append, List.mem_cons]
    grind
  rw [hsignal, h.signal_iff]
  constructor
  · rintro (((hflash | hp | hq) | ⟨other, hmem, hother⟩) | halert) hevades
    · rw [hevades.flashLoan] at hflash
      cases hflash
    · exact absurd hevades.fst (not_le.mpr hp)
    · exact absurd hevades.snd (not_le.mpr hq)
    · rw [hevades.others other hmem] at hother
      cases hother
    · exact hevades.quiet halert
  · intro hstays
    by_contra hnone
    obtain ⟨hsilent, hquiet⟩ := not_or.mp hnone
    -- The batch had a signal, and it was that of the transaction.
    have hbatch := hbefore.resolve_right hquiet
    have hover : tx.signal = true := by
      simp only [evidence_signal, List.mem_append, List.mem_cons] at hbatch
      grind
    refine hstays ⟨?_, ?_, ?_, ?_, ?_, hquiet⟩
    all_goals grind [SlotTransaction.signal]

end

/-- **What splitting can do**, from every state and for every split of every transaction: a
triggered breaker stays triggered, but for the evasion of the borrow limit. -/
theorem split_batch (d : AnomalyDetector) (now : ℚ) (pre post : List SlotTransaction)
    (tx p q : SlotTransaction) (oracleVerdict : Option OracleVerdict) (hsplit : SplitInto tx p q)
    (htrigger :
      (d.detectAt now (pre ++ tx :: post) oracleVerdict).2.shouldTriggerCircuitBreaker = true) :
    (d.detectAt now (pre ++ p :: q :: post) oracleVerdict).2.shouldTriggerCircuitBreaker = true ↔
      ¬ BorrowEvades (pre ++ post) tx p q (Manipulated oracleVerdict ∧ probingRule
        (d.detectAt now (pre ++ p :: q :: post) oracleVerdict).1.probingAttempts = true) := by
  obtain ⟨hdrained, hrepaid⟩ := hsplit.evidence pre post
  rw [detectAt_trigger] at htrigger
  rw [detectAt_trigger, htrigger.iff_corroborated hdrained hrepaid]
  refine hsplit.not_evades_iff ?_
  rcases htrigger.corroborated with hsignal | ⟨hmanipulated, hrule⟩
  · exact .inl hsignal
  · exact .inr ⟨hmanipulated, hsplit.probingRule d now pre post oracleVerdict hrule⟩

/-- A flash loan that drains 6M, and half of it. -/
def loanDrain (amount : ℚ) : SlotTransaction :=
  { isFlashLoan := some true, drainAmountUsd := some amount }

theorem loanDrain_split : SplitInto (loanDrain 6000000) (loanDrain 3000000) (loanDrain 3000000) :=
  ⟨rfl, rfl, by decide +kernel, by decide +kernel, by decide +kernel⟩

/-- Halving the drain of a flash loan does not disarm. -/
theorem split_batch_sample :
    ((fresh sampleConfig).detectAt 1 ([] ++ loanDrain 3000000 :: loanDrain 3000000 :: [])
      none).2.shouldTriggerCircuitBreaker = true :=
  (split_batch (fresh sampleConfig) 1 [] [] (loanDrain 6000000) (loanDrain 3000000)
    (loanDrain 3000000) none loanDrain_split (by decide +kernel)).mpr
    fun hevades => absurd hevades.flashLoan (by decide +kernel)

/-- A borrow of 6M next to a drain triggers; two borrows of 3M do not. -/
theorem split_borrow_disarms :
    SplitInto { borrowAmountUsd := some 6000000 } { borrowAmountUsd := some 3000000 }
      { borrowAmountUsd := some 3000000 } ∧
    ((fresh sampleConfig).detectAt 1 [{ drainAmountUsd := some 5000000 },
      { borrowAmountUsd := some 6000000 }] none).2.shouldTriggerCircuitBreaker = true ∧
    ((fresh sampleConfig).detectAt 1 [{ drainAmountUsd := some 5000000 },
      { borrowAmountUsd := some 3000000 }, { borrowAmountUsd := some 3000000 }]
      none).2.shouldTriggerCircuitBreaker = false := by
  refine ⟨⟨rfl, rfl, ?_, ?_, ?_⟩, ?_, ?_⟩
  all_goals decide +kernel

end Detector
end SolanaGuardian
