import SolanaGuardian.Detector.Probes
import SolanaGuardian.Detector.Trigger

/-!
# Batches at one instant

`detect_compound_exploit` within one tick of the clock. The transactions of a batch then leave in
the probing buffer what one recording of all their probes would leave (`observeAll_instant`), so
what a batch does is the evidence of its transactions, which adds up, and the list of its probes.

* `detectAt_trigger`: the trigger, from the evidence and the buffer.
* `order_independent`: a permutation of the batch changes nothing but the targeted asset and the
  order of the entries that the batch recorded.
-/

namespace SolanaGuardian
namespace Detector

/-- A batch that is read at one instant. -/
def atInstant (now : ℚ) (txs : List SlotTransaction) : List (ℚ × SlotTransaction) :=
  txs.map fun tx => (now, tx)

@[simp] theorem atInstant_map_snd (now : ℚ) (txs : List SlotTransaction) :
    (atInstant now txs).map (·.2) = txs := by
  rw [atInstant, List.map_map]
  exact List.map_id txs

/-- The probes of the transactions. -/
def probesAt (now : ℚ) (txs : List SlotTransaction) : List ProbingAttempt :=
  (txs.filter (·.isProbe)).map (·.probe now)

theorem probesAt_append (now : ℚ) (txs txs' : List SlotTransaction) :
    probesAt now (txs ++ txs') = probesAt now txs ++ probesAt now txs' := by simp [probesAt]

theorem probesAt_cons (now : ℚ) (tx : SlotTransaction) (txs : List SlotTransaction) :
    probesAt now (tx :: txs) = probesAt now [tx] ++ probesAt now txs := probesAt_append now [tx] txs

theorem probesAt_stamp (now : ℚ) (txs : List SlotTransaction) :
    ∀ p ∈ probesAt now txs, p.timestamp = now := by
  intro p hp
  obtain ⟨tx, -, rfl⟩ := List.mem_map.mp hp
  rfl

/-- Appends entries to the probing buffer and prunes once; without entries, nothing happens. -/
def AnomalyDetector.recordAll (d : AnomalyDetector) (now : ℚ) (ps : List ProbingAttempt) :
    AnomalyDetector :=
  if ps.isEmpty then d
  else { d with probingAttempts := d.probingAttempts ++ ps }.pruneExpired now

section

variable (d : AnomalyDetector) (now : ℚ)

theorem recordAll_append (ps qs : List ProbingAttempt) :
    (d.recordAll now ps).recordAll now qs = d.recordAll now (ps ++ qs) := by
  by_cases hp : ps = []
  · simp [AnomalyDetector.recordAll, hp]
  by_cases hq : qs = []
  · simp [AnomalyDetector.recordAll, hq]
  have hout : Window.prune OutflowEvent.timestamp (now - d.windowSeconds)
      (Window.prune OutflowEvent.timestamp (now - d.windowSeconds) d.outflowEvents ++ []) =
      Window.prune OutflowEvent.timestamp (now - d.windowSeconds) (d.outflowEvents ++ []) :=
    Window.prune_prune_append _ _
  have hprobe : Window.prune ProbingAttempt.timestamp (now - d.windowSeconds)
      (Window.prune ProbingAttempt.timestamp (now - d.windowSeconds)
        (d.probingAttempts ++ ps) ++ qs) =
      Window.prune ProbingAttempt.timestamp (now - d.windowSeconds)
        (d.probingAttempts ++ ps ++ qs) :=
    Window.prune_prune_append _ _
  simp only [List.append_nil, List.append_assoc] at hout hprobe
  simp [AnomalyDetector.recordAll, AnomalyDetector.pruneExpired, hp, hq, hout, hprobe]

/-- A batch at one instant records its probes at once. -/
theorem observeAll_instant (txs : List SlotTransaction) :
    (atInstant now txs).foldl (fun d tx => d.observe tx.1 tx.2) d =
      d.recordAll now (probesAt now txs) := by
  induction txs generalizing d with
  | nil => rfl
  | cons tx txs ih =>
    have hfirst : d.observe now tx = d.recordAll now (probesAt now [tx]) := by
      by_cases h : tx.isProbe = true
      · have hprobes : probesAt now [tx] = [tx.probe now] := by simp [probesAt, h]
        rw [AnomalyDetector.observe, if_pos h, hprobes]
        rfl
      · have hprobes : probesAt now [tx] = [] := by simp [probesAt, h]
        rw [observe_quiet (by simpa using h), hprobes]
        rfl
    show (atInstant now txs).foldl _ (d.observe now tx) = _
    rw [ih, hfirst, recordAll_append, ← probesAt_append]
    rfl

/-- What a recording leaves: what survives of the buffer, then all new entries or none of them.
A negative window expires them at once. -/
theorem recordAll_attempts {ps : List ProbingAttempt} (h : ∀ p ∈ ps, p.timestamp = now) :
    (d.recordAll now ps).probingAttempts =
      (if ps.isEmpty then d.probingAttempts
        else Window.prune ProbingAttempt.timestamp (now - d.windowSeconds) d.probingAttempts) ++
      (if (Window.prune ProbingAttempt.timestamp (now - d.windowSeconds) d.probingAttempts).isEmpty &&
          decide (d.windowSeconds < 0) then [] else ps) := by
  by_cases hp : ps = []
  · simp [AnomalyDetector.recordAll, hp]
  · have hall : (d.recordAll now ps).probingAttempts =
        Window.prune ProbingAttempt.timestamp (now - d.windowSeconds) (d.probingAttempts ++ ps) := by
      simp [AnomalyDetector.recordAll, AnomalyDetector.pruneExpired, hp]
    rw [hall, Window.prune_append_stamped h]
    simp [hp, expired_at_once]

end

/-- `detect_compound_exploit` at one instant. -/
def AnomalyDetector.detectAt (d : AnomalyDetector) (now : ℚ) (txs : List SlotTransaction)
    (oracleVerdict : Option OracleVerdict) : AnomalyDetector × CompoundVerdict :=
  d.detectCompoundExploit (atInstant now txs) oracleVerdict

theorem detectAt_eq (d : AnomalyDetector) (now : ℚ) (txs : List SlotTransaction)
    (oracleVerdict : Option OracleVerdict) :
    d.detectAt now txs oracleVerdict =
      (d.recordAll now (probesAt now txs),
        compoundVerdict d.epsilonInvariant (scan txs)
          (d.recordAll now (probesAt now txs)).probingAttempts oracleVerdict) := by
  apply Prod.ext
  · show (AnomalyDetector.detectCompoundExploit _ _ _).1 = _
    rw [detectCompoundExploit_fst, observeAll_instant]
  · show (AnomalyDetector.detectCompoundExploit _ _ _).2 = _
    rw [detectCompoundExploit_snd, atInstant_map_snd, attemptsAfter, observeAll_instant]

/-- The trigger at one instant. -/
theorem detectAt_trigger (d : AnomalyDetector) (now : ℚ) (txs : List SlotTransaction)
    (oracleVerdict : Option OracleVerdict) :
    (d.detectAt now txs oracleVerdict).2.shouldTriggerCircuitBreaker = true ↔
      (evidence txs).Arms d.epsilonInvariant (Manipulated oracleVerdict ∧
        probingRule (d.detectAt now txs oracleVerdict).1.probingAttempts = true) := by
  rw [detectAt_eq]
  exact shouldTrigger_iff _ _ _ _

/-! ## Order -/

/-- The loop's variables but for the target, from the evidence. -/
theorem scan_eq_of_evidence {txs txs' : List SlotTransaction} (h : evidence txs = evidence txs') :
    scan txs = { scan txs' with targetedAsset := (scan txs).targetedAsset } := by
  obtain ⟨hflash, hdrain, hdrained, hrepaid⟩ := scan_sums txs
  obtain ⟨hflash', hdrain', hdrained', hrepaid'⟩ := scan_sums txs'
  have hsame : (scan txs).hasDrain = (scan txs').hasDrain := by
    rw [Bool.eq_iff_iff, hdrain, hdrain', h]
  rw [h] at hflash hdrained hrepaid
  rw [← hflash'] at hflash
  rw [← hdrained'] at hdrained
  rw [← hrepaid'] at hrepaid
  dsimp only
  rw [← hflash, ← hsame, ← hdrained, ← hrepaid]

/-- The probing rule does not read the order of the buffer. -/
theorem probingRule_perm {ps qs : List ProbingAttempt} (h : ps.Perm qs) :
    probingRule ps = probingRule qs := by
  have hsenders : ((ps.map (·.sender)).dedup).length = ((qs.map (·.sender)).dedup).length :=
    (h.map _).dedup.length_eq
  unfold probingRule
  simp only [h.length_eq, hsenders, h.countP_eq]

theorem isEmpty_congr {ps qs : List ProbingAttempt} (h : ps ⊆ qs) (h' : qs ⊆ ps) :
    qs.isEmpty = ps.isEmpty := by
  rw [Bool.eq_iff_iff, List.isEmpty_iff, List.isEmpty_iff]
  constructor
  · rintro rfl
    exact List.subset_nil.mp h
  · rintro rfl
    exact List.subset_nil.mp h'

/-- Recording the same entries in another order: what survives of the buffer is the same, and the
new entries stay together, so they are all kept or all expired. -/
theorem recordAll_perm (d : AnomalyDetector) (now : ℚ) {ps qs : List ProbingAttempt} (h : ps.Perm qs)
    (hstamp : ∀ p ∈ ps, p.timestamp = now) :
    ∃ kept recorded recorded', (d.recordAll now ps).probingAttempts = kept ++ recorded ∧
      (d.recordAll now qs).probingAttempts = kept ++ recorded' ∧ recorded.Perm recorded' ∧
      kept.Sublist d.probingAttempts ∧ recorded.Sublist ps := by
  have hempty : qs.isEmpty = ps.isEmpty := isEmpty_congr h.subset h.symm.subset
  have hps := recordAll_attempts d now hstamp
  have hqs := recordAll_attempts d now fun q hq => hstamp q (h.mem_iff.mpr hq)
  rw [hempty] at hqs
  refine ⟨_, _, _, hps, hqs, ?_, ?_, ?_⟩
  · split
    · exact .refl _
    · exact h
  · split
    · exact .refl _
    · exact List.dropWhile_sublist _
  · split
    · exact List.nil_sublist _
    · exact .refl _

/-- **The order of a batch does not matter.** From any state and at one instant, a permuted batch
gets the same verdict but for the targeted asset, and leaves the same buffer but for the order of
the entries that it recorded. -/
theorem order_independent (d : AnomalyDetector) (now : ℚ) (txs txs' : List SlotTransaction)
    (oracleVerdict : Option OracleVerdict) (h : txs.Perm txs') :
    let after := d.detectAt now txs oracleVerdict
    let after' := d.detectAt now txs' oracleVerdict
    after.2 = { after'.2 with targetedAsset := after.2.targetedAsset } ∧
    ∃ kept recorded recorded', after.1.probingAttempts = kept ++ recorded ∧
      after'.1.probingAttempts = kept ++ recorded' ∧ recorded.Perm recorded' ∧
      kept.Sublist d.probingAttempts ∧ recorded.Sublist (probesAt now txs) := by
  have hprobes : (probesAt now txs).Perm (probesAt now txs') := (h.filter _).map _
  obtain ⟨kept, recorded, recorded', hbuffer, hbuffer', hperm, hkept, hrecorded⟩ :=
    recordAll_perm d now hprobes (probesAt_stamp now txs)
  dsimp only
  rw [detectAt_eq, detectAt_eq]
  refine ⟨?_, kept, recorded, recorded', hbuffer, hbuffer', hperm, hkept, hrecorded⟩
  have hrule : probingRule (d.recordAll now (probesAt now txs)).probingAttempts =
      probingRule (d.recordAll now (probesAt now txs')).probingAttempts := by
    rw [hbuffer, hbuffer']
    exact probingRule_perm (hperm.append_left kept)
  rw [compoundVerdict_congr hrule, scan_eq_of_evidence (evidence_perm h)]
  rfl

/-- A flash loan, a drain and a probe. -/
def sampleBatch : List SlotTransaction :=
  [{ isFlashLoan := some true }, { drainAmountUsd := some 5000000, asset := some "USDC" },
    { sender := some "a", isProbing := some true }]

/-- The batch and its reverse, next to an earlier probe. -/
theorem order_independent_sample :
    ((run sampleConfig sampleProbes).detectAt 1 sampleBatch none).2 =
      ((run sampleConfig sampleProbes).detectAt 1 sampleBatch.reverse none).2 := by
  have h := (order_independent (run sampleConfig sampleProbes) 1 sampleBatch sampleBatch.reverse none
    (List.reverse_perm sampleBatch).symm).1
  have htarget : ((run sampleConfig sampleProbes).detectAt 1 sampleBatch none).2.targetedAsset =
      ((run sampleConfig sampleProbes).detectAt 1 sampleBatch.reverse none).2.targetedAsset := by
    decide +kernel
  rw [htarget] at h
  exact h

end Detector
end SolanaGuardian
