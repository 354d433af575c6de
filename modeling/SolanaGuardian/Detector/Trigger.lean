import Mathlib.Algebra.Order.BigOperators.Group.List
import Mathlib.Algebra.Order.Field.Basic
import Mathlib.Algebra.Order.Ring.Rat
import Mathlib.Data.Finset.Card
import SolanaGuardian.Detector.Buffers

/-!
# What triggers the circuit breaker

The loop of `detect_compound_exploit` adds up a batch, and the score adds weights. The abstract side
has neither a loop nor weights.

* `Evidence`: what a batch amounts to. Batches add up (`evidence_append`), and their order does not
  matter (`evidence_perm`).
* `Evidence.Arms`: the rule that the weights implement: a large drain that is not repaid, next to a
  loan signal or to an alert (a manipulated oracle and probing at once).
* `scan_sums`: the loop computes the evidence. `shouldTrigger_iff`: the score and its threshold
  are the rule.
-/

namespace SolanaGuardian
namespace Detector

/-! ## Evidence -/

/-- What a batch amounts to. Only amounts of transactions that drain are counted. -/
@[ext] structure Evidence where
  signal : Bool
  drained : ℚ
  repaid : ℚ
  drained_nonneg : 0 ≤ drained

namespace Evidence

instance : Zero Evidence := ⟨⟨false, 0, 0, le_refl 0⟩⟩

instance : Add Evidence :=
  ⟨fun a b => ⟨a.signal || b.signal, a.drained + b.drained, a.repaid + b.repaid,
    add_nonneg a.drained_nonneg b.drained_nonneg⟩⟩

@[simp] theorem signal_zero : (0 : Evidence).signal = false := rfl
@[simp] theorem drained_zero : (0 : Evidence).drained = 0 := rfl
@[simp] theorem repaid_zero : (0 : Evidence).repaid = 0 := rfl
@[simp] theorem signal_add (a b : Evidence) : (a + b).signal = (a.signal || b.signal) := rfl
@[simp] theorem drained_add (a b : Evidence) : (a + b).drained = a.drained + b.drained := rfl
@[simp] theorem repaid_add (a b : Evidence) : (a + b).repaid = a.repaid + b.repaid := rfl

instance : AddCommMonoid Evidence where
  add_assoc a b c := by ext1 <;> simp [Bool.or_assoc, add_assoc]
  zero_add a := by ext1 <;> simp
  add_zero a := by ext1 <;> simp
  add_comm a b := by ext1 <;> simp [Bool.or_comm, add_comm]
  nsmul := nsmulRec

/-- The rule. `alert` is what else may speak for an exploit. -/
structure Arms (e : Evidence) (epsilon : ℚ) (alert : Prop) : Prop where
  large : 3000000 < e.drained
  unrepaid : e.repaid / e.drained < epsilon
  corroborated : e.signal = true ∨ alert

/-- What drains as much and repays no more is armed by its own signal or alert alone. -/
theorem Arms.iff_corroborated {e e' : Evidence} {epsilon : ℚ} {alert alert' : Prop}
    (h : e.Arms epsilon alert) (hdrained : e'.drained = e.drained) (hrepaid : e'.repaid ≤ e.repaid) :
    e'.Arms epsilon alert' ↔ e'.signal = true ∨ alert' := by
  constructor
  · intro harms
    exact harms.corroborated
  · intro hcorroborated
    have hratio : e'.repaid / e'.drained ≤ e.repaid / e.drained := by
      rw [hdrained]
      exact div_le_div_of_nonneg_right hrepaid e.drained_nonneg
    refine ⟨?_, lt_of_le_of_lt hratio h.unrepaid, hcorroborated⟩
    rw [hdrained]
    exact h.large

end Evidence

def SlotTransaction.borrowAmount (tx : SlotTransaction) : ℚ := tx.borrowAmountUsd.getD 0

/-- A flash loan, or a borrow over the limit. -/
def SlotTransaction.signal (tx : SlotTransaction) : Bool :=
  tx.flashLoan || decide (5000000 < tx.borrowAmount)

/-- The evidence of one transaction. -/
def SlotTransaction.evidence (tx : SlotTransaction) : Evidence :=
  if h : 0 < tx.drainAmount then ⟨tx.signal, tx.drainAmount, tx.repaidAmount, h.le⟩
  else ⟨tx.signal, 0, 0, le_refl 0⟩

/-- The evidence of a batch. -/
def evidence (txs : List SlotTransaction) : Evidence := (txs.map (·.evidence)).sum

@[simp] theorem evidence_cons (tx : SlotTransaction) (txs : List SlotTransaction) :
    evidence (tx :: txs) = tx.evidence + evidence txs := by simp [evidence]

@[simp] theorem evidence_append (txs txs' : List SlotTransaction) :
    evidence (txs ++ txs') = evidence txs + evidence txs' := by simp [evidence]

theorem evidence_perm {txs txs' : List SlotTransaction} (h : txs.Perm txs') :
    evidence txs = evidence txs' := (h.map _).sum_eq

@[simp] theorem SlotTransaction.evidence_signal (tx : SlotTransaction) :
    tx.evidence.signal = tx.signal := by
  unfold SlotTransaction.evidence
  split <;> rfl

theorem SlotTransaction.evidence_of_drain {tx : SlotTransaction} (h : 0 < tx.drainAmount) :
    tx.evidence.drained = tx.drainAmount ∧ tx.evidence.repaid = tx.repaidAmount := by
  unfold SlotTransaction.evidence
  rw [dif_pos h]
  exact ⟨rfl, rfl⟩

theorem SlotTransaction.evidence_of_not_drain {tx : SlotTransaction} (h : ¬ 0 < tx.drainAmount) :
    tx.evidence.drained = 0 ∧ tx.evidence.repaid = 0 := by
  unfold SlotTransaction.evidence
  rw [dif_neg h]
  exact ⟨rfl, rfl⟩

/-- A batch has a loan signal if one of its transactions has. -/
theorem evidence_signal (txs : List SlotTransaction) :
    (evidence txs).signal = true ↔ ∃ tx ∈ txs, tx.signal = true := by
  induction txs with
  | nil => simp [evidence]
  | cons tx txs ih => simp [ih]

/-- The transactions that drain. -/
def draining (txs : List SlotTransaction) : List SlotTransaction :=
  txs.filter (0 < ·.drainAmount)

/-- The evidence counts the amounts of the transactions that drain. -/
theorem evidence_amounts (txs : List SlotTransaction) :
    (evidence txs).drained = ((draining txs).map (·.drainAmount)).sum ∧
    (evidence txs).repaid = ((draining txs).map (·.repaidAmount)).sum := by
  induction txs with
  | nil => exact ⟨rfl, rfl⟩
  | cons tx txs ih =>
    unfold draining at ih ⊢
    by_cases h : 0 < tx.drainAmount
    · simp [SlotTransaction.evidence_of_drain h, h, ih]
    · simp [SlotTransaction.evidence_of_not_drain h, h, ih]

/-! ## The loop computes the evidence -/

/-- The loop's variables hold the evidence of what it has read. -/
structure Scan.Sums (scan : Scan) (e : Evidence) : Prop where
  hasFlashLoan : scan.hasFlashLoan = e.signal
  hasDrain : scan.hasDrain = true ↔ 0 < e.drained
  totalDrained : scan.totalDrained = e.drained
  totalRepaid : scan.totalRepaid = e.repaid

/-- **Step.** One transaction adds its evidence. -/
theorem Scan.Sums.step {scan : Scan} {e : Evidence} (h : scan.Sums e) (tx : SlotTransaction) :
    (scan.step tx).Sums (e + tx.evidence) := by
  have hsignal : (scan.hasFlashLoan || tx.flashLoan || decide (5000000 < tx.borrowAmountUsd.getD 0)) =
      (e + tx.evidence).signal := by
    rw [Evidence.signal_add, tx.evidence_signal, ← h.hasFlashLoan, Bool.or_assoc]
    rfl
  unfold Scan.step SlotTransaction.evidence
  unfold SlotTransaction.evidence at hsignal
  by_cases hdrain : 0 < tx.drainAmount
  · have hpos : 0 < e.drained + tx.drainAmount := add_pos_of_nonneg_of_pos e.drained_nonneg hdrain
    simp only [hdrain, if_true, dif_pos] at hsignal ⊢
    exact ⟨hsignal, by simpa using hpos, by simp [h.totalDrained], by simp [h.totalRepaid]⟩
  · simp only [hdrain, if_false, dite_false] at hsignal ⊢
    exact ⟨hsignal, by simpa using h.hasDrain, by simp [h.totalDrained], by simp [h.totalRepaid]⟩

/-- **Run.** The loop over a batch adds the evidence of the batch. -/
theorem Scan.Sums.foldl {scan : Scan} {e : Evidence} (h : scan.Sums e) (txs : List SlotTransaction) :
    (txs.foldl Scan.step scan).Sums (e + Detector.evidence txs) := by
  induction txs generalizing scan e with
  | nil => simpa [Detector.evidence] using h
  | cons tx txs ih =>
    rw [List.foldl_cons, evidence_cons, ← add_assoc]
    exact ih (h.step tx)

/-- The loop's variables after a batch. -/
def scan (txs : List SlotTransaction) : Scan := txs.foldl Scan.step {}

theorem scan_sums (txs : List SlotTransaction) : (scan txs).Sums (evidence txs) := by
  have h : Scan.Sums {} 0 := ⟨rfl, by simp, rfl, rfl⟩
  simpa [scan] using h.foldl txs

/-- The probing buffer after a batch. -/
def attemptsAfter (d : AnomalyDetector) (txs : List (ℚ × SlotTransaction)) : List ProbingAttempt :=
  (txs.foldl (fun d tx => d.observe tx.1 tx.2) d).probingAttempts

/-- The state that a batch leaves. -/
theorem detectCompoundExploit_fst (d : AnomalyDetector) (txs : List (ℚ × SlotTransaction))
    (oracleVerdict : Option OracleVerdict) :
    (d.detectCompoundExploit txs oracleVerdict).1 =
      txs.foldl (fun d tx => d.observe tx.1 tx.2) d := by
  simp only [AnomalyDetector.detectCompoundExploit, foldl_step]

/-- The verdict in terms of what the loop leaves. -/
theorem detectCompoundExploit_snd (d : AnomalyDetector) (txs : List (ℚ × SlotTransaction))
    (oracleVerdict : Option OracleVerdict) :
    (d.detectCompoundExploit txs oracleVerdict).2 =
      compoundVerdict d.epsilonInvariant (scan (txs.map (·.2))) (attemptsAfter d txs)
        oracleVerdict := by
  rw [scan, List.foldl_map]
  simp only [AnomalyDetector.detectCompoundExploit, foldl_step, attemptsAfter]

/-! ## The score implements the rule -/

/-- The score reaches the trigger exactly on a severe drain with one of the two companions. -/
theorem threatScore_ge (scan : Scan) (oracleCompromised probingDetected : Bool) :
    75 / 100 ≤ threatScore scan true oracleCompromised probingDetected ↔
      (scan.hasDrain = true ∧ 3000000 < scan.totalDrained) ∧
        (scan.hasFlashLoan = true ∨ oracleCompromised = true ∧ probingDetected = true) := by
  unfold threatScore
  by_cases hsevere : scan.hasDrain = true ∧ 3000000 < scan.totalDrained
  · cases scan.hasFlashLoan <;> cases oracleCompromised <;> cases probingDetected <;>
      simp [hsevere] <;> norm_num
  · have hnot : (scan.hasDrain && decide (3000000 < scan.totalDrained)) = false := by
      simpa using hsevere
    cases scan.hasFlashLoan <;> cases oracleCompromised <;> cases probingDetected <;>
      simp [hsevere, hnot] <;> norm_num

/-- The oracle verdict, if there is one, says that the price is manipulated. -/
def Manipulated (oracleVerdict : Option OracleVerdict) : Prop :=
  ∃ verdict, oracleVerdict = some verdict ∧ verdict.isManipulated = some true

theorem manipulated_iff (oracleVerdict : Option OracleVerdict) :
    (oracleVerdict.bind (·.isManipulated)).getD false = true ↔ Manipulated oracleVerdict := by
  rcases oracleVerdict with _ | ⟨_ | b⟩ <;> simp [Manipulated]

/-- **The verdict triggers exactly if the evidence arms it**, whatever order the loop took. -/
theorem shouldTrigger_iff (epsilon : ℚ) (txs : List SlotTransaction) (attempts : List ProbingAttempt)
    (oracleVerdict : Option OracleVerdict) :
    (compoundVerdict epsilon (scan txs) attempts oracleVerdict).shouldTriggerCircuitBreaker = true ↔
      (evidence txs).Arms epsilon (Manipulated oracleVerdict ∧ probingRule attempts = true) := by
  obtain ⟨hflash, hdrain, hdrained, hrepaid⟩ := scan_sums txs
  have hratio : 0 < (evidence txs).drained → repaymentRatio (scan txs).totalRepaid
      (scan txs).totalDrained = (evidence txs).repaid / (evidence txs).drained := by
    intro hpos
    rw [repaymentRatio, hdrained, hrepaid, if_pos hpos]
  simp only [compoundVerdict, Bool.and_eq_true, decide_eq_true_eq]
  constructor
  · rintro ⟨hscore, hbroken⟩
    rw [decide_eq_true hbroken, threatScore_ge, manipulated_iff, hflash, hdrain, hdrained] at hscore
    obtain ⟨⟨hpos, hlarge⟩, hcompanion⟩ := hscore
    rw [hratio hpos] at hbroken
    exact ⟨hlarge, hbroken, hcompanion⟩
  · rintro ⟨hlarge, hunrepaid, hcompanion⟩
    have hpos : 0 < (evidence txs).drained := lt_trans (by norm_num) hlarge
    rw [← hratio hpos] at hunrepaid
    refine ⟨?_, hunrepaid⟩
    rw [decide_eq_true hunrepaid, threatScore_ge, manipulated_iff, hflash, hdrain, hdrained]
    exact ⟨⟨hpos, hlarge⟩, hcompanion⟩

theorem probingRule_iff (attempts : List ProbingAttempt) :
    probingRule attempts = true ↔ 2 ≤ attempts.length ∧
      ((attempts.map (·.sender)).toFinset.card ≤ 2 ∨ 2 ≤ attempts.countP (·.error.isSome)) := by
  simp [probingRule, List.card_toFinset]

/-- **The trigger**, for every detector, batch and oracle verdict, in terms of the batch and of the
buffer that it leaves. -/
theorem trigger_iff (d : AnomalyDetector) (txs : List (ℚ × SlotTransaction))
    (oracleVerdict : Option OracleVerdict) :
    let drains := draining (txs.map (·.2))
    let attempts := (d.detectCompoundExploit txs oracleVerdict).1.probingAttempts
    (d.detectCompoundExploit txs oracleVerdict).2.shouldTriggerCircuitBreaker = true ↔
      3000000 < (drains.map (·.drainAmount)).sum ∧
      (drains.map (·.repaidAmount)).sum / (drains.map (·.drainAmount)).sum < d.epsilonInvariant ∧
      ((∃ tx ∈ txs, tx.2.flashLoan = true ∨ 5000000 < tx.2.borrowAmount) ∨
        Manipulated oracleVerdict ∧ 2 ≤ attempts.length ∧
          ((attempts.map (·.sender)).toFinset.card ≤ 2 ∨
            2 ≤ attempts.countP (·.error.isSome))) := by
  have hattempts : (d.detectCompoundExploit txs oracleVerdict).1.probingAttempts =
      attemptsAfter d txs := by
    rw [detectCompoundExploit_fst, attemptsAfter]
  have hsignal : (evidence (txs.map (·.2))).signal = true ↔
      ∃ tx ∈ txs, tx.2.flashLoan = true ∨ 5000000 < tx.2.borrowAmount := by
    simp only [evidence_signal, List.mem_map, SlotTransaction.signal, Bool.or_eq_true,
      decide_eq_true_eq]
    grind
  obtain ⟨hdrained, hrepaid⟩ := evidence_amounts (txs.map (·.2))
  dsimp only
  rw [hattempts, detectCompoundExploit_snd, shouldTrigger_iff, probingRule_iff, ← hdrained,
    ← hrepaid, ← hsignal]
  constructor
  · intro harms
    exact ⟨harms.large, harms.unrepaid, harms.corroborated⟩
  · rintro ⟨hlarge, hunrepaid, hcompanion⟩
    exact ⟨hlarge, hunrepaid, hcompanion⟩

end Detector
end SolanaGuardian
