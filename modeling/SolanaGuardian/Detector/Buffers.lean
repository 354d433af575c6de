import Mathlib.Data.List.Induction
import Mathlib.Tactic.Linarith
import SolanaGuardian.Detector.Model

/-!
# The buffers are exact

A run of the detector is a list of operations, each with its clock readings (`Op`). What was ever
recorded is a function of the operations alone: `outflowLog` and `probeLog`, the latter with the
probes that `detect_compound_exploit` records on its own. Only some of the operations prune.

* `Tracks`: each buffer covers its log (`Window.Covers`) at every instant from the last reading on.
  Every operation keeps it (`tracks_apply`), so every run has it (`tracks_run`).
* `window_exact`: after an operation that prunes, the buffers are the logs of the last
  `window_seconds`, exactly.
-/

namespace SolanaGuardian
namespace Detector

/-! ## Runs -/

/-- An operation, with the clock readings that it makes. -/
inductive Op where
  | recordOutflow (now amountUsd debtRepaidUsd : ℚ) (callerPubkey : String)
  | recordProbingAttempt (now : ℚ) (senderPubkey : String) (volumeUsd : ℚ) (hasCpiSequence : Bool)
      (instructionError : Option String)
  | calculateOutflowVelocity (now totalPoolTvlUsd : ℚ) (concurrentLiquidators : ℤ)
  | detectCompoundExploit (slotTransactions : List (ℚ × SlotTransaction))
      (oracleVerdict : Option OracleVerdict)

/-- The probes that a batch records. -/
def batchProbes (txs : List (ℚ × SlotTransaction)) : List ProbingAttempt :=
  (txs.filter fun tx => tx.2.isProbe).map fun tx => tx.2.probe tx.1

theorem batchProbes_cons (tx : ℚ × SlotTransaction) (txs : List (ℚ × SlotTransaction)) :
    batchProbes (tx :: txs) =
      (if tx.2.isProbe then [tx.2.probe tx.1] else []) ++ batchProbes txs := by
  unfold batchProbes
  rw [List.filter_cons]
  split <;> rfl

namespace Op

/-- The state after an operation. -/
def apply (d : AnomalyDetector) : Op → AnomalyDetector
  | recordOutflow now amount repaid caller => d.recordOutflow now amount repaid caller
  | recordProbingAttempt now sender volume hasCpi error =>
    d.recordProbingAttempt now sender volume hasCpi error
  | calculateOutflowVelocity now tvl liquidators => (d.calculateOutflowVelocity now tvl liquidators).1
  | detectCompoundExploit txs verdict => (d.detectCompoundExploit txs verdict).1

/-- The clock readings of an operation, in order. -/
def readings : Op → List ℚ
  | recordOutflow now _ _ _ => [now]
  | recordProbingAttempt now _ _ _ _ => [now]
  | calculateOutflowVelocity now _ _ => [now]
  | detectCompoundExploit txs _ => txs.map (·.1)

/-- The time of an operation that prunes at one instant. -/
def instant : Op → Option ℚ
  | recordOutflow now _ _ _ => some now
  | recordProbingAttempt now _ _ _ _ => some now
  | calculateOutflowVelocity now _ _ => some now
  | detectCompoundExploit _ _ => none

/-- The outflows that an operation records. -/
def outflows : Op → List OutflowEvent
  | recordOutflow now amount repaid caller => [⟨now, amount, repaid, caller⟩]
  | _ => []

/-- The probes that an operation records. -/
def probes : Op → List ProbingAttempt
  | recordProbingAttempt now sender volume hasCpi error => [⟨now, sender, volume, hasCpi, error⟩]
  | detectCompoundExploit txs _ => batchProbes txs
  | _ => []

end Op

/-- The detector after a run. -/
def run (config : Config) (ops : List Op) : AnomalyDetector := ops.foldl Op.apply (fresh config)

/-- The clock readings of a run. -/
def clock (ops : List Op) : List ℚ := ops.flatMap Op.readings

/-- All outflows that a run recorded. -/
def outflowLog (ops : List Op) : List OutflowEvent := ops.flatMap Op.outflows

/-- All probes that a run recorded. -/
def probeLog (ops : List Op) : List ProbingAttempt := ops.flatMap Op.probes

@[simp] theorem clock_concat (ops : List Op) (op : Op) :
    clock (ops ++ [op]) = clock ops ++ op.readings := by simp [clock]

@[simp] theorem outflowLog_concat (ops : List Op) (op : Op) :
    outflowLog (ops ++ [op]) = outflowLog ops ++ op.outflows := by simp [outflowLog]

@[simp] theorem probeLog_concat (ops : List Op) (op : Op) :
    probeLog (ops ++ [op]) = probeLog ops ++ op.probes := by simp [probeLog]

@[simp] theorem run_concat (config : Config) (ops : List Op) (op : Op) :
    run config (ops ++ [op]) = op.apply (run config ops) := by simp [run]

/-- The stamps of what an operation records are readings of it, in their order. -/
theorem Op.stamps_sublist (op : Op) :
    (op.outflows.map (·.timestamp)).Sublist op.readings ∧
    (op.probes.map (·.timestamp)).Sublist op.readings := by
  cases op with
  | recordOutflow now amount repaid caller => exact ⟨.refl _, List.nil_sublist _⟩
  | recordProbingAttempt now sender volume hasCpi error => exact ⟨List.nil_sublist _, .refl _⟩
  | calculateOutflowVelocity now tvl liquidators =>
    exact ⟨List.nil_sublist _, List.nil_sublist _⟩
  | detectCompoundExploit txs verdict =>
    refine ⟨List.nil_sublist _, ?_⟩
    have hstamps : (batchProbes txs).map (·.timestamp) =
        (txs.filter fun tx => tx.2.isProbe).map (·.1) := by
      rw [batchProbes, List.map_map]
      rfl
    rw [Op.probes, hstamps]
    exact List.filter_sublist.map _

theorem stamps_sublist (ops : List Op) :
    ((outflowLog ops).map (·.timestamp)).Sublist (clock ops) ∧
    ((probeLog ops).map (·.timestamp)).Sublist (clock ops) := by
  induction ops using List.reverseRecOn with
  | nil => exact ⟨.refl _, .refl _⟩
  | append_singleton ops op ih =>
    obtain ⟨ho, hp⟩ := op.stamps_sublist
    simp only [clock_concat, outflowLog_concat, probeLog_concat, List.map_append]
    exact ⟨ih.1.append ho, ih.2.append hp⟩

/-- With a clock that never decreases, the logs are in order of their stamps. -/
theorem logs_sorted {ops : List Op} (h : (clock ops).Pairwise (· ≤ ·)) :
    Window.Sorted OutflowEvent.timestamp (outflowLog ops) ∧
    Window.Sorted ProbingAttempt.timestamp (probeLog ops) := by
  obtain ⟨ho, hp⟩ := stamps_sublist ops
  exact ⟨List.pairwise_map.mp (h.sublist ho), List.pairwise_map.mp (h.sublist hp)⟩

/-! ## What an operation keeps -/

/-- Only with a negative window has an entry expired at the instant that it is recorded. -/
theorem expired_at_once (now windowSeconds : ℚ) : now < now - windowSeconds ↔ windowSeconds < 0 := by
  constructor
  · intro h
    linarith
  · intro h
    linarith

/-- Each buffer covers its log at the time `now`. -/
structure CoversAt (d : AnomalyDetector) (now : ℚ) (outflows : List OutflowEvent)
    (probes : List ProbingAttempt) : Prop where
  outflows : Window.Covers OutflowEvent.timestamp (now - d.windowSeconds) outflows d.outflowEvents
  probes : Window.Covers ProbingAttempt.timestamp (now - d.windowSeconds) probes d.probingAttempts

section

variable {d : AnomalyDetector} {now now' : ℚ} {os : List OutflowEvent} {ps : List ProbingAttempt}

theorem CoversAt.mono (h : CoversAt d now os ps) (hle : now ≤ now') : CoversAt d now' os ps :=
  ⟨h.outflows.mono (by linarith), h.probes.mono (by linarith)⟩

theorem CoversAt.prune (h : CoversAt d now os ps) : CoversAt (d.pruneExpired now) now os ps :=
  ⟨h.outflows.prune, h.probes.prune⟩

theorem CoversAt.recordProbingAttempt (h : CoversAt d now os ps) (sender : String) (volume : ℚ)
    (hasCpi : Bool) (error : Option String) :
    CoversAt (d.recordProbingAttempt now sender volume hasCpi error) now os
      (ps ++ [⟨now, sender, volume, hasCpi, error⟩]) := by
  refine CoversAt.prune ⟨h.outflows, ?_⟩
  exact h.probes.append _

/-- One transaction of a batch. -/
theorem CoversAt.observe (h : CoversAt d now os ps) (tx : SlotTransaction) :
    CoversAt (d.observe now tx) now os (ps ++ if tx.isProbe then [tx.probe now] else []) := by
  unfold AnomalyDetector.observe
  split
  · exact h.recordProbingAttempt _ _ _ _
  · rw [List.append_nil]
    exact h

/-- The loop over a batch: the detector and the scan do not read each other. -/
theorem foldl_step (txs : List (ℚ × SlotTransaction)) (d : AnomalyDetector) (scan : Scan) :
    txs.foldl step (d, scan) =
      (txs.foldl (fun d tx => d.observe tx.1 tx.2) d, txs.foldl (fun s tx => s.step tx.2) scan) := by
  induction txs generalizing d scan with
  | nil => rfl
  | cons tx txs ih => rw [List.foldl_cons, step, ih]; rfl

theorem observe_config (d : AnomalyDetector) (now : ℚ) (tx : SlotTransaction) :
    (d.observe now tx).toConfig = d.toConfig := by
  unfold AnomalyDetector.observe
  split <;> rfl

/-- A batch, observed from an instant on. -/
theorem CoversAt.observeAll (h : CoversAt d now os ps) (txs : List (ℚ × SlotTransaction))
    (hclock : (now :: txs.map (·.1)).Pairwise (· ≤ ·)) (hlast : ∀ r ∈ now :: txs.map (·.1), r ≤ now') :
    CoversAt (txs.foldl (fun d tx => d.observe tx.1 tx.2) d) now' os
      (ps ++ batchProbes txs) := by
  induction txs generalizing d now ps with
  | nil =>
    have hle : now ≤ now' := hlast now (by simp)
    have hnone : ps ++ batchProbes [] = ps := List.append_nil ps
    rw [hnone]
    exact h.mono hle
  | cons tx txs ih =>
    obtain ⟨hfirst, hrest⟩ := List.pairwise_cons.mp hclock
    have hle : now ≤ tx.1 := hfirst tx.1 (by simp)
    have hone := (h.mono hle).observe tx.2
    have hall := ih hone hrest fun r hr => hlast r (List.mem_cons_of_mem _ hr)
    rw [List.append_assoc, ← batchProbes_cons] at hall
    rw [List.foldl_cons]
    exact hall

/-- Pruning a detector whose buffers cover sorted logs leaves the live part of the logs. -/
theorem CoversAt.exact (h : CoversAt d now os ps) (ho : Window.Sorted OutflowEvent.timestamp os)
    (hp : Window.Sorted ProbingAttempt.timestamp ps) :
    (d.pruneExpired now).outflowEvents =
      Window.live OutflowEvent.timestamp (now - d.windowSeconds) os ∧
    (d.pruneExpired now).probingAttempts =
      Window.live ProbingAttempt.timestamp (now - d.windowSeconds) ps :=
  ⟨h.outflows.prune_eq ho, h.probes.prune_eq hp⟩

/-- An operation at one instant appends what it records and then prunes. -/
theorem Op.apply_prunes {op : Op} (hop : op.instant = some now) (h : CoversAt d now os ps) :
    ∃ d', op.apply d = d'.pruneExpired now ∧ d'.toConfig = d.toConfig ∧
      CoversAt d' now (os ++ op.outflows) (ps ++ op.probes) := by
  cases op with
  | recordOutflow t amount repaid caller =>
    cases hop
    refine ⟨_, rfl, rfl, h.outflows.append _, ?_⟩
    simpa only [Op.probes, List.append_nil] using h.probes
  | recordProbingAttempt t sender volume hasCpi error =>
    cases hop
    refine ⟨_, rfl, rfl, ?_, h.probes.append _⟩
    simpa only [Op.outflows, List.append_nil] using h.outflows
  | calculateOutflowVelocity t tvl liquidators =>
    cases hop
    refine ⟨d, rfl, rfl, ?_⟩
    simpa only [Op.outflows, Op.probes, List.append_nil] using h
  | detectCompoundExploit txs verdict => cases hop

end

/-! ## Runs -/

/-- At every instant from the last reading on, the buffers cover the logs. -/
def Tracks (d : AnomalyDetector) (ops : List Op) : Prop :=
  ∀ now, (∀ r ∈ clock ops, r ≤ now) → CoversAt d now (outflowLog ops) (probeLog ops)

/-- **Step.** Every operation keeps the buffers covering. -/
theorem tracks_apply {d : AnomalyDetector} {ops : List Op} {op : Op} (h : Tracks d ops)
    (hclock : (clock (ops ++ [op])).Pairwise (· ≤ ·)) : Tracks (op.apply d) (ops ++ [op]) := by
  rw [clock_concat] at hclock
  obtain ⟨-, hreadings, hlater⟩ := List.pairwise_append.mp hclock
  intro now hnow
  rw [clock_concat] at hnow
  rw [outflowLog_concat, probeLog_concat]
  cases hop : op.instant with
  | some t =>
    have ht : op.readings = [t] := by cases op <;> cases hop <;> rfl
    have hle : t ≤ now := hnow t (by rw [ht]; simp)
    have hat : CoversAt d t (outflowLog ops) (probeLog ops) :=
      h t fun r hr => hlater r hr t (by rw [ht]; simp)
    obtain ⟨d', hd', -, hcovers⟩ := Op.apply_prunes hop hat
    rw [hd']
    exact hcovers.prune.mono hle
  | none =>
    cases op with
    | detectCompoundExploit txs verdict =>
      simp only [Op.outflows, List.append_nil, Op.probes, Op.apply,
        AnomalyDetector.detectCompoundExploit, foldl_step]
      cases txs with
      | nil =>
        have hcovers := h now fun r hr => hnow r (List.mem_append_left _ hr)
        have hnone : probeLog ops ++ batchProbes [] = probeLog ops := List.append_nil _
        rw [hnone]
        exact hcovers
      | cons tx txs =>
        -- The batch starts at the time of its first transaction.
        have hat : CoversAt d tx.1 (outflowLog ops) (probeLog ops) :=
          h tx.1 fun r hr => hlater r hr tx.1 (by simp [Op.readings])
        refine hat.observeAll (tx :: txs) ?_ ?_
        · refine List.pairwise_cons.mpr ⟨fun r hr => ?_, hreadings⟩
          rcases List.mem_cons.mp hr with rfl | hr
          · exact le_refl _
          · exact (List.pairwise_cons.mp hreadings).1 r hr
        · intro r hr
          rcases List.mem_cons.mp hr with rfl | hr
          · exact hnow _ (List.mem_append_right _ (by simp [Op.readings]))
          · exact hnow r (List.mem_append_right _ hr)
    | recordOutflow t amount repaid caller => cases hop
    | recordProbingAttempt t sender volume hasCpi error => cases hop
    | calculateOutflowVelocity t tvl liquidators => cases hop

theorem clock_init {ops : List Op} {op : Op} (h : (clock (ops ++ [op])).Pairwise (· ≤ ·)) :
    (clock ops).Pairwise (· ≤ ·) := by
  rw [clock_concat] at h
  exact (List.pairwise_append.mp h).1

/-- **Run.** After every run, the buffers cover the logs. -/
theorem tracks_run (config : Config) {ops : List Op} (h : (clock ops).Pairwise (· ≤ ·)) :
    Tracks (run config ops) ops := by
  induction ops using List.reverseRecOn with
  | nil => exact fun now _ => ⟨Window.Covers.refl _ _, Window.Covers.refl _ _⟩
  | append_singleton ops op ih =>
    rw [run_concat]
    exact tracks_apply (ih (clock_init h)) h

theorem apply_config (d : AnomalyDetector) (op : Op) : (op.apply d).toConfig = d.toConfig := by
  cases op with
  | recordOutflow now amount repaid caller => rfl
  | recordProbingAttempt now sender volume hasCpi error => rfl
  | calculateOutflowVelocity now tvl liquidators => rfl
  | detectCompoundExploit txs verdict =>
    rw [Op.apply, AnomalyDetector.detectCompoundExploit, foldl_step]
    induction txs generalizing d with
    | nil => rfl
    | cons tx txs ih => rw [List.foldl_cons, ih, observe_config]

/-- The configuration never changes. -/
theorem run_config (config : Config) (ops : List Op) : (run config ops).toConfig = config := by
  induction ops using List.reverseRecOn with
  | nil => rfl
  | append_singleton ops op ih => rw [run_concat, apply_config, ih]

/-- **The window is exact**, over every run with a clock that never decreases: after an operation
that prunes at `t`, each buffer is what was recorded since `t - window_seconds`. -/
theorem window_exact (config : Config) (ops : List Op) (op : Op) (t : ℚ)
    (hop : op.instant = some t) (hclock : (clock (ops ++ [op])).Pairwise (· ≤ ·)) :
    (run config (ops ++ [op])).outflowEvents =
      (outflowLog (ops ++ [op])).filter (t - config.windowSeconds ≤ ·.timestamp) ∧
    (run config (ops ++ [op])).probingAttempts =
      (probeLog (ops ++ [op])).filter (t - config.windowSeconds ≤ ·.timestamp) := by
  have hreadings : op.readings = [t] := by cases op <;> cases hop <;> rfl
  have hat : CoversAt (run config ops) t (outflowLog ops) (probeLog ops) := by
    refine tracks_run config (clock_init hclock) t fun r hr => ?_
    rw [clock_concat, hreadings] at hclock
    exact (List.pairwise_append.mp hclock).2.2 r hr t (by simp)
  obtain ⟨d', hd', hconfig, hcovers⟩ := Op.apply_prunes hop hat
  have hwindow : d'.windowSeconds = config.windowSeconds := by rw [hconfig, run_config]
  obtain ⟨ho, hp⟩ := logs_sorted hclock
  rw [outflowLog_concat] at ho ⊢
  rw [probeLog_concat] at hp ⊢
  rw [run_concat, hd', ← hwindow]
  exact hcovers.exact ho hp

/-- The configuration of the settings. -/
def sampleConfig : Config := { windowSeconds := 300, maxOutflowPct := 15, epsilonInvariant := 5 / 100 }

/-- A probe of the batch of a `detect_compound_exploit` is in the buffer, next to nothing that has
expired, when the velocity is calculated later. -/
theorem window_exact_sample :
    (run sampleConfig [.recordProbingAttempt 0 "a" 1 true none,
      .detectCompoundExploit [(200, { sender := some "b", isProbing := some true })] none,
      .calculateOutflowVelocity 400 1000000 1]).probingAttempts = [⟨200, "b", 999, true, none⟩] := by
  have h := (window_exact sampleConfig [.recordProbingAttempt 0 "a" 1 true none,
    .detectCompoundExploit [(200, { sender := some "b", isProbing := some true })] none]
    (.calculateOutflowVelocity 400 1000000 1) 400 rfl (by decide +kernel)).2
  exact h.trans (by decide +kernel)

end Detector
end SolanaGuardian
