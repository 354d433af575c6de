import SolanaGuardian.Detector.Batch
import SolanaGuardian.Detector.Velocity

/-!
# The two verdicts over whole runs

One detector gives both verdicts, from two buffers that every operation prunes together.

* `SameProbes`: what two detectors share that were fed the same but for their outflows. Every
  operation keeps it (`SameProbes.apply`).
* `verdicts_isolated`: so the compound verdict after a run depends on no amount, debt, caller, pool
  size or earlier oracle verdict of the run, only on the times of its operations and on its probes.
  The velocity verdict depends on the outflows that were recorded and on nothing else of the run, not
  even on how often the buffers were pruned in between.
* `compound_verdict_run`: the compound verdict on a batch after a run, from what the run recorded. A
  batch with a probe is judged on the probes of the window, exactly. One without is judged on a
  buffer that may still hold older ones.
-/

namespace SolanaGuardian
namespace Detector

/-! ## What the compound verdict can see -/

/-- An operation without its outflow, its pool and its oracle verdict. -/
def Op.withoutOutflow : Op → Op
  | .recordOutflow now _ _ _ => .recordOutflow now 0 0 ""
  | .recordProbingAttempt now sender volume hasCpi error =>
    .recordProbingAttempt now sender volume hasCpi error
  | .calculateOutflowVelocity now _ _ => .calculateOutflowVelocity now 0 0
  | .detectCompoundExploit txs _ => .detectCompoundExploit txs none

/-- Two detectors with one configuration and one probing buffer. -/
structure SameProbes (d d' : AnomalyDetector) : Prop where
  config : d.toConfig = d'.toConfig
  attempts : d.probingAttempts = d'.probingAttempts

namespace SameProbes

variable {d d' : AnomalyDetector} {now : ℚ}

theorem windowSeconds (h : SameProbes d d') : d.windowSeconds = d'.windowSeconds :=
  congrArg Config.windowSeconds h.config

theorem prune (h : SameProbes d d') (now : ℚ) :
    SameProbes (d.pruneExpired now) (d'.pruneExpired now) := by
  refine ⟨h.config, ?_⟩
  simp only [AnomalyDetector.pruneExpired, h.attempts, h.windowSeconds]

theorem recordOutflow (h : SameProbes d d') (now amount repaid amount' repaid' : ℚ)
    (caller caller' : String) :
    SameProbes (d.recordOutflow now amount repaid caller)
      (d'.recordOutflow now amount' repaid' caller') := by
  refine ⟨h.config, ?_⟩
  simp only [AnomalyDetector.recordOutflow, AnomalyDetector.pruneExpired, h.attempts,
    h.windowSeconds]

theorem recordProbingAttempt (h : SameProbes d d') (now : ℚ) (sender : String) (volume : ℚ)
    (hasCpi : Bool) (error : Option String) :
    SameProbes (d.recordProbingAttempt now sender volume hasCpi error)
      (d'.recordProbingAttempt now sender volume hasCpi error) := by
  apply prune
  exact ⟨h.config, by rw [h.attempts]⟩

theorem observe (h : SameProbes d d') (now : ℚ) (tx : SlotTransaction) :
    SameProbes (d.observe now tx) (d'.observe now tx) := by
  unfold AnomalyDetector.observe
  split
  · exact h.recordProbingAttempt _ _ _ _ _
  · exact h

theorem observeAll (h : SameProbes d d') (txs : List (ℚ × SlotTransaction)) :
    SameProbes (txs.foldl (fun d tx => d.observe tx.1 tx.2) d)
      (txs.foldl (fun d tx => d.observe tx.1 tx.2) d') := by
  induction txs generalizing d d' with
  | nil => exact h
  | cons tx txs ih => exact ih (h.observe tx.1 tx.2)

/-- **Step.** Operations that differ in their outflows alone keep it. -/
theorem apply {op op' : Op} (h : SameProbes d d')
    (hop : op.withoutOutflow = op'.withoutOutflow) : SameProbes (op.apply d) (op'.apply d') := by
  cases op <;> cases op' <;> simp only [Op.withoutOutflow, reduceCtorEq, Op.recordOutflow.injEq,
    Op.recordProbingAttempt.injEq, Op.calculateOutflowVelocity.injEq,
    Op.detectCompoundExploit.injEq, and_true] at hop
  case recordOutflow.recordOutflow =>
    subst hop
    exact h.recordOutflow _ _ _ _ _ _ _
  case recordProbingAttempt.recordProbingAttempt =>
    obtain ⟨rfl, rfl, rfl, rfl, rfl⟩ := hop
    exact h.recordProbingAttempt _ _ _ _ _
  case calculateOutflowVelocity.calculateOutflowVelocity =>
    subst hop
    exact h.prune _
  case detectCompoundExploit.detectCompoundExploit =>
    subst hop
    simp only [Op.apply, detectCompoundExploit_fst]
    exact h.observeAll _

/-- **Run.** -/
theorem run (config : Config) {ops ops' : List Op}
    (hops : ops.map Op.withoutOutflow = ops'.map Op.withoutOutflow) :
    SameProbes (run config ops) (run config ops') := by
  induction ops using List.reverseRecOn generalizing ops' with
  | nil =>
    rw [List.map_nil, eq_comm, List.map_eq_nil_iff] at hops
    subst hops
    exact ⟨rfl, rfl⟩
  | append_singleton ops op ih =>
    rw [List.map_append, List.map_singleton, eq_comm, List.map_eq_append_iff] at hops
    obtain ⟨front, last, rfl, hfront, hlast⟩ := hops
    rw [List.map_eq_singleton_iff] at hlast
    obtain ⟨op', rfl, hop⟩ := hlast
    rw [run_concat, run_concat]
    exact (ih hfront.symm).apply hop.symm

/-- The compound verdict cannot tell the two detectors apart. -/
theorem verdict (h : SameProbes d d') (txs : List (ℚ × SlotTransaction))
    (oracleVerdict : Option OracleVerdict) :
    (d.detectCompoundExploit txs oracleVerdict).2 =
      (d'.detectCompoundExploit txs oracleVerdict).2 := by
  have hepsilon : d.epsilonInvariant = d'.epsilonInvariant :=
    congrArg Config.epsilonInvariant h.config
  rw [detectCompoundExploit_snd, detectCompoundExploit_snd, hepsilon, attemptsAfter, attemptsAfter,
    (h.observeAll txs).attempts]

end SameProbes

/-! ## Isolation -/

/-- **The verdicts are isolated**, for any two runs of one configuration. -/
theorem verdicts_isolated (config : Config) (ops ops' : List Op) :
    (ops.map Op.withoutOutflow = ops'.map Op.withoutOutflow → ∀ txs oracleVerdict,
      ((run config ops).detectCompoundExploit txs oracleVerdict).2 =
        ((run config ops').detectCompoundExploit txs oracleVerdict).2) ∧
    (outflowLog ops = outflowLog ops' → ∀ now totalPoolTvlUsd concurrentLiquidators,
      (clock ops ++ [now]).Pairwise (· ≤ ·) → (clock ops' ++ [now]).Pairwise (· ≤ ·) →
      ((run config ops).calculateOutflowVelocity now totalPoolTvlUsd concurrentLiquidators).2 =
        ((run config ops').calculateOutflowVelocity now totalPoolTvlUsd concurrentLiquidators).2) := by
  refine ⟨fun h txs oracleVerdict => (SameProbes.run config h).verdict txs oracleVerdict, ?_⟩
  intro hlog now tvl liquidators hclock hclock'
  have hrecent : ((run config ops).pruneExpired now).outflowEvents =
      ((run config ops').pruneExpired now).outflowEvents := by
    rw [recent_run config hclock, recent_run config hclock', hlog]
  have hconfig : ((run config ops).pruneExpired now).toConfig =
      ((run config ops').pruneExpired now).toConfig :=
    (run_config config ops).trans (run_config config ops').symm
  simp only [AnomalyDetector.calculateOutflowVelocity, velocityVerdict, hrecent, hconfig]

/-! ## The compound verdict after a run -/

/-- A batch with a probe leaves the probes of the window, exactly. -/
theorem attempts_run (config : Config) {ops : List Op} {now : ℚ} {txs : List SlotTransaction}
    (hclock : (clock ops ++ [now]).Pairwise (· ≤ ·)) (hprobe : probesAt now txs ≠ []) :
    ((run config ops).recordAll now (probesAt now txs)).probingAttempts =
      Window.live ProbingAttempt.timestamp (now - config.windowSeconds)
        (probeLog ops ++ probesAt now txs) := by
  obtain ⟨hpast, -, hlater⟩ := List.pairwise_append.mp hclock
  have hle : ∀ r ∈ clock ops, r ≤ now := fun r hr => hlater r hr now (by simp)
  have hcovers := (tracks_run config hpast now hle).probes
  rw [run_config] at hcovers
  obtain ⟨-, hsorted⟩ := logs_sorted hpast
  -- The log stays in order, since the probes of the batch have the last stamp.
  have hall : Window.Sorted ProbingAttempt.timestamp (probeLog ops ++ probesAt now txs) := by
    refine List.pairwise_append.mpr ⟨hsorted, ?_, fun p hp q hq => ?_⟩
    · rw [List.pairwise_iff_forall_sublist]
      intro p q hpq
      have hp := probesAt_stamp now txs p (hpq.subset (by simp))
      have hq := probesAt_stamp now txs q (hpq.subset (by simp))
      rw [hp, hq]
    · rw [probesAt_stamp now txs q hq]
      exact hle _ ((stamps_sublist ops).2.subset (List.mem_map_of_mem hp))
  have hrecord : ((run config ops).recordAll now (probesAt now txs)).probingAttempts =
      Window.prune ProbingAttempt.timestamp (now - config.windowSeconds)
        ((run config ops).probingAttempts ++ probesAt now txs) := by
    have hwindow : (run config ops).windowSeconds = config.windowSeconds :=
      congrArg Config.windowSeconds (run_config config ops)
    simp [AnomalyDetector.recordAll, AnomalyDetector.pruneExpired, hprobe, hwindow]
  rw [hrecord]
  exact (hcovers.append _).prune_eq hall

/-- The compound verdict at one instant after a run. -/
theorem detectAt_run (config : Config) (ops : List Op) (now : ℚ) (txs : List SlotTransaction)
    (oracleVerdict : Option OracleVerdict) :
    ((run config ops).detectAt now txs oracleVerdict).2 =
      compoundVerdict config.epsilonInvariant (scan txs)
        ((run config ops).recordAll now (probesAt now txs)).probingAttempts oracleVerdict := by
  have hepsilon : (run config ops).epsilonInvariant = config.epsilonInvariant :=
    congrArg Config.epsilonInvariant (run_config config ops)
  rw [detectAt_eq, hepsilon]

/-- **The compound verdict after a run**, for every run with a clock that never decreases and every
batch at one instant: it is the verdict of the rule on the batch and some probes. With a probe in
the batch, these are the recorded probes of the window. Without one, they are a last part of the
record that has at least these. -/
theorem compound_verdict_run (config : Config) (ops : List Op) (now : ℚ)
    (txs : List SlotTransaction) (oracleVerdict : Option OracleVerdict)
    (hclock : (clock ops ++ [now]).Pairwise (· ≤ ·)) :
    ∃ attempts, ((run config ops).detectAt now txs oracleVerdict).2 =
        compoundVerdict config.epsilonInvariant (scan txs) attempts oracleVerdict ∧
      (probesAt now txs ≠ [] → attempts = (probeLog ops ++ probesAt now txs).filter
        (now - config.windowSeconds ≤ ·.timestamp)) ∧
      (probesAt now txs = [] → attempts <:+ probeLog ops ∧
        attempts.filter (now - config.windowSeconds ≤ ·.timestamp) =
          (probeLog ops).filter (now - config.windowSeconds ≤ ·.timestamp)) := by
  refine ⟨((run config ops).recordAll now (probesAt now txs)).probingAttempts,
    detectAt_run config ops now txs oracleVerdict, attempts_run config hclock, fun hquiet => ?_⟩
  obtain ⟨hpast, -, hlater⟩ := List.pairwise_append.mp hclock
  have hcovers := (tracks_run config hpast now fun r hr => hlater r hr now (by simp)).probes
  rw [run_config] at hcovers
  have hsame : (run config ops).recordAll now (probesAt now txs) = run config ops := by
    rw [hquiet]
    rfl
  rw [hsame]
  refine ⟨?_, hcovers.live_eq.symm⟩
  obtain ⟨expired, hlog, -⟩ := hcovers
  exact ⟨expired, hlog.symm⟩

/-- A probe of a run and one of the batch, 200 seconds later. -/
theorem compound_verdict_sample :
    ((run sampleConfig [.recordProbingAttempt 0 "a" 1 true none]).detectAt 200
      [{ sender := some "a", isProbing := some true }] none).2.probingDetected = true := by
  obtain ⟨attempts, hverdict, hprobes, -⟩ := compound_verdict_run sampleConfig
    [.recordProbingAttempt 0 "a" 1 true none] 200 [{ sender := some "a", isProbing := some true }]
    none (by decide +kernel)
  rw [hverdict, hprobes (by decide +kernel)]
  decide +kernel

end Detector
end SolanaGuardian
