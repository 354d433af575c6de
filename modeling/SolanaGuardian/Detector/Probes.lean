import SolanaGuardian.Detector.Buffers

/-!
# Expired probes in the compound verdict

`detect_compound_exploit` reads the probing buffer as the loop over its batch leaves it. Recording a
probe prunes the buffer; nothing else on this path does. The verdict is compared with that of a
reference detector, whose buffer holds only the earlier probes of the last `window_seconds`.

* `observeAll_stale`: a batch with a probe forgets the difference between two buffers that cover
  the same log.
* `observeAll_quiet`: a batch without a probe leaves the buffer, expired entries included.
* `stale_probes_iff`: so the two alarms agree exactly if the batch has a probe or the expired
  entries do not matter to the probing rule. `stale_probes_trigger` is a state where they do.
-/

namespace SolanaGuardian
namespace Detector

/-- What the verdict says of probing, its score and whether it triggers the breaker. -/
def CompoundVerdict.alarm (v : CompoundVerdict) : Bool × ℚ × Bool :=
  (v.probingDetected, v.threatScore, v.shouldTriggerCircuitBreaker)

/-- The verdict reads the buffer only through the probing rule. -/
theorem compoundVerdict_congr {attempts attempts' : List ProbingAttempt}
    (h : probingRule attempts = probingRule attempts') (epsilon : ℚ) (scan : Scan)
    (oracleVerdict : Option OracleVerdict) :
    compoundVerdict epsilon scan attempts oracleVerdict =
      compoundVerdict epsilon scan attempts' oracleVerdict := by
  simp only [compoundVerdict, h]

/-- The alarms on two buffers agree exactly if the probing rule does. -/
theorem alarm_iff (epsilon : ℚ) (scan : Scan) (attempts attempts' : List ProbingAttempt)
    (oracleVerdict : Option OracleVerdict) :
    (compoundVerdict epsilon scan attempts oracleVerdict).alarm =
        (compoundVerdict epsilon scan attempts' oracleVerdict).alarm ↔
      probingRule attempts = probingRule attempts' := by
  constructor
  · intro h
    exact congrArg Prod.fst h
  · intro h
    rw [compoundVerdict_congr h]

section

variable {d : AnomalyDetector} {queue ps : List ProbingAttempt} {now : ℚ}

/-- Recording a probe leaves the same detector for two buffers that cover one log. -/
theorem observe_stale {tx : SlotTransaction}
    (hd : Window.Covers ProbingAttempt.timestamp (now - d.windowSeconds) ps d.probingAttempts)
    (hq : Window.Covers ProbingAttempt.timestamp (now - d.windowSeconds) ps queue)
    (hsorted : Window.Sorted ProbingAttempt.timestamp (ps ++ [tx.probe now]))
    (hprobe : tx.isProbe = true) :
    { d with probingAttempts := queue }.observe now tx = d.observe now tx := by
  have hpruned : Window.prune ProbingAttempt.timestamp (now - d.windowSeconds)
      (queue ++ [tx.probe now]) = Window.prune ProbingAttempt.timestamp (now - d.windowSeconds)
      (d.probingAttempts ++ [tx.probe now]) := by
    rw [(hq.append [tx.probe now]).prune_eq hsorted, (hd.append [tx.probe now]).prune_eq hsorted]
  unfold AnomalyDetector.observe
  rw [if_pos hprobe, if_pos hprobe]
  simp only [AnomalyDetector.recordProbingAttempt, AnomalyDetector.pruneExpired]
  simp only [SlotTransaction.probe] at hpruned
  rw [hpruned]

/-- A transaction that is no probe leaves the detector. -/
theorem observe_quiet {tx : SlotTransaction} (h : tx.isProbe = false) (d : AnomalyDetector) (now : ℚ) :
    d.observe now tx = d := by
  rw [AnomalyDetector.observe, h]
  rfl

/-- A batch without a probe leaves the detector. -/
theorem observeAll_quiet {txs : List (ℚ × SlotTransaction)}
    (h : ∀ tx ∈ txs, tx.2.isProbe = false) (d : AnomalyDetector) :
    txs.foldl (fun d tx => d.observe tx.1 tx.2) d = d := by
  induction txs with
  | nil => rfl
  | cons tx txs ih =>
    rw [List.foldl_cons, observe_quiet (h tx (by simp))]
    exact ih fun tx' htx' => h tx' (List.mem_cons_of_mem _ htx')

/-- A batch with a probe leaves the same detector for two buffers that cover one log. -/
theorem observeAll_stale {txs : List (ℚ × SlotTransaction)}
    (hd : Window.Covers ProbingAttempt.timestamp (now - d.windowSeconds) ps d.probingAttempts)
    (hq : Window.Covers ProbingAttempt.timestamp (now - d.windowSeconds) ps queue)
    (hsorted : Window.Sorted ProbingAttempt.timestamp ps) (hpast : ∀ p ∈ ps, p.timestamp ≤ now)
    (hclock : ∀ tx ∈ txs, now ≤ tx.1) (hprobe : ∃ tx ∈ txs, tx.2.isProbe = true) :
    txs.foldl (fun d tx => d.observe tx.1 tx.2) { d with probingAttempts := queue } =
      txs.foldl (fun d tx => d.observe tx.1 tx.2) d := by
  induction txs with
  | nil =>
    obtain ⟨tx, htx, -⟩ := hprobe
    cases htx
  | cons tx txs ih =>
    rw [List.foldl_cons, List.foldl_cons]
    cases hfirst : tx.2.isProbe with
    | true =>
      -- The first probe of the batch prunes both buffers to the same entries.
      have hle : now ≤ tx.1 := hclock tx (by simp)
      have hcut : now - d.windowSeconds ≤ tx.1 - d.windowSeconds := by linarith
      have hsorted' : Window.Sorted ProbingAttempt.timestamp (ps ++ [tx.2.probe tx.1]) :=
        Window.sorted_concat hsorted fun p hp => le_trans (hpast p hp) hle
      rw [observe_stale (hd.mono hcut) (hq.mono hcut) hsorted' hfirst]
    | false =>
      rw [observe_quiet hfirst, observe_quiet hfirst]
      refine ih (fun tx' htx' => hclock tx' (List.mem_cons_of_mem _ htx')) ?_
      obtain ⟨tx', htx', hp⟩ := hprobe
      rcases List.mem_cons.mp htx' with rfl | htx'
      · rw [hfirst] at hp
        cases hp
      · exact ⟨tx', htx', hp⟩

end

/-- The detector with only the earlier probes of the last `window_seconds`. -/
def reference (d : AnomalyDetector) (probes : List ProbingAttempt) (now : ℚ) : AnomalyDetector :=
  { d with probingAttempts := probes.filter (now - d.windowSeconds ≤ ·.timestamp) }

/-- **When expired probes matter**, in every state that a run reaches: the alarm is that of the
reference detector exactly if the batch has a probe, or the probing rule gives the same answer on
the buffer with and without its expired entries. -/
theorem stale_probes_iff (config : Config) (ops : List Op) (t : ℚ)
    (txs : List (ℚ × SlotTransaction)) (oracleVerdict : Option OracleVerdict)
    (hclock : (clock ops ++ t :: txs.map (·.1)).Pairwise (· ≤ ·)) :
    ((run config ops).detectCompoundExploit txs oracleVerdict).2.alarm =
        ((reference (run config ops) (probeLog ops) t).detectCompoundExploit txs
          oracleVerdict).2.alarm ↔
      (∃ tx ∈ txs, tx.2.isProbe = true) ∨
        probingRule (run config ops).probingAttempts =
          probingRule ((run config ops).probingAttempts.filter
            (t - config.windowSeconds ≤ ·.timestamp)) := by
  obtain ⟨hpast, hbatch, hlater⟩ := List.pairwise_append.mp hclock
  have hcovers : CoversAt (run config ops) t (outflowLog ops) (probeLog ops) :=
    tracks_run config hpast t fun r hr => hlater r hr t (by simp)
  have hsorted := (logs_sorted hpast).2
  have hwindow : (run config ops).windowSeconds = config.windowSeconds := by rw [run_config]
  have hlive := hcovers.probes.live_eq
  simp only [AnomalyDetector.detectCompoundExploit, foldl_step, alarm_iff, reference]
  by_cases hprobe : ∃ tx ∈ txs, tx.2.isProbe = true
  · have hstamps : ∀ p ∈ probeLog ops, p.timestamp ≤ t := by
      intro p hp
      have hmem : p.timestamp ∈ clock ops :=
        (stamps_sublist ops).2.subset (List.mem_map_of_mem hp)
      exact hlater _ hmem t (by simp)
    have hsame := observeAll_stale hcovers.probes (Window.Covers.live _ hsorted) hsorted hstamps
      (fun tx htx => (List.pairwise_cons.mp hbatch).1 tx.1 (List.mem_map_of_mem htx)) hprobe
    rw [Window.live] at hsame
    rw [hsame]
    simp only [hprobe, true_or]
  · have hquiet : ∀ tx ∈ txs, tx.2.isProbe = false := by
      intro tx htx
      cases h : tx.2.isProbe with
      | false => rfl
      | true => exact absurd ⟨tx, htx, h⟩ hprobe
    rw [observeAll_quiet hquiet, observeAll_quiet hquiet]
    rw [Window.live, Window.live, hwindow] at hlive
    simp only [hprobe, false_or, hlive, hwindow]

/-- Two probes of one sender, at time 0. -/
def sampleProbes : List Op :=
  [.recordProbingAttempt 0 "a" 1 true none, .recordProbingAttempt 0 "a" 1 true none]

/-- A drain of 5M that repays nothing. -/
def sampleDrain (now : ℚ) : List (ℚ × SlotTransaction) :=
  [(now, { drainAmountUsd := some 5000000, debtRepaidUsd := some 0 })]

/-- With a probe in the batch, the expired ones are gone. -/
theorem stale_probes_sample :
    ((run sampleConfig sampleProbes).detectCompoundExploit
      [(10000, { isProbing := some true })] none).2.alarm =
    ((reference (run sampleConfig sampleProbes) (probeLog sampleProbes)
      10000).detectCompoundExploit [(10000, { isProbing := some true })] none).2.alarm :=
  (stale_probes_iff sampleConfig sampleProbes 10000 _ none (by decide +kernel)).mpr
    (.inl ⟨_, List.mem_singleton_self _, rfl⟩)

/-- Two probes that expired long ago lift a drain next to a manipulated oracle over the trigger. -/
theorem stale_probes_trigger :
    ((run sampleConfig sampleProbes).detectCompoundExploit (sampleDrain 10000)
      (some { isManipulated := some true })).2.alarm = (true, 80 / 100, true) ∧
    ((reference (run sampleConfig sampleProbes) (probeLog sampleProbes)
      10000).detectCompoundExploit (sampleDrain 10000)
      (some { isManipulated := some true })).2.alarm = (false, 65 / 100, false) := by
  constructor
  · decide +kernel
  · decide +kernel

end Detector
end SolanaGuardian
