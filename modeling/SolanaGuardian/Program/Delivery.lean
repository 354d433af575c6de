import SolanaGuardian.Program.Authority
import SolanaGuardian.Program.Breaker
import SolanaGuardian.Program.Identity

/-!
# An authorised pause with its target

What happens to a `guardian_pause` that has everything it needs: it is signed by the guardian bot,
its account is not paused, and its remaining accounts are a program that accepts the pause and the
market (`AuthorisedPause`). No check before the CPI rejects it, whatever the run before
(`process_pause`). The CPI names the market, but `invoke_signed` is handed the account of the program
alone, so it finds the market only where the two are one account (`sendPause_eq`).

`pause_delivered_iff` is the result: such a pause goes through exactly if the program is the market
itself. Otherwise it fails as a whole, and the account stays as it was (`pause_undelivered`).
-/

namespace SolanaGuardian
namespace Program

/-- `has_one = f` accepts if the account named `f` has the stored key. -/
def Anchor.HasOneComplete (A : Anchor) : Prop :=
  ∀ stored f accounts a, (f, a) ∈ accounts → a.key = stored → A.hasOne stored f accounts = true

/-- A `guardian_pause` of the account at `key`, signed by its guardian bot, with a program that
accepts it and the market as remaining accounts. -/
structure AuthorisedPause (key : Pubkey) (config : GuardianConfig) where
  reason : PauseReason
  clock : Clock
  info : AccountInfo
  guardianBot : Signer
  targetProgram : AccountInfo
  market : AccountInfo
  named : info.key = key
  writable : info.isWritable = true
  authorised : guardianBot.1.key = config.guardianBot
  executable : targetProgram.executable = true
  marketKey : market.key = config.targetProtocol
  marketWritable : market.isWritable = true

def AuthorisedPause.call {key : Pubkey} {config : GuardianConfig}
    (pause : AuthorisedPause key config) : Call :=
  { ix := .guardianPause pause.reason
    accounts := [pause.info, pause.guardianBot.1, pause.targetProgram, pause.market]
    clock := pause.clock
    cpiAccepted := true }

/-- What the pause leaves besides the account. -/
def AuthorisedPause.output {key : Pubkey} {config : GuardianConfig}
    (pause : AuthorisedPause key config) (cpis : List Instruction) : Output :=
  { events := [.circuitBreakerPaused config.targetProtocol pause.guardianBot.1.key pause.reason.code
      pause.clock.slot pause.clock.unixTimestamp]
    cpis }

variable {A : Anchor} {calls : List Call} {key : Pubkey} {config : GuardianConfig}

/-- Anchor's checks accept the pause. -/
theorem tryAccounts_pause (hone : A.HasOneComplete)
    (hc : (program A).exec genesis calls key = some config) (pause : AuthorisedPause key config) :
    GuardianPause.tryAccounts A (some config) pause.call =
      .ok ⟨config, pause.guardianBot, [pause.targetProgram, pause.market]⟩ := by
  obtain ⟨-, haddress⟩ := identified_at hc
  refine GuardianPause.tryAccounts_ok.mpr ⟨pause.info, rfl, rfl, ?_, pause.writable, ?_⟩
  · rw [pause.named]
    exact Anchor.create_of_find haddress
  · exact hone _ _ _ pause.guardianBot.1 (by simp) pause.authorised

/-- The handler's checks accept it too, so the CPI decides. -/
theorem process_pause (hone : A.HasOneComplete)
    (hc : (program A).exec genesis calls key = some config) (hlive : config.isPaused = false)
    (pause : AuthorisedPause key config) :
    process A (some config) pause.call =
      (sendPause (config.pause pause.clock) true [pause.targetProgram, pause.market]).map
        fun cpis => (some (config.pause pause.clock), pause.output cpis) := by
  obtain ⟨b, -, hrep⟩ := represents_at hc
  have hcount : config.consecutivePauses < 2 := by
    rw [hrep.fields.1, hlive]
    decide
  have hprocess : process A (some config) pause.call =
      (GuardianPause.tryAccounts A (some config) pause.call >>= fun ctx =>
        guardianPause ctx pause.reason pause.clock true >>= fun r => .ok (some r.1, r.2)) := rfl
  rw [hprocess, tryAccounts_pause hone hc pause]
  simp only [guardianPause, hlive, hcount, require, bind, Except.bind, decide_true, Bool.not_false,
    if_true]
  cases sendPause (config.pause pause.clock) true [pause.targetProgram, pause.market] <;> rfl

/-- The pause at the program: it commits, or it fails in the CPI. -/
theorem step_pause (hone : A.HasOneComplete)
    (hc : (program A).exec genesis calls key = some config) (hlive : config.isPaused = false)
    (pause : AuthorisedPause key config) :
    (program A).step ((program A).exec genesis calls) pause.call =
      (sendPause (config.pause pause.clock) true [pause.targetProgram, pause.market]).map
        fun cpis => (Function.update ((program A).exec genesis calls) key
          (some (config.pause pause.clock)), pause.output cpis) := by
  have hkey : pause.call.configKey = some key := congrArg some pause.named
  have hstep : (program A).step ((program A).exec genesis calls) pause.call =
      (process A (some config) pause.call).map fun r =>
        (Function.update ((program A).exec genesis calls) key r.1, r.2) := by
    rw [← hc]
    exact Transact.keyed_step_at hkey
  rw [hstep, process_pause hone hc hlive pause]
  cases sendPause (config.pause pause.clock) true [pause.targetProgram, pause.market] <;> rfl

/-- A pause to a program other than the market fails for want of the market's account, and leaves
every account as it was. -/
theorem pause_undelivered (hone : A.HasOneComplete)
    (hc : (program A).exec genesis calls key = some config) (hlive : config.isPaused = false)
    (pause : AuthorisedPause key config)
    (hother : pause.targetProgram.key ≠ config.targetProtocol) :
    (program A).step ((program A).exec genesis calls) pause.call = .error .missingAccount ∧
      (program A).exec genesis (calls ++ [pause.call]) = (program A).exec genesis calls := by
  have hstep : (program A).step ((program A).exec genesis calls) pause.call =
      .error .missingAccount := by
    rw [step_pause hone hc hlive pause, sendPause_eq, GuardianConfig.pause_targetProtocol,
      if_neg hother]
    rfl
  exact ⟨hstep, by rw [Transact.Machine.exec_concat, Transact.Machine.next_error hstep]⟩

/-- **When an authorised pause goes through**, over every run of the program: it succeeds, sets
`is_paused` and sends its program one instruction that carries the market, exactly if the program is
the market itself. -/
theorem pause_delivered_iff (A : Anchor) (hone : A.HasOneComplete) (calls : List Call)
    (key : Pubkey) (config : GuardianConfig)
    (hc : (program A).exec genesis calls key = some config) (hlive : config.isPaused = false)
    (pause : AuthorisedPause key config) :
    (∃ s' out config' cpi,
      (program A).step ((program A).exec genesis calls) pause.call = .ok (s', out) ∧
      s' key = some config' ∧ config'.isPaused = true ∧
      out.cpis = [cpi] ∧ cpi.programId = pause.targetProgram.key ∧ cpi.data = [0x01] ∧
      pause.market.key ∈ cpi.accounts.map (·.pubkey)) ↔
    pause.targetProgram.key = config.targetProtocol := by
  constructor
  · rintro ⟨s', out, -, -, hstep, -⟩
    by_contra hother
    rw [(pause_undelivered hone hc hlive pause hother).1] at hstep
    cases hstep
  · intro hmarket
    have hstep := step_pause hone hc hlive pause
    rw [sendPause_eq, GuardianConfig.pause_targetProtocol, if_pos hmarket] at hstep
    refine ⟨_, _, config.pause pause.clock, _, hstep, Function.update_self _ _ _, rfl, rfl,
      hmarket.symm, rfl, ?_⟩
    rw [pause.marketKey]
    exact List.mem_singleton_self _

theorem sampleAnchor_hasOneComplete : sampleAnchor.HasOneComplete := by
  intro stored f accounts a ha hk
  exact List.any_eq_true.mpr ⟨(f, a), ha, by simp [hk]⟩

/-- The account of the sample deployment after its `initialize`. -/
def sampleConfig : GuardianConfig :=
  { admin := sampleKey 5
    guardianBot := sampleKey 4
    targetProtocol := sampleKey 3
    isPaused := false
    consecutivePauses := 0
    pausedAt := 0
    bump := 255 }

/-- A pause of the sample deployment, through some program. -/
def sampleAuthorised (targetProgram : AccountInfo) (h : targetProgram.executable = true) :
    AuthorisedPause sampleAddress sampleConfig where
  reason := .oracleDivergence
  clock := sampleClock
  info := sampleAccount sampleAddress false
  guardianBot := ⟨sampleAccount (sampleKey 4) true, rfl⟩
  targetProgram := targetProgram
  market := sampleAccount (sampleKey 3) false
  named := rfl
  writable := rfl
  authorised := rfl
  executable := h
  marketKey := rfl
  marketWritable := rfl

/-- A market that is its own program. -/
theorem pause_delivered_sample :
    ∃ s' out, (program sampleAnchor).step ((program sampleAnchor).exec genesis [sampleInit])
      (sampleAuthorised sampleTarget rfl).call = .ok (s', out) := by
  obtain ⟨s', out, -, -, hstep, -⟩ := (pause_delivered_iff sampleAnchor
    sampleAnchor_hasOneComplete [sampleInit] sampleAddress sampleConfig rfl rfl
    (sampleAuthorised sampleTarget rfl)).mpr rfl
  exact ⟨s', out, hstep⟩

/-- The program of a market is not its account: the pause fails, and the account is not paused. -/
theorem pause_lost :
    (program sampleAnchor).step ((program sampleAnchor).exec genesis [sampleInit])
        (sampleAuthorised { sampleAccount (sampleKey 7) false with executable := true } rfl).call =
      .error .missingAccount ∧
    ((program sampleAnchor).exec genesis [sampleInit] sampleAddress).map (·.isPaused) = some false := by
  constructor
  · rfl
  · decide

end Program
end SolanaGuardian
