import SolanaGuardian.Lib.Machine
import SolanaGuardian.Program.Accounts

/-!
# The instructions, and the program as a machine

The three handlers of `programs/solana_guardian/src/lib.rs`, after the checks of
`SolanaGuardian/Program/Accounts.lean`. `process` is one call at one account; `program` is the
whole store of accounts, one machine per address (`Transact.keyed`): a call reads and writes only
the account that it names as its `config`, and a call that fails writes nothing.

`Committed` says once what a committed call can do, one constructor for each instruction with its
guards. `process_ok` is the inversion; every invariant of the later modules comes from it.

`invoke_signed` follows the runtime's documented behaviour: every account of the invoked
instruction must be among the account infos that the caller passes; otherwise the call reaches the
program, whose answer is an input of the call.
-/

namespace SolanaGuardian
namespace Program

/-- `invoke_signed`. -/
def invokeSigned (accepted : Bool) (instruction : Instruction) (infos : List AccountInfo) :
    Except ProgramError Unit := do
  require (instruction.accounts.all fun m => infos.any (·.key = m.pubkey)) .missingAccount
  require accepted .invokedProgramFailed

/-- The pause that the program sends: data `[0x01]`, with the target protocol's account. -/
def pauseInstruction (programId targetProtocol : Pubkey) : Instruction :=
  { programId, accounts := [AccountMeta.new targetProtocol false], data := [0x01] }

/-- `initialize`. -/
def initializeConfig (ctx : Initialize) (guardianBot squadsMultisig : Pubkey) :
    GuardianConfig × Output :=
  let config : GuardianConfig :=
    { admin := squadsMultisig
      guardianBot := guardianBot
      targetProtocol := ctx.targetProtocol.key
      isPaused := false
      consecutivePauses := 0
      pausedAt := 0
      bump := ctx.bump }
  (config,
    { events := [.guardianInitialized config.targetProtocol config.admin config.guardianBot]
      cpis := [] })

/-- The record that `guardian_pause` writes. -/
def GuardianConfig.pause (config : GuardianConfig) (clock : Clock) : GuardianConfig :=
  { config with
    isPaused := true
    consecutivePauses := saturatingAdd config.consecutivePauses 1
    pausedAt := clock.unixTimestamp }

@[simp] theorem GuardianConfig.pause_targetProtocol (config : GuardianConfig) (clock : Clock) :
    (config.pause clock).targetProtocol = config.targetProtocol := rfl

/-- The record that `unpause` writes. -/
def GuardianConfig.unpause (config : GuardianConfig) : GuardianConfig :=
  { config with isPaused := false, consecutivePauses := 0, pausedAt := 0 }

/-- The pause of the target market, when the call supplies a program for it. -/
def sendPause (config : GuardianConfig) (accepted : Bool) (remainingAccounts : List AccountInfo) :
    Except ProgramError (List Instruction) :=
  match remainingAccounts[0]? with
  | some targetProgram => do
    let instruction := pauseInstruction targetProgram.key config.targetProtocol
    invokeSigned accepted instruction [targetProgram]
    .ok [instruction]
  | none => .ok []

/-- `guardian_pause`. -/
def guardianPause (ctx : GuardianPause) (reason : PauseReason) (clock : Clock) (accepted : Bool) :
    Except ProgramError (GuardianConfig × Output) := do
  require (!ctx.config.isPaused) (.guardian .marketAlreadyPaused)
  require (ctx.config.consecutivePauses < 2) (.guardian .maxConsecutivePausesExceeded)
  let config := ctx.config.pause clock
  let cpis ← sendPause config accepted ctx.remainingAccounts
  .ok (config,
    { events := [.circuitBreakerPaused config.targetProtocol ctx.guardianBot.1.key reason.code
        clock.slot clock.unixTimestamp]
      cpis })

/-- `unpause`. -/
def unpause (ctx : Unpause) (clock : Clock) : Except ProgramError (GuardianConfig × Output) := do
  require ctx.config.isPaused (.guardian .marketNotPaused)
  let config := ctx.config.unpause
  .ok (config,
    { events := [.circuitBreakerUnpaused config.targetProtocol ctx.squadsMultisig.1.key clock.slot
        clock.unixTimestamp]
      cpis := [] })

/-- One call, at the account that it names. -/
def process (A : Anchor) (slot : Option GuardianConfig) (call : Call) :
    Except ProgramError (Option GuardianConfig × Output) :=
  match call.ix with
  | .initializeConfig guardianBot squadsMultisig => do
    let ctx ← Initialize.tryAccounts A slot call
    let r := initializeConfig ctx guardianBot squadsMultisig
    .ok (some r.1, r.2)
  | .guardianPause reason => do
    let ctx ← GuardianPause.tryAccounts A slot call
    let r ← guardianPause ctx reason call.clock call.cpiAccepted
    .ok (some r.1, r.2)
  | .unpause => do
    let ctx ← Unpause.tryAccounts A slot call
    let r ← unpause ctx call.clock
    .ok (some r.1, r.2)

/-- The machine of one account. -/
def account (A : Anchor) : Transact.Machine (Option GuardianConfig) Call ProgramError Output :=
  ⟨process A⟩

/-- The accounts that the program owns, by address. -/
abbrev Store := Pubkey → Option GuardianConfig

/-- The program: a call steps the account that it names. -/
def program (A : Anchor) : Transact.Machine Store Call ProgramError Output :=
  Transact.keyed Call.configKey .accountNotEnoughKeys fun _ => account A

/-- The store before the first call. -/
def genesis : Store := fun _ => none

variable {A : Anchor}

/-- The committed calls of a run at one address. -/
def committedAt (A : Anchor) (calls : List Call) (key : Pubkey) : List (Call × Output) :=
  ((program A).log genesis calls).filter (·.1.configKey = some key)

/-- An account after a run is the run of its machine on the calls that name it. -/
theorem exec_at (calls : List Call) (key : Pubkey) :
    (program A).exec genesis calls key =
      (account A).exec none (calls.filter (·.configKey = some key)) :=
  Transact.keyed_exec genesis calls key

theorem committedAt_eq (calls : List Call) (key : Pubkey) :
    committedAt A calls key = (account A).log none (calls.filter (·.configKey = some key)) :=
  Transact.keyed_log genesis calls key

/-! ## What a committed call does -/

/-- What a committed call can do, with the guards that it passed. -/
inductive Committed (A : Anchor) (call : Call) :
    Option GuardianConfig → Option GuardianConfig → Output → Prop
  | initializeConfig (ctx : Initialize) (guardianBot squadsMultisig : Pubkey)
      (rest : List AccountInfo)
      (hix : call.ix = .initializeConfig guardianBot squadsMultisig)
      (haccounts : call.accounts = ctx.config :: ctx.targetProtocol :: ctx.payer.1 :: rest)
      (hpda : A.configAddress ctx.targetProtocol.key = some (ctx.config.key, ctx.bump)) :
      Committed A call none (some (initializeConfig ctx guardianBot squadsMultisig).1)
        (initializeConfig ctx guardianBot squadsMultisig).2
  | guardianPause (ctx : GuardianPause) (reason : PauseReason) (info : AccountInfo)
      (out : Output)
      (hix : call.ix = .guardianPause reason)
      (haccounts : call.accounts = info :: ctx.guardianBot.1 :: ctx.remainingAccounts)
      (hone : A.hasOne ctx.config.guardianBot .guardianBot
        [(.config, info), (.guardianBot, ctx.guardianBot.1)] = true)
      (hpaused : ctx.config.isPaused = false)
      (hlimit : ctx.config.consecutivePauses < 2)
      (hcpis : sendPause ctx.config call.cpiAccepted ctx.remainingAccounts = .ok out.cpis)
      (hevents : out.events = [.circuitBreakerPaused ctx.config.targetProtocol
        ctx.guardianBot.1.key reason.code call.clock.slot call.clock.unixTimestamp]) :
      Committed A call (some ctx.config) (some (ctx.config.pause call.clock)) out
  | unpause (ctx : Unpause) (info : AccountInfo) (rest : List AccountInfo) (out : Output)
      (hix : call.ix = .unpause)
      (haccounts : call.accounts = info :: ctx.squadsMultisig.1 :: rest)
      (hone : A.hasOne ctx.config.admin .admin
        [(.config, info), (.squadsMultisig, ctx.squadsMultisig.1)] = true)
      (hpaused : ctx.config.isPaused = true)
      (hcpis : out.cpis = []) :
      Committed A call (some ctx.config) (some ctx.config.unpause) out

/-- **Inversion** of a committed call. -/
theorem process_ok {slot slot' : Option GuardianConfig} {call : Call} {out : Output}
    (h : process A slot call = .ok (slot', out)) : Committed A call slot slot' out := by
  unfold process at h
  split at h
  · rename_i bot squads hix
    rw [bind_ok] at h
    obtain ⟨ctx, hctx, h⟩ := h
    obtain ⟨rfl, -, hpda, rest, hacc⟩ := Initialize.tryAccounts_ok hctx
    cases h
    exact .initializeConfig ctx bot squads rest hix hacc hpda
  · rename_i reason hix
    rw [bind_ok] at h
    obtain ⟨ctx, hctx, h⟩ := h
    obtain ⟨info, hacc, rfl, -, -, hone⟩ := GuardianPause.tryAccounts_ok.mp hctx
    rw [bind_ok] at h
    obtain ⟨r, hr, h⟩ := h
    simp only [guardianPause, bind_ok, require_ok, Bool.not_eq_true', decide_eq_true_iff] at hr
    obtain ⟨-, hpaused, -, hlimit, cpis, hcpis, hr⟩ := hr
    cases hr
    cases h
    exact .guardianPause ctx reason info _ hix hacc hone hpaused hlimit hcpis rfl
  · rename_i hix
    rw [bind_ok] at h
    obtain ⟨ctx, hctx, h⟩ := h
    obtain ⟨info, rest, hacc, rfl, hone⟩ := Unpause.tryAccounts_ok hctx
    rw [bind_ok] at h
    obtain ⟨r, hr, h⟩ := h
    simp only [unpause, bind_ok, require_ok] at hr
    obtain ⟨-, hpaused, hr⟩ := hr
    cases hr
    cases h
    exact .unpause ctx info rest _ hix hacc hone hpaused rfl

/-- A committed call of the program commits at the account that it names. -/
theorem program_ok {s s' : Store} {call : Call} {out : Output}
    (h : (program A).step s call = .ok (s', out)) :
    ∃ key slot', call.configKey = some key ∧ Committed A call (s key) slot' out ∧
      s' = Function.update s key slot' := by
  obtain ⟨key, slot', hkey, hstep, rfl⟩ := Transact.keyed_step_ok h
  exact ⟨key, slot', hkey, process_ok hstep, rfl⟩

/-! ## The pause that is sent -/

theorem sendPause_nil {config : GuardianConfig} {accepted : Bool} :
    sendPause config accepted [] = .ok [] := rfl

/-- The pause with a target program. The infos that `invoke_signed` gets are those of the target
program alone, and they must cover the target protocol's account, so only a program that is the
target protocol itself is asked. -/
theorem sendPause_eq (config : GuardianConfig) (accepted : Bool) (targetProgram : AccountInfo)
    (rest : List AccountInfo) :
    sendPause config accepted (targetProgram :: rest) =
      if targetProgram.key = config.targetProtocol then
        (require accepted .invokedProgramFailed).map fun _ =>
          [pauseInstruction config.targetProtocol config.targetProtocol]
      else .error .missingAccount := by
  by_cases h : targetProgram.key = config.targetProtocol
  · cases accepted <;>
      simp [sendPause, invokeSigned, pauseInstruction, AccountMeta.new, require, h, bind,
        Except.bind, Except.map]
  · simp [sendPause, invokeSigned, pauseInstruction, AccountMeta.new, require, h, bind, Except.bind]

/-- A pause that is sent names the target protocol itself as the program. -/
theorem sendPause_cons {config : GuardianConfig} {accepted : Bool} {targetProgram : AccountInfo}
    {rest : List AccountInfo} {cpis : List Instruction}
    (h : sendPause config accepted (targetProgram :: rest) = .ok cpis) :
    targetProgram.key = config.targetProtocol ∧
      cpis = [pauseInstruction config.targetProtocol config.targetProtocol] := by
  rw [sendPause_eq] at h
  split at h
  · rename_i hkey
    cases accepted with
    | false => cases h
    | true => exact ⟨hkey, (Except.ok.inj h).symm⟩
  · cases h

/-! ## A sample deployment

The program with the id `09…09`, the target protocol `03…03`, the guardian bot `04…04` and the
multisig `05…05`. The address is the one that `find_program_address` gives there, at bump 255, and
`has_one` compares with the account of the named field. -/

def sampleKey (b : UInt8) : Pubkey := Vector.replicate 32 b

/-- The address of the config of the target protocol `03…03`. -/
def sampleAddress : Pubkey :=
  #v[155, 131, 205, 43, 228, 23, 113, 106, 212, 44, 65, 255, 36, 154, 249, 221, 76, 199, 167, 241,
    55, 128, 209, 104, 1, 15, 204, 124, 247, 163, 155, 30]

def sampleAnchor : Anchor where
  createProgramAddress seeds :=
    if seeds = configSeeds (sampleKey 3) ++ [[255]] then some sampleAddress else none
  hasOne stored f accounts := accounts.any fun a => a.1 = f && a.2.key = stored

def sampleClock : Clock := { slot := 446058200, unixTimestamp := 1700000000 }

def sampleAccount (key : Pubkey) (isSigner : Bool) : AccountInfo :=
  { key, isSigner, isWritable := true, executable := false }

def sampleInit : Call :=
  { ix := .initializeConfig (sampleKey 4) (sampleKey 5)
    accounts := [sampleAccount sampleAddress false, sampleAccount (sampleKey 3) false,
      sampleAccount (sampleKey 6) true, { sampleAccount systemProgramId false with executable := true }]
    clock := sampleClock
    cpiAccepted := true }

/-- A pause by the guardian bot, with some remaining accounts. -/
def samplePause (remainingAccounts : List AccountInfo) : Call :=
  { ix := .guardianPause .oracleDivergence
    accounts := sampleAccount sampleAddress false :: sampleAccount (sampleKey 4) true ::
      remainingAccounts
    clock := sampleClock
    cpiAccepted := true }

/-- The remaining account of a pause that reaches the target protocol `03…03`. -/
def sampleTarget : AccountInfo :=
  { key := sampleKey 3, isSigner := false, isWritable := true, executable := true }

example : (((program sampleAnchor).exec genesis [sampleInit, samplePause []]) sampleAddress).map
    (·.isPaused) = some true := by decide

end Program
end SolanaGuardian
