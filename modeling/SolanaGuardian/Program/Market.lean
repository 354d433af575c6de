import SolanaGuardian.Program.Breaker
import SolanaGuardian.Program.Identity

/-!
# The target markets

The program next to the protocols that it guards (`system`). A target protocol has a paused flag,
which a delivered instruction with the data `[0x01]` sets and nothing takes back: the program sends
no other instruction.

* `flag_iff`: the flag of a protocol is set exactly if a committed pause of its config carried a
  remaining account.
* `paused_of_flag`: while no unpause follows a delivered pause, the config is paused as long as the
  market is.
* `pause_reaches_market`: what a committed `guardian_pause` leaves on both sides, and how far the
  two sides agree.
* `pause_without_market`: a pause that carries no remaining account is local, and an `unpause`
  sends nothing.
-/

namespace SolanaGuardian
namespace Program

/-- The paused flags of the target protocols. -/
abbrev Flags := Pubkey → Bool

/-- A program receives an instruction: the data `[0x01]` is a pause. -/
def deliver (flags : Flags) (cpi : Instruction) : Flags :=
  if cpi.data = [0x01] then Function.update flags cpi.programId true else flags

/-- The program next to the target protocols, which receive what its calls send. -/
def system (A : Anchor) : Transact.Machine (Store × Flags) Call ProgramError Output :=
  Transact.observed (program A) fun flags out => out.cpis.foldl deliver flags

/-- No account, and no market paused. -/
def start : Store × Flags := (genesis, fun _ => false)

/-- The call is a pause with a remaining account. -/
def Call.carriesTarget (call : Call) : Bool :=
  match call.ix with
  | .guardianPause _ => 2 < call.accounts.length
  | _ => false

theorem deliver_iff (P : Pubkey) (flags : Flags) (cpi : Instruction) :
    deliver flags cpi P = true ↔ flags P = true ∨ cpi.data = [0x01] ∧ cpi.programId = P := by
  unfold deliver
  split
  · rename_i hdata
    by_cases hP : cpi.programId = P
    · subst hP
      simp [hdata]
    · rw [Function.update_of_ne (Ne.symm hP)]
      simp [hP]
  · rename_i hdata
    simp [hdata]

variable {A : Anchor}

/-- The flag of a protocol after a run: some committed call sent it a pause. -/
theorem flag_sent (calls : List Call) (P : Pubkey) :
    ((system A).exec start calls).2 P = true ↔
      ∃ r ∈ (program A).log genesis calls, ∃ cpi ∈ r.2.cpis,
        cpi.data = [0x01] ∧ cpi.programId = P := by
  have hout : ∀ (flags : Flags) (r : Call × Output),
      (r.2.cpis.foldl deliver flags) P = true ↔
        flags P = true ∨ ∃ cpi ∈ r.2.cpis, cpi.data = [0x01] ∧ cpi.programId = P := by
    intro flags r
    exact Transact.foldl_learned (fun f : Flags => f P = true) (deliver_iff P) flags r.2.cpis
  have hrun := Transact.foldl_learned (fun f : Flags => f P = true) hout start.2
    ((program A).log genesis calls)
  rw [system, Transact.observed_snd]
  exact hrun.trans (by simp [start])

/-- What a committed call sends: a pause that carries a remaining account sends one pause, to the
target protocol of the account; no other call sends anything. -/
theorem Committed.sent {call : Call} {slot slot' : Option GuardianConfig} {out : Output}
    (h : Committed A call slot slot' out) :
    (call.carriesTarget = true ∧ ∃ config, slot' = some config ∧
      out.cpis = [pauseInstruction config.targetProtocol config.targetProtocol]) ∨
    (call.carriesTarget = false ∧ out.cpis = []) := by
  cases h with
  | initializeConfig ctx bot squads rest hix =>
    right
    exact ⟨by rw [Call.carriesTarget, hix], rfl⟩
  | unpause ctx info rest out hix _ _ _ hcpis =>
    right
    exact ⟨by rw [Call.carriesTarget, hix], hcpis⟩
  | guardianPause ctx reason info out hix hacc _ _ _ hcpis =>
    cases hrem : ctx.remainingAccounts with
    | nil =>
      right
      rw [hrem, sendPause_nil] at hcpis
      have hnone : out.cpis = [] := (Except.ok.inj hcpis).symm
      exact ⟨by simp [Call.carriesTarget, hix, hacc, hrem], hnone⟩
    | cons target rest =>
      left
      rw [hrem] at hcpis
      obtain ⟨-, hsent⟩ := sendPause_cons hcpis
      exact ⟨by simp [Call.carriesTarget, hix, hacc, hrem], _, rfl, hsent⟩

/-- What a committed call of a run sent, next to the account as the run leaves it. -/
theorem log_sent {calls : List Call} {call : Call} {out : Output}
    (h : (call, out) ∈ (program A).log genesis calls) :
    (call.carriesTarget = true ∧ ∃ key config, call.configKey = some key ∧
      (program A).exec genesis calls key = some config ∧
      out.cpis = [pauseInstruction config.targetProtocol config.targetProtocol]) ∨
    (call.carriesTarget = false ∧ out.cpis = []) := by
  obtain ⟨pre, post, s', rfl, hs⟩ := Transact.Machine.mem_log h
  obtain ⟨key, slot', hk, hcommit, rfl⟩ := program_ok hs
  rcases hcommit.sent with ⟨hcarries, config, rfl, hsent⟩ | hnone
  · have hafter : (program A).exec genesis (pre ++ [call]) key = some config := by
      rw [Transact.Machine.exec_concat, Transact.Machine.next_ok hs, Function.update_self]
    obtain ⟨last, hlast, hargs, -⟩ := identity_kept post hafter
    have htarget : last.targetProtocol = config.targetProtocol := congrArg (·.targetProtocol) hargs
    rw [List.append_assoc] at hlast
    exact .inl ⟨hcarries, key, last, hk, hlast, by rw [htarget]; exact hsent⟩
  · exact .inr hnone

/-- Two accounts of one target protocol are one account. -/
theorem same_target {calls : List Call} {key key' : Pubkey} {config config' : GuardianConfig}
    (hc : (program A).exec genesis calls key = some config)
    (hc' : (program A).exec genesis calls key' = some config')
    (h : config.targetProtocol = config'.targetProtocol) : key = key' := by
  obtain ⟨-, haddr⟩ := identified_at hc
  obtain ⟨-, haddr'⟩ := identified_at hc'
  rw [h, haddr'] at haddr
  exact (congrArg Prod.fst (Option.some.inj haddr)).symm

/-- **Delivery.** The market of an account is paused exactly if a committed pause of the account
carried a remaining account. -/
theorem flag_iff {calls : List Call} {key : Pubkey} {config : GuardianConfig}
    (hc : (program A).exec genesis calls key = some config) :
    ((system A).exec start calls).2 config.targetProtocol = true ↔
      ∃ r ∈ committedAt A calls key, r.1.carriesTarget = true := by
  rw [flag_sent]
  constructor
  · rintro ⟨⟨call, out⟩, hlog, cpi, hcpi, -, hP⟩
    rcases log_sent hlog with ⟨hcarries, key', config', hk, hc', hsent⟩ | ⟨-, hnone⟩
    · have hcpis : cpi ∈ out.cpis := hcpi
      rw [hsent, List.mem_singleton] at hcpis
      have htarget : config.targetProtocol = config'.targetProtocol := by rw [← hP, hcpis]; rfl
      have hkey : key' = key := (same_target hc hc' htarget).symm
      exact ⟨(call, out), List.mem_filter.mpr ⟨hlog, by simp [hk, hkey]⟩, hcarries⟩
    · rw [hnone] at hcpi
      cases hcpi
  · rintro ⟨⟨call, out⟩, hr, hcarries⟩
    obtain ⟨hlog, hk⟩ := List.mem_filter.mp hr
    rcases log_sent hlog with ⟨-, key', config', hk', hc', hsent⟩ | ⟨hno, -⟩
    · have hkey : key' = key := by simpa [hk'] using hk
      rw [hkey, hc] at hc'
      cases hc'
      exact ⟨(call, out), hlog, _, by rw [hsent]; exact List.mem_singleton_self _, rfl, rfl⟩
    · rw [hcarries] at hno
      cases hno

/-- A call that carries a target is a pause. -/
theorem Call.pause_of_carries {call : Call} (h : call.carriesTarget = true) :
    ∃ reason, call.ix = .guardianPause reason := by
  unfold carriesTarget at h
  split at h
  · rename_i reason hix
    exact ⟨reason, hix⟩
  · cases h

/-- While no unpause follows a delivered pause, a paused market has a paused account. -/
theorem paused_of_flag {calls : List Call} {key : Pubkey} {config : GuardianConfig}
    (hc : (program A).exec genesis calls key = some config)
    (hno : ∀ pre r post, committedAt A calls key = pre ++ r :: post → r.1.ix = .unpause →
      ∀ p ∈ pre, p.1.carriesTarget = false)
    (hflag : ((system A).exec start calls).2 config.targetProtocol = true) :
    config.isPaused = true := by
  obtain ⟨p, hp, hcarries⟩ := (flag_iff hc).mp hflag
  obtain ⟨reason, hix⟩ := Call.pause_of_carries hcarries
  have hswitch : p.1.switch.isSome = true := by rw [Call.switch, hix]; rfl
  rw [paused_iff hc]
  cases hlast : lastSwitch (committedAt A calls key) with
  | none =>
    rw [lastSwitch, List.getLast?_eq_none_iff, List.filter_eq_nil_iff] at hlast
    exact absurd hswitch (hlast p hp)
  | some r =>
    obtain ⟨hsome, pre, post, hlog, hpost⟩ := lastSwitch_split hlast
    refine ⟨r, rfl, ?_⟩
    cases hr : r.1.ix with
    | guardianPause reason' => exact ⟨reason', rfl⟩
    | initializeConfig bot squads => simp [Call.switch, hr] at hsome
    | unpause =>
      -- The delivered pause is before the last switch, which is an unpause.
      rw [hlog] at hp
      rcases List.mem_append.mp hp with hp | hp
      · rw [hno pre r post hlog hr p hp] at hcarries
        cases hcarries
      · rcases List.mem_cons.mp hp with rfl | hp
        · rw [hix] at hr
          cases hr
        · rw [hpost p hp] at hswitch
          cases hswitch

/-- A committed `guardian_pause`, on both sides. -/
theorem pause_step {s s' : Store × Flags} {call : Call} {out : Output} {key : Pubkey}
    {config : GuardianConfig} {reason : PauseReason}
    (h : (system A).step s call = .ok (s', out)) (hk : call.configKey = some key)
    (hix : call.ix = .guardianPause reason) (hc : s.1 key = some config) :
    (∃ config', s'.1 key = some config' ∧ config'.isPaused = true ∧
      config'.targetProtocol = config.targetProtocol) ∧
    (∃ caller, out.events = [.circuitBreakerPaused config.targetProtocol caller reason.code
      call.clock.slot call.clock.unixTimestamp]) ∧
    (call.carriesTarget = true → s'.2 config.targetProtocol = true) ∧
    (call.carriesTarget = false → out.cpis = [] ∧ s'.2 = s.2) := by
  obtain ⟨hs, hflags⟩ := Transact.observed_step_ok h
  obtain ⟨k, slot', hk', hcommit, hs'⟩ := program_ok hs
  have hkey : k = key := by rw [hk'] at hk; exact Option.some.inj hk
  subst hkey
  have hsent := hcommit.sent
  rw [hc] at hcommit
  cases hcommit with
  | unpause ctx info rest out hix' => rw [hix] at hix'; cases hix'
  | guardianPause ctx reason' info out hix' _ _ _ _ _ hevents =>
    rw [hix] at hix'
    cases hix'
    have hafter : s'.1 k = some (ctx.config.pause call.clock) := by
      rw [hs', Function.update_self]
    refine ⟨⟨_, hafter, rfl, rfl⟩, ⟨_, hevents⟩, fun hcarries => ?_, fun hno => ?_⟩
    · rcases hsent with ⟨-, config', hconfig', hcpis⟩ | ⟨hno, -⟩
      · cases hconfig'
        rw [hflags, hcpis, List.foldl_cons, List.foldl_nil, deliver_iff]
        exact .inr ⟨rfl, rfl⟩
      · rw [hcarries] at hno
        cases hno
    · rcases hsent with ⟨hcarries, -⟩ | ⟨-, hnone⟩
      · rw [hno] at hcarries
        cases hcarries
      · exact ⟨hnone, by rw [hflags, hnone]; rfl⟩

/-- **The pause and its market**, over every run of the program on any target protocols. -/
theorem pause_reaches_market (A : Anchor) (calls : List Call) (key : Pubkey)
    (config : GuardianConfig) (hc : ((system A).exec start calls).1 key = some config) :
    (∀ call s' out reason, (system A).step ((system A).exec start calls) call = .ok (s', out) →
      call.configKey = some key → call.ix = .guardianPause reason →
      (∃ config', s'.1 key = some config' ∧ config'.isPaused = true ∧
        config'.targetProtocol = config.targetProtocol) ∧
      (∃ caller, out.events = [.circuitBreakerPaused config.targetProtocol caller reason.code
        call.clock.slot call.clock.unixTimestamp]) ∧
      (call.carriesTarget = true → s'.2 config.targetProtocol = true) ∧
      (call.carriesTarget = false → out.cpis = [] ∧ s'.2 = ((system A).exec start calls).2)) ∧
    (((system A).exec start calls).2 config.targetProtocol = true →
      ∃ r ∈ committedAt A calls key, r.1.carriesTarget = true) ∧
    ((∀ pre r post, committedAt A calls key = pre ++ r :: post → r.1.ix = .unpause →
        ∀ p ∈ pre, p.1.carriesTarget = false) →
      (((system A).exec start calls).2 config.targetProtocol = true → config.isPaused = true) ∧
      ((∀ r reason, lastSwitch (committedAt A calls key) = some r →
          r.1.ix = .guardianPause reason → r.1.carriesTarget = true) →
        (config.isPaused = true ↔
          ((system A).exec start calls).2 config.targetProtocol = true))) := by
  have hexec : (program A).exec genesis calls key = some config := by
    rw [system, Transact.observed_fst] at hc
    exact hc
  have hflag := flag_iff hexec
  refine ⟨fun call s' out reason hs hk hix => pause_step hs hk hix hc, hflag.mp, fun hno => ?_⟩
  have hpaused := paused_of_flag hexec hno
  refine ⟨hpaused, fun hforce => ⟨fun hp => ?_, hpaused⟩⟩
  obtain ⟨r, hlast, reason, hix⟩ := (paused_iff hexec).mp hp
  obtain ⟨-, pre, post, hlog, -⟩ := lastSwitch_split hlast
  exact hflag.mpr ⟨r, by rw [hlog]; simp, hforce r reason hlast hix⟩

theorem pause_reaches_market_sample :
    ∃ s' out, (system sampleAnchor).step ((system sampleAnchor).exec start [sampleInit])
      (samplePause [sampleTarget]) = .ok (s', out) ∧ s'.2 (sampleKey 3) = true := by
  refine ⟨_, _, rfl, ?_⟩
  obtain ⟨hpause, -⟩ := pause_reaches_market sampleAnchor [sampleInit] sampleAddress _ rfl
  exact (hpause (samplePause [sampleTarget]) _ _ _ rfl rfl rfl).2.2.1 rfl

/-! ## Where the two sides part -/

/-- A deployment whose `has_one` compares with the accounts besides the config, so that the
multisig can unpause. -/
def sampleSquadsAnchor : Anchor :=
  { sampleAnchor with
    hasOne := fun stored _ accounts => accounts.any fun a => a.1 ≠ .config && a.2.key = stored }

def sampleUnpause : Call :=
  { ix := .unpause
    accounts := [sampleAccount sampleAddress false, sampleAccount (sampleKey 5) true]
    clock := sampleClock
    cpiAccepted := true }

/-- The config's flag and the market's flag after a run of the sample deployment. -/
def sampleFlags (A : Anchor) (calls : List Call) : Option (Bool × Bool) :=
  (((system A).exec start calls).1 sampleAddress).map fun config =>
    (config.isPaused, ((system A).exec start calls).2 config.targetProtocol)

/-- A pause without a remaining account commits and leaves the market running; after a pause that
reached the market, an unpause commits and leaves the market paused. -/
theorem pause_without_market :
    sampleFlags sampleAnchor [sampleInit, samplePause []] = some (true, false) ∧
    ((system sampleAnchor).log start [sampleInit, samplePause []]).map (·.1) =
      [sampleInit, samplePause []] ∧
    sampleFlags sampleSquadsAnchor [sampleInit, samplePause [sampleTarget], sampleUnpause] =
      some (false, true) := by
  refine ⟨by decide, by decide, by decide⟩

end Program
end SolanaGuardian
