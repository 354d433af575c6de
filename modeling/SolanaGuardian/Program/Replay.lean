import SolanaGuardian.Program.Authority
import SolanaGuardian.Program.Breaker

/-!
# The event log of the program

Every committed call emits one event, and an off-chain reader sees the events of all target
protocols in one stream. `Record` is what such a reader keeps for each protocol, and `Record.take` is
how it reads one event. It refuses an event that does not fit what it knows: a second `initialize`,
a pause of a paused protocol or by another key than the recorded guardian bot, an unpause of a live
protocol or by another key than the recorded admin.

* `process_unpause`: what a committed unpause emits.
* `viewOf_update`: a call that writes one account changes the record of its protocol alone.
* `event_log_replays` is the result: the reader refuses no event of any run, and its record is the
  whole store, every field of every account included.
-/

namespace SolanaGuardian
namespace Program

/-! ## The reader -/

/-- What the events of one target protocol say. -/
structure View where
  admin : Pubkey
  guardianBot : Pubkey
  pausedSince : Option Int64
  deriving DecidableEq

/-- The protocols that a reader knows. -/
abbrev Record := Pubkey → Option View

/-- A reader before the first event. -/
def Record.empty : Record := fun _ => none

/-- A pause or unpause of a known protocol, if it fits. -/
def Record.change (r : Record) (target : Pubkey) (fits : View → Bool) (f : View → View) :
    Option Record :=
  match r target with
  | some v => if fits v then some (Function.update r target (some (f v))) else none
  | none => none

/-- What a reader does with one event; `none` is a refusal. -/
def Record.take (r : Record) : Event → Option Record
  | .guardianInitialized target admin guardianBot =>
    if r target = none then
      some (Function.update r target (some ⟨admin, guardianBot, none⟩))
    else none
  | .circuitBreakerPaused target caller _ _ timestamp =>
    r.change target (fun v => v.pausedSince = none && caller = v.guardianBot)
      fun v => { v with pausedSince := some timestamp }
  | .circuitBreakerUnpaused target admin _ _ =>
    r.change target (fun v => v.pausedSince.isSome && admin = v.admin)
      fun v => { v with pausedSince := none }

/-- The events of a run, in order. -/
def eventLog (A : Anchor) (calls : List Call) : List Event :=
  ((program A).log genesis calls).flatMap (·.2.events)

/-! ## The view of an account -/

/-- What the events say about an account. -/
def GuardianConfig.view (config : GuardianConfig) : View :=
  { admin := config.admin
    guardianBot := config.guardianBot
    pausedSince := if config.isPaused then some config.pausedAt else none }

/-- The account of a target protocol with that view. -/
def View.restore (v : View) (targetProtocol : Pubkey) (bump : UInt8) : GuardianConfig :=
  { admin := v.admin
    guardianBot := v.guardianBot
    targetProtocol
    isPaused := v.pausedSince.isSome
    consecutivePauses := if v.pausedSince.isSome then 1 else 0
    pausedAt := v.pausedSince.getD 0
    bump }

/-- An account that represents a breaker is restored from its view. -/
theorem restore_view {config : GuardianConfig} {b : Breaker} (h : Represents config b) :
    config.view.restore config.targetProtocol config.bump = config := by
  obtain ⟨hcount, hzero, -⟩ := h.fields
  cases hp : config.isPaused with
  | false =>
    rw [hp] at hcount
    have hcount : config.consecutivePauses = 0 := hcount
    obtain ⟨⟩ := config
    simp_all [GuardianConfig.view, View.restore]
  | true =>
    rw [hp] at hcount
    have hcount : config.consecutivePauses = 1 := hcount
    obtain ⟨⟩ := config
    simp_all [GuardianConfig.view, View.restore]

variable {A : Anchor}

/-- The account of a target protocol in a store. -/
def accountOf (A : Anchor) (s : Store) (target : Pubkey) : Option GuardianConfig :=
  (A.configAddress target).bind fun r => (s r.1).filter (·.targetProtocol = target)

/-- What a reader should know about a store. -/
def viewOf (A : Anchor) (s : Store) : Record := fun target =>
  (accountOf A s target).map (·.view)

theorem accountOf_some {s : Store} {target : Pubkey} {config : GuardianConfig} :
    accountOf A s target = some config ↔
      config.targetProtocol = target ∧
        ∃ key bump, A.configAddress target = some (key, bump) ∧ s key = some config := by
  simp only [accountOf, Option.bind_eq_some_iff, Option.filter_eq_some_iff, decide_eq_true_eq,
    Prod.exists]
  grind

/-- A call that writes the account of a protocol changes the record of that protocol alone. -/
theorem viewOf_update {s : Store} {key : Pubkey} {config : GuardianConfig}
    (hkey : A.configAddress config.targetProtocol = some (key, config.bump))
    (hslot : ∀ old, s key = some old → old.targetProtocol = config.targetProtocol) :
    viewOf A (Function.update s key (some config)) =
      Function.update (viewOf A s) config.targetProtocol (some config.view) := by
  funext target
  by_cases ht : target = config.targetProtocol
  · subst ht
    simp [viewOf, accountOf, hkey]
  · rw [Function.update_of_ne ht]
    simp only [viewOf, accountOf]
    cases hq : A.configAddress target with
    | none => rfl
    | some r =>
      by_cases hk : r.1 = key
      · have hne : config.targetProtocol ≠ target := fun h => ht h.symm
        cases hs : s key with
        | none => simp [hk, hs, Option.filter_some, hne]
        | some old =>
          have hold := hslot old hs
          simp [hk, hs, Option.filter_some, hne, hold]
      · simp [Function.update_of_ne hk]

/-! ## One event -/

/-- What a committed unpause emits. -/
theorem process_unpause {slot slot' : Option GuardianConfig} {call : Call} {out : Output}
    (h : process A slot call = .ok (slot', out)) (hix : call.ix = .unpause) :
    ∃ (ctx : Unpause) (info : AccountInfo), slot = some ctx.config ∧
      slot' = some ctx.config.unpause ∧ ctx.config.isPaused = true ∧
      A.hasOne ctx.config.admin .admin
        [(.config, info), (.squadsMultisig, ctx.squadsMultisig.1)] = true ∧
      out.events = [.circuitBreakerUnpaused ctx.config.targetProtocol ctx.squadsMultisig.1.key
        call.clock.slot call.clock.unixTimestamp] := by
  unfold process at h
  simp only [hix, bind_ok] at h
  obtain ⟨ctx, hctx, r, hr, h⟩ := h
  obtain ⟨info, rest, -, hslot, hone⟩ := Unpause.tryAccounts_ok hctx
  simp only [unpause, bind_ok, require_ok] at hr
  obtain ⟨-, hpaused, hr⟩ := hr
  cases hr
  cases h
  exact ⟨ctx, info, hslot, rfl, hpaused, hone, rfl⟩

/-- The events of one committed call, and what a reader does with them. -/
theorem take_step (hone : A.HasOneSound) {pre : List Call} {call : Call} {s' : Store}
    {out : Output} (h : (program A).step ((program A).exec genesis pre) call = .ok (s', out)) :
    out.events.foldlM Record.take (viewOf A ((program A).exec genesis pre)) =
      some (viewOf A s') := by
  obtain ⟨key, slot', hkey, hstep, rfl⟩ := Transact.keyed_step_ok h
  -- The account before the call, when there is one, is at the address of its target protocol.
  have hknown : ∀ config, (program A).exec genesis pre key = some config →
      A.configAddress config.targetProtocol = some (key, config.bump) ∧
      viewOf A ((program A).exec genesis pre) config.targetProtocol = some config.view := by
    intro config hc
    obtain ⟨-, haddr⟩ := identified_at hc
    refine ⟨haddr, ?_⟩
    rw [viewOf, accountOf_some.mpr ⟨rfl, key, config.bump, haddr, hc⟩]
    rfl
  have hsame : ∀ config old, (program A).exec genesis pre key = some config →
      (program A).exec genesis pre key = some old → old.targetProtocol = config.targetProtocol := by
    intro config old hc hold
    rw [hc] at hold
    cases hold
    rfl
  by_cases hix : call.ix = .unpause
  · obtain ⟨ctx, info, hslot, rfl, hpaused, ho, hevents⟩ := process_unpause hstep hix
    obtain ⟨haddr, hview⟩ := hknown _ hslot
    have hsigner := hone.signer (by decide) ho
    rw [@viewOf_update A _ key ctx.config.unpause haddr (fun old => hsame ctx.config old hslot), hevents]
    simp [Record.take, Record.change, hview, GuardianConfig.view, GuardianConfig.unpause, hpaused,
      hsigner]
  · have hcommit := process_ok hstep
    generalize hslot : (program A).exec genesis pre key = slot at hcommit
    cases hcommit with
    | initializeConfig ctx bot squads rest hix hacc hpda =>
      have hk : ctx.config.key = key := by simpa [Call.configKey, hacc] using hkey
      subst hk
      have hview : viewOf A ((program A).exec genesis pre) ctx.targetProtocol.key = none := by
        simp [viewOf, accountOf, hpda, hslot]
      have hfresh : ∀ old, (program A).exec genesis pre ctx.config.key = some old →
          old.targetProtocol = ctx.targetProtocol.key := by simp [hslot]
      rw [viewOf_update hpda hfresh]
      simp [Record.take, initializeConfig, hview, GuardianConfig.view]
    | guardianPause ctx reason info out hix hacc ho hpaused hlimit hcpis hevents =>
      obtain ⟨haddr, hview⟩ := hknown _ hslot
      have hsigner := hone.signer (by decide) ho
      rw [@viewOf_update A _ key (ctx.config.pause call.clock) haddr (fun old => hsame ctx.config old hslot), hevents]
      simp [Record.take, Record.change, hview, GuardianConfig.view, GuardianConfig.pause, hpaused,
        hsigner]
    | unpause ctx info rest out hix' => exact absurd hix' hix

/-! ## The whole log -/

/-- A reader of the whole log knows the store. -/
theorem eventLog_viewOf (hone : A.HasOneSound) (calls : List Call) :
    (eventLog A calls).foldlM Record.take Record.empty =
      some (viewOf A ((program A).exec genesis calls)) := by
  have hempty : viewOf A genesis = Record.empty := by
    funext target
    simp only [viewOf, accountOf, genesis, Record.empty]
    cases A.configAddress target <;> rfl
  rw [← hempty]
  exact Transact.Machine.replay_rule calls fun pre call s' out h => take_step hone h

/-- **The event log is the store**, over every run: a reader that checks each event against what
it knows refuses none, and the accounts are those that its record restores. -/
theorem event_log_replays (A : Anchor) (hone : A.HasOneSound) (calls : List Call) :
    ∃ record, (eventLog A calls).foldlM Record.take Record.empty = some record ∧
      ∀ key config, (program A).exec genesis calls key = some config ↔
        ∃ target bump v, A.configAddress target = some (key, bump) ∧ record target = some v ∧
          config = v.restore target bump := by
  refine ⟨_, eventLog_viewOf hone calls, fun key config => ⟨fun hc => ?_, ?_⟩⟩
  · obtain ⟨-, haddr⟩ := identified_at hc
    obtain ⟨b, -, hrep⟩ := represents_at hc
    refine ⟨_, _, config.view, haddr, ?_, (restore_view hrep).symm⟩
    rw [viewOf, accountOf_some.mpr ⟨rfl, key, config.bump, haddr, hc⟩]
    rfl
  · rintro ⟨target, bump, v, haddr, hv, rfl⟩
    obtain ⟨config, hacc, rfl⟩ := Option.map_eq_some_iff.mp hv
    obtain ⟨rfl, key', bump', haddr', hc⟩ := accountOf_some.mp hacc
    rw [haddr] at haddr'
    cases haddr'
    obtain ⟨-, hat⟩ := identified_at hc
    obtain ⟨b, -, hrep⟩ := represents_at hc
    rw [haddr] at hat
    cases hat
    rw [restore_view hrep]
    exact hc

theorem event_log_replays_sample :
    ∃ record, [Event.guardianInitialized (sampleKey 3) (sampleKey 5) (sampleKey 4),
        .circuitBreakerPaused (sampleKey 3) (sampleKey 4) 0 446058200 1700000000].foldlM
        Record.take Record.empty = some record ∧
      ∃ v, record (sampleKey 3) = some v := by
  obtain ⟨record, hlog, hstore⟩ := event_log_replays sampleAnchor sampleAnchor_hasOneByName.sound
    [sampleInit, samplePause []]
  refine ⟨record, hlog, ?_⟩
  obtain ⟨target, bump, v, haddr, hv, hc⟩ := (hstore sampleAddress _).mp rfl
  have ht : sampleKey 3 = target := congrArg (·.targetProtocol) hc
  exact ⟨v, ht ▸ hv⟩

end Program
end SolanaGuardian
