import Mathlib.Data.List.Chain
import SolanaGuardian.Program.Handlers

/-!
# The breaker over whole runs

The purpose of a config account is a breaker with two states: armed, or tripped since some time
(`Breaker`). A pause trips an armed breaker and an unpause arms a tripped one; nothing else is
possible (`Breaker.switch`). Three fields of `GuardianConfig` record that state (`Represents`).

* `committed_refines`: a committed call is a switch of the breaker, or leaves it.
* `run_refines`: after every run, the account represents the breaker that the committed pauses and
  unpauses at its address lead to.
* `paused_iff`: an account is paused exactly if the last committed switch (`lastSwitch`) is a pause.
* `breaker_invariant`: the consequences for the fields, for the order of pauses and unpauses and
  for the limit of two pauses, which no run reaches.
-/

namespace SolanaGuardian
namespace Program

/-! ## The abstract breaker -/

/-- A breaker is armed, or tripped since a time. -/
inductive Breaker where
  | armed
  | tripped (since : Int64)
  deriving DecidableEq

/-- A pause at a time, or an unpause. -/
inductive Switch where
  | pause (time : Int64)
  | unpause
  deriving DecidableEq

namespace Switch

def isPause : Switch → Bool
  | .pause _ => true
  | .unpause => false

def pauseTime : Switch → Option Int64
  | .pause t => some t
  | .unpause => none

end Switch

/-- Pauses and unpauses take turns, and a pause is first. -/
def Alternates (l : List Switch) : Prop :=
  (∀ s ∈ l.head?, s.isPause = true) ∧ l.IsChain fun a b => a.isPause ≠ b.isPause

/-- The time of the last pause. -/
def lastPause (l : List Switch) : Option Int64 := (l.filterMap Switch.pauseTime).getLast?

namespace Breaker

def switch : Breaker → Switch → Option Breaker
  | .armed, .pause t => some (.tripped t)
  | .tripped _, .unpause => some .armed
  | _, _ => none

/-- The breaker after some switches, if each was possible. -/
def run (b : Breaker) (l : List Switch) : Option Breaker := l.foldlM switch b

theorem run_concat {b c d : Breaker} {l : List Switch} {s : Switch} (h : b.run l = some c)
    (hs : c.switch s = some d) : b.run (l ++ [s]) = some d := by
  simp only [run] at h
  simp [run, List.foldlM_append, h, hs]

/-- The state that the last switch leaves. -/
def after : Option Switch → Breaker
  | some (.pause t) => .tripped t
  | _ => .armed

/-- What the switches of an armed breaker look like: they alternate, and the last one is the
state. -/
theorem run_armed {l : List Switch} {b : Breaker} (h : armed.run l = some b) :
    Alternates l ∧ b = after l.getLast? := by
  induction l using List.reverseRecOn generalizing b with
  | nil =>
    cases h
    exact ⟨⟨by simp, .nil⟩, rfl⟩
  | append_singleton l s ih =>
    simp only [run, List.foldlM_append, List.foldlM_cons, List.foldlM_nil, Option.bind_eq_bind,
      Option.bind_eq_some_iff] at h
    obtain ⟨c, hc, d, hs, h⟩ := h
    cases h
    obtain ⟨⟨hhead, hchain⟩, rfl⟩ := ih hc
    -- `s` is the switch that the last one of `l` leaves possible.
    have hlast : ∀ a ∈ l.getLast?, a.isPause ≠ s.isPause := by
      intro a ha
      rw [Option.mem_def.mp ha] at hs
      cases a <;> cases s <;> simp_all [after, switch, Switch.isPause]
    refine ⟨⟨?_, ?_⟩, ?_⟩
    · intro a ha
      cases l with
      | nil =>
        cases s with
        | pause t => cases ha; rfl
        | unpause => simp [after, switch] at hs
      | cons x l => exact hhead a ha
    · rw [List.isChain_append]
      refine ⟨hchain, .singleton _, fun x hx y hy => ?_⟩
      cases hy
      exact hlast x hx
    · rw [List.getLast?_concat]
      cases hl : after l.getLast? <;> cases s <;> simp_all [after, switch]

/-- A tripped breaker is tripped since the last pause. -/
theorem lastPause_of_tripped {l : List Switch} {t : Int64} (h : armed.run l = some (.tripped t)) :
    lastPause l = some t := by
  obtain ⟨-, ht⟩ := run_armed h
  rcases List.eq_nil_or_concat' l with rfl | ⟨l, s, rfl⟩
  · cases ht
  · rw [List.getLast?_concat] at ht
    cases s with
    | pause t' =>
      cases ht
      simp [lastPause, Switch.pauseTime]
    | unpause => cases ht

end Breaker

/-! ## Refinement -/

/-- The breaker that the fields of an account record. -/
def Represents (config : GuardianConfig) : Breaker → Prop
  | .armed => config.isPaused = false ∧ config.consecutivePauses = 0 ∧ config.pausedAt = 0
  | .tripped t => config.isPaused = true ∧ config.consecutivePauses = 1 ∧ config.pausedAt = t

/-- The switch that a committed call is. -/
def Call.switch (call : Call) : Option Switch :=
  match call.ix with
  | .initializeConfig _ _ => none
  | .guardianPause _ => some (.pause call.clock.unixTimestamp)
  | .unpause => some .unpause

/-- The pauses and unpauses of some committed calls. -/
def switches (log : List (Call × Output)) : List Switch := log.filterMap (·.1.switch)

theorem switches_concat (log : List (Call × Output)) (call : Call) (out : Output) :
    switches (log ++ [(call, out)]) = switches log ++ call.switch.toList := by
  simp only [switches, List.filterMap_append, List.filterMap_cons, List.filterMap_nil]
  cases call.switch <;> rfl

/-- The account, next to the committed calls at its address. -/
def Refines (slot : Option GuardianConfig) (log : List (Call × Output)) : Prop :=
  match slot with
  | none => switches log = []
  | some config => ∃ b, Breaker.armed.run (switches log) = some b ∧ Represents config b

variable {A : Anchor}

/-- **Refinement.** A committed call switches the breaker, or leaves it. -/
theorem committed_refines {slot slot' : Option GuardianConfig} {call : Call} {out : Output}
    {log : List (Call × Output)} (h : Committed A call slot slot' out) (hr : Refines slot log) :
    Refines slot' (log ++ [(call, out)]) := by
  cases h with
  | initializeConfig ctx bot squads rest hix =>
    refine ⟨.armed, ?_, rfl, rfl, rfl⟩
    rw [switches_concat, show switches log = [] from hr, Call.switch, hix]
    rfl
  | guardianPause ctx reason info out hix _ _ hpaused =>
    obtain ⟨b, hb, hrep⟩ := hr
    cases b with
    | tripped t => rw [hrep.1] at hpaused; cases hpaused
    | armed =>
      refine ⟨.tripped call.clock.unixTimestamp, ?_, rfl, ?_, rfl⟩
      · rw [switches_concat, Call.switch, hix]
        exact Breaker.run_concat hb rfl
      · simp only [GuardianConfig.pause, hrep.2.1]
        rfl
  | unpause ctx info rest out hix _ _ hpaused =>
    obtain ⟨b, hb, hrep⟩ := hr
    cases b with
    | armed => rw [hrep.1] at hpaused; cases hpaused
    | tripped t =>
      refine ⟨.armed, ?_, rfl, rfl, rfl⟩
      rw [switches_concat, Call.switch, hix]
      exact Breaker.run_concat hb rfl

/-- After every run, every account represents the breaker that its committed calls lead to. -/
theorem run_refines (calls : List Call) (key : Pubkey) :
    Refines ((program A).exec genesis calls key) (committedAt A calls key) := by
  rw [exec_at, committedAt_eq]
  have h0 : Refines none [] := rfl
  exact Transact.Machine.run_rule h0 _ fun slot log call slot' out _ hr h =>
    committed_refines (process_ok h) hr

/-- An account of a run represents the breaker of its committed calls. -/
theorem represents_at {calls : List Call} {key : Pubkey} {config : GuardianConfig}
    (hc : (program A).exec genesis calls key = some config) :
    ∃ b, Breaker.armed.run (switches (committedAt A calls key)) = some b ∧
      Represents config b := by
  have hr := @run_refines A calls key
  rw [hc] at hr
  exact hr

/-! ## The switch in force -/

/-- The last pause or unpause of some committed calls. -/
def lastSwitch (log : List (Call × Output)) : Option (Call × Output) :=
  (log.filter (·.1.switch.isSome)).getLast?

/-- No switch comes after the last one. -/
theorem lastSwitch_split {log : List (Call × Output)} {r : Call × Output}
    (h : lastSwitch log = some r) :
    r.1.switch.isSome = true ∧ ∃ pre post, log = pre ++ r :: post ∧
      ∀ p ∈ post, p.1.switch.isSome = false := by
  rw [lastSwitch, List.getLast?_filter, List.find?_eq_some_iff_append] at h
  obtain ⟨hr, after, before, hlog, hnone⟩ := h
  refine ⟨hr, before.reverse, after.reverse, ?_, fun p hp => ?_⟩
  · rw [← List.reverse_reverse log, hlog]
    simp
  · simpa using hnone p (List.mem_reverse.mp hp)

theorem switches_getLast (log : List (Call × Output)) :
    (switches log).getLast? = (lastSwitch log).bind (·.1.switch) := by
  induction log using List.reverseRecOn with
  | nil => rfl
  | append_singleton log r ih =>
    rw [switches_concat, lastSwitch, List.filter_append]
    cases hs : r.1.switch with
    | none => simpa [lastSwitch, hs] using ih
    | some s => simp [hs]

/-- An account is paused exactly if the last switch is a pause. -/
theorem paused_iff {calls : List Call} {key : Pubkey} {config : GuardianConfig}
    (hc : (program A).exec genesis calls key = some config) :
    config.isPaused = true ↔ ∃ r, lastSwitch (committedAt A calls key) = some r ∧
      ∃ reason, r.1.ix = .guardianPause reason := by
  obtain ⟨b, hb, hrep⟩ := represents_at hc
  obtain ⟨-, hafter⟩ := Breaker.run_armed hb
  rw [switches_getLast] at hafter
  cases hlast : lastSwitch (committedAt A calls key) with
  | none =>
    rw [hlast] at hafter
    rw [hafter] at hrep
    simp [show config.isPaused = false from hrep.1]
  | some r =>
    rw [hlast, Option.bind_some] at hafter
    obtain ⟨hsome, -⟩ := lastSwitch_split hlast
    cases hix : r.1.ix with
    | initializeConfig bot squads => simp [Call.switch, hix] at hsome
    | guardianPause reason =>
      rw [Call.switch, hix] at hafter
      rw [hafter] at hrep
      simp [show config.isPaused = true from hrep.1, hix]
    | unpause =>
      rw [Call.switch, hix] at hafter
      rw [hafter] at hrep
      simp [show config.isPaused = false from hrep.1, hix]

/-! ## The limit of two pauses -/

theorem bind_error {ε α β : Type} {x : Except ε α} {f : α → Except ε β} {e : ε} :
    (x >>= f) = .error e ↔ x = .error e ∨ ∃ a, x = .ok a ∧ f a = .error e := by
  cases x with
  | error e => simp [bind, Except.bind]
  | ok a => simp [bind, Except.bind]

theorem require_error {b : Bool} {e e' : ProgramError} :
    require b e = .error e' ↔ b = false ∧ e = e' := by
  cases b <;> simp [require]

/-- The error of the limit of two pauses. -/
abbrev limitError : ProgramError := .guardian .maxConsecutivePausesExceeded

theorem nextAccount_limit (as : List AccountInfo) : nextAccount as ≠ .error limitError := by
  cases as <;> simp [nextAccount]

theorem tryFrom_limit (a : AccountInfo) : Signer.tryFrom a ≠ .error limitError := by
  unfold Signer.tryFrom
  split <;> simp

theorem tryConfig_limit (slot : Option GuardianConfig) : tryConfig slot ≠ .error limitError := by
  cases slot <;> simp [tryConfig]

/-- Anchor's checks never give the error of the limit. -/
theorem tryAccounts_limit (slot : Option GuardianConfig) (call : Call) :
    Initialize.tryAccounts A slot call ≠ .error limitError ∧
    GuardianPause.tryAccounts A slot call ≠ .error limitError ∧
    Unpause.tryAccounts A slot call ≠ .error limitError := by
  refine ⟨fun h => ?_, fun h => ?_, fun h => ?_⟩
  · simp only [Initialize.tryAccounts, bind_error, require_error, nextAccount_limit, tryFrom_limit,
      reduceCtorEq, and_false, false_or] at h
    obtain ⟨_, -, _, -, _, -, _, -, _, -, _, -, _, -, h⟩ := h
    split at h
    · cases h
    · simp [createAccount, bind_error, require_error] at h
  · simp [GuardianPause.tryAccounts, checkSeeds, bind_error, require_error, nextAccount_limit,
      tryFrom_limit, tryConfig_limit] at h
  · simp [Unpause.tryAccounts, checkSeeds, bind_error, require_error, nextAccount_limit,
      tryFrom_limit, tryConfig_limit] at h

theorem sendPause_limit (config : GuardianConfig) (accepted : Bool) (as : List AccountInfo) :
    sendPause config accepted as ≠ .error limitError := by
  unfold sendPause
  split <;> simp [invokeSigned, bind_error, require_error]

/-- The limit rejects a call only at an account that is not paused and has two pauses. -/
theorem process_limit {slot : Option GuardianConfig} {call : Call}
    (h : process A slot call = .error limitError) :
    ∃ config, slot = some config ∧ config.isPaused = false ∧ ¬ config.consecutivePauses < 2 := by
  obtain ⟨hinit, hpause, hunpause⟩ := @tryAccounts_limit A slot call
  unfold process at h
  split at h
  · simp [bind_error, hinit] at h
  · rw [bind_error] at h
    obtain h | ⟨ctx, hctx, h⟩ := h
    · exact absurd h hpause
    obtain ⟨info, -, hslot, -⟩ := GuardianPause.tryAccounts_ok.mp hctx
    simp only [guardianPause, bind_error, require_error, sendPause_limit, require_ok,
      Bool.not_eq_true', reduceCtorEq, and_false, false_or, exists_false, or_false,
      ProgramError.guardian.injEq, decide_eq_false_iff_not] at h
    obtain ⟨-, hpaused, hlimit, -⟩ := h
    exact ⟨ctx.config, hslot, hpaused, hlimit⟩
  · simp [bind_error, hunpause, unpause, require_error] at h

/-- The fields of an account that represents a breaker. -/
theorem Represents.fields {config : GuardianConfig} {b : Breaker} (h : Represents config b) :
    config.consecutivePauses = (if config.isPaused then 1 else 0) ∧
    (config.isPaused = false → config.pausedAt = 0) ∧
    (config.isPaused = true → b = .tripped config.pausedAt) := by
  cases b with
  | armed => simp [h.1, h.2.1, h.2.2]
  | tripped t => simp [h.1, h.2.1, h.2.2]

/-- No run reaches the limit of two pauses: the check never rejects a call. -/
theorem limit_unreachable (calls : List Call) (call : Call) :
    (program A).step ((program A).exec genesis calls) call ≠ .error limitError := by
  intro h
  obtain ⟨-, he⟩ | ⟨key, -, he⟩ := Transact.keyed_step_error h
  · cases he
  obtain ⟨config, hc, hp, hlimit⟩ := process_limit he
  obtain ⟨b, -, hrep⟩ := represents_at hc
  rw [hrep.fields.1, hp] at hlimit
  exact hlimit (by decide)

/-- **The breaker invariant**, over every run of the program. -/
theorem breaker_invariant (A : Anchor) (calls : List Call) (key : Pubkey) :
    (∀ config, (program A).exec genesis calls key = some config →
      config.consecutivePauses = (if config.isPaused then 1 else 0) ∧
      (config.isPaused = false → config.pausedAt = 0) ∧
      (config.isPaused = true →
        lastPause (switches (committedAt A calls key)) = some config.pausedAt) ∧
      (saturatingAdd config.consecutivePauses 1).toNat = config.consecutivePauses.toNat + 1) ∧
    Alternates (switches (committedAt A calls key)) ∧
    ∀ call, (program A).step ((program A).exec genesis calls) call ≠
      .error (.guardian .maxConsecutivePausesExceeded) := by
  refine ⟨fun config hc => ?_, ?_, limit_unreachable calls⟩
  · obtain ⟨b, hb, hrep⟩ := represents_at hc
    obtain ⟨hcount, hzero, hsince⟩ := hrep.fields
    refine ⟨hcount, hzero, fun hp => ?_, ?_⟩
    · rw [hsince hp] at hb
      exact Breaker.lastPause_of_tripped hb
    · rw [saturatingAdd_toNat]
      · rfl
      · rw [hcount]; split <;> decide
  · cases hs : (program A).exec genesis calls key with
    | none =>
      have hr := @run_refines A calls key
      rw [hs] at hr
      rw [show switches _ = [] from hr]
      exact ⟨by simp, .nil⟩
    | some config =>
      obtain ⟨b, hb, -⟩ := represents_at hs
      exact (Breaker.run_armed hb).1

end Program
end SolanaGuardian
