import SolanaGuardian.Program.Handlers

/-!
# Isolation and identity of the configs

A run of the program over any number of target protocols, in any interleaving, is at each account
the run of the calls that name it (`exec_at`, from `Transact.keyed_exec`). The identity of an
account is fixed by its one committed `initialize` (`Identified`): the guardian bot and the admin
are that call's arguments, and the account stands at the address of its target protocol under its
bump.

`config_isolation` is the result for the account of one target protocol. That the addresses of
different target protocols differ is an assumption about `find_program_address`
(`Anchor.DistinctAddresses`).
-/

namespace SolanaGuardian
namespace Program

/-- What an `initialize` fixes for the life of its account. -/
structure InitArgs where
  guardianBot : Pubkey
  admin : Pubkey
  targetProtocol : Pubkey
  deriving DecidableEq

/-- The arguments of an `initialize`; the target protocol is its second account. -/
def Call.initArgs (call : Call) : Option InitArgs :=
  match call.ix with
  | .initializeConfig guardianBot squadsMultisig =>
    call.accounts[1]?.map fun target => ⟨guardianBot, squadsMultisig, target.key⟩
  | _ => none

/-- What an account keeps of its `initialize`. -/
def GuardianConfig.initArgs (config : GuardianConfig) : InitArgs :=
  ⟨config.guardianBot, config.admin, config.targetProtocol⟩

/-- The arguments of the committed `initialize` calls. -/
def initials (log : List (Call × Output)) : List InitArgs :=
  log.filterMap (·.1.initArgs)

theorem initials_concat (log : List (Call × Output)) (call : Call) (out : Output) :
    initials (log ++ [(call, out)]) = initials log ++ call.initArgs.toList := by
  simp only [initials, List.filterMap_append, List.filterMap_cons, List.filterMap_nil]
  cases call.initArgs <;> rfl

/-- The identity of the account at `key`, next to the committed calls there. -/
def Identified (A : Anchor) (key : Pubkey) (slot : Option GuardianConfig)
    (log : List (Call × Output)) : Prop :=
  match slot with
  | none => initials log = []
  | some config => initials log = [config.initArgs] ∧
      A.configAddress config.targetProtocol = some (key, config.bump)

variable {A : Anchor}

/-- A committed call gives the account its identity, or keeps it. -/
theorem committed_identified {key : Pubkey} {slot slot' : Option GuardianConfig} {call : Call}
    {out : Output} {log : List (Call × Output)} (h : Committed A call slot slot' out)
    (hk : call.configKey = some key) (hi : Identified A key slot log) :
    Identified A key slot' (log ++ [(call, out)]) := by
  cases h with
  | initializeConfig ctx bot squads rest hix hacc hpda =>
    have hkey : ctx.config.key = key := by simpa [Call.configKey, hacc] using hk
    refine ⟨?_, hkey ▸ hpda⟩
    rw [initials_concat, show initials log = [] from hi, Call.initArgs, hix, hacc]
    rfl
  | guardianPause ctx reason info out hix =>
    refine ⟨?_, hi.2⟩
    rw [initials_concat, hi.1, Call.initArgs, hix]
    rfl
  | unpause ctx info rest out hix =>
    refine ⟨?_, hi.2⟩
    rw [initials_concat, hi.1, Call.initArgs, hix]
    rfl

/-- After every run, every account has the identity of its one `initialize`. -/
theorem run_identified (calls : List Call) (key : Pubkey) :
    Identified A key ((program A).exec genesis calls key) (committedAt A calls key) := by
  have h0 : Identified A key none [] := rfl
  rw [exec_at, committedAt_eq]
  refine Transact.Machine.run_rule h0 _ fun slot log call slot' out hmem hi h => ?_
  exact committed_identified (process_ok h) (by simpa using (List.mem_filter.mp hmem).2) hi

/-- The identity of an account of a run. -/
theorem identified_at {calls : List Call} {key : Pubkey} {config : GuardianConfig}
    (hc : (program A).exec genesis calls key = some config) :
    initials (committedAt A calls key) = [config.initArgs] ∧
      A.configAddress config.targetProtocol = some (key, config.bump) := by
  have hi := @run_identified A calls key
  rw [hc] at hi
  exact hi

/-- A committed call of a run, with the account that it changed. -/
theorem log_committed {calls : List Call} {call : Call} {out : Output}
    (h : (call, out) ∈ (program A).log genesis calls) :
    ∃ key slot slot', call.configKey = some key ∧ Committed A call slot slot' out := by
  obtain ⟨pre, post, s', -, hs⟩ := Transact.Machine.mem_log h
  obtain ⟨key, slot', hkey, hc, -⟩ := program_ok hs
  exact ⟨key, _, slot', hkey, hc⟩

/-- A committed `initialize` names the account of its target protocol. -/
theorem initTarget_configKey {calls : List Call} {call : Call} {out : Output}
    {P key : Pubkey} {bump : UInt8} (h : (call, out) ∈ (program A).log genesis calls)
    (hP : call.initArgs.map (·.targetProtocol) = some P)
    (hkey : A.configAddress P = some (key, bump)) :
    call.configKey = some key ∧ call.initArgs.isSome = true := by
  obtain ⟨k, slot, slot', hk, hc⟩ := log_committed h
  cases hc with
  | initializeConfig ctx bot squads rest hix hacc hpda =>
    have ht : ctx.targetProtocol.key = P := by simpa [Call.initArgs, hix, hacc] using hP
    rw [ht, hkey] at hpda
    cases hpda
    exact ⟨by simp [Call.configKey, hacc], by simp [Call.initArgs, hix, hacc]⟩
  | guardianPause ctx reason info out hix => simp [Call.initArgs, hix] at hP
  | unpause ctx info rest out hix => simp [Call.initArgs, hix] at hP

/-- At most one `initialize` commits at an account. -/
theorem initials_length_le (calls : List Call) (key : Pubkey) :
    (initials (committedAt A calls key)).length ≤ 1 := by
  cases hs : (program A).exec genesis calls key with
  | none =>
    have h := @run_identified A calls key
    rw [hs] at h
    rw [show initials _ = [] from h]
    decide
  | some config =>
    rw [(identified_at hs).1]
    exact Nat.le_refl 1

/-- At most one `initialize` commits for a target protocol. -/
theorem initTarget_length_le {P key : Pubkey} {bump : UInt8} (calls : List Call)
    (hkey : A.configAddress P = some (key, bump)) :
    (((program A).log genesis calls).filter (·.1.initArgs.map (·.targetProtocol) = some P)).length ≤ 1 := by
  refine Nat.le_trans ?_ (@initials_length_le A calls key)
  rw [initials, committedAt, List.length_filterMap_eq_countP, List.countP_filter,
    ← List.countP_eq_length_filter]
  refine List.countP_mono_left fun r hr hP => ?_
  obtain ⟨hk, hinit⟩ := initTarget_configKey hr (by simpa using hP) hkey
  simp [hk, hinit]

theorem committedAt_append (pre post : List Call) (key : Pubkey) :
    ∃ log, committedAt A (pre ++ post) key = committedAt A pre key ++ log := by
  simp only [committedAt, Transact.Machine.log_append, List.filter_append]
  exact ⟨_, rfl⟩

/-- The identity of an account is kept by every later call. -/
theorem identity_kept {pre : List Call} {key : Pubkey} {config : GuardianConfig}
    (post : List Call) (h : (program A).exec genesis pre key = some config) :
    ∃ config', (program A).exec genesis (pre ++ post) key = some config' ∧
      config'.initArgs = config.initArgs ∧ config'.bump = config.bump := by
  obtain ⟨hpre, haddr⟩ := identified_at h
  have hall := @run_identified A (pre ++ post) key
  obtain ⟨log, hlog⟩ := @committedAt_append A pre post key
  rw [hlog] at hall
  have hinit : initials (committedAt A pre key ++ log) = config.initArgs :: initials log := by
    rw [initials, List.filterMap_append]
    exact congrArg (· ++ initials log) hpre
  cases hs : (program A).exec genesis (pre ++ post) key with
  | none =>
    rw [hs] at hall
    have hnil : initials (committedAt A pre key ++ log) = [] := hall
    rw [hinit] at hnil
    cases hnil
  | some config' =>
    rw [hs] at hall
    obtain ⟨hone, hat⟩ := hall
    rw [hinit] at hone
    injection hone with hargs
    have ht : config.targetProtocol = config'.targetProtocol := congrArg (·.targetProtocol) hargs
    rw [← ht, haddr] at hat
    simp only [Option.some.injEq, Prod.mk.injEq, true_and] at hat
    exact ⟨config', rfl, hargs.symm, hat.symm⟩

/-! ## Isolation -/

/-- The configs of different target protocols have different addresses. -/
def Anchor.DistinctAddresses (A : Anchor) : Prop :=
  ∀ P Q key bP bQ, A.configAddress P = some (key, bP) → A.configAddress Q = some (key, bQ) → P = Q

/-- **Isolation and identity** of the config of the target protocol `P`, over every run of the
program on any target protocols. -/
theorem config_isolation (A : Anchor) (hdistinct : A.DistinctAddresses) (calls : List Call)
    (P key : Pubkey) (bump : UInt8) (hkey : A.configAddress P = some (key, bump)) :
    (program A).exec genesis calls key =
      (program A).exec genesis (calls.filter (·.configKey = some key)) key ∧
    (((program A).log genesis calls).filter (·.1.initArgs.map (·.targetProtocol) = some P)).length ≤ 1 ∧
    ∀ pre post config, calls = pre ++ post → (program A).exec genesis pre key = some config →
      config.targetProtocol = P ∧ config.bump = bump ∧
      ∃ config', (program A).exec genesis calls key = some config' ∧
        config'.admin = config.admin ∧ config'.guardianBot = config.guardianBot ∧
        config'.targetProtocol = config.targetProtocol ∧ config'.bump = config.bump := by
  refine ⟨(Transact.keyed_exec_filter genesis calls key).symm, initTarget_length_le calls hkey, ?_⟩
  rintro pre post config rfl hc
  obtain ⟨-, haddr⟩ := identified_at hc
  have hP : config.targetProtocol = P := hdistinct _ _ _ _ _ haddr hkey
  have hb : config.bump = bump := by
    rw [hP, hkey] at haddr
    cases haddr
    rfl
  obtain ⟨config', hc', hargs, hbump⟩ := identity_kept post hc
  exact ⟨hP, hb, config', hc', congrArg (·.admin) hargs, congrArg (·.guardianBot) hargs,
    congrArg (·.targetProtocol) hargs, hbump⟩

theorem sampleAnchor_distinct : sampleAnchor.DistinctAddresses := by
  have h : ∀ P key b, sampleAnchor.configAddress P = some (key, b) → P = sampleKey 3 := by
    intro P key b hP
    have hc := Anchor.create_of_find hP
    simp only [sampleAnchor, Option.ite_none_right_eq_some, configSeeds, List.cons_append,
      List.nil_append, List.cons.injEq, Vector.toList_inj, true_and] at hc
    exact hc.1.1
  intro P Q key bP bQ hP hQ
  rw [h P key bP hP, h Q key bQ hQ]

theorem config_isolation_sample :
    (program sampleAnchor).exec genesis [sampleInit, samplePause []] sampleAddress =
      (program sampleAnchor).exec genesis ([sampleInit, samplePause []].filter
        (·.configKey = some sampleAddress)) sampleAddress ∧
    ∃ config, (program sampleAnchor).exec genesis [sampleInit] sampleAddress = some config ∧
      config.targetProtocol = sampleKey 3 := by
  obtain ⟨hrun, -, hid⟩ := config_isolation sampleAnchor sampleAnchor_distinct
    [sampleInit, samplePause []] (sampleKey 3) sampleAddress 255 (by decide)
  refine ⟨hrun, _, rfl, ?_⟩
  exact (hid [sampleInit] [samplePause []] _ rfl rfl).1

end Program
end SolanaGuardian
