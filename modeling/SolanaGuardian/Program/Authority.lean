import SolanaGuardian.Program.Identity

/-!
# Who can pause and who can unpause

A pause needs the signature of the guardian bot and an unpause that of the admin (the Squads
multisig), each with the key that the account's own `initialize` stored. The two sides differ in
the source. `GuardianPause` names its signer `guardian_bot`, as the field that `has_one` compares.
`Unpause` names its signer `squads_multisig`, and `has_one = admin` names no account of the struct.

* `Anchor.HasOneByName` is what Anchor documents: `has_one = f` accepts only if the stored key is
  the key of the account named `f`. `asymmetric_authority` is the result under it. Then no unpause
  commits at all (`unpause_never_commits`), since there is no account named `admin`.
* `Anchor.HasOneSound` is weaker: the stored key is the key of some account of the struct besides
  the config. It also holds of a check against the struct's signer. `switch_authority` and
  `pauser_cannot_unpause` need no more than that, so the authority does not rest on the unpause
  being dead.
-/

namespace SolanaGuardian
namespace Program

/-- `has_one = f` accepts only if the stored key is the key of the account named `f`. -/
def Anchor.HasOneByName (A : Anchor) : Prop :=
  ∀ stored f accounts, A.hasOne stored f accounts = true →
    ∃ a, (f, a) ∈ accounts ∧ a.key = stored

/-- `has_one` accepts only if the stored key is the key of an account besides the config. -/
def Anchor.HasOneSound (A : Anchor) : Prop :=
  ∀ stored f accounts, f ≠ .config → A.hasOne stored f accounts = true →
    ∃ name a, name ≠ .config ∧ (name, a) ∈ accounts ∧ a.key = stored

variable {A : Anchor}

theorem Anchor.HasOneByName.sound (h : A.HasOneByName) : A.HasOneSound := by
  intro stored f accounts hf ho
  obtain ⟨a, ha, hk⟩ := h stored f accounts ho
  exact ⟨f, a, hf, ha, hk⟩

/-- In a struct of the config and one signer, an accepted `has_one` means that the signer has the
stored key. -/
theorem Anchor.HasOneSound.signer (h : A.HasOneSound) {stored : Pubkey} {f name : AccountName}
    {info a : AccountInfo} (hf : f ≠ .config)
    (ho : A.hasOne stored f [(.config, info), (name, a)] = true) : a.key = stored := by
  obtain ⟨n, b, hn, hb, hk⟩ := h stored f _ hf ho
  rcases List.mem_cons.mp hb with hb | hb
  · cases hb
    exact absurd rfl hn
  · cases List.mem_singleton.mp hb
    exact hk

/-- The keys that a committed `initialize` stored at `key`: the guardian bot and the admin. -/
def InitializedWith (A : Anchor) (calls : List Call) (key guardianBot admin : Pubkey) : Prop :=
  ∃ pre call post s' out, calls = pre ++ call :: post ∧ call.configKey = some key ∧
    call.ix = .initializeConfig guardianBot admin ∧
    (program A).step ((program A).exec genesis pre) call = .ok (s', out)

/-- The keys of an account are those of its `initialize`. -/
theorem initializedWith_iff {calls : List Call} {key bot admin : Pubkey}
    {config : GuardianConfig} (hc : (program A).exec genesis calls key = some config) :
    InitializedWith A calls key bot admin ↔
      bot = config.guardianBot ∧ admin = config.admin := by
  have hone := (identified_at hc).1
  constructor
  · rintro ⟨pre, call, post, s', out, rfl, hk, hix, hs⟩
    have hlog : (call, out) ∈ (program A).log genesis (pre ++ call :: post) := by
      rw [Transact.Machine.log_append, Transact.Machine.log_cons_ok hs]
      simp
    obtain ⟨_, _, _, _, hcommit⟩ := log_committed hlog
    obtain ⟨target, hargs⟩ : ∃ target, call.initArgs = some ⟨bot, admin, target⟩ := by
      cases hcommit with
      | initializeConfig ctx _ _ rest _ hacc => exact ⟨_, by rw [Call.initArgs, hix, hacc]; rfl⟩
      | guardianPause ctx reason info _ hix' => rw [hix] at hix'; cases hix'
      | unpause ctx info rest _ hix' => rw [hix] at hix'; cases hix'
    have hmem : (⟨bot, admin, target⟩ : InitArgs) ∈
        initials (committedAt A (pre ++ call :: post) key) :=
      List.mem_filterMap.mpr ⟨(call, out), List.mem_filter.mpr ⟨hlog, by simpa using hk⟩, hargs⟩
    rw [hone] at hmem
    have he : (⟨bot, admin, target⟩ : InitArgs) = config.initArgs := List.mem_singleton.mp hmem
    exact ⟨congrArg (·.guardianBot) he, congrArg (·.admin) he⟩
  · rintro ⟨rfl, rfl⟩
    have hmem : config.initArgs ∈ initials (committedAt A calls key) := by
      rw [hone]
      exact List.mem_singleton_self _
    obtain ⟨⟨call, out⟩, hr, hargs⟩ := List.mem_filterMap.mp hmem
    obtain ⟨hlog, hk⟩ := List.mem_filter.mp hr
    obtain ⟨pre, post, s', rfl, hs⟩ := Transact.Machine.mem_log hlog
    refine ⟨pre, call, post, s', out, rfl, by simpa using hk, ?_, hs⟩
    simp only [Call.initArgs] at hargs
    split at hargs
    · rename_i bot squads hix
      obtain ⟨target, -, he⟩ := Option.map_eq_some_iff.mp hargs
      have hb : bot = config.guardianBot := congrArg InitArgs.guardianBot he
      have ha : squads = config.admin := congrArg InitArgs.admin he
      rw [hix, hb, ha]
    · cases hargs

/-- A call that changes the account at `key` commits there. -/
theorem committed_of_change {calls : List Call} {call : Call} {key : Pubkey}
    {slot : Option GuardianConfig}
    (ha : (program A).exec genesis (calls ++ [call]) key = slot)
    (hne : (program A).exec genesis calls key ≠ slot) :
    ∃ out, call.configKey = some key ∧
      Committed A call ((program A).exec genesis calls key) slot out := by
  rw [Transact.Machine.exec_concat] at ha
  have hnext : (program A).next ((program A).exec genesis calls) call ≠
      (program A).exec genesis calls := fun h => hne (by rw [← ha, h])
  obtain ⟨s', out, hs, hs'⟩ := Transact.Machine.step_of_next_ne hnext
  obtain ⟨k, slot', hk, hc, rfl⟩ := program_ok hs
  rw [hs'] at ha
  by_cases hkey : key = k
  · subst hkey
    rw [Function.update_self] at ha
    subst ha
    exact ⟨out, hk, hc⟩
  · rw [Function.update_of_ne hkey] at ha
    exact absurd ha hne

/-- Who signed the call that flips `isPaused`. -/
theorem switch_authority (hone : A.HasOneSound) {calls : List Call} {call : Call} {key : Pubkey}
    {config config' : GuardianConfig}
    (hb : (program A).exec genesis calls key = some config)
    (ha : (program A).exec genesis (calls ++ [call]) key = some config') :
    (config.isPaused = false → config'.isPaused = true →
      call.configKey = some key ∧ (∃ reason, call.ix = .guardianPause reason) ∧
        call.SignedBy config.guardianBot) ∧
    (config.isPaused = true → config'.isPaused = false →
      call.configKey = some key ∧ call.ix = .unpause ∧ call.SignedBy config.admin) := by
  have hchange : config.isPaused ≠ config'.isPaused →
      (program A).exec genesis calls key ≠ some config' := by
    intro h he
    rw [hb] at he
    cases he
    exact h rfl
  refine ⟨fun hp hp' => ?_, fun hp hp' => ?_⟩
  · obtain ⟨out, hk, hc⟩ := committed_of_change ha (hchange (by rw [hp, hp']; decide))
    rw [hb] at hc
    cases hc with
    | guardianPause ctx reason info _ hix hacc ho =>
      refine ⟨hk, ⟨reason, hix⟩, ctx.guardianBot.1, ?_, hone.signer (by decide) ho,
        ctx.guardianBot.2⟩
      rw [hacc]; simp
    | unpause ctx info rest _ hix => cases hp'
  · obtain ⟨out, hk, hc⟩ := committed_of_change ha (hchange (by rw [hp, hp']; decide))
    rw [hb] at hc
    cases hc with
    | guardianPause ctx reason info _ hix hacc ho hnot => rw [hp] at hnot; cases hnot
    | unpause ctx info rest _ hix hacc ho =>
      refine ⟨hk, hix, ctx.squadsMultisig.1, ?_, hone.signer (by decide) ho,
        ctx.squadsMultisig.2⟩
      rw [hacc]; simp

/-- **Asymmetric authority**, over every run of the program and every step of it. -/
theorem asymmetric_authority (A : Anchor) (hone : A.HasOneByName) (calls : List Call)
    (call : Call) (key : Pubkey) (config config' : GuardianConfig)
    (hb : (program A).exec genesis calls key = some config)
    (ha : (program A).exec genesis (calls ++ [call]) key = some config') :
    ∃ guardianBot admin,
      (∀ b a, InitializedWith A calls key b a ↔ b = guardianBot ∧ a = admin) ∧
      (config.isPaused = false → config'.isPaused = true →
        call.configKey = some key ∧ (∃ reason, call.ix = .guardianPause reason) ∧
          call.SignedBy guardianBot) ∧
      (config.isPaused = true → config'.isPaused = false →
        call.configKey = some key ∧ call.ix = .unpause ∧ call.SignedBy admin) ∧
      (guardianBot ≠ admin → (∀ a ∈ call.accounts, a.isSigner = true → a.key = guardianBot) →
        config.isPaused = true → config'.isPaused = true) := by
  obtain ⟨hpause, hunpause⟩ := switch_authority hone.sound hb ha
  refine ⟨config.guardianBot, config.admin, fun b a => initializedWith_iff hb, hpause, hunpause,
    fun hne hsigners hp => ?_⟩
  cases hp' : config'.isPaused with
  | true => rfl
  | false =>
    obtain ⟨-, -, a, ha, hkey, hsig⟩ := hunpause hp hp'
    exact absurd ((hsigners a ha hsig).symm.trans hkey) hne

theorem sampleAnchor_hasOneByName : sampleAnchor.HasOneByName := by
  intro stored f accounts h
  obtain ⟨⟨n, a⟩, ha, hk⟩ := List.any_eq_true.mp h
  simp only [Bool.and_eq_true, decide_eq_true_eq] at hk
  obtain ⟨rfl, hk⟩ := hk
  exact ⟨a, ha, hk⟩

theorem asymmetric_authority_sample :
    (samplePause []).SignedBy (sampleKey 4) := by
  obtain ⟨bot, admin, hinit, hpause, -⟩ := asymmetric_authority sampleAnchor
    sampleAnchor_hasOneByName [sampleInit] (samplePause []) sampleAddress _ _ rfl rfl
  obtain ⟨-, -, hs⟩ := hpause rfl rfl
  have hb : InitializedWith sampleAnchor [sampleInit] sampleAddress (sampleKey 4) (sampleKey 5) :=
    ⟨[], sampleInit, [], _, _, rfl, rfl, rfl, rfl⟩
  rw [((hinit _ _).mp hb).1]
  exact hs

/-- While the admin does not sign, a pause stays. -/
theorem pauser_cannot_unpause (hone : A.HasOneSound) {calls later : List Call} {key : Pubkey}
    {config : GuardianConfig} (hc : (program A).exec genesis calls key = some config)
    (hp : config.isPaused = true) (hsigners : ∀ call ∈ later, ¬ call.SignedBy config.admin) :
    ∃ config', (program A).exec genesis (calls ++ later) key = some config' ∧
      config'.isPaused = true := by
  induction later using List.reverseRecOn with
  | nil => exact ⟨config, by rw [List.append_nil]; exact hc, hp⟩
  | append_singleton later call ih =>
    obtain ⟨config', hc', hp'⟩ := ih fun c h => hsigners c (List.mem_append_left _ h)
    obtain ⟨mid, hmid, hargs, -⟩ := identity_kept later hc
    rw [hc'] at hmid
    cases hmid
    have hadmin : config'.admin = config.admin := congrArg (·.admin) hargs
    obtain ⟨config'', hc'', -, -⟩ := identity_kept [call] hc'
    refine ⟨config'', by rw [← List.append_assoc]; exact hc'', ?_⟩
    cases hp'' : config''.isPaused with
    | true => rfl
    | false =>
      obtain ⟨-, -, hs⟩ := (switch_authority hone hc' hc'').2 hp' hp''
      rw [hadmin] at hs
      exact absurd hs (hsigners call (by simp))

/-- Under the documented `has_one`, no unpause commits: no account of `Unpause` is named
`admin`. -/
theorem unpause_never_commits (hone : A.HasOneByName) {slot slot' : Option GuardianConfig}
    {call : Call} {out : Output} (h : process A slot call = .ok (slot', out)) :
    call.ix ≠ .unpause := by
  intro hix
  cases process_ok h with
  | initializeConfig ctx bot squads rest hix' => rw [hix] at hix'; cases hix'
  | guardianPause ctx reason info _ hix' => rw [hix] at hix'; cases hix'
  | unpause ctx info rest _ _ _ ho =>
    obtain ⟨a, ha, -⟩ := hone _ _ _ ho
    simp at ha

end Program
end SolanaGuardian
