import SolanaGuardian.Program.State

/-!
# What Anchor checks before a handler runs

`Initialize`, `GuardianPause` and `Unpause` are the `Accounts` structs of the program. Each
`tryAccounts` takes the accounts of a call in order, as Anchor's generated code does, and returns
the checked struct or the error of the first check that fails. `tryAccounts_ok` says for each what
an accepted call has.

Two things come from outside the repository and are parameters (`Anchor`): the address of a list
of seeds under the program's id, and the comparison that `has_one` stands for.
`find_program_address` is the search over the bumps from 255 down. `initialize` stores the bump
that it finds, and the two other instructions derive the address again from the stored bump.

A signer is an account with a proof that it signed (`Signer`), as in Anchor.
-/

namespace SolanaGuardian
namespace Program

/-! ## Checks -/

/-- A check: the error, unless the condition holds. -/
def require (b : Bool) (e : ProgramError) : Except ProgramError Unit :=
  if b then .ok () else .error e

theorem bind_ok {ε α β : Type} {x : Except ε α} {f : α → Except ε β} {r : β} :
    (x >>= f) = .ok r ↔ ∃ a, x = .ok a ∧ f a = .ok r := by
  cases x with
  | error e => simp [bind, Except.bind]
  | ok a => simp [bind, Except.bind]

theorem require_ok {b : Bool} {e : ProgramError} {u : Unit} : require b e = .ok u ↔ b = true := by
  cases b <;> simp [require]

/-- The next account of the vector. -/
def nextAccount : List AccountInfo → Except ProgramError (AccountInfo × List AccountInfo)
  | [] => .error .accountNotEnoughKeys
  | a :: as => .ok (a, as)

theorem nextAccount_ok {as : List AccountInfo} {r : AccountInfo × List AccountInfo} :
    nextAccount as = .ok r ↔ as = r.1 :: r.2 := by
  cases as with
  | nil => simp [nextAccount]
  | cons a as => simp [nextAccount, Prod.ext_iff, eq_comm]

/-- An account that signed. -/
abbrev Signer := { a : AccountInfo // a.isSigner = true }

def Signer.tryFrom (a : AccountInfo) : Except ProgramError Signer :=
  if h : a.isSigner = true then .ok ⟨a, h⟩ else .error .accountNotSigner

theorem Signer.tryFrom_ok {a : AccountInfo} {s : Signer} : Signer.tryFrom a = .ok s ↔ a = s.1 := by
  unfold Signer.tryFrom
  split
  · rename_i h
    simp [Subtype.ext_iff]
  · rename_i h
    simp only [reduceCtorEq, false_iff]
    rintro rfl
    exact h s.2

/-- The data of an account that the program owns; `none` is an account that it has not
initialized. -/
def tryConfig (slot : Option GuardianConfig) : Except ProgramError GuardianConfig :=
  match slot with
  | some config => .ok config
  | none => .error .accountNotInitialized

theorem tryConfig_ok {slot : Option GuardianConfig} {config : GuardianConfig} :
    tryConfig slot = .ok config ↔ slot = some config := by
  cases slot <;> simp [tryConfig]

/-! ## Program addresses -/

/-- The names of the accounts in the `Accounts` structs, and `admin`, which `has_one` names. -/
inductive AccountName where
  | config | targetProtocol | payer | systemProgram | guardianBot | squadsMultisig | admin
  deriving DecidableEq, Repr

/-- What the program takes from Anchor and the runtime: `create_program_address` under the
program's own id, and whether `has_one = f` accepts, given the stored key, the name `f` and the
accounts of the struct by name. -/
structure Anchor where
  createProgramAddress : List (List UInt8) → Option Pubkey
  hasOne : Pubkey → AccountName → List (AccountName × AccountInfo) → Bool

/-- `b"guardian_config"`. -/
def guardianConfigSeed : List UInt8 :=
  [103, 117, 97, 114, 100, 105, 97, 110, 95, 99, 111, 110, 102, 105, 103]

/-- `[b"guardian_config", target_protocol]`. -/
def configSeeds (targetProtocol : Pubkey) : List (List UInt8) :=
  [guardianConfigSeed, targetProtocol.toList]

/-- The system program's id. -/
def systemProgramId : Pubkey := Vector.replicate 32 0

/-- The bumps that `find_program_address` tries, in its order. -/
def bumps : List UInt8 := (List.range 255).map fun i => UInt8.ofNat (255 - i)

namespace Anchor

variable (A : Anchor)

/-- `find_program_address`: the first bump with an address. -/
def findProgramAddress (seeds : List (List UInt8)) : Option (Pubkey × UInt8) :=
  bumps.findSome? fun b => (A.createProgramAddress (seeds ++ [[b]])).map (·, b)

/-- The address of a target protocol's config, and its bump. -/
def configAddress (targetProtocol : Pubkey) : Option (Pubkey × UInt8) :=
  A.findProgramAddress (configSeeds targetProtocol)

variable {A}

/-- The stored bump derives the address again. -/
theorem create_of_find {seeds : List (List UInt8)} {key : Pubkey} {bump : UInt8}
    (h : A.findProgramAddress seeds = some (key, bump)) :
    A.createProgramAddress (seeds ++ [[bump]]) = some key := by
  obtain ⟨b, -, hb⟩ := List.exists_of_findSome?_eq_some h
  obtain ⟨k, hk, hkb⟩ := Option.map_eq_some_iff.mp hb
  cases hkb
  exact hk

end Anchor

/-! ## The `Accounts` structs -/

/-- `Initialize`, checked. `bump` is `ctx.bumps.config`. -/
structure Initialize where
  config : AccountInfo
  targetProtocol : AccountInfo
  payer : Signer
  bump : UInt8

/-- `GuardianPause`, checked, with `ctx.remaining_accounts`. -/
structure GuardianPause where
  config : GuardianConfig
  guardianBot : Signer
  remainingAccounts : List AccountInfo

/-- `Unpause`, checked. -/
structure Unpause where
  config : GuardianConfig
  squadsMultisig : Signer

/-- `init` creates the account with a call of the system program, which the payer funds. It
refuses an account that is in use or that the call does not let it write. -/
def createAccount (slot : Option GuardianConfig) (config : AccountInfo) (funded : Bool) :
    Except ProgramError Unit := do
  require slot.isNone .accountAlreadyInUse
  require (config.isWritable && funded) .invokedProgramFailed

def Initialize.tryAccounts (A : Anchor) (slot : Option GuardianConfig) (call : Call) :
    Except ProgramError Initialize := do
  let (config, rest) ← nextAccount call.accounts
  let (targetProtocol, rest) ← nextAccount rest
  let (payer, rest) ← nextAccount rest
  let payer ← Signer.tryFrom payer
  let (systemProgram, _) ← nextAccount rest
  require (systemProgram.key = systemProgramId) .invalidProgramId
  require systemProgram.executable .invalidProgramExecutable
  match A.configAddress targetProtocol.key with
  | none => .error .constraintSeeds
  | some (pda, bump) => do
    require (config.key = pda) .constraintSeeds
    createAccount slot config call.cpiAccepted
    require payer.1.isWritable .constraintMut
    .ok { config, targetProtocol, payer, bump }

/-- `seeds` and `bump = config.bump`: the account is at the address of its own stored fields. -/
def checkSeeds (A : Anchor) (info : AccountInfo) (config : GuardianConfig) :
    Except ProgramError Unit :=
  require (A.createProgramAddress (configSeeds config.targetProtocol ++ [[config.bump]]) =
    some info.key) .constraintSeeds

def GuardianPause.tryAccounts (A : Anchor) (slot : Option GuardianConfig) (call : Call) :
    Except ProgramError GuardianPause := do
  let (info, rest) ← nextAccount call.accounts
  let config ← tryConfig slot
  let (bot, rest) ← nextAccount rest
  let guardianBot ← Signer.tryFrom bot
  checkSeeds A info config
  require info.isWritable .constraintMut
  require (A.hasOne config.guardianBot .guardianBot [(.config, info), (.guardianBot, bot)])
    (.guardian .unauthorizedBotSigner)
  .ok { config, guardianBot, remainingAccounts := rest }

/-- `has_one = admin`, in a struct whose signer is named `squads_multisig`. -/
def Unpause.tryAccounts (A : Anchor) (slot : Option GuardianConfig) (call : Call) :
    Except ProgramError Unpause := do
  let (info, rest) ← nextAccount call.accounts
  let config ← tryConfig slot
  let (squads, _) ← nextAccount rest
  let squadsMultisig ← Signer.tryFrom squads
  checkSeeds A info config
  require info.isWritable .constraintMut
  require (A.hasOne config.admin .admin [(.config, info), (.squadsMultisig, squads)])
    (.guardian .unauthorizedSquadsMultisig)
  .ok { config, squadsMultisig }

/-! ## What an accepted call has -/

section Accepted

variable {A : Anchor} {slot : Option GuardianConfig} {call : Call}

theorem checkSeeds_ok {info : AccountInfo} {config : GuardianConfig} {u : Unit} :
    checkSeeds A info config = .ok u ↔
      A.createProgramAddress (configSeeds config.targetProtocol ++ [[config.bump]]) =
        some info.key := by
  rw [checkSeeds, require_ok, decide_eq_true_iff]

theorem Initialize.tryAccounts_ok {ctx : Initialize}
    (h : Initialize.tryAccounts A slot call = .ok ctx) :
    slot = none ∧ call.cpiAccepted = true ∧
      A.configAddress ctx.targetProtocol.key = some (ctx.config.key, ctx.bump) ∧
      ∃ rest, call.accounts = ctx.config :: ctx.targetProtocol :: ctx.payer.1 :: rest := by
  unfold Initialize.tryAccounts at h
  simp only [bind_ok, nextAccount_ok, Signer.tryFrom_ok, require_ok, Prod.exists] at h
  obtain ⟨config, r₁, h₁, target, r₂, rfl, payer, r₃, rfl, signer, rfl, sys, r₄, rfl, -, hs, -, he,
    h⟩ := h
  split at h
  · cases h
  · rename_i pda bump hpda
    simp only [createAccount, bind_ok, require_ok, decide_eq_true_iff, Option.isNone_iff_eq_none,
      Bool.and_eq_true] at h
    obtain ⟨-, rfl, -, ⟨-, hslot, -, hcpi⟩, -, -, h⟩ := h
    cases h
    exact ⟨hslot, hcpi, hpda, _, h₁⟩

theorem GuardianPause.tryAccounts_ok {ctx : GuardianPause} :
    GuardianPause.tryAccounts A slot call = .ok ctx ↔
      ∃ info, call.accounts = info :: ctx.guardianBot.1 :: ctx.remainingAccounts ∧
        slot = some ctx.config ∧
        A.createProgramAddress (configSeeds ctx.config.targetProtocol ++ [[ctx.config.bump]]) =
          some info.key ∧
        info.isWritable = true ∧
        A.hasOne ctx.config.guardianBot .guardianBot
          [(.config, info), (.guardianBot, ctx.guardianBot.1)] = true := by
  unfold GuardianPause.tryAccounts
  simp only [bind_ok, nextAccount_ok, tryConfig_ok, Signer.tryFrom_ok, checkSeeds_ok, require_ok,
    Prod.exists]
  constructor
  · rintro ⟨info, r₁, h₁, config, rfl, bot, r₂, rfl, signer, rfl, -, hs, -, hw, -, ho, h⟩
    cases h
    exact ⟨info, h₁, rfl, hs, hw, ho⟩
  · rintro ⟨info, h₁, rfl, hs, hw, ho⟩
    exact ⟨info, _, h₁, ctx.config, rfl, _, _, rfl, ctx.guardianBot, rfl, (), hs, (), hw, (), ho,
      rfl⟩

theorem Unpause.tryAccounts_ok {ctx : Unpause} (h : Unpause.tryAccounts A slot call = .ok ctx) :
    ∃ info rest, call.accounts = info :: ctx.squadsMultisig.1 :: rest ∧ slot = some ctx.config ∧
      A.hasOne ctx.config.admin .admin
        [(.config, info), (.squadsMultisig, ctx.squadsMultisig.1)] = true := by
  unfold Unpause.tryAccounts at h
  simp only [bind_ok, nextAccount_ok, tryConfig_ok, Signer.tryFrom_ok, require_ok, Prod.exists] at h
  obtain ⟨info, r₁, h₁, config, rfl, squads, r₂, rfl, signer, rfl, -, -, -, -, -, ho, h⟩ := h
  cases h
  exact ⟨info, r₂, h₁, rfl, ho⟩

end Accepted

end Program
end SolanaGuardian
