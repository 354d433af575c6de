import Mathlib.Data.Vector.Basic

/-!
# The data of the program (`programs/solana_guardian/src/lib.rs`)

The on-chain circuit breaker keeps one account per target protocol, `GuardianConfig`. This module
has its fields, the three instructions, the events, the errors and what the runtime hands to one
instruction: the account vector with the signer and writable flags, the clock, and the answer of
the program that the instruction invokes.

`u8`, `u64` and `i64` are `UInt8`, `UInt64` and `Int64`.
-/

namespace SolanaGuardian
namespace Program

/-- A Solana public key: 32 bytes. -/
abbrev Pubkey := Vector UInt8 32

/-- Why the guardian bot pauses a market. -/
inductive PauseReason where
  | oracleDivergence | outflowVelocityExceeded | emergencyManual | other
  deriving DecidableEq, Repr

/-- `reason as u8`. -/
def PauseReason.code : PauseReason → UInt8
  | .oracleDivergence => 0
  | .outflowVelocityExceeded => 1
  | .emergencyManual => 2
  | .other => 3

/-- The account of one target protocol. -/
structure GuardianConfig where
  admin : Pubkey
  guardianBot : Pubkey
  targetProtocol : Pubkey
  isPaused : Bool
  consecutivePauses : UInt8
  pausedAt : Int64
  bump : UInt8
  deriving DecidableEq

inductive Event where
  | guardianInitialized (targetProtocol admin guardianBot : Pubkey)
  | circuitBreakerPaused (targetProtocol caller : Pubkey) (reasonCode : UInt8) (slot : UInt64)
      (timestamp : Int64)
  | circuitBreakerUnpaused (targetProtocol admin : Pubkey) (slot : UInt64) (timestamp : Int64)
  deriving DecidableEq

/-- The program's own errors. -/
inductive GuardianError where
  | unauthorizedBotSigner | unauthorizedSquadsMultisig | marketAlreadyPaused | marketNotPaused
  | maxConsecutivePausesExceeded
  deriving DecidableEq, Repr

/-- Why an instruction fails: an error of the program, one of Anchor's checks, or the runtime. -/
inductive ProgramError where
  | guardian (e : GuardianError)
  | instructionMissing | instructionFallbackNotFound | instructionDidNotDeserialize
  | accountNotEnoughKeys | accountNotInitialized | accountNotSigner
  | invalidProgramId | invalidProgramExecutable
  | constraintSeeds | constraintMut
  | accountAlreadyInUse | missingAccount | invokedProgramFailed
  deriving DecidableEq

/-- An account as an instruction sees it. The runtime has checked the signatures. -/
structure AccountInfo where
  key : Pubkey
  isSigner : Bool
  isWritable : Bool
  executable : Bool
  deriving DecidableEq

/-- The clock sysvar. -/
structure Clock where
  slot : UInt64
  unixTimestamp : Int64
  deriving DecidableEq

/-- `AccountMeta` of an instruction that the program invokes. -/
structure AccountMeta where
  pubkey : Pubkey
  isSigner : Bool
  isWritable : Bool
  deriving DecidableEq

/-- `AccountMeta::new`: a writable account. -/
def AccountMeta.new (pubkey : Pubkey) (isSigner : Bool) : AccountMeta :=
  { pubkey, isSigner, isWritable := true }

/-- `solana_program::instruction::Instruction`. -/
structure Instruction where
  programId : Pubkey
  accounts : List AccountMeta
  data : List UInt8
  deriving DecidableEq

/-- The instructions of the program, with their arguments. `initializeConfig` is the instruction
`initialize`, a word that Lean reserves. -/
inductive Ix where
  | initializeConfig (guardianBot squadsMultisig : Pubkey)
  | guardianPause (reason : PauseReason)
  | unpause
  deriving DecidableEq

/-- One call of the program, as the runtime makes it. `cpiAccepted` is the answer of the program
that the call invokes: the system program in `initialize`, the target program in
`guardian_pause`. -/
structure Call where
  ix : Ix
  accounts : List AccountInfo
  clock : Clock
  cpiAccepted : Bool
  deriving DecidableEq

/-- The account that a call names as its `config`: the first one. -/
def Call.configKey (call : Call) : Option Pubkey := call.accounts.head?.map (·.key)

/-- An account of the call with this key signed the transaction. -/
def Call.SignedBy (call : Call) (key : Pubkey) : Prop :=
  ∃ a ∈ call.accounts, a.key = key ∧ a.isSigner = true

/-- What a committed call leaves besides the account: the events in its log and the instructions
that reached another program. -/
structure Output where
  events : List Event
  cpis : List Instruction
  deriving DecidableEq

/-- `u8::saturating_add`. -/
def saturatingAdd (a b : UInt8) : UInt8 := if a.toNat + b.toNat < 256 then a + b else 255

theorem saturatingAdd_toNat {a b : UInt8} (h : a.toNat + b.toNat < 256) :
    (saturatingAdd a b).toNat = a.toNat + b.toNat := by
  simp only [saturatingAdd, h, ↓reduceIte, UInt8.toNat_add]
  omega

end Program
end SolanaGuardian
