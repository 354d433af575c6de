import SolanaGuardian.Lib.Python
import SolanaGuardian.Program.Wire
import SolanaGuardian.Settings

/-!
# The instruction resolver (`app/core/protocol_adapters.py`)

The off-chain side that builds the instruction of an emergency pause. Two authorization modes:
the guardian signs for the lending protocol itself, or for a gateway program that holds a
delegated address (`delegated_pda_cpi`).

The keys are those of the module's fallback classes (`solders` is not among the requirements): a
key is its text, `bytes(key)` is the SHA-256 digest of the text, and `str(key)` is the text.
-/

namespace SolanaGuardian
namespace Adapter

open Program (Sha256 utf8)

/-- The fallback `Pubkey`. -/
structure Pubkey where
  key : String
  deriving DecidableEq

structure AccountMeta where
  pubkey : Pubkey
  isSigner : Bool
  isWritable : Bool
  deriving DecidableEq

structure Instruction where
  programId : Pubkey
  data : List UInt8
  accounts : List AccountMeta
  deriving DecidableEq

/-- `bytes(pubkey)`. -/
def Pubkey.bytes (sha : Sha256) (k : Pubkey) : Vector UInt8 32 := sha (utf8 k.key)

/-! ## The registry -/

/-- What the resolver reads of a protocol's entry. -/
structure Spec where
  instructionName : String
  stateDeserialization : String
  deriving DecidableEq

namespace ProtocolRegistry

def kaminoKlend : Spec :=
  { instructionName := "pause_reserve", stateDeserialization := "zero_copy_bytemuck" }

def marginfi : Spec :=
  { instructionName := "marginfi_group_set_bank_emergency_paused"
    stateDeserialization := "zero_copy_bytemuck" }

def solendSave : Spec :=
  { instructionName := "pause_asset", stateDeserialization := "borsh_standard" }

def genericAnchor : Spec :=
  { instructionName := "pause_asset", stateDeserialization := "borsh_standard" }

/-- `PROTOCOLS`. -/
def protocols : List (String × Spec) :=
  [("kamino_klend", kaminoKlend), ("marginfi", marginfi), ("solend_save", solendSave),
    ("generic_anchor", genericAnchor)]

/-- `sha256("global:<instruction_name>")[:8]`. -/
def deriveAnchorDiscriminator (sha : Sha256) (instructionName : String) : List UInt8 :=
  (sha (utf8 ("global:" ++ instructionName))).toList.take 8

end ProtocolRegistry

/-- The resolver derives the discriminator that Anchor derives for the name. -/
theorem deriveAnchorDiscriminator_eq (sha : Sha256) (name : String) :
    ProtocolRegistry.deriveAnchorDiscriminator sha name = Program.discriminator sha name := rfl

/-! ## The resolver -/

/-- `AnchorInstructionResolver`. -/
structure Resolver where
  protocolName : String
  authMode : String
  spec : Spec
  discriminator : List UInt8

/-- `PROTOCOLS.get(name, PROTOCOLS["generic_anchor"])`. -/
def specOf (protocolName : String) : Spec :=
  (ProtocolRegistry.protocols.lookup protocolName).getD ProtocolRegistry.genericAnchor

/-- `AnchorInstructionResolver.__init__`. -/
def Resolver.init (sha : Sha256) (settings : Settings) (protocolName authorizationMode : Option String) :
    Resolver :=
  let name := Python.orDefault "" protocolName settings.targetProtocol
  let spec := specOf name
  { protocolName := name
    authMode := Python.orDefault "" authorizationMode settings.authorizationMode
    spec
    discriminator := ProtocolRegistry.deriveAnchorDiscriminator sha spec.instructionName }

def Resolver.validateDiscriminator (resolver : Resolver) (candidate : List UInt8) : Bool :=
  candidate = resolver.discriminator

/-- What `derive_delegated_pda` returns. -/
structure DelegatedPda where
  pdaPubkey : Pubkey
  bump : Nat
  seeds : List String

def deriveDelegatedPda (sha : Sha256) (lendingMarketPubkey gatewayProgramId : Pubkey) :
    DelegatedPda :=
  let digest := sha (utf8 "emergency_guardian" ++ (lendingMarketPubkey.bytes sha).toList.take 32 ++
    utf8 gatewayProgramId.key)
  { pdaPubkey := ⟨"GuardianPDA_" ++ String.ofList ((Python.hex digest.toList).take 24)⟩
    bump := digest[0].toNat % 255
    seeds := ["emergency_guardian", lendingMarketPubkey.key] }

/-- What `build_instruction` returns. -/
structure BuiltInstruction where
  instruction : Instruction
  instructionName : String
  protocolName : String
  discriminatorHex : String
  authorizationMode : String
  accountCount : Nat
  stateMode : String
  notes : String

def gatewayStateDefault : Pubkey := ⟨"GatewayState11111111111111111111111111111"⟩

def systemProg : Pubkey := ⟨"11111111111111111111111111111111"⟩

/-- The result of `build_instruction` for an instruction. -/
def Resolver.result (resolver : Resolver) (instruction : Instruction) (notes : String) :
    BuiltInstruction :=
  { instruction
    instructionName := resolver.spec.instructionName
    protocolName := resolver.protocolName
    discriminatorHex := String.ofList (Python.hex resolver.discriminator)
    authorizationMode := resolver.authMode
    accountCount := instruction.accounts.length
    stateMode := resolver.spec.stateDeserialization
    notes }

/-- `build_instruction`. -/
def Resolver.buildInstruction (sha : Sha256) (settings : Settings) (resolver : Resolver)
    (programId guardianPubkey lendingMarketPubkey reservePubkey : Pubkey)
    (gatewayProgramId gatewayStatePubkey : Option Pubkey) : BuiltInstruction :=
  let data := resolver.discriminator ++ [1]
  if resolver.authMode = "delegated_pda_cpi" then
    let gwProgram := gatewayProgramId.getD ⟨settings.gatewayProgramId⟩
    let pda := deriveDelegatedPda sha lendingMarketPubkey gwProgram
    let gwState := gatewayStatePubkey.getD gatewayStateDefault
    let accounts : List AccountMeta :=
      [{ pubkey := guardianPubkey, isSigner := true, isWritable := false },
        { pubkey := pda.pdaPubkey, isSigner := false, isWritable := false },
        { pubkey := lendingMarketPubkey, isSigner := false, isWritable := false },
        { pubkey := reservePubkey, isSigner := false, isWritable := true },
        { pubkey := gwState, isSigner := false, isWritable := false },
        { pubkey := gwProgram, isSigner := false, isWritable := false },
        { pubkey := systemProg, isSigner := false, isWritable := false }]
    resolver.result { programId := gwProgram, data, accounts }
      ("Delegated PDA CPI via " ++ gwProgram.key ++ " (bump=" ++ toString pda.bump ++ ")")
  else
    let accounts : List AccountMeta :=
      [{ pubkey := guardianPubkey, isSigner := true, isWritable := false },
        { pubkey := lendingMarketPubkey, isSigner := false, isWritable := false },
        { pubkey := reservePubkey, isSigner := false, isWritable := true }]
    resolver.result { programId, data, accounts }
      "Direct Guardian Signer (Authorized On-Chain Role)"

end Adapter
end SolanaGuardian
