import SolanaGuardian.Adapter.Resolver

/-!
# The delegated pause on chain

The default gateway is the program of `SolanaGuardian/Program`, so in `delegated_pda_cpi` mode the
resolver and the program are the two ends of one instruction. `DecodesAsPause` is what the program
needs of it: the discriminator and the argument of `guardian_pause`, and the accounts of the struct
`GuardianPause` in their order.

`delegated_never_decodes`: no instruction that the resolver builds in this mode has it.
`delegated_rejected` is the same at the program's entry point: whatever SHA-256 is, and whatever
the rest of the transaction makes writable, the program rejects the instruction, unless the
transaction is signed by the delegated address itself.
-/

namespace SolanaGuardian
namespace Adapter

open Program (Sha256)

/-- The program decodes the instruction as a `guardian_pause` by the guardian. `decodeKey` reads
the text of a key, and `A` derives the addresses of the configs. -/
structure DecodesAsPause (A : Program.Anchor) (sha : Sha256)
    (decodeKey : String → Option Program.Pubkey) (guardian : Pubkey) (ix : Instruction) : Prop where
  discriminator : ix.data.take 8 = Program.discriminator sha "guardian_pause"
  reason : ∃ r rest, Program.PauseReason.decode (ix.data.drop 8) = .ok (r, rest)
  config : ∃ m key target bump, ix.accounts[0]? = some m ∧ m.isWritable = true ∧
    decodeKey m.pubkey.key = some key ∧ A.configAddress target = some (key, bump)
  signer : ∃ m, ix.accounts[1]? = some m ∧ m.isSigner = true ∧ m.pubkey = guardian

/-- The instruction of the delegated mode, with the default gateway. -/
def delegatedInstruction (sha : Sha256) (settings : Settings) (protocolName : Option String)
    (programId guardian lendingMarket reserve : Pubkey) (gatewayState : Option Pubkey) :
    Instruction :=
  ((Resolver.init sha settings protocolName (some "delegated_pda_cpi")).buildInstruction sha settings
    programId guardian lendingMarket reserve none gatewayState).instruction

/-- The config of a `guardian_pause` is its first account, writable. -/
theorem not_decodes_of_accounts {A : Program.Anchor} {sha : Sha256}
    {decodeKey : String → Option Program.Pubkey} {guardian : Pubkey} {ix : Instruction}
    {m m' : AccountMeta} (haccounts : ix.accounts.take 2 = [m, m']) (hm : m.isWritable = false) :
    ¬ DecodesAsPause A sha decodeKey guardian ix := by
  intro h
  obtain ⟨first, key, target, bump, hfirst, hwritable, -, -⟩ := h.config
  rw [← List.getElem?_take_of_lt (by decide : 0 < 2), haccounts] at hfirst
  cases hfirst
  rw [hm] at hwritable
  cases hwritable

section

variable (sha : Sha256) (settings : Settings) (protocolName : Option String)
  (programId guardian lendingMarket reserve : Pubkey) (gatewayState : Option Pubkey)

/-- The first two accounts of the delegated mode: the guardian, who signs and is not writable, and
the delegated address, which does not sign. -/
theorem delegated_accounts :
    (delegatedInstruction sha settings protocolName programId guardian lendingMarket reserve
      gatewayState).accounts.take 2 =
    [{ pubkey := guardian, isSigner := true, isWritable := false },
      { pubkey := (deriveDelegatedPda sha lendingMarket ⟨settings.gatewayProgramId⟩).pdaPubkey,
        isSigner := false, isWritable := false }] := rfl

theorem delegated_data :
    (delegatedInstruction sha settings protocolName programId guardian lendingMarket reserve
      gatewayState).data =
    Program.discriminator sha (specOf (Python.orDefault "" protocolName
      settings.targetProtocol)).instructionName ++ [1] := by
  rw [← deriveAnchorDiscriminator_eq]
  rfl

/-- **The delegated mode never decodes** as a `guardian_pause`: its first account, the guardian, is
not writable. -/
theorem delegated_never_decodes (A : Program.Anchor)
    (decodeKey : String → Option Program.Pubkey) :
    ¬ DecodesAsPause A sha decodeKey guardian
      (delegatedInstruction sha settings protocolName programId guardian lendingMarket reserve
        gatewayState) :=
  not_decodes_of_accounts (delegated_accounts sha settings protocolName programId guardian
    lendingMarket reserve gatewayState) rfl

/-- The argument alone decodes: the byte 1 is a pause for an outflow. -/
theorem delegated_reason :
    Program.PauseReason.decode ((delegatedInstruction sha settings protocolName programId guardian
      lendingMarket reserve gatewayState).data.drop 8) = .ok (.outflowVelocityExceeded, []) := by
  rw [delegated_data, List.drop_left' (Program.discriminator_length sha _)]
  rfl

/-! ## At the entry point -/

/-- An account as the runtime loads it for an instruction: it is a signer if its key signed the
transaction. The other flags are those of the rest of the transaction. -/
structure Loaded (decodeKey : String → Option Program.Pubkey) (signed : Program.Pubkey → Prop)
    (m : AccountMeta) (a : Program.AccountInfo) : Prop where
  key : decodeKey m.pubkey.key = some a.key
  isSigner : a.isSigner = true ↔ signed a.key

/-- **Rejected on chain.** The program rejects every instruction of the delegated mode, unless the
delegated address signs. -/
theorem delegated_rejected {A : Program.Anchor} {decodeKey : String → Option Program.Pubkey}
    {signed : Program.Pubkey → Prop} {accounts : List Program.AccountInfo}
    (hload : List.Forall₂ (Loaded decodeKey signed)
      (delegatedInstruction sha settings protocolName programId guardian lendingMarket reserve
        gatewayState).accounts accounts)
    (hpda : ∀ key, decodeKey (deriveDelegatedPda sha lendingMarket
      ⟨settings.gatewayProgramId⟩).pdaPubkey.key = some key → ¬ signed key)
    (slot : Option Program.GuardianConfig) (clock : Program.Clock) (cpiAccepted : Bool)
    (slot' : Option Program.GuardianConfig) (out : Program.Output) :
    Program.entry A sha slot (delegatedInstruction sha settings protocolName programId guardian
      lendingMarket reserve gatewayState).data accounts clock cpiAccepted ≠ .ok (slot', out) := by
  intro h
  have hdata : (delegatedInstruction sha settings protocolName programId guardian lendingMarket
      reserve gatewayState).data.length < 72 := by
    rw [delegated_data, List.length_append, Program.discriminator_length]
    decide
  obtain ⟨config, signer, rest, rfl, hsigner⟩ := Program.entry_signer h hdata
  obtain ⟨-, hrest⟩ := List.forall₂_cons.mp hload
  obtain ⟨hloaded, -⟩ := List.forall₂_cons.mp hrest
  exact hpda _ hloaded.key (hloaded.isSigner.mp hsigner)

end

/-! ## A sample instruction

A pause of `kamino_klend`, by the guardian `04…04` for the lending market `03…03` of the sample
deployment. The texts are the Base58 of the keys, and the digests are those of SHA-256. -/

def sampleMarket : Pubkey := ⟨"CktRuQ2mttgRGkXJtyksdKHjUdc2C4TgDzyB98oEzy8"⟩

def sampleGuardian : Pubkey := ⟨"GgBaCs3NCBuZN12kCJgAW63ydqohFkHEdfdEXBPzLHq"⟩

def sampleReserve : Pubkey := ⟨"US517G5965aydkZ46HS38QLi7UQiSojurfbQfKCELFx"⟩

def sampleDecodeKey (text : String) : Option Program.Pubkey :=
  [(sampleMarket.key, Program.sampleKey 3), (sampleGuardian.key, Program.sampleKey 4),
    (sampleReserve.key, Program.sampleKey 7)].lookup text

def sampleMarketDigest : Vector UInt8 32 :=
  #v[70, 99, 47, 245, 42, 30, 73, 132, 146, 189, 71, 47, 97, 179, 176, 141, 51, 216, 216, 112, 58,
    196, 171, 161, 27, 197, 179, 233, 69, 214, 6, 186]

/-- SHA-256 on what the sample hashes. -/
def sampleSha : Sha256 := fun bytes =>
  ([(Program.utf8 "global:guardian_pause",
      #v[184, 93, 27, 13, 127, 100, 198, 238, 211, 27, 159, 245, 104, 196, 45, 217, 97, 67, 33, 34,
        27, 50, 192, 26, 74, 59, 82, 82, 77, 115, 37, 162]),
    (Program.utf8 "global:pause_reserve",
      #v[83, 101, 128, 118, 91, 12, 31, 140, 205, 125, 119, 226, 132, 58, 241, 49, 110, 128, 210,
        102, 5, 24, 24, 85, 128, 183, 143, 166, 3, 49, 126, 184]),
    (Program.utf8 sampleMarket.key, sampleMarketDigest),
    (Program.utf8 "emergency_guardian" ++ sampleMarketDigest.toList ++
        Program.utf8 "Guard1anBreaker111111111111111111111111111111",
      #v[46, 146, 88, 246, 148, 129, 238, 1, 137, 104, 203, 29, 247, 184, 105, 231, 249, 22, 228,
        165, 44, 26, 61, 137, 144, 159, 41, 123, 254, 162, 3, 227])].lookup bytes).getD
    (Vector.replicate 32 0)

def sampleInstruction : Instruction :=
  delegatedInstruction sampleSha {} (some "kamino_klend")
    ⟨"KLend2gQjcU6xiprGoMsF9hMYDzR7sFNvjKLGV9V7wnq"⟩ sampleGuardian sampleMarket sampleReserve none

/-- The sample has the discriminator of `pause_reserve`, the guardian as its first account, not
writable, and an unsigned address as its second. -/
theorem sample_not_decoded :
    ¬ DecodesAsPause Program.sampleAnchor sampleSha sampleDecodeKey sampleGuardian
      sampleInstruction ∧
    sampleInstruction.data = [83, 101, 128, 118, 91, 12, 31, 140, 1] ∧
    Program.discriminator sampleSha "guardian_pause" = [184, 93, 27, 13, 127, 100, 198, 238] ∧
    sampleInstruction.accounts.take 2 =
      [{ pubkey := sampleGuardian, isSigner := true, isWritable := false },
        { pubkey := ⟨"GuardianPDA_2e9258f69481ee018968cb1d"⟩, isSigner := false,
          isWritable := false }] := by
  refine ⟨not_decodes_of_accounts (delegated_accounts _ _ _ _ _ _ _ _) rfl, ?_, ?_, ?_⟩
  · decide +kernel
  · decide +kernel
  · decide +kernel

end Adapter
end SolanaGuardian
