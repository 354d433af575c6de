import SolanaGuardian.Adapter.Resolver
import SolanaGuardian.Program.Layout

/-!
# What the agent can do to the program

The agent builds instructions in two places: the resolver (`app/core/protocol_adapters.py`), in
either authorization mode, and `build_pause_ix` (`app/core/jito_executor.py`). All of them name the
pause of a lending protocol (`built_data`). The program of `SolanaGuardian/Program` knows three other
names, so unless two of these names collide under SHA-256 (`DisjointNames`), it rejects everything
that the agent builds before it looks at an account (`built_rejected`), and everything with a
discriminator that the resolver validates (`validated_refused`).

`agent_inert` is the result over whole runs: whatever calls reach the program, those of the agent
can be taken out, and every account and every event is the same. In particular nothing that the
agent builds lifts a pause.
-/

namespace SolanaGuardian
namespace Adapter

open Program (Sha256)

/-- `build_pause_ix`. -/
def buildPauseIx (sha : Sha256) (programId guardianPubkey lendingMarketPubkey reservePubkey : Pubkey)
    (discriminator : Option (List UInt8)) : Instruction :=
  let discriminator :=
    discriminator.getD ((sha (Program.utf8 "global:pause_asset")).toList.take 8)
  { programId
    data := discriminator ++ [1]
    accounts :=
      [{ pubkey := guardianPubkey, isSigner := true, isWritable := false },
        { pubkey := lendingMarketPubkey, isSigner := false, isWritable := false },
        { pubkey := reservePubkey, isSigner := false, isWritable := true }] }

/-- The data of an instruction that the agent builds. -/
inductive Built (sha : Sha256) : List UInt8 → Prop
  | resolver (settings : Settings) (protocolName authorizationMode : Option String)
      (programId guardian lendingMarket reserve : Pubkey)
      (gatewayProgramId gatewayState : Option Pubkey) :
      Built sha ((Resolver.init sha settings protocolName authorizationMode).buildInstruction sha
        settings programId guardian lendingMarket reserve gatewayProgramId
        gatewayState).instruction.data
  | pauseIx (programId guardian lendingMarket reserve : Pubkey) :
      Built sha (buildPauseIx sha programId guardian lendingMarket reserve none).data

/-- The instructions of the registry. -/
def registryNames : List String := ProtocolRegistry.protocols.map (·.2.instructionName)

/-- Every protocol name, known or not, leads to an instruction of the registry. -/
theorem specOf_mem (protocolName : String) :
    (specOf protocolName).instructionName ∈ registryNames := by
  unfold specOf
  cases h : ProtocolRegistry.protocols.lookup protocolName with
  | none => decide
  | some spec =>
    obtain ⟨before, after, hsplit, -⟩ := List.lookup_eq_some_iff.mp h
    rw [registryNames, hsplit]
    simp

/-- In the direct mode the resolver builds what `build_pause_ix` builds for its discriminator. -/
theorem buildInstruction_direct {sha : Sha256} {settings : Settings} {resolver : Resolver}
    (hmode : resolver.authMode ≠ "delegated_pda_cpi")
    (programId guardian lendingMarket reserve : Pubkey) (gateway gatewayState : Option Pubkey) :
    (resolver.buildInstruction sha settings programId guardian lendingMarket reserve gateway
      gatewayState).instruction =
    buildPauseIx sha programId guardian lendingMarket reserve (some resolver.discriminator) := by
  simp only [Resolver.buildInstruction, hmode, ↓reduceIte]
  rfl

/-- In both modes the data are the discriminator and the byte 1. -/
theorem buildInstruction_data {sha : Sha256} {settings : Settings} {resolver : Resolver}
    (programId guardian lendingMarket reserve : Pubkey) (gateway gatewayState : Option Pubkey) :
    (resolver.buildInstruction sha settings programId guardian lendingMarket reserve gateway
      gatewayState).instruction.data = resolver.discriminator ++ [1] := by
  by_cases hmode : resolver.authMode = "delegated_pda_cpi"
  · simp only [Resolver.buildInstruction, hmode, ↓reduceIte]
    rfl
  · rw [buildInstruction_direct hmode]
    rfl

/-- Everything that the agent builds names an instruction of the registry. -/
theorem built_data {sha : Sha256} {data : List UInt8} (h : Built sha data) :
    ∃ name ∈ registryNames, data = Program.discriminator sha name ++ [1] := by
  cases h with
  | resolver settings protocolName mode programId guardian market reserve gateway gatewayState =>
    refine ⟨_, specOf_mem (Python.orDefault "" protocolName settings.targetProtocol), ?_⟩
    rw [buildInstruction_data, ← deriveAnchorDiscriminator_eq]
    rfl
  | pauseIx programId guardian market reserve => exact ⟨"pause_asset", by decide, rfl⟩

/-- No instruction of the registry has the discriminator of one of the program. -/
def DisjointNames (sha : Sha256) : Prop :=
  ∀ name ∈ registryNames, ∀ own ∈ ["initialize", "guardian_pause", "unpause"],
    Program.discriminator sha name ≠ Program.discriminator sha own

/-- The program does not know the instructions of the registry. -/
theorem dispatch_registry {sha : Sha256} (hdisjoint : DisjointNames sha) {name : String}
    (hname : name ∈ registryNames) (rest : List UInt8) :
    Program.dispatch sha (Program.discriminator sha name ++ rest) =
      .error .instructionFallbackNotFound := by
  have hlen : (Program.discriminator sha name).length = 8 :=
    Program.discriminator_length sha name
  have htake : (Program.discriminator sha name ++ rest).take 8 = Program.discriminator sha name :=
    List.take_left' hlen
  have hsize : ¬ (Program.discriminator sha name ++ rest).length < 8 := by
    rw [List.length_append]
    omega
  have hinit := hdisjoint name hname "initialize" (by decide)
  have hpause := hdisjoint name hname "guardian_pause" (by decide)
  have hunpause := hdisjoint name hname "unpause" (by decide)
  rw [Program.dispatch, if_neg hsize, htake, if_neg hinit, if_neg hpause, if_neg hunpause]

/-- The program does not know what the agent builds. -/
theorem dispatch_built {sha : Sha256} (hdisjoint : DisjointNames sha) {data : List UInt8}
    (h : Built sha data) : Program.dispatch sha data = .error .instructionFallbackNotFound := by
  obtain ⟨name, hname, rfl⟩ := built_data h
  exact dispatch_registry hdisjoint hname [1]

/-! ## Validation -/

section

variable (sha : Sha256) (settings : Settings) (protocolName authorizationMode : Option String)

/-- `validate_discriminator` accepts what the resolver's own instructions begin with, in both modes. -/
theorem validateDiscriminator_iff (programId guardian lendingMarket reserve : Pubkey)
    (gateway gatewayState : Option Pubkey) (candidate : List UInt8) :
    (Resolver.init sha settings protocolName authorizationMode).validateDiscriminator candidate = true ↔
      candidate = ((Resolver.init sha settings protocolName authorizationMode).buildInstruction sha
        settings programId guardian lendingMarket reserve gateway gatewayState).instruction.data.take
          8 := by
  have hlen : (Resolver.init sha settings protocolName authorizationMode).discriminator.length = 8 :=
    Program.discriminator_length sha _
  rw [buildInstruction_data, List.take_left' hlen, Resolver.validateDiscriminator, decide_eq_true_iff]

/-- So the program does not know what it accepts. -/
theorem validated_refused (hdisjoint : DisjointNames sha) {candidate : List UInt8}
    (h : (Resolver.init sha settings protocolName authorizationMode).validateDiscriminator candidate =
      true) (rest : List UInt8) :
    Program.dispatch sha (candidate ++ rest) = .error .instructionFallbackNotFound := by
  have hcandidate : candidate = Program.discriminator sha
      (specOf (Python.orDefault "" protocolName settings.targetProtocol)).instructionName := by
    rw [Resolver.validateDiscriminator, decide_eq_true_iff] at h
    exact h
  rw [hcandidate]
  exact dispatch_registry hdisjoint (specOf_mem _) rest

end

/-! ## The agent in a run -/

/-- The program rejects what the agent builds, whatever the accounts. -/
theorem built_rejected {A : Program.Anchor} {sha : Sha256} (hdisjoint : DisjointNames sha)
    {raw : Program.RawCall} (h : Built sha raw.data) (s : Program.RawStore) :
    (Program.rawProgram A sha).step s raw = .error (.program .instructionFallbackNotFound) := by
  apply Transact.decoding_refused
  rw [Program.RawCall.call, dispatch_built hdisjoint h]

/-- **The agent is inert on the program.** Take out of a run any calls that carry what the agent
built: each was rejected, and the accounts and the committed calls with their events are the
same. -/
theorem agent_inert (A : Program.Anchor) (sha : Sha256) (hdisjoint : DisjointNames sha)
    (raws : List Program.RawCall) (keep : Program.RawCall → Bool)
    (hkeep : ∀ raw ∈ raws, keep raw = false → Built sha raw.data) :
    (∀ raw s, Built sha raw.data → (Program.rawProgram A sha).step s raw =
      .error (.program .instructionFallbackNotFound)) ∧
    (Program.rawProgram A sha).exec Program.rawGenesis (raws.filter keep) =
      (Program.rawProgram A sha).exec Program.rawGenesis raws ∧
    (Program.rawProgram A sha).log Program.rawGenesis (raws.filter keep) =
      (Program.rawProgram A sha).log Program.rawGenesis raws := by
  have hfail : ∀ raw ∈ raws, keep raw = false → ∀ s, ∃ e,
      (Program.rawProgram A sha).step s raw = .error e :=
    fun raw hraw hk s => ⟨_, built_rejected hdisjoint (hkeep raw hraw hk) s⟩
  exact ⟨fun raw s h => built_rejected hdisjoint h s,
    Transact.Machine.run_filter hfail Program.rawGenesis⟩

/-! ## A sample -/

/-- SHA-256 on the names of the program and of the registry. -/
def sampleNames : Sha256 := fun bytes =>
  (([("global:pause_reserve",
        [83, 101, 128, 118, 91, 12, 31, 140, 205, 125, 119, 226, 132, 58, 241, 49, 110, 128, 210, 102,
          5, 24, 24, 85, 128, 183, 143, 166, 3, 49, 126, 184]),
      ("global:marginfi_group_set_bank_emergency_paused",
        [244, 1, 171, 69, 3, 124, 106, 117, 202, 46, 169, 177, 244, 211, 195, 137, 150, 13, 187, 193,
          90, 135, 245, 175, 70, 209, 43, 97, 170, 234, 225, 130]),
      ("global:pause_asset",
        [74, 48, 215, 205, 232, 186, 89, 5, 220, 174, 126, 60, 234, 152, 54, 173, 106, 163, 46, 146,
          122, 136, 121, 8, 136, 249, 2, 160, 226, 255, 240, 20])].find?
    fun r => Program.utf8 r.1 = bytes).map fun r => Program.digestOf r.2).getD
      (Program.sampleDigests bytes)

theorem sampleNames_disjoint : DisjointNames sampleNames := by
  unfold DisjointNames
  decide +kernel

/-- The `initialize` of the sample deployment, as the runtime gets it. -/
def sampleRawInit : Program.RawCall :=
  { data := Program.Ix.encode sampleNames (.initializeConfig (Program.sampleKey 4)
      (Program.sampleKey 5))
    accounts := Program.sampleInit.accounts
    clock := Program.sampleClock
    cpiAccepted := true }

/-- A pause that `build_pause_ix` builds. -/
def samplePauseIx : Instruction :=
  buildPauseIx sampleNames ⟨"KLend2gQjcU6xiprGoMsF9hMYDzR7sFNvjKLGV9V7wnq"⟩
    ⟨"GuardianKey11111111111111111111111111111111"⟩
    ⟨"7u3HeHxYDLhnCoErrtycNokbQYbWGzLs6JSDqGAv5PfF"⟩ ⟨"ReserveUSDC11111111111111111111111111111"⟩
    none

/-- It is sent to the program with the accounts of a pause. -/
def sampleRawPause : Program.RawCall :=
  { data := samplePauseIx.data
    accounts := (Program.samplePause []).accounts
    clock := Program.sampleClock
    cpiAccepted := true }

theorem agent_inert_sample :
    (Program.rawProgram Program.sampleAnchor sampleNames).exec Program.rawGenesis [sampleRawInit] =
      (Program.rawProgram Program.sampleAnchor sampleNames).exec Program.rawGenesis
        [sampleRawInit, sampleRawPause] := by
  have hpause : Built sampleNames sampleRawPause.data :=
    .pauseIx samplePauseIx.programId ⟨"GuardianKey11111111111111111111111111111111"⟩
      ⟨"7u3HeHxYDLhnCoErrtycNokbQYbWGzLs6JSDqGAv5PfF"⟩ ⟨"ReserveUSDC11111111111111111111111111111"⟩
  have hrun := agent_inert Program.sampleAnchor sampleNames sampleNames_disjoint
    [sampleRawInit, sampleRawPause] (fun raw => raw.data.length = 72) (by
      intro raw hraw hkeep
      rcases List.mem_cons.mp hraw with rfl | hraw
      · exact absurd hkeep (by decide +kernel)
      · cases List.mem_singleton.mp hraw
        exact hpause)
  have hfilter : [sampleRawInit, sampleRawPause].filter (fun raw => raw.data.length = 72) =
      [sampleRawInit] := by decide +kernel
  rw [hfilter] at hrun
  exact hrun.2.1

end Adapter
end SolanaGuardian
