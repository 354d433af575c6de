import SolanaGuardian.Program.Handlers

/-!
# Instruction data

What `#[program]` generates around the handlers: the data of an instruction is eight bytes of a
discriminator, `sha256("global:<name>")[:8]`, and the Borsh encoding of the arguments. `dispatch`
reads them; bytes after the arguments are ignored. SHA-256 is a parameter.

* `dispatch_append`: the data that a client encodes decode to the same instruction, whatever
  follows them, unless two discriminators collide. `encode_of_dispatch` is the converse: nothing
  else is accepted.
* `entry_signer`: whatever SHA-256 is, a committed call with less than 72 bytes of data (so no
  `initialize`) has a signer as its second account.
-/

namespace SolanaGuardian
namespace Program

/-- The SHA-256 digest of some bytes. -/
abbrev Sha256 := List UInt8 → Vector UInt8 32

/-- The UTF-8 bytes of a text. -/
def utf8 (s : String) : List UInt8 := s.toUTF8.toList

theorem toList_loop (bytes : ByteArray) (i : Nat) (acc : List UInt8) :
    ByteArray.toList.loop bytes i acc = acc.reverse ++ bytes.data.toList.drop i := by
  fun_induction ByteArray.toList.loop bytes i acc with
  | case1 i acc hlt ih =>
    have hsize : i < bytes.data.toList.length := hlt
    have hget : bytes.get! i = bytes.data.toList[i] := by
      show bytes.data[i]! = _
      rw [getElem!_pos bytes.data i hlt]
      rfl
    rw [ih, List.reverse_cons, List.append_assoc, List.singleton_append, hget,
      ← List.drop_eq_getElem_cons]
  | case2 i acc hge =>
    have hsize : bytes.data.toList.length ≤ i := not_lt.mp hge
    rw [List.drop_eq_nil_of_le hsize, List.append_nil]

/-- Two texts have different bytes. -/
theorem utf8_injective : Function.Injective utf8 := by
  intro s t h
  have hbytes (u : String) : utf8 u = u.toUTF8.data.toList := toList_loop u.toUTF8 0 []
  rw [hbytes, hbytes] at h
  have hdata : s.toUTF8.data = t.toUTF8.data := Array.toList_inj.mp h
  exact String.toByteArray_inj.mp (ByteArray.ext hdata)

/-- The discriminator of an instruction, by its name in the source. -/
def discriminator (sha : Sha256) (name : String) : List UInt8 :=
  (sha (utf8 ("global:" ++ name))).toList.take 8

theorem discriminator_length (sha : Sha256) (name : String) :
    (discriminator sha name).length = 8 := by
  simp [discriminator]

/-! ## Decoding -/

/-- A key: 32 bytes. -/
def decodePubkey (data : List UInt8) : Except ProgramError (Pubkey × List UInt8) :=
  if h : 32 ≤ data.length then
    .ok (⟨(data.take 32).toArray, by simp [h]⟩, data.drop 32)
  else .error .instructionDidNotDeserialize

/-- A `PauseReason` from its code. -/
def PauseReason.ofCode (b : UInt8) : Option PauseReason :=
  if b = 0 then some .oracleDivergence
  else if b = 1 then some .outflowVelocityExceeded
  else if b = 2 then some .emergencyManual
  else if b = 3 then some .other
  else none

/-- A `PauseReason`: one byte. -/
def PauseReason.decode : List UInt8 → Except ProgramError (PauseReason × List UInt8)
  | [] => .error .instructionDidNotDeserialize
  | b :: rest =>
    match PauseReason.ofCode b with
    | some reason => .ok (reason, rest)
    | none => .error .instructionDidNotDeserialize

/-- The instruction that some data name, with its arguments. -/
def dispatch (sha : Sha256) (data : List UInt8) : Except ProgramError Ix :=
  if data.length < 8 then .error .instructionMissing
  else if data.take 8 = discriminator sha "initialize" then do
    let (guardianBot, rest) ← decodePubkey (data.drop 8)
    let (squadsMultisig, _) ← decodePubkey rest
    .ok (.initializeConfig guardianBot squadsMultisig)
  else if data.take 8 = discriminator sha "guardian_pause" then do
    let (reason, _) ← PauseReason.decode (data.drop 8)
    .ok (.guardianPause reason)
  else if data.take 8 = discriminator sha "unpause" then .ok .unpause
  else .error .instructionFallbackNotFound

/-- One call of the program, from the data that the runtime gets. -/
def entry (A : Anchor) (sha : Sha256) (slot : Option GuardianConfig) (data : List UInt8)
    (accounts : List AccountInfo) (clock : Clock) (cpiAccepted : Bool) :
    Except ProgramError (Option GuardianConfig × Output) := do
  let ix ← dispatch sha data
  process A slot { ix, accounts, clock, cpiAccepted }

/-! ## Encoding -/

/-- The name of an instruction in the source. -/
def Ix.name : Ix → String
  | .initializeConfig _ _ => "initialize"
  | .guardianPause _ => "guardian_pause"
  | .unpause => "unpause"

/-- The arguments of an instruction. -/
def Ix.args : Ix → List UInt8
  | .initializeConfig guardianBot squadsMultisig => guardianBot.toList ++ squadsMultisig.toList
  | .guardianPause reason => [reason.code]
  | .unpause => []

/-- The data of an instruction, as a client writes them. -/
def Ix.encode (sha : Sha256) (ix : Ix) : List UInt8 := discriminator sha ix.name ++ ix.args

/-- No two instructions of the program have one discriminator. -/
def DistinctDiscriminators (sha : Sha256) : Prop :=
  discriminator sha "initialize" ≠ discriminator sha "guardian_pause" ∧
  discriminator sha "initialize" ≠ discriminator sha "unpause" ∧
  discriminator sha "guardian_pause" ≠ discriminator sha "unpause"

theorem decodePubkey_append (key : Pubkey) (rest : List UInt8) :
    decodePubkey (key.toList ++ rest) = .ok (key, rest) := by
  have hlen : key.toList.length = 32 := by simp
  have htake : (key.toList ++ rest).take 32 = key.toList := List.take_left' hlen
  have hdrop : (key.toList ++ rest).drop 32 = rest := List.drop_left' hlen
  have hle : 32 ≤ (key.toList ++ rest).length := by rw [List.length_append]; omega
  rw [decodePubkey, dif_pos hle]
  simp only [htake, hdrop]
  rfl

theorem PauseReason.decode_code (reason : PauseReason) (rest : List UInt8) :
    PauseReason.decode (reason.code :: rest) = .ok (reason, rest) := by
  cases reason <;> rfl

/-- **Round trip.** Encoded data decode to the instruction, whatever follows them. -/
theorem dispatch_append {sha : Sha256} (h : DistinctDiscriminators sha) (ix : Ix)
    (rest : List UInt8) : dispatch sha (ix.encode sha ++ rest) = .ok ix := by
  obtain ⟨hip, hiu, hpu⟩ := h
  have hlen : (discriminator sha ix.name).length = 8 := discriminator_length sha ix.name
  have hsplit : ix.encode sha ++ rest = discriminator sha ix.name ++ (ix.args ++ rest) := by
    rw [Ix.encode, List.append_assoc]
  have htake : (ix.encode sha ++ rest).take 8 = discriminator sha ix.name := by
    rw [hsplit, List.take_left' hlen]
  have hdrop : (ix.encode sha ++ rest).drop 8 = ix.args ++ rest := by
    rw [hsplit, List.drop_left' hlen]
  have hsize : ¬ (ix.encode sha ++ rest).length < 8 := by
    rw [hsplit, List.length_append]
    omega
  rw [dispatch, if_neg hsize, htake, hdrop]
  cases ix with
  | initializeConfig bot squads =>
    simp only [Ix.name, Ix.args, ↓reduceIte, List.append_assoc, decodePubkey_append, bind,
      Except.bind]
  | guardianPause reason =>
    have hpi := Ne.symm hip
    simp only [Ix.name, Ix.args, hpi, ↓reduceIte, List.singleton_append, PauseReason.decode_code,
      bind, Except.bind]
  | unpause =>
    have hui := Ne.symm hiu
    have hup := Ne.symm hpu
    simp only [Ix.name, hui, hup, ↓reduceIte]

theorem dispatch_encode {sha : Sha256} (h : DistinctDiscriminators sha) (ix : Ix) :
    dispatch sha (ix.encode sha) = .ok ix := by
  simpa using dispatch_append h ix []

/-- A key is read off its own bytes. -/
theorem decodePubkey_ok {data rest : List UInt8} {key : Pubkey}
    (h : decodePubkey data = .ok (key, rest)) : data = key.toList ++ rest := by
  unfold decodePubkey at h
  split at h
  · cases h
    simp [Vector.toList]
  · cases h

/-- A reason is read off its own code. -/
theorem PauseReason.decode_ok {data rest : List UInt8} {reason : PauseReason}
    (h : PauseReason.decode data = .ok (reason, rest)) : data = reason.code :: rest := by
  cases data with
  | nil => cases h
  | cons b data =>
    simp only [PauseReason.decode, PauseReason.ofCode] at h
    split at h
    · rename_i reason' hcode
      cases h
      grind [PauseReason.code]
    · cases h

/-- Only data that begin with an encoded instruction are accepted. -/
theorem encode_of_dispatch {sha : Sha256} {data : List UInt8} {ix : Ix}
    (h : dispatch sha data = .ok ix) : ∃ rest, data = ix.encode sha ++ rest := by
  unfold dispatch at h
  split at h
  · cases h
  -- In each branch the data are the discriminator and what `decode` read after it.
  split at h
  · rename_i hdisc
    simp only [bind_ok] at h
    obtain ⟨⟨bot, rest⟩, hbot, ⟨squads, rest'⟩, hsquads, h⟩ := h
    cases h
    refine ⟨rest', ?_⟩
    rw [Ix.encode, Ix.name, Ix.args, List.append_assoc, List.append_assoc,
      ← decodePubkey_ok hsquads, ← decodePubkey_ok hbot, ← hdisc, List.take_append_drop]
  split at h
  · rename_i hdisc
    simp only [bind_ok] at h
    obtain ⟨⟨reason, rest⟩, hreason, h⟩ := h
    cases h
    refine ⟨rest, ?_⟩
    rw [Ix.encode, Ix.name, Ix.args, List.append_assoc, List.singleton_append,
      ← PauseReason.decode_ok hreason, ← hdisc, List.take_append_drop]
  split at h
  · rename_i hdisc
    cases h
    refine ⟨data.drop 8, ?_⟩
    rw [Ix.encode, Ix.name, Ix.args, List.append_nil, ← hdisc, List.take_append_drop]
  · cases h

/-! ## Signers -/

variable {A : Anchor}

/-- Data of less than two keys name no `initialize`. -/
theorem dispatch_short {sha : Sha256} {data : List UInt8} {bot squads : Pubkey}
    (h : data.length < 72) : dispatch sha data ≠ .ok (.initializeConfig bot squads) := by
  intro hd
  unfold dispatch at hd
  split at hd
  · cases hd
  split at hd
  · rw [bind_ok] at hd
    obtain ⟨⟨k, rest⟩, hk, hd⟩ := hd
    rw [bind_ok] at hd
    obtain ⟨⟨k', rest'⟩, hk', hd⟩ := hd
    unfold decodePubkey at hk hk'
    split at hk
    · cases hk
      split at hk'
      · rename_i hlen
        simp only [List.length_drop] at hlen
        omega
      · cases hk'
    · cases hk
  split at hd
  · rw [bind_ok] at hd
    obtain ⟨r, -, hd⟩ := hd
    cases hd
  split at hd
  · cases hd
  · cases hd

/-- A committed call whose data are too short for an `initialize` has a signer as its second
account. -/
theorem entry_signer {sha : Sha256} {slot : Option GuardianConfig} {data : List UInt8}
    {accounts : List AccountInfo} {clock : Clock} {cpiAccepted : Bool}
    {slot' : Option GuardianConfig} {out : Output}
    (h : entry A sha slot data accounts clock cpiAccepted = .ok (slot', out))
    (hdata : data.length < 72) :
    ∃ config signer rest, accounts = config :: signer :: rest ∧ signer.isSigner = true := by
  unfold entry at h
  rw [bind_ok] at h
  obtain ⟨ix, hix, h⟩ := h
  cases process_ok h with
  | initializeConfig ctx bot squads rest hix' =>
    have hix' : ix = .initializeConfig bot squads := hix'
    rw [hix'] at hix
    exact absurd hix (dispatch_short hdata)
  | guardianPause ctx reason info out _ hacc => exact ⟨_, _, _, hacc, ctx.guardianBot.2⟩
  | unpause ctx info rest out _ hacc => exact ⟨_, _, _, hacc, ctx.squadsMultisig.2⟩

end Program
end SolanaGuardian
