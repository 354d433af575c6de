import SolanaGuardian.Lib.Codec
import SolanaGuardian.Lib.Simulation
import SolanaGuardian.Program.Breaker
import SolanaGuardian.Program.Identity
import SolanaGuardian.Program.Wire

/-!
# The program on bytes

What the runtime stores and sends is bytes. `#[account]` puts eight bytes of a discriminator,
`sha256("account:GuardianConfig")[:8]`, before the Borsh fields of the record, and `init` allocates
`8 + INIT_SPACE` bytes for them. `rawProcess` is one call on the bytes of an account: Anchor reads
them (`tryDeserialize`), runs the checks and the handler, and writes the record back over them
(`trySerialize`). `initialize` reads nothing of an account, only whether it is in use.

* `accepted_iff`: what is accepted as an instruction and as an account is what was written as one.
* `rawProcess_data`: on the bytes of a record, that is `process` on the record.
* `rawAccount_encodes`: so the store of bytes is the store of records in that form
  (`Transact.Encodes`).
* `raw_run` is the result, for every run on any instruction data: the accounts are the bytes of the
  accounts of the run on the instructions that the data name. No call fails for the bytes of an
  account, and what a reader of the raw bytes sees of the breaker is right.
-/

namespace SolanaGuardian
namespace Program

/-! ## The bytes of an account -/

/-- `GuardianConfig::INIT_SPACE`. -/
def initSpace : Nat := 32 + 32 + 32 + 1 + 1 + 8 + 1

/-- The Borsh fields of a record, in the order of the struct. -/
def GuardianConfig.codec : Codec GuardianConfig :=
  ((Codec.bytes 32).pair <| (Codec.bytes 32).pair <| (Codec.bytes 32).pair <| Codec.bool.pair <|
    Codec.uint8.pair <| Codec.int64.pair Codec.uint8).equiv
    { toFun := fun (admin, guardianBot, targetProtocol, isPaused, consecutivePauses, pausedAt, bump) =>
        { admin, guardianBot, targetProtocol, isPaused, consecutivePauses, pausedAt, bump }
      invFun := fun c => (c.admin, c.guardianBot, c.targetProtocol, c.isPaused, c.consecutivePauses,
        c.pausedAt, c.bump)
      left_inv := fun _ => rfl
      right_inv := fun _ => rfl }

theorem GuardianConfig.codec_sized : GuardianConfig.codec.Sized initSpace := by
  intro config
  simp [GuardianConfig.codec, initSpace]

/-- The discriminator of the account. -/
def accountDiscriminator (sha : Sha256) : List UInt8 :=
  (sha (utf8 "account:GuardianConfig")).toList.take 8

@[simp] theorem accountDiscriminator_length (sha : Sha256) :
    (accountDiscriminator sha).length = 8 := by
  simp [accountDiscriminator]

/-- Why a call on bytes fails. -/
inductive RawError where
  | program (e : ProgramError)
  | accountDiscriminatorNotFound | accountDiscriminatorMismatch | accountDidNotDeserialize
  | accountDidNotSerialize
  deriving DecidableEq

/-- `try_serialize`: the discriminator and the fields, over the front of the account's data. -/
def GuardianConfig.trySerialize (sha : Sha256) (config : GuardianConfig) (data : List UInt8) :
    Except RawError (List UInt8) :=
  match Codec.overwrite data (accountDiscriminator sha ++ GuardianConfig.codec.encode config) with
  | some data => .ok data
  | none => .error .accountDidNotSerialize

/-- `try_deserialize`. Bytes after the fields are ignored. -/
def GuardianConfig.tryDeserialize (sha : Sha256) (data : List UInt8) :
    Except RawError GuardianConfig :=
  if data.length < 8 then .error .accountDiscriminatorNotFound
  else if data.take 8 ≠ accountDiscriminator sha then .error .accountDiscriminatorMismatch
  else match GuardianConfig.codec.decode (data.drop 8) with
    | some (config, _) => .ok config
    | none => .error .accountDidNotDeserialize

/-- The bytes of a record. -/
def GuardianConfig.data (sha : Sha256) (config : GuardianConfig) : List UInt8 :=
  accountDiscriminator sha ++ GuardianConfig.codec.encode config

section Bytes

variable {sha : Sha256}

@[simp] theorem GuardianConfig.data_length (config : GuardianConfig) :
    (config.data sha).length = 8 + initSpace := by
  rw [GuardianConfig.data, List.length_append, accountDiscriminator_length,
    GuardianConfig.codec_sized]

/-- A record fills the space that `init` allocates, and replaces what was there. -/
theorem trySerialize_of_length {config : GuardianConfig} {data : List UInt8}
    (h : data.length = 8 + initSpace) : config.trySerialize sha data = .ok (config.data sha) := by
  have hlen : (config.data sha).length = data.length := by rw [GuardianConfig.data_length, h]
  rw [GuardianConfig.trySerialize, ← GuardianConfig.data, Codec.overwrite_of_length hlen]

/-- The bytes of a record are read back, whatever follows them. -/
theorem tryDeserialize_data (config : GuardianConfig) (rest : List UInt8) :
    GuardianConfig.tryDeserialize sha (config.data sha ++ rest) = .ok config := by
  have hlen : (accountDiscriminator sha).length = 8 := accountDiscriminator_length sha
  have hsplit : config.data sha ++ rest =
      accountDiscriminator sha ++ (GuardianConfig.codec.encode config ++ rest) := by
    rw [GuardianConfig.data, List.append_assoc]
  have hsize : ¬ (config.data sha ++ rest).length < 8 := by simp; omega
  have htake : (config.data sha ++ rest).take 8 = accountDiscriminator sha := by
    rw [hsplit, List.take_left' hlen]
  have hdrop : (config.data sha ++ rest).drop 8 = GuardianConfig.codec.encode config ++ rest := by
    rw [hsplit, List.drop_left' hlen]
  rw [GuardianConfig.tryDeserialize, if_neg hsize, htake, hdrop]
  simp

/-- Only bytes that begin with a record are read. -/
theorem data_of_tryDeserialize {config : GuardianConfig} {data : List UInt8}
    (h : GuardianConfig.tryDeserialize sha data = .ok config) :
    ∃ rest, data = config.data sha ++ rest := by
  unfold GuardianConfig.tryDeserialize at h
  split at h
  · cases h
  split at h
  · cases h
  rename_i hdisc
  split at h
  · rename_i c rest hc
    cases h
    refine ⟨rest, ?_⟩
    rw [GuardianConfig.data, List.append_assoc, GuardianConfig.codec.encode_of_decode hc,
      ← not_ne_iff.mp hdisc, List.take_append_drop]
  · cases h

end Bytes

/-- **The formats of the program**: the instruction data that are accepted as an instruction, and
the account data that are accepted as a record, are those that begin with its bytes. -/
theorem accepted_iff (sha : Sha256) (h : DistinctDiscriminators sha) :
    (∀ data ix, dispatch sha data = .ok ix ↔ ∃ rest, data = ix.encode sha ++ rest) ∧
    ∀ data config, GuardianConfig.tryDeserialize sha data = .ok config ↔
      ∃ rest, data = config.data sha ++ rest := by
  refine ⟨fun data ix => ⟨encode_of_dispatch, ?_⟩,
    fun data config => ⟨data_of_tryDeserialize, ?_⟩⟩
  · rintro ⟨rest, rfl⟩
    exact dispatch_append h ix rest
  · rintro ⟨rest, rfl⟩
    exact tryDeserialize_data config rest

/-- A digest, by its bytes. -/
def digestOf (bytes : List UInt8) : Vector UInt8 32 := Vector.ofFn fun i => bytes.getD i 0

/-- SHA-256 on the names of the program. -/
def sampleDigests : Sha256 := fun bytes =>
  digestOf (([(utf8 "global:initialize",
      [175, 175, 109, 31, 13, 152, 155, 237, 212, 106, 149, 7, 50, 129, 173, 194, 27, 181, 224, 225,
        215, 115, 178, 251, 189, 122, 181, 4, 205, 212, 170, 48]),
    (utf8 "global:guardian_pause",
      [184, 93, 27, 13, 127, 100, 198, 238, 211, 27, 159, 245, 104, 196, 45, 217, 97, 67, 33, 34, 27,
        50, 192, 26, 74, 59, 82, 82, 77, 115, 37, 162]),
    (utf8 "global:unpause",
      [169, 144, 4, 38, 10, 141, 188, 255, 186, 181, 203, 179, 245, 2, 235, 115, 17, 14, 246, 162, 55,
        72, 10, 87, 179, 58, 63, 161, 166, 226, 182, 62]),
    (utf8 "account:GuardianConfig",
      [253, 92, 160, 221, 64, 253, 141, 121, 176, 191, 199, 181, 20, 162, 112, 141, 74, 18, 52, 209,
        33, 69, 117, 70, 245, 169, 156, 4, 69, 77, 12, 155])].lookup bytes).getD [])

theorem sampleDigests_distinct : DistinctDiscriminators sampleDigests :=
  ⟨by decide +kernel, by decide +kernel, by decide +kernel⟩

/-- A pause for the velocity of outflows, and an unpause with a byte too many. -/
theorem accepted_sample :
    dispatch sampleDigests [184, 93, 27, 13, 127, 100, 198, 238, 1] =
        .ok (.guardianPause .outflowVelocityExceeded) ∧
      dispatch sampleDigests [169, 144, 4, 38, 10, 141, 188, 255, 7] = .ok .unpause :=
  ⟨((accepted_iff sampleDigests sampleDigests_distinct).1 _ _).mpr ⟨[], by decide +kernel⟩,
    ((accepted_iff sampleDigests sampleDigests_distinct).1 _ _).mpr ⟨[7], by decide +kernel⟩⟩

/-! ## Calls on bytes -/

/-- What the runtime hands to the program. -/
structure RawCall where
  data : List UInt8
  accounts : List AccountInfo
  clock : Clock
  cpiAccepted : Bool
  deriving DecidableEq

/-- The call that some data make. -/
def RawCall.call (sha : Sha256) (raw : RawCall) : Except RawError Call :=
  match dispatch sha raw.data with
  | .ok ix =>
    .ok { ix, accounts := raw.accounts, clock := raw.clock, cpiAccepted := raw.cpiAccepted }
  | .error e => .error (.program e)

/-- A record of zeros: what `init` finds in the space that it allocates. -/
def GuardianConfig.zeroed : GuardianConfig :=
  { admin := Vector.replicate 32 0
    guardianBot := Vector.replicate 32 0
    targetProtocol := Vector.replicate 32 0
    isPaused := false
    consecutivePauses := 0
    pausedAt := 0
    bump := 0 }

/-- What Anchor reads of the account before the handler: the record, and the data that the record
is written back to. -/
def loadAccount (sha : Sha256) (slot : Option (List UInt8)) (ix : Ix) :
    Except RawError (Option GuardianConfig × List UInt8) :=
  match ix, slot with
  | .initializeConfig _ _, slot =>
    .ok (slot.map fun _ => GuardianConfig.zeroed, List.replicate (8 + initSpace) 0)
  | _, none => .ok (none, [])
  | _, some data => (GuardianConfig.tryDeserialize sha data).map fun config => (some config, data)

/-- What Anchor writes after the handler. -/
def exitAccount (sha : Sha256) (data : List UInt8) (r : Option GuardianConfig × Output) :
    Except RawError (Option (List UInt8) × Output) :=
  match r.1 with
  | some config => (config.trySerialize sha data).map fun data => (some data, r.2)
  | none => .ok (none, r.2)

/-- One call at the bytes of one account; `none` is an account that the program does not own. -/
def rawProcess (A : Anchor) (sha : Sha256) (slot : Option (List UInt8)) (call : Call) :
    Except RawError (Option (List UInt8) × Output) := do
  let (config, data) ← loadAccount sha slot call.ix
  let r ← (process A config call).mapError .program
  exitAccount sha data r

/-- The machine of the bytes of one account. -/
def rawAccount (A : Anchor) (sha : Sha256) :
    Transact.Machine (Option (List UInt8)) Call RawError Output := ⟨rawProcess A sha⟩

/-- The bytes of the accounts that the program owns. -/
abbrev RawStore := Pubkey → Option (List UInt8)

/-- The program on bytes: it reads the instruction data first, and then the account. -/
def rawProgram (A : Anchor) (sha : Sha256) :
    Transact.Machine RawStore RawCall RawError Output :=
  Transact.decoding (RawCall.call sha) <|
    Transact.keyed Call.configKey (.program .accountNotEnoughKeys) fun _ => rawAccount A sha

/-- The store before the first call. -/
def rawGenesis : RawStore := fun _ => none

/-! ## The bytes follow the records -/

section Refinement

variable {A : Anchor} {sha : Sha256}

/-- `initialize` depends on an account only by its being in use. -/
theorem process_init {slot slot' : Option GuardianConfig} {call : Call} {bot squads : Pubkey}
    (hix : call.ix = .initializeConfig bot squads) (h : slot.isNone = slot'.isNone) :
    process A slot call = process A slot' call := by
  simp only [process, hix, Initialize.tryAccounts, createAccount, h]

/-- Only `initialize` commits at an account that the program does not own. -/
theorem process_none {call : Call} {r : Option GuardianConfig × Output}
    (h : process A none call = .ok r) : ∃ bot squads, call.ix = .initializeConfig bot squads := by
  have hcommit : Committed A call none r.1 r.2 := process_ok h
  obtain ⟨slot', out⟩ := r
  generalize hslot : (none : Option GuardianConfig) = slot at hcommit
  cases hcommit with
  | initializeConfig ctx bot squads rest hix => exact ⟨bot, squads, hix⟩
  | guardianPause ctx => cases hslot
  | unpause ctx => cases hslot

/-- A committed call leaves a record. -/
theorem process_isSome {slot : Option GuardianConfig} {call : Call}
    {r : Option GuardianConfig × Output} (h : process A slot call = .ok r) :
    ∃ config, r.1 = some config := by
  obtain ⟨slot', out⟩ := r
  cases process_ok h with
  | initializeConfig ctx bot squads => exact ⟨_, rfl⟩
  | guardianPause ctx => exact ⟨_, rfl⟩
  | unpause ctx => exact ⟨_, rfl⟩

/-- What a call does with data of the right length, from the record that it reads. -/
theorem exit_process {slot : Option GuardianConfig} {call : Call} {data : List UInt8}
    (hlen : data.length = 8 + initSpace) :
    ((process A slot call).mapError RawError.program >>= exitAccount sha data) =
      ((process A slot call).map fun r => (r.1.map (·.data sha), r.2)).mapError .program := by
  cases h : process A slot call with
  | error e => rfl
  | ok r =>
    obtain ⟨config, hr⟩ := process_isSome h
    simp [exitAccount, hr, trySerialize_of_length hlen, Except.map, Except.mapError, bind,
      Except.bind]

/-- On the bytes of a record, a call does what it does on the record. -/
theorem rawProcess_data (slot : Option GuardianConfig) (call : Call) :
    rawProcess A sha (slot.map (·.data sha)) call =
      ((process A slot call).map fun r => (r.1.map (·.data sha), r.2)).mapError .program := by
  -- What `loadAccount` finds, by the instruction and the account.
  by_cases hinit : ∃ bot squads, call.ix = .initializeConfig bot squads
  · obtain ⟨bot, squads, hix⟩ := hinit
    have hload : loadAccount sha (slot.map (·.data sha)) call.ix =
        .ok (slot.map fun _ => GuardianConfig.zeroed, List.replicate (8 + initSpace) 0) := by
      rw [hix, loadAccount, Option.map_map]
      rfl
    have hsame := @process_init A (slot.map fun _ => GuardianConfig.zeroed) slot call bot
      squads hix (by cases slot <;> rfl)
    rw [rawProcess, hload, ← hsame]
    exact exit_process List.length_replicate
  · cases slot with
    | none =>
      have hload : loadAccount sha none call.ix = .ok (none, []) := by
        cases hix : call.ix with
        | initializeConfig bot squads => exact absurd ⟨bot, squads, hix⟩ hinit
        | guardianPause reason => rfl
        | unpause => rfl
      rw [rawProcess, Option.map_none, hload]
      cases h : process A none call with
      | error e => simp [h, Except.map, Except.mapError, bind, Except.bind]
      | ok r => exact absurd (process_none h) hinit
    | some config =>
      have hread : GuardianConfig.tryDeserialize sha (config.data sha) = .ok config := by
        simpa using @tryDeserialize_data sha config []
      have hload : loadAccount sha (some (config.data sha)) call.ix =
          .ok (some config, config.data sha) := by
        cases hix : call.ix with
        | initializeConfig bot squads => exact absurd ⟨bot, squads, hix⟩ hinit
        | guardianPause reason => simp [loadAccount, hread, Except.map]
        | unpause => simp [loadAccount, hread, Except.map]
      rw [rawProcess, Option.map_some, hload]
      exact exit_process (GuardianConfig.data_length config)

/-- The bytes of an account are its record in another form. -/
theorem rawAccount_encodes :
    Transact.Encodes (Option.map (·.data sha)) RawError.program (account A) (rawAccount A sha) :=
  rawProcess_data

/-- The calls that some data make. -/
def namedCalls (sha : Sha256) (raws : List RawCall) : List Call :=
  raws.filterMap fun raw => (raw.call sha).toOption

/-- A store of bytes is a store of records in another form. -/
theorem rawStore_encodes :
    Transact.Encodes (fun (s : Store) key => (s key).map (·.data sha)) RawError.program (program A)
      (Transact.keyed Call.configKey (.program .accountNotEnoughKeys) fun _ => rawAccount A sha) :=
  rawAccount_encodes.keyed

/-- After a run on bytes, an account is the bytes of the record of the run on its calls. -/
theorem rawProgram_exec (raws : List RawCall) (key : Pubkey) :
    (rawProgram A sha).exec rawGenesis raws key =
      ((program A).exec genesis (namedCalls sha raws) key).map (·.data sha) := by
  rw [rawProgram, Transact.decoding_exec]
  exact congrFun (rawStore_encodes.exec genesis (namedCalls sha raws)) key

/-- A call after a run on bytes fails only as a call on records does. -/
theorem rawProgram_error {raws : List RawCall} {raw : RawCall} {e : RawError}
    (h : (rawProgram A sha).step ((rawProgram A sha).exec rawGenesis raws) raw = .error e) :
    ∃ e', e = .program e' := by
  rw [funext (rawProgram_exec raws)] at h
  cases hc : raw.call sha with
  | error e' =>
    rw [rawProgram, Transact.decoding_refused hc] at h
    cases h
    unfold RawCall.call at hc
    split at hc
    · cases hc
    · exact ⟨_, (Except.error.inj hc).symm⟩
  | ok call =>
    rw [rawProgram, Transact.decoding_step hc] at h
    obtain ⟨e', -, rfl⟩ := rawStore_encodes.step_error h
    exact ⟨e', rfl⟩

/-- Where the flag and the count stand in the bytes of a record. -/
theorem data_flag (config : GuardianConfig) :
    (config.data sha)[104]? = some (if config.isPaused then 1 else 0) ∧
      (config.data sha)[105]? = some config.consecutivePauses := by
  have hdata : config.data sha = (accountDiscriminator sha ++ (config.admin.toList ++
      (config.guardianBot.toList ++ config.targetProtocol.toList))) ++
        ((if config.isPaused then 1 else 0) :: config.consecutivePauses ::
          (Codec.int64.encode config.pausedAt ++ [config.bump])) := by
    simp [GuardianConfig.data, GuardianConfig.codec]
  rw [hdata]
  constructor
  · rw [List.getElem?_append_right (by simp)]
    simp
  · rw [List.getElem?_append_right (by simp)]
    simp

end Refinement

/-- **The program on bytes**, over every run on any instruction data: an account is the bytes of the
record that the run on the named calls leaves, and these fill the allocated space. No call fails
for want of space or for what an account holds. In the bytes of an account the flag and the count
are the same byte, 0 or 1. -/
theorem raw_run (A : Anchor) (sha : Sha256) (raws : List RawCall) :
    (∀ key, (rawProgram A sha).exec rawGenesis raws key =
      ((program A).exec genesis (namedCalls sha raws) key).map (·.data sha)) ∧
    (∀ raw e, (rawProgram A sha).step ((rawProgram A sha).exec rawGenesis raws) raw = .error e →
      ∃ e', e = .program e') ∧
    ∀ key data, (rawProgram A sha).exec rawGenesis raws key = some data →
      data.length = 8 + initSpace ∧
      (∃ config, (program A).exec genesis (namedCalls sha raws) key = some config ∧
        GuardianConfig.tryDeserialize sha data = .ok config) ∧
      data[105]? = data[104]? ∧ (data[104]? = some 0 ∨ data[104]? = some 1) := by
  refine ⟨rawProgram_exec raws, fun raw e h => rawProgram_error h, fun key data hdata => ?_⟩
  rw [rawProgram_exec] at hdata
  obtain ⟨config, hc, rfl⟩ := Option.map_eq_some_iff.mp hdata
  obtain ⟨b, -, hrep⟩ := represents_at hc
  obtain ⟨hflag, hcount⟩ := @data_flag sha config
  refine ⟨GuardianConfig.data_length config, ⟨config, hc, ?_⟩, ?_, ?_⟩
  · simpa using @tryDeserialize_data sha config []
  · rw [hflag, hcount, hrep.fields.1]
  · rw [hflag]
    cases config.isPaused
    · exact .inl rfl
    · exact .inr rfl

end Program
end SolanaGuardian
