import Mathlib
import SolanaGuardian.Response.Stages

/-!
# What a pause signature authorises (`app/security/kms_signer.py`)

The signer joins the fields of its message with `:`, which the asset and the key's name may contain.
For one signer the message still has one reading: what follows the slot is fixed, and the text of a
slot has no `:`, so the last one of what remains ends the asset (`canonicalMsg_binds`).

The signature is the digest of the message, so one signature of two different pairs of an asset and
a slot is a collision of SHA-256 (`pause_signature_binds`).

`verify_squads_multisig_recovery` counts the characters of a signature and takes the number of
signers as it is given, so it takes the agent's own signatures (`recovery_takes_pause`).
-/

namespace SolanaGuardian
namespace Response

open Program (Sha256 utf8)

/-! ## Separators -/

/-- Two lists that are cut at their last separator. -/
theorem append_separator_inj {α : Type*} {sep : α} {xs ys s t : List α} (hs : sep ∉ s)
    (ht : sep ∉ t) (h : xs ++ sep :: s = ys ++ sep :: t) : xs = ys ∧ s = t := by
  rcases List.append_eq_append_iff.mp h with ⟨zs, rfl, hz⟩ | ⟨zs, rfl, hz⟩
  · cases zs with
    | nil => exact ⟨by simp, (List.cons.inj hz).2⟩
    | cons z zs =>
      rw [(List.cons.inj hz).2] at hs
      exact absurd (by simp) hs
  · cases zs with
    | nil => exact ⟨by simp, (List.cons.inj hz).2.symm⟩
    | cons z zs =>
      rw [(List.cons.inj hz).2] at ht
      exact absurd (by simp) ht

/-! ## The text of a slot -/

theorem slotText_some (n : ℤ) : slotText (some n) = n.repr := Int.toString_eq_repr

/-- The characters of a number. -/
theorem mem_repr {n : ℤ} {c : Char} (h : c ∈ n.repr.toList) : c = '-' ∨ c.isDigit = true := by
  have hdigit {m : Nat} (hm : c ∈ m.repr.toList) : c.isDigit = true := by
    rw [Nat.toList_repr] at hm
    exact Nat.isDigit_of_mem_toDigits (by decide) (by decide) hm
  rw [Int.repr_eq_if] at h
  split at h
  · exact .inr (hdigit h)
  · rw [String.toList_append, List.mem_append] at h
    rcases h with h | h
    · exact .inl (List.mem_singleton.mp h)
    · exact .inr (hdigit h)

theorem slotText_no_separator (slot : Option ℤ) : ':' ∉ (slotText slot).toList := by
  cases slot with
  | none => decide
  | some n =>
    rw [slotText_some]
    intro h
    rcases mem_repr h with h | h
    · cases h
    · cases h

theorem slotText_ne_none (n : ℤ) : slotText (some n) ≠ slotText none := by
  intro h
  have hmem : 'N' ∈ n.repr.toList := by
    rw [← slotText_some, h]
    decide
  rcases mem_repr hmem with h | h
  · cases h
  · cases h

/-- Two slots have different texts. -/
theorem slotText_injective : Function.Injective slotText := by
  intro a b h
  cases a with
  | none =>
    cases b with
    | none => rfl
    | some m => exact absurd h.symm (slotText_ne_none m)
  | some n =>
    cases b with
    | none => exact absurd h (slotText_ne_none n)
    | some m =>
      rw [slotText_some, slotText_some] at h
      rw [Int.repr_injective h]

/-! ## The message -/

variable {signer : Signer} {asset₁ asset₂ : String} {slot₁ slot₂ : Option ℤ}

/-- The message of a signer names one asset and one slot. -/
theorem canonicalMsg_binds
    (h : signer.canonicalMsg asset₁ slot₁ = signer.canonicalMsg asset₂ slot₂) :
    asset₁ = asset₂ ∧ slot₁ = slot₂ := by
  have htext := congrArg String.toList (Program.utf8_injective h)
  simp only [String.toList_append, List.append_left_inj] at htext
  simp only [List.append_assoc, List.append_right_inj] at htext
  obtain ⟨hasset, hslot⟩ :=
    append_separator_inj (slotText_no_separator slot₁) (slotText_no_separator slot₂) htext
  exact ⟨String.toList_injective hasset, slotText_injective (String.toList_injective hslot)⟩

/-! ## The signature -/

/-- Two messages with one digest. -/
def Collision (sha : Sha256) (m₁ m₂ : List UInt8) : Prop := m₁ ≠ m₂ ∧ sha m₁ = sha m₂

/-- A signature is the digest of its message. -/
theorem signatureHex_eq {sha : Sha256} {asset : String} {slot : Option ℤ} {signature : String}
    (h : (signer.signEmergencyPause sha asset slot).signatureHex = some signature) :
    signature =
      "0x" ++ String.ofList (Python.hex (sha (signer.canonicalMsg asset slot)).toList) := by
  unfold Signer.signEmergencyPause at h
  split at h
  · cases h
  · exact (Option.some.inj h).symm

/-- One signature of two calls is the digest of both messages. -/
theorem digest_eq {sha : Sha256} {signature : String}
    (h₁ : (signer.signEmergencyPause sha asset₁ slot₁).signatureHex = some signature)
    (h₂ : (signer.signEmergencyPause sha asset₂ slot₂).signatureHex = some signature) :
    sha (signer.canonicalMsg asset₁ slot₁) = sha (signer.canonicalMsg asset₂ slot₂) := by
  have htext := (signatureHex_eq h₁).symm.trans (signatureHex_eq h₂)
  rw [String.append_right_inj, String.ofList_inj] at htext
  exact Vector.toList_inj.mp (Python.hex_injective htext)

/-- **A pause authorisation binds its asset and its slot**, for every signer and any two calls:
equal messages are of one asset and one slot, and so are equal signatures, unless the two messages
are a collision of SHA-256. -/
theorem pause_signature_binds (sha : Sha256) (signer : Signer) (asset₁ asset₂ : String)
    (slot₁ slot₂ : Option ℤ) :
    (signer.canonicalMsg asset₁ slot₁ = signer.canonicalMsg asset₂ slot₂ →
      asset₁ = asset₂ ∧ slot₁ = slot₂) ∧
    ∀ signature, (signer.signEmergencyPause sha asset₁ slot₁).signatureHex = some signature →
      (signer.signEmergencyPause sha asset₂ slot₂).signatureHex = some signature →
      ¬ Collision sha (signer.canonicalMsg asset₁ slot₁) (signer.canonicalMsg asset₂ slot₂) →
      asset₁ = asset₂ ∧ slot₁ = slot₂ := by
  refine ⟨canonicalMsg_binds, fun signature h₁ h₂ hfree => ?_⟩
  apply canonicalMsg_binds
  by_contra hne
  exact hfree ⟨hne, digest_eq h₁ h₂⟩

/-- A signer whose key is named like a slot. -/
def sampleSigner : Signer := { keyId := "2:key", provider := "CLOUD_KMS" }

/-- A digest that keeps the end of a message. -/
def sampleDigest : Sha256 := fun message => Vector.ofFn fun i : Fin 32 => message.reverse.getD i 0

/-- An asset that ends like a slot. -/
theorem pause_signature_binds_sample :
    sampleSigner.canonicalMsg "USDC:1" (some 2) ≠ sampleSigner.canonicalMsg "USDC" (some 1) ∧
    (sampleSigner.signEmergencyPause sampleDigest "USDC:1" (some 2)).signatureHex ≠
      (sampleSigner.signEmergencyPause sampleDigest "USDC" (some 1)).signatureHex := by
  have hassets : "USDC:1" ≠ "USDC" := by decide
  obtain ⟨hmessages, hsignatures⟩ :=
    pause_signature_binds sampleDigest sampleSigner "USDC:1" "USDC" (some 2) (some 1)
  refine ⟨fun h => hassets (hmessages h).1, fun h => ?_⟩
  refine hassets (hsignatures _ rfl h.symm fun hcollision => ?_).1
  exact absurd hcollision.2 (by decide +kernel)

/-! ## The recovery gate -/

/-- `KMSSecuritySigner`, with the program that the gate names. -/
structure KMSSecuritySigner extends Signer where
  squadsProgramId : String

/-- `__init__`, whole. -/
def KMSSecuritySigner.init (settings : ServiceSettings) (keyId provider : Option String) :
    KMSSecuritySigner :=
  { Signer.init settings.toSettings keyId provider with
    squadsProgramId := settings.squadsMultisigProgramId }

/-- What `verify_squads_multisig_recovery` returns. -/
inductive Recovery where
  | permitted (recoveryAuthority multisigProgram : String) (signaturesVerified : ℤ)
  | refused (error : String)
  deriving DecidableEq

/-- `unfreeze_permitted`. -/
def Recovery.unfreezePermitted : Recovery → Bool
  | .permitted _ _ _ => true
  | .refused _ => false

/-- `verify_squads_multisig_recovery`. -/
def KMSSecuritySigner.verifySquadsMultisigRecovery (signer : KMSSecuritySigner)
    (squadsTxSignature : String) (thresholdSignatures : ℤ) : Recovery :=
  if 3 ≤ thresholdSignatures ∧ 32 < squadsTxSignature.length then
    .permitted "SIMULATED_RECOVERY_GATE" signer.squadsProgramId thresholdSignatures
  else
    .refused "INSUFFICIENT_SQUADS_MULTISIG_QUORUM: Agent cannot reactivate pool unilaterally."

/-- A signature has 64 digits after its `0x`. -/
theorem signatureHex_length {sha : Sha256} {signer : Signer} {asset : String} {slot : Option ℤ}
    {signature : String}
    (h : (signer.signEmergencyPause sha asset slot).signatureHex = some signature) :
    signature.length = 66 := by
  have hdigits (digest : Vector UInt8 32) :
      (String.ofList (Python.hex digest.toList)).length = 64 := by
    rw [String.length_ofList, Python.hex_length, Vector.length_toList]
  rw [signatureHex_eq h, String.length_append, hdigits]
  rfl

/-- **The gate takes pauses for recoveries.** Whatever the agent has signed, the signature of a pause
unfreezes the pool exactly if someone says that there are three or more, and then that number is
reported as verified. -/
theorem recovery_takes_pause (sha : Sha256) (kms : KMSSecuritySigner) (signer : Signer)
    (asset : String) (slot : Option ℤ) (hprovider : signer.provider ≠ "SIMULATED_LOCAL_SIGNER") :
    ∃ signature, (signer.signEmergencyPause sha asset slot).signatureHex = some signature ∧
      ∀ n, ((kms.verifySquadsMultisigRecovery signature n).unfreezePermitted = true ↔ 3 ≤ n) ∧
        (3 ≤ n → kms.verifySquadsMultisigRecovery signature n =
          .permitted "SIMULATED_RECOVERY_GATE" kms.squadsProgramId n) := by
  have hsigned : (signer.signEmergencyPause sha asset slot).signatureHex ≠ none := by
    simp [Signer.signEmergencyPause, hprovider]
  obtain ⟨signature, hsignature⟩ := Option.ne_none_iff_exists'.mp hsigned
  have hlong : 32 < signature.length := by
    rw [signatureHex_length hsignature]
    norm_num
  refine ⟨signature, hsignature, fun n => ?_⟩
  unfold KMSSecuritySigner.verifySquadsMultisigRecovery
  by_cases hn : 3 ≤ n
  · simp [hn, hlong, Recovery.unfreezePermitted]
  · simp [hn, Recovery.unfreezePermitted]

/-- A signer at work signs a pause, and its own gate takes it. -/
theorem recovery_takes_pause_sample : ∃ signature,
    (sampleSigner.signEmergencyPause sampleDigest "USDC" (some 1)).signatureHex = some signature ∧
    ∀ n, ((KMSSecuritySigner.init {} none none).verifySquadsMultisigRecovery signature
      n).unfreezePermitted = true ↔ 3 ≤ n := by
  obtain ⟨signature, hsignature, hgate⟩ := recovery_takes_pause sampleDigest
    (KMSSecuritySigner.init {} none none) sampleSigner "USDC" (some 1) (by decide)
  exact ⟨signature, hsignature, fun n => (hgate n).1⟩

end Response
end SolanaGuardian
