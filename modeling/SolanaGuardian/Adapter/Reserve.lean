import SolanaGuardian.Adapter.Resolver

/-!
# The reserve header (`parse_zero_copy_reserve_header`)

The resolver reads the head of a reserve account from its bytes: a discriminator of 8 bytes, the
lending market's key of 32, and one byte of status, 0 for an active reserve and 1 for a paused one.

Every account of that layout is read back (`parse_layout`). The other way round, the parser checks
the length but not the status: an account with any other status is valid and not paused.
`reserveHeader_inverts` is the exact set of accounts of which the header is what it says.
-/

namespace SolanaGuardian
namespace Adapter

/-- The statuses that the layout defines. -/
inductive ReserveStatus where
  | active | paused
  deriving DecidableEq, Repr

def ReserveStatus.byte : ReserveStatus → UInt8
  | .active => 0
  | .paused => 1

theorem ReserveStatus.byte_eq_one (status : ReserveStatus) : status.byte = 1 ↔ status = .paused := by
  cases status <;> decide

/-- What `parse_zero_copy_reserve_header` returns for a valid account. -/
structure ReserveHeader where
  accountDiscriminatorHex : String
  lendingMarketBytesHex : String
  isPaused : Bool
  readMode : String
  deriving DecidableEq

/-- The header with these fields. -/
def reserveHeader (accDisc marketBytes : List UInt8) (statusByte : UInt8) : ReserveHeader :=
  { accountDiscriminatorHex := String.ofList (Python.hex accDisc)
    lendingMarketBytesHex := String.ofList (Python.hex marketBytes)
    isPaused := statusByte = 1
    readMode := "zero_copy_bytemuck_fastpath" }

/-- `parse_zero_copy_reserve_header`: `.error` for `valid: False`. -/
def parseZeroCopyReserveHeader (rawAccountData : List UInt8) : Except String ReserveHeader :=
  if h : rawAccountData.length < 41 then .error "Data shorter than zero-copy reserve header"
  else
    let accDisc := rawAccountData.take 8
    let marketBytes := rawAccountData.extract 8 40
    let statusByte := rawAccountData[40]
    .ok (reserveHeader accDisc marketBytes statusByte)

/-- The bytes that a header stands for. -/
def ReserveHeader.encode (header : ReserveHeader) : Option (List UInt8) := do
  let accDisc ← Python.unhex header.accountDiscriminatorHex.toList
  let marketBytes ← Python.unhex header.lendingMarketBytesHex.toList
  return accDisc ++ marketBytes ++ [if header.isPaused then 1 else 0]

variable {raw accDisc marketBytes rest : List UInt8} {statusByte : UInt8}

/-! ## The layout -/

/-- The parser on an account that is cut into its fields. -/
theorem parse_layout (hdisc : accDisc.length = 8) (hmarket : marketBytes.length = 32) :
    parseZeroCopyReserveHeader (accDisc ++ marketBytes ++ statusByte :: rest) =
      .ok (reserveHeader accDisc marketBytes statusByte) := by
  have hsize : (accDisc ++ marketBytes).length = 40 := by rw [List.length_append, hdisc, hmarket]
  have hlong : ¬ (accDisc ++ marketBytes ++ statusByte :: rest).length < 41 := by
    rw [List.length_append, hsize, List.length_cons]
    omega
  have hfirst : (accDisc ++ marketBytes ++ statusByte :: rest).take 8 = accDisc := by
    rw [List.append_assoc]
    exact List.take_left' hdisc
  have hsecond : (accDisc ++ marketBytes ++ statusByte :: rest).extract 8 40 = marketBytes := by
    rw [List.extract_eq_take_drop, List.append_assoc, List.drop_left' hdisc]
    exact List.take_left' hmarket
  have hstatus : (accDisc ++ marketBytes ++ statusByte :: rest)[40]? = some statusByte := by
    rw [List.getElem?_append_right hsize.le, hsize, Nat.sub_self, List.getElem?_cons_zero]
  obtain ⟨_, hbyte⟩ := List.getElem?_eq_some_iff.mp hstatus
  unfold parseZeroCopyReserveHeader
  rw [dif_neg hlong]
  simp only [hfirst, hsecond, hbyte]

theorem parse_short (h : raw.length < 41) :
    parseZeroCopyReserveHeader raw = .error "Data shorter than zero-copy reserve header" :=
  dif_pos h

/-- An account that is long enough has the fields of the layout. -/
theorem layout_of_long (h : 41 ≤ raw.length) :
    ∃ accDisc marketBytes statusByte rest, accDisc.length = 8 ∧ marketBytes.length = 32 ∧
      raw[40]? = some statusByte ∧ raw = accDisc ++ marketBytes ++ statusByte :: rest := by
  have hcut : raw.drop 40 = raw[40] :: raw.drop 41 := List.drop_eq_getElem_cons h
  have hmarket : (raw.drop 8).drop 32 = raw.drop 40 := List.drop_drop
  refine ⟨raw.take 8, (raw.drop 8).take 32, raw[40], raw.drop 41, ?_, ?_, ?_, ?_⟩
  · rw [List.length_take]
    omega
  · rw [List.length_take, List.length_drop]
    omega
  · exact List.getElem?_eq_getElem h
  · rw [← hcut, ← hmarket, List.append_assoc, List.take_append_drop, List.take_append_drop]

/-! ## The way back -/

theorem encode_reserveHeader (accDisc marketBytes : List UInt8) (statusByte : UInt8) :
    (reserveHeader accDisc marketBytes statusByte).encode =
      some (accDisc ++ marketBytes ++ [if statusByte = 1 then 1 else 0]) := by
  unfold ReserveHeader.encode reserveHeader
  simp only [String.toList_ofList, Python.unhex_hex, decide_eq_true_eq]
  rfl

/-- One account is what its header says if its status is one of the layout's. -/
theorem encode_layout_iff (hdisc : accDisc.length = 8) (hmarket : marketBytes.length = 32) :
    (reserveHeader accDisc marketBytes statusByte).encode =
        some ((accDisc ++ marketBytes ++ statusByte :: rest).take 41) ↔
      statusByte = 0 ∨ statusByte = 1 := by
  have hsize : (accDisc ++ marketBytes ++ [statusByte]).length = 41 := by
    rw [List.length_append, List.length_append, hdisc, hmarket, List.length_singleton]
  have htake : (accDisc ++ marketBytes ++ statusByte :: rest).take 41 =
      accDisc ++ marketBytes ++ [statusByte] := by
    rw [← List.singleton_append, ← List.append_assoc]
    exact List.take_left' hsize
  rw [encode_reserveHeader, htake, Option.some.injEq, List.append_cancel_left_eq, List.singleton_inj]
  by_cases hpaused : statusByte = 1
  · simp [hpaused]
  · rw [if_neg hpaused, or_iff_left hpaused, eq_comm]

/-- **Round trips**, for every account of the layout and every byte string: the account is read back,
with any bytes after it, and the string is what its header says exactly if the parser rejects it as
too short, or its status is one of the two that the layout defines. -/
theorem reserveHeader_inverts (accDisc : Vector UInt8 8) (marketBytes : Vector UInt8 32)
    (status : ReserveStatus) (trailing raw : List UInt8) :
    (∃ header, parseZeroCopyReserveHeader
        (accDisc.toList ++ marketBytes.toList ++ status.byte :: trailing) = .ok header ∧
      header.accountDiscriminatorHex = String.ofList (Python.hex accDisc.toList) ∧
      header.lendingMarketBytesHex = String.ofList (Python.hex marketBytes.toList) ∧
      (header.isPaused = true ↔ status = .paused)) ∧
    ((∀ header, parseZeroCopyReserveHeader raw = .ok header →
        header.encode = some (raw.take 41)) ↔
      raw.length < 41 ∨ raw[40]? = some 0 ∨ raw[40]? = some 1) := by
  constructor
  · refine ⟨_, parse_layout Vector.length_toList Vector.length_toList, rfl, rfl, ?_⟩
    exact decide_eq_true_iff.trans status.byte_eq_one
  · by_cases hlen : raw.length < 41
    · refine ⟨fun _ => .inl hlen, fun _ header hok => ?_⟩
      rw [parse_short hlen] at hok
      cases hok
    · obtain ⟨accDisc, marketBytes, statusByte, rest, hdisc, hmarket, hstatus, hraw⟩ :=
        layout_of_long (not_lt.mp hlen)
      rw [hstatus, or_iff_right hlen, Option.some.injEq, Option.some.injEq, hraw,
        parse_layout hdisc hmarket]
      constructor
      · intro hback
        exact (encode_layout_iff hdisc hmarket).mp (hback _ rfl)
      · rintro hdefined header ⟨⟩
        exact (encode_layout_iff hdisc hmarket).mpr hdefined

/-- An account with the status 2 is valid and not paused: its header is that of an active reserve. -/
theorem unknown_status_active :
    (parseZeroCopyReserveHeader (List.replicate 40 0 ++ [2])).map (fun header =>
        (header.isPaused, header.encode)) = .ok (false, some (List.replicate 41 0)) ∧
      (List.replicate 40 0 ++ [2] : List UInt8).take 41 ≠ List.replicate 41 0 := by
  constructor
  · decide +kernel
  · decide

end Adapter
end SolanaGuardian
