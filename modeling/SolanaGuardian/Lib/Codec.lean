import Mathlib.Data.Vector.Basic
import Mathlib.Tactic.Common

/-!
# Byte formats

A `Codec` of a type is a format for its values: how a value is written, and how one is read off the
front of some bytes. Its one law says that reading is the inverse of writing, both ways: what was
written is read back (`decode_encode`), and only what would be written is accepted
(`encode_of_decode`).

* `Codec.bytes`: a fixed number of bytes, as they are.
* `Codec.pair`: one value after another.
* `Codec.refine`: some of the values of a codec, in other words: an enumeration, a record, a flag.
* `Codec.uint8`, `Codec.bool`, `Codec.uint64`, `Codec.int64`: the numbers, little-endian.
* `Codec.Sized`: a codec that writes every value with one length.
* `overwrite`: some bytes written over the front of a buffer, which must hold them.
-/

/-- A format for the values of a type. -/
structure Codec (α : Type*) where
  encode : α → List UInt8
  decode : List UInt8 → Option (α × List UInt8)
  decode_iff : ∀ {data a rest}, decode data = some (a, rest) ↔ data = encode a ++ rest

namespace Codec

variable {α β γ : Type*}

@[simp] theorem decode_encode (c : Codec α) (a : α) (rest : List UInt8) :
    c.decode (c.encode a ++ rest) = some (a, rest) := c.decode_iff.mpr rfl

theorem encode_of_decode (c : Codec α) {data : List UInt8} {a : α} {rest : List UInt8}
    (h : c.decode data = some (a, rest)) : c.encode a ++ rest = data := (c.decode_iff.mp h).symm

/-! ## Combinators -/

/-- `n` bytes, as they are. -/
def bytes (n : Nat) : Codec (Vector UInt8 n) where
  encode v := v.toList
  decode data :=
    if h : n ≤ data.length then some (⟨(data.take n).toArray, by simp [h]⟩, data.drop n) else none
  decode_iff := by
    intro data v rest
    constructor
    · intro h
      split at h
      · cases h
        simp [Vector.toList]
      · cases h
    · rintro rfl
      have hlen : v.toList.length = n := by simp
      have hle : n ≤ (v.toList ++ rest).length := by simp
      have htake : (v.toList ++ rest).take n = v.toList := List.take_left' hlen
      have hdrop : (v.toList ++ rest).drop n = rest := List.drop_left' hlen
      rw [dif_pos hle]
      simp only [htake, hdrop]
      rfl

/-- One value after another. -/
def pair (c : Codec α) (d : Codec β) : Codec (α × β) where
  encode p := c.encode p.1 ++ d.encode p.2
  decode data := (c.decode data).bind fun r => (d.decode r.2).map fun s => ((r.1, s.1), s.2)
  decode_iff := by
    intro data p rest
    simp only [Option.bind_eq_some_iff, Option.map_eq_some_iff, Prod.exists, decode_iff]
    constructor
    · rintro ⟨a, mid, rfl, b, rest', rfl, h⟩
      cases h
      simp
    · rintro rfl
      exact ⟨p.1, d.encode p.2 ++ rest, by simp, p.2, rest, rfl, rfl⟩

/-- The values of `c` that `f` accepts, as values of another type; `g` writes them. -/
def refine (c : Codec α) (f : α → Option β) (g : β → α) (h : ∀ {a b}, f a = some b ↔ a = g b) :
    Codec β where
  encode b := c.encode (g b)
  decode data := (c.decode data).bind fun r => (f r.1).map (·, r.2)
  decode_iff := by
    intro data b rest
    simp only [Option.bind_eq_some_iff, Option.map_eq_some_iff, Prod.exists, decode_iff, h]
    constructor
    · rintro ⟨a, rest', rfl, b', rfl, he⟩
      cases he
      rfl
    · rintro rfl
      exact ⟨g b, rest, rfl, b, rfl, rfl⟩

/-- A codec of another type with the same values. -/
def equiv (c : Codec α) (e : α ≃ β) : Codec β :=
  c.refine (fun a => some (e a)) e.symm (by simp [Equiv.eq_symm_apply])

@[simp] theorem pair_encode (c : Codec α) (d : Codec β) (p : α × β) :
    (c.pair d).encode p = c.encode p.1 ++ d.encode p.2 := rfl

@[simp] theorem equiv_encode (c : Codec α) (e : α ≃ β) (b : β) :
    (c.equiv e).encode b = c.encode (e.symm b) := rfl

@[simp] theorem bytes_encode (n : Nat) (v : Vector UInt8 n) : (bytes n).encode v = v.toList := rfl

/-! ## Numbers -/

/-- One byte. -/
def uint8 : Codec UInt8 where
  encode b := [b]
  decode
    | [] => none
    | b :: rest => some (b, rest)
  decode_iff := by
    intro data b rest
    cases data with
    | nil => simp
    | cons x data => simp

@[simp] theorem uint8_encode (b : UInt8) : uint8.encode b = [b] := rfl

/-- A flag: the byte 0 or the byte 1, no other. -/
def bool : Codec Bool :=
  uint8.refine (fun b => if b = 0 then some false else if b = 1 then some true else none)
    (fun b => if b then 1 else 0) (by intro a b; cases b <;> grind)

@[simp] theorem bool_encode (b : Bool) : bool.encode b = [if b then 1 else 0] := rfl

/-- The `n` low bytes of a number, the lowest first. -/
def littleEndian : Nat → Nat → List UInt8
  | 0, _ => []
  | n + 1, x => UInt8.ofNat x :: littleEndian n (x / 256)

/-- The number of some bytes, the lowest first. -/
def ofLittleEndian : List UInt8 → Nat
  | [] => 0
  | b :: rest => b.toNat + 256 * ofLittleEndian rest

@[simp] theorem littleEndian_length (n x : Nat) : (littleEndian n x).length = n := by
  induction n generalizing x with
  | zero => rfl
  | succ n ih => simp [littleEndian, ih]

theorem ofLittleEndian_lt (data : List UInt8) : ofLittleEndian data < 256 ^ data.length := by
  induction data with
  | nil => simp [ofLittleEndian]
  | cons b rest ih =>
    have hb := b.toNat_lt
    simp only [ofLittleEndian, List.length_cons, Nat.pow_succ]
    omega

theorem ofLittleEndian_littleEndian (n x : Nat) :
    ofLittleEndian (littleEndian n x) = x % 256 ^ n := by
  induction n generalizing x with
  | zero => simp [littleEndian, ofLittleEndian, Nat.mod_one]
  | succ n ih =>
    have hmod := Nat.mod_mul (x := x) (a := 256) (b := 256 ^ n)
    rw [littleEndian, ofLittleEndian, ih, Nat.pow_succ, Nat.mul_comm (256 ^ n), hmod]
    simp

theorem littleEndian_ofLittleEndian (data : List UInt8) :
    littleEndian data.length (ofLittleEndian data) = data := by
  induction data with
  | nil => rfl
  | cons b rest ih =>
    have hb := b.toNat_lt
    have hdiv : (b.toNat + 256 * ofLittleEndian rest) / 256 = ofLittleEndian rest := by omega
    have hbyte : UInt8.ofNat (b.toNat + 256 * ofLittleEndian rest) = b := by
      apply UInt8.toNat_inj.mp
      rw [UInt8.toNat_ofNat']
      omega
    rw [List.length_cons, littleEndian, ofLittleEndian, hdiv, ih, hbyte]

/-- An unsigned number of 64 bits. -/
def uint64 : Codec UInt64 where
  encode x := littleEndian 8 x.toNat
  decode data :=
    if 8 ≤ data.length then some (UInt64.ofNat (ofLittleEndian (data.take 8)), data.drop 8)
    else none
  decode_iff := by
    intro data x rest
    constructor
    · intro h
      split at h
      · rename_i hlen
        cases h
        have htake : (data.take 8).length = 8 := by simp [hlen]
        have hlt := ofLittleEndian_lt (data.take 8)
        have hback := littleEndian_ofLittleEndian (data.take 8)
        rw [htake] at hlt hback
        have hnat : (UInt64.ofNat (ofLittleEndian (data.take 8))).toNat =
            ofLittleEndian (data.take 8) := by
          rw [UInt64.toNat_ofNat']
          exact Nat.mod_eq_of_lt hlt
        rw [hnat, hback, List.take_append_drop]
      · cases h
    · rintro rfl
      have hlen : (littleEndian 8 x.toNat).length = 8 := littleEndian_length 8 x.toNat
      have htake : (littleEndian 8 x.toNat ++ rest).take 8 = littleEndian 8 x.toNat :=
        List.take_left' hlen
      have hdrop : (littleEndian 8 x.toNat ++ rest).drop 8 = rest := List.drop_left' hlen
      have hle : 8 ≤ (littleEndian 8 x.toNat ++ rest).length := by simp
      rw [if_pos hle, htake, hdrop, ofLittleEndian_littleEndian]
      have hx : x.toNat % 256 ^ 8 = x.toNat := Nat.mod_eq_of_lt x.toNat_lt
      rw [hx, UInt64.ofNat_toNat]

@[simp] theorem uint64_encode_length (x : UInt64) : (uint64.encode x).length = 8 :=
  littleEndian_length 8 x.toNat

/-- A signed number of 64 bits, in two's complement. -/
def int64 : Codec Int64 :=
  uint64.equiv
    { toFun := UInt64.toInt64
      invFun := Int64.toUInt64
      left_inv := fun x => by simp
      right_inv := fun x => by simp }

@[simp] theorem int64_encode_length (x : Int64) : (int64.encode x).length = 8 :=
  uint64_encode_length x.toUInt64

/-! ## Lengths -/

/-- Every value takes `n` bytes. -/
def Sized (c : Codec α) (n : Nat) : Prop := ∀ a, (c.encode a).length = n

/-! ## Buffers -/

/-- Some bytes written over the front of a buffer; `none` if they do not fit. -/
def overwrite (buffer data : List UInt8) : Option (List UInt8) :=
  if data.length ≤ buffer.length then some (data ++ buffer.drop data.length) else none

/-- Bytes that fill the buffer replace it. -/
theorem overwrite_of_length {buffer data : List UInt8} (h : data.length = buffer.length) :
    overwrite buffer data = some data := by
  simp [overwrite, h]

end Codec
