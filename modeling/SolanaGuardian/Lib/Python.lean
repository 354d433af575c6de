import Mathlib.Data.Rat.Floor

/-!
# Python expressions

The few expressions of the Python language whose meaning is not that of the Lean expression with
the same look, and what the proofs need of them: `hex` can be read back (`unhex_hex`), and `int` keeps
the order of its arguments (`int_mono`).
-/

namespace Python

/-- `x or d`, for an `x` that may be `None`: `zero` is the other false value of its type (`""`,
`0`). -/
def orDefault {α : Type} [DecidableEq α] (zero : α) (x : Option α) (d : α) : α :=
  match x with
  | some v => if v = zero then d else v
  | none => d

/-- `bytes.hex()`. -/
def hex (bytes : List UInt8) : List Char :=
  bytes.flatMap fun b => [(b.toNat / 16).digitChar, (b.toNat % 16).digitChar]

/-- The value of one of the sixteen digits that `hex` writes. -/
def hexValue (c : Char) : Option Nat := (List.range 16).find? fun d => d.digitChar = c

/-- The bytes of which a text is the `hex`. -/
def unhex : List Char → Option (List UInt8)
  | [] => some []
  | [_] => none
  | high :: low :: rest =>
    match hexValue high, hexValue low, unhex rest with
    | some h, some l, some bytes => some (UInt8.ofNat (16 * h + l) :: bytes)
    | _, _, _ => none

theorem hexValue_digitChar : ∀ d < 16, hexValue d.digitChar = some d := by decide

/-- `unhex` is a left inverse of `hex`. -/
theorem unhex_hex (bytes : List UInt8) : unhex (hex bytes) = some bytes := by
  induction bytes with
  | nil => rfl
  | cons b bytes ih =>
    have hb : b.toNat < 256 := b.toNat_lt
    have hhigh : hexValue (b.toNat / 16).digitChar = some (b.toNat / 16) :=
      hexValue_digitChar _ (by omega)
    have hlow : hexValue (b.toNat % 16).digitChar = some (b.toNat % 16) :=
      hexValue_digitChar _ (by omega)
    have hhalves : 16 * (b.toNat / 16) + b.toNat % 16 = b.toNat := Nat.div_add_mod _ _
    show unhex ((b.toNat / 16).digitChar :: (b.toNat % 16).digitChar :: hex bytes) = _
    simp only [unhex, hhigh, hlow, ih, hhalves, UInt8.ofNat_toNat]

theorem hex_injective : Function.Injective hex := by
  intro a b h
  have hb : unhex (hex a) = some b := by rw [h, unhex_hex]
  rw [unhex_hex] at hb
  exact Option.some.inj hb

theorem hex_length (bytes : List UInt8) : (hex bytes).length = 2 * bytes.length := by
  simp [hex, List.length_flatMap, mul_comm]

/-- `round(x)`: to the nearest integer, and to the even one of two. -/
def roundInt (x : ℚ) : ℤ :=
  if x - ⌊x⌋ < 1 / 2 then ⌊x⌋
  else if 1 / 2 < x - ⌊x⌋ then ⌊x⌋ + 1
  else if ⌊x⌋ % 2 = 0 then ⌊x⌋ else ⌊x⌋ + 1

/-- `round(x, digits)`. -/
def round (x : ℚ) (digits : Nat) : ℚ := roundInt (x * 10 ^ digits) / 10 ^ digits

/-- `int(x)`: truncation toward zero. -/
def int (x : ℚ) : ℤ := if 0 ≤ x then ⌊x⌋ else ⌈x⌉

theorem int_of_nonneg {x : ℚ} (h : 0 ≤ x) : int x = ⌊x⌋ := if_pos h

theorem int_of_neg {x : ℚ} (h : ¬ 0 ≤ x) : int x = ⌈x⌉ := if_neg h

theorem int_mono {x y : ℚ} (hxy : x ≤ y) : int x ≤ int y := by
  by_cases hx : 0 ≤ x
  · rw [int_of_nonneg hx, int_of_nonneg (hx.trans hxy)]
    exact Int.floor_mono hxy
  · rw [int_of_neg hx]
    by_cases hy : 0 ≤ y
    · rw [int_of_nonneg hy]
      have hceil : ⌈x⌉ ≤ 0 := Int.ceil_le.mpr (by simpa using (not_le.mp hx).le)
      exact hceil.trans (Int.floor_nonneg.mpr hy)
    · rw [int_of_neg hy]
      exact Int.ceil_mono hxy

/-- The exceptions that the modelled code lets through. -/
inductive Exception where
  | zeroDivisionError
  deriving DecidableEq, Repr

/-- `x / y`. -/
def div (x y : ℚ) : Except Exception ℚ := if y = 0 then .error .zeroDivisionError else .ok (x / y)

theorem div_ok {x y : ℚ} (h : y ≠ 0) : div x y = .ok (x / y) := if_neg h

theorem div_zero (x : ℚ) : div x 0 = .error .zeroDivisionError := if_pos rfl

end Python
