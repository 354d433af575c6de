import Mathlib
import SolanaGuardian.Lib.Python

/-!
# Decimal texts

How Python writes a number with two digits after the point: `str` of a float that has been rounded
to them (`strRounded`), and the format `,.2f`, which puts a comma between thousands
(`formatGrouped`). Both are a `fixedPoint`: a sign, the digits of the whole part, a point and those
of the fraction.

* `fixedPoint_injective`: a text of this form can be taken apart at its point, so it determines the
  number if its parts determine theirs.
* `filter_groupDigits`: without the commas, grouped digits are the digits.
* `strRounded_round_iff`, `formatGrouped_round_iff`: rounded numbers with one text are equal.
-/

namespace Python

/-! ## Fixed point -/

/-- A number of hundredths. -/
def fixedPoint (whole fraction : Nat → List Char) (hundredths : ℤ) : List Char :=
  ((if hundredths < 0 then ['-'] else []) ++ whole (hundredths.natAbs / 100)) ++
    '.' :: fraction (hundredths.natAbs % 100)

/-- The hundredths of one or two digits after the point. -/
def fractionValue : List Char → Nat
  | [a] => 10 * (a.toNat - 48)
  | [a, b] => 10 * (a.toNat - 48) + (b.toNat - 48)
  | _ => 0

section

variable {whole fraction : Nat → List Char}

/-- A text in fixed point determines its number. -/
theorem fixedPoint_injective (hwhole : Function.Injective whole)
    (hchars : ∀ n, '.' ∉ whole n ∧ '-' ∉ whole n) (hpoint : ∀ n < 100, '.' ∉ fraction n)
    (hfraction : ∀ n < 100, fractionValue (fraction n) = n) :
    Function.Injective (fixedPoint whole fraction) := by
  intro n m h
  have hfree : ∀ k : ℤ, '.' ∉ (if k < 0 then ['-'] else []) ++ whole (k.natAbs / 100) := by
    intro k
    have hk := (hchars (k.natAbs / 100)).1
    split <;> simp [hk]
  obtain ⟨hfront, -, hback⟩ :=
    (List.append_cons_inj_of_notMem (hfree n) (hpoint _ (Nat.mod_lt _ (by norm_num)))).mp h
  have hrest : n.natAbs % 100 = m.natAbs % 100 := by
    have hvalue := congrArg fractionValue hback
    rwa [hfraction _ (Nat.mod_lt _ (by norm_num)), hfraction _ (Nat.mod_lt _ (by norm_num))]
      at hvalue
  -- The sign is not a part of the whole.
  by_cases hn : n < 0 <;> by_cases hm : m < 0
  · rw [if_pos hn, if_pos hm] at hfront
    have hsame := hwhole (List.append_cancel_left hfront)
    omega
  · rw [if_pos hn, if_neg hm, List.nil_append] at hfront
    exact absurd (by rw [← hfront]; simp) (hchars (m.natAbs / 100)).2
  · rw [if_neg hn, if_pos hm, List.nil_append] at hfront
    exact absurd (by rw [hfront]; simp) (hchars (n.natAbs / 100)).2
  · rw [if_neg hn, if_neg hm] at hfront
    have hsame := hwhole (List.append_cancel_left hfront)
    omega

end

/-! ## Digits -/

theorem isDigit_of_mem {n : Nat} {c : Char} (h : c ∈ Nat.toDigits 10 n) : c.isDigit = true :=
  Nat.isDigit_of_mem_toDigits (by decide) (by decide) h

theorem toDigits_injective : Function.Injective (Nat.toDigits 10) := by
  intro n m h
  apply Nat.repr_injective
  rw [Nat.repr_eq_ofList_toDigits, Nat.repr_eq_ofList_toDigits, h]

/-- A comma after every third digit that is not the last. -/
def groupDigits : List Char → List Char
  | a :: b :: c :: d :: digits => a :: b :: c :: ',' :: groupDigits (d :: digits)
  | digits => digits

theorem mem_groupDigits {c : Char} {digits : List Char} (h : c ∈ groupDigits digits) :
    c ∈ digits ∨ c = ',' := by
  fun_induction groupDigits digits with
  | case1 a b c d digits ih => grind
  | case2 digits _ => exact .inl h

theorem filter_groupDigits {digits : List Char} (h : ',' ∉ digits) :
    (groupDigits digits).filter (· ≠ ',') = digits := by
  fun_induction groupDigits digits with
  | case1 a b c d digits ih =>
    simp only [List.mem_cons, not_or] at h
    obtain ⟨ha, hb, hc, hrest⟩ := h
    have hkept := ih (by simpa using hrest)
    rw [List.filter_cons_of_pos (by simpa using Ne.symm ha),
      List.filter_cons_of_pos (by simpa using Ne.symm hb),
      List.filter_cons_of_pos (by simpa using Ne.symm hc),
      List.filter_cons_of_neg (by simp), hkept]
  | case2 digits _ =>
    rw [List.filter_eq_self]
    intro c hc
    simpa using fun heq : c = ',' => h (heq ▸ hc)

/-- The digits of a number with a comma between thousands. -/
def groupedDigits (n : Nat) : List Char := (groupDigits (Nat.toDigits 10 n).reverse).reverse

theorem mem_groupedDigits {n : Nat} {c : Char} (h : c ∈ groupedDigits n) :
    c.isDigit = true ∨ c = ',' :=
  (mem_groupDigits (List.mem_reverse.mp h)).imp_left fun hc => isDigit_of_mem (List.mem_reverse.mp hc)

theorem groupedDigits_injective : Function.Injective groupedDigits := by
  intro n m h
  have hgroups := List.reverse_injective h
  have hfree : ∀ k, ',' ∉ (Nat.toDigits 10 k).reverse := by
    intro k hmem
    cases isDigit_of_mem (List.mem_reverse.mp hmem)
  have hdigits := congrArg (List.filter (· ≠ ',')) hgroups
  rw [filter_groupDigits (hfree n), filter_groupDigits (hfree m)] at hdigits
  exact toDigits_injective (List.reverse_injective hdigits)

/-- Two digits. -/
def twoDigits (n : Nat) : List Char := [(n / 10 % 10).digitChar, (n % 10).digitChar]

/-- Two digits without a last zero. -/
def tenths (n : Nat) : List Char :=
  if n % 10 = 0 then [(n / 10 % 10).digitChar] else twoDigits n

/-! ## Rounded numbers -/

/-- `str(x)`, where `x` is a float that is rounded to two digits and below 10^16. -/
def strRounded (x : ℚ) : String :=
  String.ofList (fixedPoint (Nat.toDigits 10) tenths (roundInt (x * 100)))

/-- `format(x, ",.2f")`. -/
def formatGrouped (x : ℚ) : String :=
  String.ofList (fixedPoint groupedDigits twoDigits (roundInt (x * 100)))

example : strRounded (2605 / 100) = "26.05" ∧ strRounded 26 = "26.0" ∧
    formatGrouped 17500000 = "17,500,000.00" := by decide +kernel

theorem roundInt_intCast (n : ℤ) : roundInt n = n := by
  simp [roundInt]

/-- Rounding twice is rounding once. -/
theorem roundInt_round (x : ℚ) : roundInt (round x 2 * 100) = roundInt (x * 100) := by
  have hcancel : round x 2 * 100 = (roundInt (x * 100) : ℚ) := by
    unfold round
    norm_num
  rw [hcancel, roundInt_intCast]

theorem round_two_iff (x y : ℚ) :
    roundInt (round x 2 * 100) = roundInt (round y 2 * 100) ↔ round x 2 = round y 2 := by
  rw [roundInt_round, roundInt_round]
  unfold round
  norm_num

theorem strRounded_round_iff (x y : ℚ) :
    strRounded (round x 2) = strRounded (round y 2) ↔ round x 2 = round y 2 := by
  have hinjective : Function.Injective (fixedPoint (Nat.toDigits 10) tenths) := by
    refine fixedPoint_injective toDigits_injective (fun n => ⟨?_, ?_⟩) (by decide +kernel)
      (by decide +kernel)
    · intro hmem
      cases isDigit_of_mem hmem
    · intro hmem
      cases isDigit_of_mem hmem
  rw [strRounded, strRounded, String.ofList_inj, hinjective.eq_iff, round_two_iff]

theorem formatGrouped_round_iff (x y : ℚ) :
    formatGrouped (round x 2) = formatGrouped (round y 2) ↔ round x 2 = round y 2 := by
  have hinjective : Function.Injective (fixedPoint groupedDigits twoDigits) := by
    refine fixedPoint_injective groupedDigits_injective (fun n => ⟨?_, ?_⟩) (by decide +kernel)
      (by decide +kernel)
    · intro hmem
      rcases mem_groupedDigits hmem with h | h
      · cases h
      · cases h
    · intro hmem
      rcases mem_groupedDigits hmem with h | h
      · cases h
      · cases h
  rw [formatGrouped, formatGrouped, String.ofList_inj, hinjective.eq_iff, round_two_iff]

/-- The text of a rounded number has no blank. -/
theorem strRounded_no_blank (x : ℚ) : ' ' ∉ (strRounded x).toList := by
  have htenths : ∀ n < 100, ' ' ∉ tenths n := by decide +kernel
  rw [strRounded, String.toList_ofList, fixedPoint]
  intro h
  rcases List.mem_append.mp h with h | h
  · rcases List.mem_append.mp h with h | h
    · split at h <;> simp at h
    · cases isDigit_of_mem h
  · rcases List.mem_cons.mp h with h | h
    · cases h
    · exact htenths _ (Nat.mod_lt _ (by norm_num)) h

end Python
