import Mathlib.Data.List.DropRight
import Mathlib.Algebra.Order.Group.Nat
import Mathlib.Algebra.Order.Ring.Nat

/-!
# Decimal numerals

The digits of a number, padded to a width, and a run of digits without the zeros it ends in.
`Nat.ofDigitChars 10 digits 0` is the number a run of digits stands for.

## Main definitions

* `Decimal.padded` — the digits of a number with leading zeros up to a width
* `Decimal.dropZeros` — a run of digits without the zeros at its end

## Main statements

* `ofDigitChars_padded` — padding does not change the number
* `exists_dropZeros` — the zeros that were dropped, and what is left in front of them
-/

namespace AgentConvert

namespace Decimal

/-! ### Runs of digits -/

theorem isDigit_of_mem_toDigits {n : Nat} {c : Char} (hc : c ∈ Nat.toDigits 10 n) :
    c.isDigit = true := Nat.isDigit_of_mem_toDigits (by omega) (by omega) hc

/-- A digit stands for a number below ten. -/
theorem digit_lt_ten {c : Char} (hc : c.isDigit = true) : c.toNat - '0'.toNat < 10 := by
  have hle : c.toNat ≤ '9'.toNat := by
    unfold Char.isDigit at hc
    exact (of_decide_eq_true (Bool.and_eq_true_iff.mp hc).2)
  have hnine : '9'.toNat = 57 := rfl
  have hzero : '0'.toNat = 48 := rfl
  omega

/-- A run of digits stands for a number below the power of ten of its length. -/
theorem ofDigitChars_lt {digits : List Char} (h : ∀ c ∈ digits, c.isDigit = true) :
    Nat.ofDigitChars 10 digits 0 < 10 ^ digits.length := by
  induction digits with
  | nil => exact Nat.one_pos
  | cons c rest ih =>
    obtain ⟨hc, hrest⟩ := List.forall_mem_cons.mp h
    have htail := ih hrest
    have hdigit := digit_lt_ten hc
    have hscaled : 10 ^ rest.length * (c.toNat - '0'.toNat) ≤ 10 ^ rest.length * 9 :=
      Nat.mul_le_mul_left _ (by omega)
    rw [Nat.ofDigitChars_cons, Nat.ofDigitChars_eq_ofDigitChars_zero, List.length_cons,
      Nat.pow_succ, Nat.mul_zero, Nat.zero_add]
    omega

/-- A number of `k + 1` digits is at least the `k`-th power of ten. -/
theorem pow_le_of_length_toDigits {n k : Nat} (h : (Nat.toDigits 10 n).length = k + 1)
    (hk : 0 < k) : 10 ^ k ≤ n := by
  by_contra hlt
  have hle := (Nat.length_toDigits_le_iff (b := 10) (by omega) hk).mpr (Nat.lt_of_not_le hlt)
  omega

/-- Only the numeral of zero begins with a zero. -/
theorem head_toDigits_ne_zero {n : Nat} (hn : n ≠ 0) {c : Char} {rest : List Char}
    (h : Nat.toDigits 10 n = c :: rest) : c ≠ '0' := by
  rintro rfl
  have hdigits : ∀ c ∈ rest, c.isDigit = true := fun c hc =>
    isDigit_of_mem_toDigits (h ▸ List.mem_cons_of_mem _ hc)
  have hvalue : n = Nat.ofDigitChars 10 rest 0 := by
    rw [← Nat.ofDigitChars_ten_toDigits (n := n), h]
    rfl
  have hlt := ofDigitChars_lt hdigits
  rcases Nat.eq_zero_or_pos rest.length with hzero | hpos
  · rw [hzero] at hlt
    omega
  · have hle : 10 ^ rest.length ≤ n :=
      pow_le_of_length_toDigits (by rw [h, List.length_cons]) hpos
    omega

/-! ### Padding -/

/-- The digits of `n` with leading zeros up to `width` digits. -/
def padded (width n : Nat) : List Char := (Nat.toDigits 10 (10 ^ width + n)).drop 1

variable {width n : Nat}

/-- Padding adds digits only. -/
theorem isDigit_of_mem_padded {c : Char} (hc : c ∈ padded width n) : c.isDigit = true :=
  isDigit_of_mem_toDigits (List.mem_of_mem_drop hc)

theorem length_toDigits_padded (h : n < 10 ^ width) :
    (Nat.toDigits 10 (10 ^ width + n)).length = width + 1 := by
  have hle : (Nat.toDigits 10 (10 ^ width + n)).length ≤ width + 1 := by
    refine (Nat.length_toDigits_le_iff (by omega) (by omega)).mpr ?_
    rw [Nat.pow_succ]
    omega
  have hpos : 0 < (Nat.toDigits 10 (10 ^ width + n)).length := Nat.length_toDigits_pos
  rcases Nat.eq_zero_or_pos width with rfl | hwidth
  · omega
  · by_contra hne
    have hshort : (Nat.toDigits 10 (10 ^ width + n)).length ≤ width := by omega
    have := (Nat.length_toDigits_le_iff (by omega) hwidth).mp hshort
    omega

/-- A number below the power is padded to the width. -/
theorem length_padded (h : n < 10 ^ width) : (padded width n).length = width := by
  rw [padded, List.length_drop, length_toDigits_padded h, Nat.add_sub_cancel]

/-- **Padding does not change the number.** -/
theorem ofDigitChars_padded (h : n < 10 ^ width) :
    Nat.ofDigitChars 10 (padded width n) 0 = n := by
  have hlength := length_toDigits_padded h
  have hvalue := Nat.ofDigitChars_ten_toDigits (n := 10 ^ width + n)
  unfold padded
  cases hdigits : Nat.toDigits 10 (10 ^ width + n) with
  | nil => exact absurd hdigits Nat.toDigits_ne_nil
  | cons c rest =>
    rw [hdigits] at hlength hvalue
    have hrest : rest.length = width := Nat.succ.inj hlength
    have hlt : Nat.ofDigitChars 10 rest 0 < 10 ^ rest.length :=
      ofDigitChars_lt fun c hc => isDigit_of_mem_toDigits (hdigits ▸ List.mem_cons_of_mem _ hc)
    rw [Nat.ofDigitChars_cons, Nat.ofDigitChars_eq_ofDigitChars_zero, hrest] at hvalue
    rw [hrest] at hlt
    -- The first digit is a one: below it and above it the sum leaves the range.
    have hone : 10 * 0 + (c.toNat - '0'.toNat) = 1 := by
      generalize 10 * 0 + (c.toNat - '0'.toNat) = d at hvalue
      rcases Nat.lt_trichotomy d 1 with hd | hd | hd
      · obtain rfl : d = 0 := by omega
        omega
      · exact hd
      · have hscaled : 10 ^ width * 2 ≤ 10 ^ width * d := Nat.mul_le_mul_left _ (by omega)
        omega
    rw [hone] at hvalue
    show Nat.ofDigitChars 10 rest 0 = n
    omega

/-- Ten times a number is padded one place wider by a zero at the end. -/
theorem padded_succ (width n : Nat) : padded (width + 1) (10 * n) = padded width n ++ ['0'] := by
  have hsum : 10 ^ (width + 1) + 10 * n = 10 * (10 ^ width + n) + 0 := by
    rw [Nat.pow_succ]
    omega
  have hpow : 0 < 10 ^ width := Nat.pow_pos (by omega)
  have hpos : 0 < 10 ^ width + n := by omega
  unfold padded
  rw [hsum, ← Nat.toDigits_append_toDigits (by omega) hpos (by omega)]
  rw [List.drop_append_of_le_length Nat.length_toDigits_pos, Nat.toDigits_zero]

/-! ### Zeros at the end -/

/-- A run of digits without the zeros it ends in. -/
def dropZeros (digits : List Char) : List Char := digits.rdropWhile fun c => c == '0'

/-- A zero at the end is dropped. -/
theorem dropZeros_concat_zero (digits : List Char) :
    dropZeros (digits ++ ['0']) = dropZeros digits := List.rdropWhile_concat_pos _ _ _ rfl

/-- Nothing is dropped behind another digit. -/
theorem dropZeros_concat {c : Char} (hc : c ≠ '0') (digits : List Char) :
    dropZeros (digits ++ [c]) = digits ++ [c] :=
  List.rdropWhile_concat_neg _ _ _ (by simpa using hc)

/-- **The digits are what is left and the zeros that were dropped.**  What is left is empty or
ends in another digit. -/
theorem exists_dropZeros (digits : List Char) :
    ∃ zeros, digits = dropZeros digits ++ List.replicate zeros '0' ∧
      (dropZeros digits = [] ∨ ∃ front c, dropZeros digits = front ++ [c] ∧ c ≠ '0') := by
  induction digits using List.reverseRecOn with
  | nil => exact ⟨0, rfl, Or.inl rfl⟩
  | append_singleton digits c ih =>
    by_cases hc : c = '0'
    · subst hc
      obtain ⟨zeros, hdigits, hleft⟩ := ih
      rw [dropZeros_concat_zero]
      refine ⟨zeros + 1, ?_, hleft⟩
      rw [List.replicate_succ', ← List.append_assoc, ← hdigits]
    · rw [dropZeros_concat hc]
      exact ⟨0, (List.append_nil _).symm, Or.inr ⟨digits, c, rfl, hc⟩⟩

/-- Dropping zeros leaves digits. -/
theorem isDigit_of_mem_dropZeros {digits : List Char} (h : ∀ c ∈ digits, c.isDigit = true) :
    ∀ c ∈ dropZeros digits, c.isDigit = true := by
  intro c hc
  exact h c ((List.rdropWhile_prefix _ _).subset hc)

/-- A digit other than zero is not a multiple of ten. -/
theorem ofDigitChars_concat_mod {front : List Char} {c : Char} (hc : c.isDigit = true)
    (hzero : c ≠ '0') : Nat.ofDigitChars 10 (front ++ [c]) 0 % 10 ≠ 0 := by
  have hdigit := digit_lt_ten hc
  have hne : c.toNat - '0'.toNat ≠ 0 := by
    intro hle
    have hge : '0'.toNat ≤ c.toNat := by
      unfold Char.isDigit at hc
      exact (of_decide_eq_true (Bool.and_eq_true_iff.mp hc).1)
    refine hzero (Char.toNat_inj.mp ?_)
    omega
  rw [Nat.ofDigitChars_append, Nat.ofDigitChars_cons, Nat.ofDigitChars_nil]
  omega

end Decimal

end AgentConvert
