import Mathlib.Algebra.Group.Nat.Defs
import Mathlib.Data.List.DropRight
import Abacus.Display

/-!
# Decimal digits of natural numbers

The digits of `a * 10 ^ k + b`, for `b` below `10 ^ k`, are the digits of `a` followed by the
`k` lowest digits of `b`, leading zeros included (`toDigits_mul_pow_add`). From this: the digit
count of a number and the length of its digits agree, a number lies below ten to its digit
count, and the digits of a number times a power of ten end in that many zeros. The model's
grouping of integer digits in threes is the plain rule: a comma before each group of three,
counted from the right (`groupThousands_eq_withCommas`).
-/

namespace Abacus

def lowDigits : Nat → Nat → List Char
  | 0, _ => []
  | k + 1, n => lowDigits k (n / 10) ++ [Nat.digitChar (n % 10)]

def withCommas (ds : List Char) : List Char :=
  if 3 < ds.length then withCommas (ds.take (ds.length - 3)) ++ ',' :: ds.drop (ds.length - 3)
  else ds
termination_by ds.length

/-! ## The lowest digits -/

@[simp]
theorem length_lowDigits (k n : Nat) : (lowDigits k n).length = k := by
  induction k generalizing n with
  | zero => rfl
  | succ k ih => simp [lowDigits, ih]

theorem lowDigits_zero (k : Nat) : lowDigits k 0 = List.replicate k '0' := by
  induction k with
  | zero => rfl
  | succ k ih => simp [lowDigits, ih, List.replicate_succ']

theorem lowDigits_mod (k n : Nat) : lowDigits k (n % 10 ^ k) = lowDigits k n := by
  induction k generalizing n with
  | zero => rfl
  | succ k ih =>
    have hdiv : n % 10 ^ (k + 1) / 10 = n / 10 % 10 ^ k := by
      rw [Nat.pow_succ, Nat.mul_comm, Nat.mod_mul_right_div_self]
    have hmod : n % 10 ^ (k + 1) % 10 = n % 10 :=
      Nat.mod_mod_of_dvd n (Nat.dvd_of_pow_dvd (by omega) (Nat.dvd_refl _))
    simp only [lowDigits, hdiv, hmod, ih]

theorem lowDigits_mul_pow (k j c : Nat) :
    lowDigits (k + j) (c * 10 ^ j) = lowDigits k c ++ List.replicate j '0' := by
  induction j with
  | zero => simp
  | succ j ih =>
    have hdiv : c * 10 ^ (j + 1) / 10 = c * 10 ^ j := by
      rw [Nat.pow_succ, ← Nat.mul_assoc, Nat.mul_div_cancel _ (by omega)]
    have hmod : c * 10 ^ (j + 1) % 10 = 0 := by
      rw [Nat.pow_succ, ← Nat.mul_assoc, Nat.mul_mod_left]
    rw [← Nat.add_assoc, lowDigits, hdiv, hmod, ih, List.replicate_succ']
    simp

/-! ## Digits of a number -/

/-- The digits of `a * 10 ^ k + b`: those of `a`, then the `k` lowest digits of `b`. -/
theorem toDigits_mul_pow_add {a : Nat} (ha : 0 < a) (k : Nat) {b : Nat} (hb : b < 10 ^ k) :
    Nat.toDigits 10 (a * 10 ^ k + b) = Nat.toDigits 10 a ++ lowDigits k b := by
  induction k generalizing b with
  | zero =>
    obtain rfl : b = 0 := by simpa using hb
    simp [lowDigits]
  | succ k ih =>
    have hsplit : a * 10 ^ (k + 1) + b = (a * 10 ^ k + b / 10) * 10 + b % 10 := by
      rw [Nat.pow_succ]
      have := Nat.div_add_mod b 10
      rw [Nat.add_mul, Nat.mul_assoc]
      omega
    have hb' : b / 10 < 10 ^ k := by
      rw [Nat.pow_succ] at hb
      omega
    have hten : 10 ≤ a * 10 ^ (k + 1) + b := by
      have : 10 ^ 1 ≤ 10 ^ (k + 1) := Nat.pow_le_pow_right (by omega) (by omega)
      calc 10 ≤ 10 ^ (k + 1) := this
        _ ≤ a * 10 ^ (k + 1) := Nat.le_mul_of_pos_left _ ha
        _ ≤ a * 10 ^ (k + 1) + b := Nat.le_add_right _ _
    -- the last digit is that of `b`, and the others are those of `a * 10 ^ k + b / 10`
    have hdiv : (a * 10 ^ (k + 1) + b) / 10 = a * 10 ^ k + b / 10 := by omega
    have hmod : (a * 10 ^ (k + 1) + b) % 10 = b % 10 := by omega
    rw [Nat.toDigits_of_base_le (by omega) hten, hdiv, hmod, ih hb']
    simp [lowDigits]

theorem toDigits_mul_pow {c : Nat} (hc : 0 < c) (j : Nat) :
    Nat.toDigits 10 (c * 10 ^ j) = Nat.toDigits 10 c ++ List.replicate j '0' := by
  have h := toDigits_mul_pow_add hc j (Nat.pow_pos (by omega) : 0 < 10 ^ j)
  rwa [Nat.add_zero, lowDigits_zero] at h

theorem toDigits_eq_zero_iff {n : Nat} : Nat.toDigits 10 n = ['0'] ↔ n = 0 := by
  constructor
  · intro h
    have hv : Nat.ofDigitChars 10 (Nat.toDigits 10 n) 0 = n := Nat.ofDigitChars_ten_toDigits
    rw [h] at hv
    rw [← hv]
    rfl
  · rintro rfl
    rfl

theorem lowDigits_eq_toDigits {n k : Nat} (hn : 0 < n) (hk : n < 10 ^ k) :
    lowDigits k n = List.replicate (k - (Nat.toDigits 10 n).length) '0' ++ Nat.toDigits 10 n := by
  induction k generalizing n with
  | zero => simp at hk; omega
  | succ k ih =>
    by_cases hsmall : n < 10
    · have hz : n / 10 = 0 := Nat.div_eq_of_lt hsmall
      simp [lowDigits, hz, lowDigits_zero, Nat.toDigits_of_lt_base hsmall, Nat.mod_eq_of_lt hsmall]
    · have hpos : 0 < n / 10 := by omega
      have hlt : n / 10 < 10 ^ k := by
        rw [Nat.pow_succ] at hk
        omega
      have hd : Nat.toDigits 10 n = Nat.toDigits 10 (n / 10) ++ [Nat.digitChar (n % 10)] :=
        Nat.toDigits_of_base_le (by omega) (by omega)
      rw [lowDigits, ih hpos hlt, hd]
      simp only [List.length_append, List.length_singleton, List.append_assoc]
      congr 2
      omega

/-! ## Digit counts -/

theorem digitCount_eq_length (n : Nat) : digitCount n = (Nat.toDigits 10 n).length := by
  fun_induction digitCount n with
  | case1 n h => simp [Nat.toDigits_of_lt_base h]
  | case2 n h ih =>
    have hd : Nat.toDigits 10 n = Nat.toDigits 10 (n / 10) ++ [Nat.digitChar (n % 10)] :=
      Nat.toDigits_of_base_le (by omega) (by omega)
    simp [hd, ih]

theorem digitCount_pos (n : Nat) : 0 < digitCount n := by
  rw [digitCount_eq_length]
  exact Nat.length_toDigits_pos

theorem digitCount_le_iff {n k : Nat} (hk : 0 < k) : digitCount n ≤ k ↔ n < 10 ^ k := by
  rw [digitCount_eq_length, Nat.length_toDigits_le_iff (by omega) hk]

theorem lt_pow_digitCount (n : Nat) : n < 10 ^ (digitCount n) :=
  (digitCount_le_iff (digitCount_pos n)).mp (Nat.le_refl _)

theorem pow_le_of_lt_digitCount {n k : Nat} (hn : 0 < n) (h : k < digitCount n) :
    10 ^ k ≤ n := by
  by_cases hk : k = 0
  · subst hk
    simp only [Nat.pow_zero]
    omega
  · exact Nat.le_of_not_lt fun hlt => by
      have := (digitCount_le_iff (by omega)).mpr hlt
      omega

theorem digitCount_mul_pow {c : Nat} (hc : 0 < c) (j : Nat) :
    digitCount (c * 10 ^ j) = digitCount c + j := by
  simp [digitCount_eq_length, toDigits_mul_pow hc]

/-! ## Trailing zeros -/

theorem pow_trailingZeroDigits_dvd (n : Nat) : 10 ^ (trailingZeroDigits n) ∣ n := by
  fun_induction trailingZeroDigits n with
  | case1 => exact Nat.dvd_zero _
  | case2 n hn h ih =>
    obtain ⟨m, hm⟩ := ih
    refine ⟨m, ?_⟩
    have := Nat.div_add_mod n 10
    rw [Nat.pow_succ, Nat.mul_comm _ 10, Nat.mul_assoc, ← hm]
    omega
  | case3 n hn h => exact Nat.one_dvd n

theorem div_pow_trailingZeroDigits_mod {n : Nat} (hn : 0 < n) :
    n / 10 ^ (trailingZeroDigits n) % 10 ≠ 0 := by
  fun_induction trailingZeroDigits n with
  | case1 => omega
  | case2 n hn' h ih =>
    have hpos : 0 < n / 10 := by omega
    rw [Nat.pow_succ, Nat.mul_comm, ← Nat.div_div_eq_div_mul]
    exact ih hpos
  | case3 n hn' h => simpa using h

theorem exists_eq_mul_pow_trailingZeroDigits {n : Nat} (hn : 0 < n) :
    ∃ a, a % 10 ≠ 0 ∧ n = a * 10 ^ (trailingZeroDigits n) :=
  ⟨n / 10 ^ trailingZeroDigits n, div_pow_trailingZeroDigits_mod hn,
    (Nat.div_mul_cancel (pow_trailingZeroDigits_dvd n)).symm⟩

theorem trailingZeroDigits_lt_digitCount {n : Nat} (hn : 0 < n) :
    trailingZeroDigits n < digitCount n := by
  have hle := Nat.le_of_dvd hn (pow_trailingZeroDigits_dvd n)
  exact Nat.lt_of_not_le fun hge =>
    Nat.lt_irrefl _ (Nat.lt_of_lt_of_le (lt_pow_digitCount n)
      (Nat.le_trans (Nat.pow_le_pow_right (by omega) hge) hle))

/-! ## Groups of three -/

theorem groupReversed_short {ds : List Char} (h : ds.length ≤ 3) :
    Display.groupReversed ds = ds := by
  rcases ds with _ | ⟨a, _ | ⟨b, _ | ⟨c, _ | ⟨d, rest⟩⟩⟩⟩
  all_goals first | rfl | (simp only [List.length_cons] at h; omega)

/-- The model's grouping puts a comma before each group of three digits, from the right. -/
theorem groupThousands_eq_withCommas (ds : List Char) :
    Display.groupThousands ds = withCommas ds := by
  fun_induction withCommas ds with
  | case1 ds hlong ih =>
    -- the last three digits come first in the reversed digits, and a comma follows them
    rw [← ih]
    obtain ⟨x, y, z, hlast⟩ : ∃ x y z, ds.drop (ds.length - 3) = [x, y, z] := by
      have hlen : (ds.drop (ds.length - 3)).length = 3 := by simp; omega
      rcases hd : ds.drop (ds.length - 3) with _ | ⟨x, _ | ⟨y, _ | ⟨z, _ | ⟨w, rest⟩⟩⟩⟩
      all_goals rw [hd] at hlen
      all_goals first | exact ⟨x, y, z, rfl⟩ | simp at hlen
    obtain ⟨w, rest, hpre⟩ : ∃ w rest, (ds.take (ds.length - 3)).reverse = w :: rest := by
      refine List.exists_cons_of_ne_nil ?_
      simp only [ne_eq, List.reverse_eq_nil_iff, List.take_eq_nil_iff, not_or]
      exact ⟨by omega, by rintro rfl; simp at hlong⟩
    have hds : ds.reverse = z :: y :: x :: w :: rest := by
      conv => lhs; rw [← List.take_append_drop (ds.length - 3) ds]
      rw [List.reverse_append, hlast, hpre]
      rfl
    have hstep : Display.groupReversed (z :: y :: x :: w :: rest) =
        z :: y :: x :: ',' :: Display.groupReversed (w :: rest) := rfl
    rw [Display.groupThousands, hds, hstep, Display.groupThousands, hpre, hlast]
    simp
  | case2 ds hshort =>
    simp only [Display.groupThousands]
    rw [groupReversed_short (by simp; omega), List.reverse_reverse]

end Abacus
