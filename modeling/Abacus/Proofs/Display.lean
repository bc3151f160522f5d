import Mathlib.Algebra.Order.Field.Basic
import Mathlib.Algebra.Order.Field.Power
import Mathlib.Algebra.Group.Int.Even
import Mathlib.Tactic.FieldSimp
import Mathlib.Tactic.Linarith
import Mathlib.Tactic.Ring
import Abacus.Proofs.Digits

/-!
# Showing a number at a fixed number of places

`Display.format v d` rounds `v` half to even to `d` fraction places and spells the result in
fixed point: a minus sign for a negative result, the integer digits, and the fraction digits
without trailing zeros after a point (`fixedPoint`). The rounding is stated over the
rationals (`RoundsHalfEven`), and `format_fixedPoint` shows that every number whose leading
digit stands below the largest exponent is shown this way at every number of places up to
that exponent: the working precision always holds the rounded coefficient, even after a
carry, so the rounding never fails.

The argument follows the model: `roundHalfEven` rounds to nearest, ties to even
(`roundHalfEven_rounds`); `Decimal.rescale` rounds or pads a number to a unit
(`rescale_rounds`) and adds at most one digit beyond those kept (`digits_rescale_le`), so
`Context.quantize` succeeds with it whenever the precision covers those digits
(`quantize_eq_rescale`); `Context.reduce` then strips all trailing zeros, and `positional`
writes the result as the digits of the rounded integer around the point.
-/

namespace Abacus

/-- `n` is `q` rounded to the nearest integer, a half going to the even neighbour. -/
def RoundsHalfEven (q : ℚ) (n : ℤ) : Prop :=
  |q - n| < 1 / 2 ∨ (|q - n| = 1 / 2 ∧ Even n)

namespace RoundsHalfEven

theorem intCast (n : ℤ) : RoundsHalfEven n n := by
  left
  simp

theorem neg {q : ℚ} {n : ℤ} (h : RoundsHalfEven q n) : RoundsHalfEven (-q) (-n) := by
  have habs : |-q - ((-n : ℤ) : ℚ)| = |q - n| := by
    rw [← abs_neg]
    push_cast
    ring_nf
  rw [RoundsHalfEven, habs]
  exact h.imp_right fun ⟨hhalf, heven⟩ => ⟨hhalf, heven.neg⟩

theorem abs_sub_le {q : ℚ} {n : ℤ} (h : RoundsHalfEven q n) : |q - n| ≤ 1 / 2 :=
  h.elim le_of_lt fun h => h.1.le

theorem unique {q : ℚ} {n m : ℤ} (hn : RoundsHalfEven q n) (hm : RoundsHalfEven q m) :
    n = m := by
  have htri : |((n - m : ℤ) : ℚ)| ≤ |q - n| + |q - m| := by
    calc |((n - m : ℤ) : ℚ)| = |(q - m) - (q - n)| := by push_cast; ring_nf
      _ ≤ |q - m| + |q - n| := abs_sub _ _
      _ = |q - n| + |q - m| := add_comm _ _
  -- one of them strictly within a half puts them less than one apart
  have hstrict : |q - n| < 1 / 2 ∨ |q - m| < 1 / 2 → n = m := by
    intro h
    have hlt : |((n - m : ℤ) : ℚ)| < 1 := by
      rcases h with h | h <;> linarith [hn.abs_sub_le, hm.abs_sub_le]
    have hint : |n - m| < 1 := by exact_mod_cast hlt
    rw [abs_lt] at hint
    omega
  have hle : |((n - m : ℤ) : ℚ)| ≤ 1 := by linarith [hn.abs_sub_le, hm.abs_sub_le]
  have hint : |n - m| ≤ 1 := by exact_mod_cast hle
  rcases hn with hn | ⟨hn, hne⟩
  · exact hstrict (.inl hn)
  rcases hm with hm | ⟨hm, hme⟩
  · exact hstrict (.inr hm)
  -- both at exactly a half: both even, so they cannot be neighbours
  rw [abs_le] at hint
  rw [Int.even_iff] at hne hme
  omega

end RoundsHalfEven

theorem roundsHalfEven_div_iff {x : ℤ} {p : ℕ} (hp : 0 < p) {n : ℤ} :
    RoundsHalfEven ((x : ℚ) / p) n ↔
      2 * |x - n * p| < p ∨ (2 * |x - n * p| = p ∧ Even n) := by
  have hp' : (0 : ℚ) < p := by exact_mod_cast hp
  -- the distance to `n`, scaled by `p`, is the whole number `|x - n * p|`
  have hdist : |(x : ℚ) / p - n| = ((|x - n * p| : ℤ) : ℚ) / p := by
    have hsub : (x : ℚ) / p - n = (x - n * p) / p := by field_simp
    rw [hsub, abs_div, abs_of_pos hp']
    push_cast
    rfl
  have hcast : ∀ a : ℤ, (a : ℚ) / p < 1 / 2 ↔ 2 * a < p := fun a => by
    rw [div_lt_iff₀ hp']
    constructor <;> intro h
    · exact_mod_cast (by linarith : (2 * a : ℚ) < p)
    · have : (2 * a : ℚ) < p := by exact_mod_cast h
      linarith
  have hcast' : ∀ a : ℤ, (a : ℚ) / p = 1 / 2 ↔ 2 * a = p := fun a => by
    rw [div_eq_iff hp'.ne']
    constructor <;> intro h
    · exact_mod_cast (by linarith : (2 * a : ℚ) = p)
    · have : (2 * a : ℚ) = p := by exact_mod_cast h
      linarith
  rw [RoundsHalfEven, hdist, hcast, hcast']

/-! ## Rounding a coefficient -/

theorem roundHalfEven_eq (c k : ℕ) :
    roundHalfEven c k =
      if 10 ^ k < 2 * (c % 10 ^ k) ∨ (2 * (c % 10 ^ k) = 10 ^ k ∧ c / 10 ^ k % 2 = 1)
      then c / 10 ^ k + 1 else c / 10 ^ k := by
  unfold roundHalfEven
  simp only [Nat.pow_eq]
  by_cases hshort : digitCount c < k
  · rw [if_pos hshort]
    obtain ⟨j, rfl⟩ : ∃ j, k = j + 1 := ⟨k - 1, by omega⟩
    have hj : 0 < j := Nat.lt_of_lt_of_le (digitCount_pos c) (by omega)
    have hc : c < 10 ^ j := (digitCount_le_iff hj).mp (by omega)
    have hpow : 10 ^ (j + 1) = 10 * 10 ^ j := by rw [Nat.pow_succ, Nat.mul_comm]
    have hlt : c < 10 ^ (j + 1) := by omega
    rw [Nat.div_eq_of_lt hlt, Nat.mod_eq_of_lt hlt, if_neg (by omega)]
  · rw [if_neg hshort]

/-- The model's rounding of `c / 10 ^ k` is to the nearest integer, ties to even. -/
theorem roundHalfEven_rounds (c k : ℕ) :
    RoundsHalfEven ((c : ℚ) / 10 ^ k) (roundHalfEven c k) := by
  have hP : 0 < 10 ^ k := Nat.pow_pos (by omega)
  have hcast : (c : ℚ) / 10 ^ k = ((c : ℤ) : ℚ) / ((10 ^ k : ℕ) : ℚ) := by push_cast; rfl
  rw [hcast, roundsHalfEven_div_iff hP, roundHalfEven_eq]
  have hc : (c : ℤ) = (10 ^ k : ℕ) * (c / 10 ^ k : ℕ) + (c % 10 ^ k : ℕ) := by
    exact_mod_cast (Nat.div_add_mod c (10 ^ k)).symm
  have hmod := Nat.mod_lt c hP
  rw [hc]
  generalize c / 10 ^ k = q at *
  generalize c % 10 ^ k = r at *
  generalize 10 ^ k = P at *
  split_ifs with hup
  · -- rounded up: the distance to `q + 1` is `P - r`
    have hdist : (P : ℤ) * q + r - ((q + 1 : ℕ) : ℤ) * P = r - P := by push_cast; ring
    rw [hdist, abs_of_neg (by omega), Int.even_coe_nat, Nat.even_add_one, Nat.even_iff]
    omega
  · -- rounded down: the distance to `q` is `r`
    have hdist : (P : ℤ) * q + r - (q : ℤ) * P = r := by ring
    rw [hdist, abs_of_nonneg (by omega), Int.even_coe_nat, Nat.even_iff]
    omega

theorem roundHalfEven_zero_left (k : ℕ) : roundHalfEven 0 k = 0 := by
  have hP : 0 < 10 ^ k := Nat.pow_pos (by omega)
  rw [roundHalfEven_eq, if_neg (by rw [Nat.zero_mod]; omega), Nat.zero_div]

theorem digitCount_roundHalfEven_le (c k : ℕ) :
    digitCount (roundHalfEven c k) ≤ digitCount c - k + 1 := by
  apply (digitCount_le_iff (by omega)).mpr
  by_cases hshort : digitCount c < k
  · have hzero : roundHalfEven c k = 0 := by
      unfold roundHalfEven
      rw [if_pos hshort]
    rw [hzero]
    exact Nat.pow_pos (by omega)
  · -- the quotient has `digitCount c - k` digits, and rounding adds at most one to it
    have hP : 0 < 10 ^ k := Nat.pow_pos (by omega)
    have hq : c / 10 ^ k < 10 ^ (digitCount c - k) := by
      rw [Nat.div_lt_iff_lt_mul hP, ← Nat.pow_add, Nat.sub_add_cancel (by omega)]
      exact lt_pow_digitCount c
    have hle : roundHalfEven c k ≤ 10 ^ (digitCount c - k) := by
      rw [roundHalfEven_eq]
      split_ifs <;> omega
    calc roundHalfEven c k ≤ 10 ^ (digitCount c - k) := hle
      _ < 10 ^ (digitCount c - k + 1) := Nat.pow_lt_pow_right (by omega) (by omega)

/-! ## Rescaling a number -/

namespace Decimal

def toRat (x : Decimal) : ℚ := x.signedCoeff * 10 ^ x.exp

@[simp]
theorem natAbs_signedCoeff (x : Decimal) : x.signedCoeff.natAbs = x.coeff := by
  unfold signedCoeff
  split <;> simp

theorem signedCoeff_neg_iff (x : Decimal) : x.signedCoeff < 0 ↔ x.neg = true ∧ x.coeff ≠ 0 := by
  unfold signedCoeff
  cases x.neg <;> simp [Nat.pos_iff_ne_zero]

@[simp]
theorem rescale_neg (x : Decimal) (t : ℤ) : (x.rescale t).neg = x.neg := by
  unfold rescale
  split <;> rfl

@[simp]
theorem rescale_exp (x : Decimal) (t : ℤ) : (x.rescale t).exp = t := by
  unfold rescale
  split
  · rfl
  · simp only [pad]
    omega

theorem rescale_of_coeff_eq_zero {x : Decimal} (hx : x.coeff = 0) (t : ℤ) :
    x.rescale t = ⟨x.neg, 0, t⟩ := by
  unfold rescale
  split
  · rw [hx, roundHalfEven_zero_left]
  · simp only [pad, hx, Nat.zero_mul, Decimal.mk.injEq, true_and]
    omega

/-- The coefficient at the unit `10 ^ t` is `x` over that unit, rounded half to even. -/
theorem rescale_rounds (x : Decimal) (t : ℤ) :
    RoundsHalfEven (x.coeff * 10 ^ (x.exp - t)) (x.rescale t).coeff := by
  unfold rescale
  split
  · -- digits are dropped: the unit is `10 ^ (t - x.exp)` times the last digit's
    have hk : x.exp - t = -((t - x.exp).toNat : ℤ) := by omega
    rw [hk, zpow_neg, zpow_natCast, ← div_eq_mul_inv]
    exact_mod_cast roundHalfEven_rounds x.coeff (t - x.exp).toNat
  · -- zeros are added: the value is a whole number
    have hk : x.exp - t = ((x.exp - t).toNat : ℤ) := by omega
    rw [hk, zpow_natCast]
    simp only [pad, Nat.pow_eq]
    exact_mod_cast RoundsHalfEven.intCast ((x.coeff * 10 ^ (x.exp - t).toNat : ℕ) : ℤ)

theorem rescale_rounds_signed (x : Decimal) (t : ℤ) :
    RoundsHalfEven (x.toRat * 10 ^ (-t)) (x.rescale t).signedCoeff := by
  have hpow : (10 : ℚ) ^ x.exp * 10 ^ (-t) = 10 ^ (x.exp - t) := by
    rw [← zpow_add₀ (by norm_num), sub_eq_add_neg]
  have h := rescale_rounds x t
  unfold toRat signedCoeff
  rw [rescale_neg]
  cases x.neg
  · simp only [Bool.false_eq_true, if_false]
    rw [mul_assoc, hpow]
    exact_mod_cast h
  · have hval : ((-(x.coeff : ℤ) : ℤ) : ℚ) * 10 ^ x.exp * 10 ^ (-t) =
        -((x.coeff : ℚ) * 10 ^ (x.exp - t)) := by
      push_cast
      rw [mul_assoc, hpow, neg_mul]
    simp only [if_true]
    rw [hval]
    exact_mod_cast h.neg

/-- Rescaling keeps the digits from the leading one down to the unit, and one more from a
carry; a number below the unit keeps a single digit. -/
theorem digits_rescale_le (x : Decimal) (t : ℤ) :
    ((x.rescale t).digits : ℤ) ≤ max 1 (x.adjusted - t + 2) := by
  unfold rescale adjusted digits
  split
  · have hle := digitCount_roundHalfEven_le x.coeff (t - x.exp).toNat
    dsimp only
    omega
  · simp only [pad, Nat.pow_eq]
    by_cases hx : x.coeff = 0
    · have hone : digitCount 0 ≤ 1 := (digitCount_le_iff (by omega)).mpr (by omega)
      simp only [hx, Nat.zero_mul]
      omega
    · rw [digitCount_mul_pow (by omega)]
      omega

theorem adjusted_rescale_le (x : Decimal) (t : ℤ) :
    (x.rescale t).adjusted ≤ max t (x.adjusted + 1) := by
  have h := digits_rescale_le x t
  simp only [adjusted, rescale_exp] at h ⊢
  omega

end Decimal

/-! ## Quantizing and reducing -/

namespace Context

/-- `quantize` succeeds with the rescaled number whenever the target lies in the exponent
range and the precision holds every digit from the leading one down to the target, and one
more for a carry. -/
theorem quantize_eq_rescale (ctx : Context) (x : Decimal) {t : ℤ} (hlo : ctx.etiny ≤ t)
    (hhi : t ≤ ctx.emax) (hprec : max 1 (x.adjusted - t + 2) ≤ ctx.prec)
    (hadj : x.adjusted < ctx.emax) :
    ctx.quantize x t = .ok (x.rescale t) := by
  unfold quantize
  rw [if_neg (by omega)]
  by_cases hzero : x.coeff = 0
  · rw [if_pos hzero, Decimal.rescale_of_coeff_eq_zero hzero]
  · have hD := Decimal.digits_rescale_le x t
    have hA := Decimal.adjusted_rescale_le x t
    rw [if_neg hzero, if_neg (by simp only [Decimal.adjusted] at hprec; omega)]
    dsimp only
    rw [if_neg (by omega)]

theorem reduce_eq (ctx : Context) {x : Decimal} (hx : x.coeff ≠ 0)
    (hadj : x.adjusted ≤ ctx.emax) :
    ctx.reduce x = ⟨x.neg, x.coeff / 10 ^ trailingZeroDigits x.coeff,
      x.exp + trailingZeroDigits x.coeff⟩ := by
  have hlt := trailingZeroDigits_lt_digitCount (Nat.pos_of_ne_zero hx)
  unfold reduce
  simp only [Decimal.adjusted, Decimal.digits] at hadj
  rw [if_neg hx, Nat.min_eq_left (by omega)]
  simp only [Nat.pow_eq]

end Context

/-! ## Fixed-point text -/

def fractionDigits (d m : ℕ) : List Char := (lowDigits d m).rdropWhile (· == '0')

/-- The fixed-point spelling of `n / 10 ^ d`: a minus sign for a negative number, the integer
digits without leading zeros, grouped in threes when `group` holds, and the fraction digits
without trailing zeros after a point, the point only when there are any. -/
def fixedPoint (n : ℤ) (d : ℕ) (group : Bool) : String :=
  let m := n.natAbs
  let whole := Nat.toDigits 10 (m / 10 ^ d)
  let frac := fractionDigits d m
  String.ofList ((if n < 0 then ['-'] else []) ++ (if group then withCommas whole else whole) ++
    (if frac = [] then [] else '.' :: frac))

theorem rdropWhile_append_zeros (l : List Char) (z : ℕ) :
    (l ++ List.replicate z '0').rdropWhile (· == '0') = l.rdropWhile (· == '0') := by
  induction z with
  | zero => simp
  | succ z ih =>
    rw [List.replicate_succ', ← List.append_assoc, List.rdropWhile_concat_pos, ih]
    rfl

theorem fractionDigits_mod (d m : ℕ) : fractionDigits d (m % 10 ^ d) = fractionDigits d m := by
  rw [fractionDigits, lowDigits_mod, fractionDigits]

theorem fractionDigits_mul_pow (k z a : ℕ) :
    fractionDigits (k + z) (a * 10 ^ z) = fractionDigits k a := by
  rw [fractionDigits, lowDigits_mul_pow, rdropWhile_append_zeros, fractionDigits]

theorem fractionDigits_of_mod_ne_zero {a : ℕ} (ha : a % 10 ≠ 0) (k : ℕ) :
    fractionDigits k a = lowDigits k a := by
  cases k with
  | zero => rfl
  | succ k =>
    have hlast : ¬(Nat.digitChar (a % 10) == '0') = true := by
      rw [beq_iff_eq, Nat.digitChar_eq_zero]
      exact ha
    rw [fractionDigits, lowDigits, List.rdropWhile_concat_neg (· == '0') _ _ hlast]

theorem fractionDigits_eq_nil_iff (d m : ℕ) : fractionDigits d m = [] ↔ m % 10 ^ d = 0 := by
  rw [← fractionDigits_mod]
  constructor
  · intro h
    apply Decidable.byContradiction
    intro hb
    have hlt : m % 10 ^ d < 10 ^ d := Nat.mod_lt _ (Nat.pow_pos (by omega))
    generalize m % 10 ^ d = b at h hb hlt
    have hb' : 0 < b := Nat.pos_of_ne_zero hb
    have hd : 0 < d := Nat.pos_of_ne_zero fun h0 => by
      subst h0
      simp only [Nat.pow_zero] at hlt
      omega
    -- the remainder is `a * 10 ^ z` with `z` below `d`, and the last digit of `a` is written
    have hz : trailingZeroDigits b < d := Nat.lt_of_lt_of_le
      (trailingZeroDigits_lt_digitCount hb') ((digitCount_le_iff hd).mpr hlt)
    obtain ⟨a, ha, hab⟩ := exists_eq_mul_pow_trailingZeroDigits hb'
    generalize trailingZeroDigits b = z at hz hab
    subst hab
    obtain ⟨k, rfl⟩ : ∃ k, d = k + 1 + z := ⟨d - 1 - z, by omega⟩
    rw [fractionDigits_mul_pow, fractionDigits_of_mod_ne_zero ha] at h
    simpa using congrArg List.length h
  · intro h
    rw [h, fractionDigits, lowDigits_zero, List.rdropWhile_eq_nil_iff]
    intro c hc
    rw [List.eq_of_mem_replicate hc]
    rfl

theorem fixedPoint_ne_neg_zero (n : ℤ) (d : ℕ) : fixedPoint n d false ≠ "-0" := by
  intro h
  have hl := congrArg String.toList h
  have hminus : "-0".toList = ['-', '0'] := rfl
  simp only [fixedPoint, String.toList_ofList, Bool.false_eq_true, if_false, hminus] at hl
  obtain ⟨c, cs, hc⟩ := List.exists_cons_of_ne_nil
    (Nat.toDigits_ne_nil : Nat.toDigits 10 (n.natAbs / 10 ^ d) ≠ [])
  have hmem : c ∈ Nat.toDigits 10 (n.natAbs / 10 ^ d) := by
    rw [hc]
    exact List.mem_cons_self
  have hdigit : c.isDigit = true := Nat.isDigit_of_mem_toDigits (by decide) (by decide) hmem
  by_cases hn : n < 0
  · -- after the sign, the integer digits are `0` and there is no fraction
    rw [if_pos hn, hc] at hl
    simp only [List.cons_append, List.nil_append, List.cons.injEq, true_and] at hl
    obtain ⟨rfl, hrest⟩ := hl
    obtain ⟨hcs, hpt⟩ := List.append_eq_nil_iff.mp hrest
    have hpoint : fractionDigits d n.natAbs = [] := by
      by_contra hne
      rw [if_neg hne] at hpt
      exact List.cons_ne_nil _ _ hpt
    have hwhole : n.natAbs / 10 ^ d = 0 := toDigits_eq_zero_iff.mp (by rw [hc, hcs])
    have hmod := (fractionDigits_eq_nil_iff d n.natAbs).mp hpoint
    have hzero : n.natAbs = 0 := by
      have := Nat.div_add_mod n.natAbs (10 ^ d)
      rw [hwhole, hmod] at this
      omega
    omega
  · -- without a sign, the text would start with the digit `c`
    rw [if_neg hn, hc] at hl
    simp only [List.nil_append, List.cons_append, List.cons.injEq] at hl
    rw [hl.1] at hdigit
    exact absurd hdigit (by decide)

namespace Display

theorem positional_of_nonneg (s : Bool) {a : ℕ} (ha : 0 < a) (j : ℕ) :
    positional ⟨s, a, j⟩ = (Nat.toDigits 10 (a * 10 ^ j), []) := by
  simp only [positional, Int.natCast_nonneg, if_true, Int.toNat_natCast, toDigits_mul_pow ha]

theorem positional_of_neg (s : Bool) (a k : ℕ) :
    positional ⟨s, a, -k⟩ = (Nat.toDigits 10 (a / 10 ^ k), lowDigits k a) := by
  by_cases hk : k = 0
  · subst hk
    simp [positional, lowDigits]
  have hneg : ¬(0 : ℤ) ≤ -(k : ℤ) := by omega
  simp only [positional, if_neg hneg, neg_neg, Int.toNat_natCast]
  have hP : 0 < 10 ^ k := Nat.pow_pos (by omega)
  by_cases hlong : k < (Nat.toDigits 10 a).length
  · -- more than `k` digits: the integer part is not zero
    rw [if_pos hlong]
    have hlen : k < digitCount a := by rwa [digitCount_eq_length]
    have hpos : 0 < a := Nat.pos_of_ne_zero fun h0 => by
      subst h0
      simp at hlong
      omega
    have hhigh : 0 < a / 10 ^ k := Nat.div_pos (pow_le_of_lt_digitCount hpos hlen) hP
    have hsplit : Nat.toDigits 10 a = Nat.toDigits 10 (a / 10 ^ k) ++ lowDigits k a := by
      conv_lhs => rw [← Nat.div_add_mod a (10 ^ k), Nat.mul_comm]
      rw [toDigits_mul_pow_add hhigh k (Nat.mod_lt a hP), lowDigits_mod]
    have htake : (Nat.toDigits 10 a).length - k = (Nat.toDigits 10 (a / 10 ^ k)).length := by
      rw [hsplit, List.length_append, length_lowDigits, Nat.add_sub_cancel]
    rw [htake, hsplit, List.take_left' rfl, List.drop_left' rfl]
  · -- at most `k` digits: the integer part is zero and the digits follow leading zeros
    rw [if_neg hlong]
    have hsmall : a < 10 ^ k :=
      (digitCount_le_iff (by omega)).mp (by rw [digitCount_eq_length]; omega)
    rw [Nat.div_eq_of_lt hsmall, Nat.toDigits_zero]
    by_cases ha : a = 0
    · subst ha
      rw [lowDigits_zero, Nat.toDigits_zero, List.length_singleton, ← List.replicate_succ',
        Nat.sub_add_cancel (by omega)]
    · rw [lowDigits_eq_toDigits (Nat.pos_of_ne_zero ha) hsmall]

theorem positional_reduced (s : Bool) {m : ℕ} (hm : 0 < m) (d : ℕ) :
    positional ⟨s, m / 10 ^ trailingZeroDigits m, -(d : ℤ) + (trailingZeroDigits m : ℤ)⟩ =
      (Nat.toDigits 10 (m / 10 ^ d), fractionDigits d m) := by
  obtain ⟨a, ha, hma⟩ := exists_eq_mul_pow_trailingZeroDigits hm
  have hapos : 0 < a := Nat.pos_of_ne_zero fun h0 => ha (by rw [h0])
  generalize trailingZeroDigits m = z at hma ⊢
  subst hma
  rw [Nat.mul_div_cancel _ (Nat.pow_pos (by omega))]
  by_cases hzd : d ≤ z
  · -- the unit is above the last digit: a whole number
    obtain ⟨j, rfl⟩ : ∃ j, z = d + j := ⟨z - d, by omega⟩
    have hexp : -(d : ℤ) + ((d + j : ℕ) : ℤ) = (j : ℤ) := by push_cast; ring
    have hmul : a * 10 ^ (d + j) = a * 10 ^ j * 10 ^ d := by
      rw [Nat.pow_add, Nat.mul_comm (10 ^ d), Nat.mul_assoc]
    have hfrac : fractionDigits d (a * 10 ^ j * 10 ^ d) = [] := by
      have h := fractionDigits_mul_pow 0 d (a * 10 ^ j)
      rwa [Nat.zero_add] at h
    rw [hexp, positional_of_nonneg s hapos j, hmul, Nat.mul_div_cancel _ (Nat.pow_pos (by omega)),
      hfrac]
  · -- `k` written digits stand below the point
    obtain ⟨k, rfl⟩ : ∃ k, d = k + z := ⟨d - z, by omega⟩
    have hexp : -((k + z : ℕ) : ℤ) + (z : ℤ) = -(k : ℤ) := by push_cast; ring
    rw [hexp, positional_of_neg, Nat.pow_add, Nat.mul_div_mul_right _ _ (Nat.pow_pos (by omega)),
      fractionDigits_mul_pow, fractionDigits_of_mod_ne_zero ha]

theorem rounded_eq (v : Decimal) {d : ℕ} (hv : v.adjusted < 999999) (hd : d ≤ 999999) :
    rounded v d =
      .ok (let r := Context.standard.reduce (v.rescale (-d))
        if r.coeff = 0 then r.abs else r) := by
  have hprec : workingPrecision v d = max 28 (v.adjusted + d + 2) := rfl
  -- the precision stays below two million, far inside both of its limits
  have hword : (2000000 : ℤ) ≤ wordLimit := by decide
  have hunit : unitExponent (workingPrecision v d) d = .ok (-d) := by
    simp only [unitExponent, Context.standard, hprec, Int.natAbs_neg, Int.natAbs_natCast]
    rw [if_neg (by omega), if_neg (by omega)]
    congr 1
    omega
  have hquant : { Context.standard with prec := (workingPrecision v d).toNat }.quantize v (-d) =
      .ok (v.rescale (-d)) := by
    apply Context.quantize_eq_rescale <;> simp only [Context.etiny, Context.standard, hprec] <;>
      omega
  simp only [rounded]
  rw [if_neg (by omega), if_neg (by simp only [maxPrecision]; omega), hunit]
  simp only [hquant]
  rfl

theorem format_eq (v : Decimal) {d : ℕ} (hv : v.adjusted < 999999) (hd : d ≤ 999999)
    (group : Bool) :
    format v d group = .ok (fixedPoint (v.rescale (-d)).signedCoeff d group) := by
  have hadj : (v.rescale (-d)).adjusted ≤ Context.standard.emax := by
    have := Decimal.adjusted_rescale_le v (-d)
    simp only [Context.standard]
    omega
  have hexp := Decimal.rescale_exp v (-d)
  simp only [format, rounded_eq v hv hd]
  generalize v.rescale (-d) = q at hadj hexp ⊢
  by_cases hM : q.coeff = 0
  · -- a zero is shown as `0`
    have hr : Context.standard.reduce q = ⟨q.neg, 0, 0⟩ := by
      simp only [Context.reduce, if_pos hM]
    have hn : q.signedCoeff = 0 := by
      simp [Decimal.signedCoeff, hM]
    have hfrac : fractionDigits d 0 = [] := (fractionDigits_eq_nil_iff d 0).mpr (Nat.zero_mod _)
    have hwhole : withCommas ['0'] = ['0'] := by
      rw [withCommas]
      simp
    simp [hr, hn, fixedPoint, Decimal.abs, positional, hfrac, hwhole, groupThousands_eq_withCommas]
  · have hpos : 0 < q.coeff := Nat.pos_of_ne_zero hM
    have hr := Context.reduce_eq Context.standard hM hadj
    have hnz : q.coeff / 10 ^ trailingZeroDigits q.coeff ≠ 0 := Nat.pos_iff_ne_zero.mp
      (Nat.div_pos (Nat.le_of_dvd hpos (pow_trailingZeroDigits_dvd _)) (Nat.pow_pos (by omega)))
    have hneg : q.signedCoeff < 0 ↔ q.neg = true := by
      rw [Decimal.signedCoeff_neg_iff]
      simp [hM]
    simp only [hr, if_neg hnz, hexp, positional_reduced q.neg hpos d]
    simp only [fixedPoint, Decimal.natAbs_signedCoeff, hneg, groupThousands_eq_withCommas,
      List.isEmpty_iff]

end Display

/-- Every number whose leading digit stands below the largest exponent is shown at `d` places,
for every `d` up to that exponent, as the fixed-point spelling of the integer nearest to
`v * 10 ^ d`, ties to even: with a sign exactly when that integer is negative, the integer
digits without leading zeros, grouped in threes when asked, and the fraction digits without
trailing zeros after a point. The text is never `-0`. -/
theorem format_fixedPoint (v : Decimal) (d : ℕ) (hv : v.adjusted < 999999) (hd : d ≤ 999999) :
    ∃ n : ℤ, RoundsHalfEven (v.toRat * 10 ^ d) n ∧
      (∀ group, Display.format v d group = .ok (fixedPoint n d group)) ∧
      Display.format v d false ≠ .ok "-0" := by
  have hround : RoundsHalfEven (v.toRat * 10 ^ d) (v.rescale (-d)).signedCoeff := by
    have h := Decimal.rescale_rounds_signed v (-d)
    rwa [neg_neg, zpow_natCast] at h
  refine ⟨(v.rescale (-d)).signedCoeff, hround, Display.format_eq v hv hd, ?_⟩
  rw [Display.format_eq v hv hd]
  intro h
  exact fixedPoint_ne_neg_zero _ d (Except.ok.inj h)

/-- `1234.50` at ten places is shown `1234.5`, or `1,234.5` grouped: the integer nearest to
`1234.50 * 10 ^ 10` is that product itself. -/
theorem format_fixedPoint_trailing_zero :
    (⟨false, 123450, -2⟩ : Decimal).adjusted < 999999 ∧
      Display.format ⟨false, 123450, -2⟩ 10 false = .ok "1234.5" ∧
      Display.format ⟨false, 123450, -2⟩ 10 true = .ok "1,234.5" := by
  have hadj : (⟨false, 123450, -2⟩ : Decimal).adjusted < 999999 := by
    simp [Decimal.adjusted, Decimal.digits, digitCount]
  obtain ⟨n, hn, hformat, -⟩ := format_fixedPoint ⟨false, 123450, -2⟩ 10 hadj (by omega)
  have hexact : (⟨false, 123450, -2⟩ : Decimal).toRat * 10 ^ 10 = ((12345000000000 : ℤ) : ℚ) := by
    norm_num [Decimal.toRat, Decimal.signedCoeff]
  have hround :
      RoundsHalfEven ((⟨false, 123450, -2⟩ : Decimal).toRat * 10 ^ 10) 12345000000000 := by
    rw [hexact]
    exact RoundsHalfEven.intCast _
  obtain rfl := hn.unique hround
  -- the theorem's places are the cast `((10 : ℕ) : ℤ)`, equal to `10` only by unfolding
  refine ⟨hadj, (hformat false).trans ?_, (hformat true).trans ?_⟩
  · exact congrArg Except.ok (by decide +kernel)
  · exact congrArg Except.ok (by decide +kernel)

end Abacus
