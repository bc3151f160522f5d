import Mathlib.Data.Nat.Bitwise
import Mathlib.NumberTheory.Padics.PadicVal.Basic
import Abacus.Notation.Custom

/-!
# The schedule of custom notation

`trailingZeros` finds the lowest set bit of an integer by the bit trick `n &&& -n`. A
positive `n` is `2 ^ k * (2 * j + 1)`; its predecessor has ones where `n` has its `k`
trailing zeros, a zero at bit `k` and the same bits above, and `-n` is the complement of the
predecessor. So `n` and `-n` share bit `k` alone (`bitAnd_neg_self`, `bitwise_andNot_pred`),
whose bit length is `k + 1`: for positive values `trailingZeros` is the exponent of the
largest power of two dividing them (`trailingZeros_eq_padicValNat`).

Comparing that exponent with the levels gives the schedule by divisibility: after the
`v`-th value, operator `i` of `inner ++ [outer]` is due when `2 ^ (i + 1)` divides `v`, and
`outer` when `2 ^ inner.length` divides `v` and `v` is not that power itself
(`operatorsDue_append_singleton`). Doubling the index shifts every operator one level up,
which is how the reduction trees are built level by level (`operatorsDue_two_mul`).
-/

namespace Abacus

namespace Custom

/-! ## The lowest set bit -/

theorem bitwise_andNot_self (n : Nat) : Nat.bitwise (fun a b => a && !b) n n = 0 :=
  Nat.zero_of_testBit_eq_false fun i => by simp [Nat.testBit_bitwise]

/-- `2 ^ k * (2 * j + 1)` without the bits of its predecessor is bit `k` alone. -/
theorem bitwise_andNot_pred (k j : Nat) :
    Nat.bitwise (fun a b => a && !b) (2 ^ k * (2 * j + 1)) (2 ^ k * (2 * j + 1) - 1) =
      2 ^ k := by
  induction k with
  | zero =>
    -- `2 * j + 1` and `2 * j` differ in bit zero only
    have h := Nat.bitwise_bit (f := fun a b => a && !b) rfl true j false j
    simp only [Nat.bit_val, Bool.toNat_true, Bool.toNat_false, Nat.add_zero, Bool.not_false,
      Bool.and_self, bitwise_andNot_self] at h
    simpa using h
  | succ k ih =>
    -- the number is twice `w`, and its predecessor is odd, twice the predecessor of `w` plus one
    set w := 2 ^ k * (2 * j + 1) with hw
    have hpos : 0 < w := by positivity
    have hdouble : 2 ^ (k + 1) * (2 * j + 1) = 2 * w := by rw [hw, Nat.pow_succ]; ring
    have h := Nat.bitwise_bit (f := fun a b => a && !b) rfl false w true (w - 1)
    simp only [Nat.bit_val, Bool.toNat_true, Bool.toNat_false, Nat.add_zero, Bool.not_true,
      Bool.and_false, ih] at h
    rw [hdouble, show 2 * w - 1 = 2 * (w - 1) + 1 by omega, h, Nat.pow_succ, Nat.mul_comm]

theorem bitAnd_neg_self {n : Nat} (hn : 0 < n) :
    bitAnd n (-n) = Nat.bitwise (fun a b => a && !b) n (n - 1) := by
  -- `-(m + 1)` is `Int.negSucc m`, the complement of `m`
  obtain ⟨m, rfl⟩ : ∃ m, n = m + 1 := ⟨n - 1, by omega⟩
  rw [← Nat.succ_eq_add_one, Int.neg_ofNat_succ]
  rfl

theorem bitLength_two_pow (k : Nat) : bitLength ((2 ^ k : Nat) : Int) = k + 1 := by
  simp [bitLength, Nat.log2_two_pow]

theorem trailingZeros_two_pow_mul_odd (k j : Nat) :
    trailingZeros ((2 ^ k * (2 * j + 1) : Nat) : Int) = k := by
  rw [trailingZeros, bitAnd_neg_self (by positivity), bitwise_andNot_pred, bitLength_two_pow]
  omega

theorem padicValNat_two_pow_mul_odd (k j : Nat) : padicValNat 2 (2 ^ k * (2 * j + 1)) = k := by
  rw [padicValNat.mul (by positivity) (by omega), padicValNat.prime_pow,
    padicValNat.eq_zero_of_not_dvd (by omega), Nat.add_zero]

/-- On a positive number, `trailingZeros` is the exponent of the largest power of two
dividing it. -/
theorem trailingZeros_eq_padicValNat {v : Nat} (hv : 0 < v) : trailingZeros v = padicValNat 2 v := by
  obtain ⟨k, m, ⟨j, rfl⟩, rfl⟩ := Nat.exists_eq_two_pow_mul_odd hv.ne'
  rw [trailingZeros_two_pow_mul_odd, padicValNat_two_pow_mul_odd]

theorem trailingZeros_eq_padicValInt {v : Int} (hv : 1 ≤ v) : trailingZeros v = padicValInt 2 v := by
  obtain ⟨n, rfl⟩ := Int.eq_ofNat_of_zero_le (by omega : 0 ≤ v)
  rw [padicValInt.of_nat, trailingZeros_eq_padicValNat (by omega)]

theorem le_trailingZeros_iff {v : Nat} (hv : 0 < v) (k : Nat) :
    (k : Int) ≤ trailingZeros v ↔ 2 ^ k ∣ v := by
  rw [trailingZeros_eq_padicValNat hv, Int.ofNat_le, padicValNat_dvd_iff_le hv.ne']

/-! ## The operators due after a value -/

/-- After the `v`-th value, operator `i` of `inner` is due when `2 ^ (i + 1)` divides `v`,
and `outer` when `2 ^ inner.length` does, unless `v` is that power. -/
theorem operatorsDue_append_singleton (inner : List Op) (outer : Op) {v : Nat} (hv : 0 < v) :
    operatorsDue (inner ++ [outer]) v =
      (inner.zipIdx.filter fun (_, i) => 2 ^ (i + 1) ∣ v).map Prod.fst ++
        if 2 ^ inner.length ∣ v ∧ v ≠ 2 ^ inner.length then [outer] else [] := by
  unfold operatorsDue
  dsimp only
  rw [List.zipIdx_append, List.filter_append, List.map_append]
  simp only [List.length_append, List.length_singleton, Nat.add_sub_cancel, Nat.zero_add]
  congr 1
  · -- every operator of `inner` sits below the outermost level
    refine congrArg _ (List.filter_congr fun ⟨o, i⟩ hmem => ?_)
    have hi := (List.mem_zipIdx hmem).2.1
    simp only [Nat.zero_add] at hi
    simp only [if_pos hi, show (i : Int) + 1 = ((i + 1 : Nat) : Int) by omega,
      le_trailingZeros_iff hv]
  · rw [List.zipIdx_singleton, List.filter_cons, List.filter_nil]
    simp only [Nat.lt_irrefl, if_false, le_trailingZeros_iff hv, Nat.pow_eq]
    by_cases h : 2 ^ inner.length ∣ v ∧ v ≠ 2 ^ inner.length <;> simp [h]

/-- After the `v`-th value, for every `v ≥ 1`: the trailing zero count is the exponent of the
largest power of two dividing `v`, operator `i` of `inner` is due when `2 ^ (i + 1)` divides
`v`, and the outermost operator when `2 ^ inner.length` divides `v` and `v` is not that power. -/
theorem operatorsDue_divisibility :
    (∀ v : Int, 1 ≤ v → trailingZeros v = padicValInt 2 v) ∧
      ∀ (inner : List Op) (outer : Op) (v : Nat), 1 ≤ v →
        operatorsDue (inner ++ [outer]) v =
          (inner.zipIdx.filter fun (_, i) => 2 ^ (i + 1) ∣ v).map Prod.fst ++
            if 2 ^ inner.length ∣ v ∧ v ≠ 2 ^ inner.length then [outer] else [] :=
  ⟨fun _ hv => trailingZeros_eq_padicValInt hv,
    fun inner outer _ hv => operatorsDue_append_singleton inner outer hv⟩

/-- After the fourth value of `+*- …` the two inner operators are due, and the outermost is
not, since its left operand is still being built. -/
theorem operatorsDue_divisibility_four :
    trailingZeros 12 = padicValInt 2 12 ∧ operatorsDue [.add, .mul, .sub] 4 = [.add, .mul] := by
  obtain ⟨hzeros, hdue⟩ := operatorsDue_divisibility
  refine ⟨hzeros 12 (by decide), ?_⟩
  rw [show [Op.add, .mul, .sub] = [.add, .mul] ++ [.sub] from rfl, hdue _ _ 4 (by decide)]
  decide

/-! ## Halving the index -/

theorem two_pow_succ_dvd_two_mul_iff (k m : Nat) : 2 ^ (k + 1) ∣ 2 * m ↔ 2 ^ k ∣ m := by
  rw [Nat.pow_succ, Nat.mul_comm, Nat.mul_dvd_mul_iff_left (by decide)]

theorem not_two_pow_succ_dvd_odd (k m : Nat) : ¬ 2 ^ (k + 1) ∣ 2 * m + 1 := fun h => by
  have : 2 ∣ 2 * m + 1 := Nat.dvd_trans (dvd_pow_self 2 k.succ_ne_zero) h
  omega

theorem operatorsDue_single (o : Op) {seen : Nat} (hs : 0 < seen) :
    operatorsDue [o] seen = if seen = 1 then [] else [o] := by
  have h := operatorsDue_append_singleton [] o hs
  simp only [List.nil_append, List.zipIdx_nil, List.filter_nil, List.map_nil, List.length_nil,
    Nat.pow_zero, Nat.one_dvd, true_and] at h
  rw [h]
  by_cases h1 : seen = 1 <;> simp [h1]

theorem operatorsDue_two_mul (o : Op) {ops : List Op} (hops : ops ≠ []) {m : Nat} (hm : 0 < m) :
    operatorsDue (o :: ops) (2 * m) = o :: operatorsDue ops m := by
  rw [← List.dropLast_append_getLast hops, ← List.cons_append,
    operatorsDue_append_singleton _ _ (by omega), operatorsDue_append_singleton _ _ hm]
  -- operator `i + 1` of `o :: inner` is operator `i` of `inner`, one level up
  have hdouble : ∀ k, 2 * m = 2 ^ (k + 1) ↔ m = 2 ^ k := fun k => by rw [Nat.pow_succ]; omega
  simp [List.zipIdx_succ, List.filter_map, Function.comp_def, two_pow_succ_dvd_two_mul_iff,
    hdouble]

theorem operatorsDue_two_mul_add_one (o : Op) {ops : List Op} (hops : ops ≠ []) (m : Nat) :
    operatorsDue (o :: ops) (2 * m + 1) = [] := by
  -- an odd index is divisible by no power of two but the first
  rw [← List.dropLast_append_getLast hops, ← List.cons_append,
    operatorsDue_append_singleton _ _ (by omega)]
  simp [not_two_pow_succ_dvd_odd]

end Custom

end Abacus
