import Mathlib.Data.Nat.BitIndices
import Abacus.Proofs.Schedule
import Abacus.Proofs.Forest

/-!
# The reduction trees of custom notation

In custom notation the operators `inner ++ [outer]` come first and the values after them;
any other input is rejected at its first token out of place, or at its end when operators
or values are missing (`expand_ok_form`). The expansion into postfix puts operator `i` after every `2 ^ (i + 1)`-th value, a binary
counter driven by trailing zero bits. So the first operator combines neighbouring values,
the next neighbouring results, and so on (`levels`): each full block of
`2 ^ inner.length` values becomes one perfect tree, and `outer` folds the block trees from
the left. Values after the last full block are not rejected: they stay as one perfect tree
per binary digit of their count, highest first (`shape`).

The proof halves: with `o :: ops`, every second value is followed by `o` and the operators
due at half its index, so the expansion of values is the expansion of their pairs under
`ops` (`emit_halve`, `shape_halve`). Read as postfix, the expansion is the postfix tokens
of the trees of `shape`, so it never runs short of operands, and it has a value exactly
when these are one tree with a value (`toPostfix_custom`).
-/

namespace Abacus

namespace Op

theorem apply_ne_missingOperands (o : Op) (a b : Decimal) (o' : Op) :
    o.apply a b ≠ .error (.missingOperands o') := by
  cases o <;> simp only [apply] <;> split <;> simp

end Op

namespace Expr

def leaves : Expr → List Decimal
  | .lit x => [x]
  | .node _ l r => l.leaves ++ r.leaves

/-- `t` is a perfect tree of height `ops.length` whose nodes at height `i + 1` carry
operator `i` of `ops`. -/
def Perfect (ops : List Op) : Expr → Prop
  | .lit _ => ops = []
  | .node o l r => ops.getLast? = some o ∧ Perfect ops.dropLast l ∧ Perfect ops.dropLast r

theorem perfect_node_iff {ops : List Op} {o : Op} {l r : Expr} :
    (Expr.node o l r).Perfect (ops ++ [o]) ↔ l.Perfect ops ∧ r.Perfect ops := by
  simp [Perfect]

theorem perfect_of_mem_map_lit {xs : List Decimal} : ∀ e ∈ xs.map lit, e.Perfect [] := by
  simp [Perfect]

theorem eval_ne_missingOperands (t : Expr) (o : Op) : t.eval ≠ .error (.missingOperands o) := by
  induction t with
  | lit x => simp [eval, evalWith]
  | node o' l r ihl ihr =>
    simp only [eval, evalWith] at ihl ihr ⊢
    cases hl : l.evalWith Op.apply with
    | error e => rw [hl] at ihl; simpa using ihl
    | ok a =>
      cases hr : r.evalWith Op.apply with
      | error e => rw [hr] at ihr; simpa using ihr
      | ok b => exact Op.apply_ne_missingOperands o' a b o

end Expr

namespace Custom

/-! ## The expansion -/

def emit (ops : List Op) : Nat → List Expr → List Token
  | _, [] => []
  | seen, e :: es => e.postorder ++ (operatorsDue ops (seen + 1)).map .op ++ emit ops (seen + 1) es

theorem expand_ops (ops acc : List Op) (rest out : List Token) :
    expand (ops.map .op ++ rest) acc 0 out = expand rest (acc ++ ops) 0 out := by
  induction ops generalizing acc with
  | nil => simp
  | cons o ops ih =>
    simp only [List.map_cons, List.cons_append, expand, if_true, ih, List.append_assoc,
      List.nil_append]

theorem expand_values {ops : List Op} (hops : ops ≠ []) (xs : List Decimal) (rest : List Token)
    (seen : Nat) (out : List Token) :
    expand (xs.map .num ++ rest) ops seen out =
      expand rest ops (seen + xs.length) ((emit ops seen (xs.map .lit)).reverse ++ out) := by
  induction xs generalizing seen out with
  | nil => simp [emit]
  | cons x xs ih =>
    have hne : ops.isEmpty = false := List.isEmpty_eq_false_iff.mpr hops
    simp only [List.map_cons, List.cons_append, expand, hne, Bool.false_eq_true, if_false]
    rw [ih]
    simp [emit, Expr.postorder, Nat.add_assoc, Nat.add_comm 1]

theorem toPostfix_ops_values {ops : List Op} (hops : ops ≠ []) {xs : List Decimal}
    (hxs : xs ≠ []) : toPostfix (ops.map .op ++ xs.map .num) = .ok (emit ops 0 (xs.map .lit)) := by
  have h := expand_values hops xs [] 0 []
  rw [List.append_nil] at h
  have hne : ops.isEmpty = false := List.isEmpty_eq_false_iff.mpr hops
  have hlen : xs.length ≠ 0 := by simpa using hxs
  rw [toPostfix, expand_ops, List.nil_append, h]
  simp [expand, hne, hlen]

/-! ## The form of the input -/

theorem expand_ok_form {ts : List Token} {acc : List Op} {seen : Nat} {out r : List Token}
    (h : expand ts acc seen out = .ok r) :
    ∃ (ops : List Op) (xs : List Decimal), ts = ops.map .op ++ xs.map .num ∧ (seen ≠ 0 → ops = []) ∧
      acc ++ ops ≠ [] ∧ seen + xs.length ≠ 0 := by
  induction ts generalizing acc seen out with
  | nil =>
    simp only [expand] at h
    split at h
    · cases h
    · rename_i hacc
      split at h
      · cases h
      · rename_i hseen
        exact ⟨[], [], rfl, fun _ => rfl, by simpa using hacc, hseen⟩
  | cons t rest ih =>
    cases t with
    | op o =>
      simp only [expand] at h
      split at h
      · rename_i hseen
        obtain ⟨ops, xs, rfl, -, -, hxs⟩ := ih h
        exact ⟨o :: ops, xs, rfl, fun hs => absurd hseen hs, by simp, hxs⟩
      · cases h
    | num x =>
      simp only [expand] at h
      split at h
      · cases h
      · obtain ⟨ops, xs, rfl, hops, hacc, -⟩ := ih h
        obtain rfl := hops (Nat.succ_ne_zero seen)
        exact ⟨[], x :: xs, by simp, fun _ => rfl, hacc, by simp⟩
    | lparen => cases h
    | rparen => cases h

theorem toPostfix_ok_iff {ts : List Token} :
    (∃ out, toPostfix ts = .ok out) ↔
      ∃ (ops : List Op) (xs : List Decimal), ops ≠ [] ∧ xs ≠ [] ∧ ts = ops.map .op ++ xs.map .num := by
  constructor
  · rintro ⟨out, h⟩
    obtain ⟨ops, xs, rfl, -, hops, hxs⟩ := expand_ok_form h
    exact ⟨ops, xs, by simpa using hops, by simpa using hxs, rfl⟩
  · rintro ⟨ops, xs, hops, hxs, rfl⟩
    exact ⟨_, toPostfix_ops_values hops hxs⟩

theorem toPostfix_ops_only {ops : List Op} (hops : ops ≠ []) :
    toPostfix (ops.map .op) = .error .noValue := by
  have hne : ops.isEmpty = false := List.isEmpty_eq_false_iff.mpr hops
  rw [toPostfix, ← List.append_nil (ops.map Token.op), expand_ops, List.nil_append]
  simp [expand, hne]

theorem toPostfix_op_after_values {ops : List Op} (hops : ops ≠ []) {xs : List Decimal}
    (hxs : xs ≠ []) (o : Op) (rest : List Token) :
    toPostfix (ops.map .op ++ xs.map .num ++ .op o :: rest) = .error (.operatorAfterValue o) := by
  have hlen : xs.length ≠ 0 := by simpa using hxs
  rw [toPostfix, List.append_assoc, expand_ops, List.nil_append, expand_values hops]
  simp [expand, hlen]

theorem toPostfix_paren {t : Token} (ht : t = .lparen ∨ t = .rparen) {ops : List Op}
    {xs : List Decimal} (h : ops ≠ [] ∨ xs = []) (rest : List Token) :
    toPostfix (ops.map .op ++ xs.map .num ++ t :: rest) = .error .parenInCustom := by
  rw [toPostfix, List.append_assoc, expand_ops, List.nil_append]
  rcases h with hops | rfl
  · rw [expand_values hops]
    rcases ht with rfl | rfl <;> rfl
  · rcases ht with rfl | rfl <;> rfl

/-! ## Halving -/

/- The lists where `pairs`, `unpaired` and `pairUp` stop: fewer than two trees. -/
theorem eq_nil_or_singleton {es : List Expr} (hes : ∀ a b rest, es = a :: b :: rest → False) :
    es = [] ∨ ∃ a, es = [a] := by
  rcases es with _ | ⟨a, _ | ⟨b, rest⟩⟩
  · exact .inl rfl
  · exact .inr ⟨a, rfl⟩
  · exact absurd rfl (hes a b rest)

def pairs (o : Op) : List Expr → List Expr
  | a :: b :: rest => .node o a b :: pairs o rest
  | _ => []

def unpaired : List Expr → List Expr
  | _ :: _ :: rest => unpaired rest
  | es => es

theorem emit_halve (o : Op) {ops : List Op} (hops : ops ≠ []) (s : Nat) (es : List Expr) :
    emit (o :: ops) (2 * s) es = emit ops s (pairs o es) ++ Expr.postorderAll (unpaired es) := by
  fun_induction pairs o es generalizing s with
  | case1 a b rest ih =>
    -- nothing is due after `a`, the odd value, and after `b` first `o`, then what `ops` has
    -- due at half the index
    have hodd := operatorsDue_two_mul_add_one o hops s
    have heven : operatorsDue (o :: ops) (2 * s + 1 + 1) = o :: operatorsDue ops (s + 1) := by
      rw [show 2 * s + 1 + 1 = 2 * (s + 1) by omega]
      exact operatorsDue_two_mul o hops (by omega)
    rw [emit, emit, hodd, heven, show 2 * s + 1 + 1 = 2 * (s + 1) by omega, ih]
    simp [emit, unpaired, Expr.postorder]
  | case2 es hes =>
    rcases eq_nil_or_singleton hes with rfl | ⟨a, rfl⟩
    · rfl
    · simp [emit, unpaired, operatorsDue_two_mul_add_one o hops s]

theorem postorder_foldl_node (o : Op) (b : Expr) (bs : List Expr) :
    (bs.foldl (.node o) b).postorder = b.postorder ++ bs.flatMap fun e => e.postorder ++ [.op o] := by
  induction bs generalizing b with
  | nil => simp
  | cons e bs ih => simp [ih, Expr.postorder]

theorem emit_single_succ (o : Op) (s : Nat) (es : List Expr) :
    emit [o] (s + 1) es = es.flatMap fun e => e.postorder ++ [.op o] := by
  induction es generalizing s with
  | nil => rfl
  | cons e es ih => simp [emit, operatorsDue_single, ih]

/-! ## The trees -/

def pairUp (o : Op) : List Expr → List Expr
  | a :: b :: rest => .node o a b :: pairUp o rest
  | es => es

/-- The trees combined level by level, with the operators `ops` from the leaves up. Over
`2 ^ ops.length` values this is the perfect tree whose nodes at height `i + 1` are made with
operator `i`. -/
def levels (ops : List Op) (es : List Expr) : List Expr := ops.foldl (fun es o => pairUp o es) es

def blockTrees (inner : List Op) (es : List Expr) : List Expr :=
  (List.range (es.length / Nat.pow 2 inner.length)).flatMap fun i =>
    levels inner ((es.drop (i * Nat.pow 2 inner.length)).take (Nat.pow 2 inner.length))

def foldBlocks (outer : Op) : List Expr → List Expr
  | [] => []
  | b :: bs => [bs.foldl (.node outer) b]

def digitTrees (ops : List Op) : List Nat → List Expr → List Expr
  | [], _ => []
  | d :: ds, es =>
    levels (ops.take d) (es.take (Nat.pow 2 d)) ++ digitTrees ops ds (es.drop (Nat.pow 2 d))

/-- What custom notation with the operators `inner ++ [outer]` builds over the values `es`:
the trees of the full blocks of `2 ^ inner.length` values folded from the left by `outer`,
then, over the values after the last full block, one perfect tree for each binary digit of
their count, the highest first. -/
def shape (inner : List Op) (outer : Op) (es : List Expr) : List Expr :=
  foldBlocks outer (blockTrees inner es) ++
    digitTrees inner (es.length % Nat.pow 2 inner.length).bitIndices.reverse
      (es.drop (es.length / Nat.pow 2 inner.length * Nat.pow 2 inner.length))

/-! ## Pairs -/

@[simp] theorem length_pairs (o : Op) (es : List Expr) : (pairs o es).length = es.length / 2 := by
  fun_induction pairs o es with
  | case1 a b rest ih => simp [ih]; omega
  | case2 es hes =>
    rcases eq_nil_or_singleton hes with rfl | ⟨a, rfl⟩
    · rfl
    · simp

theorem pairs_take (o : Op) (es : List Expr) (m : Nat) :
    pairs o (es.take (2 * m)) = (pairs o es).take m := by
  induction m generalizing es with
  | zero => simp [pairs]
  | succ m ih =>
    rcases es with _ | ⟨a, _ | ⟨b, rest⟩⟩
    · simp [pairs]
    · simp [pairs, show 2 * (m + 1) = 2 * m + 1 + 1 by omega]
    · rw [show 2 * (m + 1) = 2 * m + 1 + 1 by omega]
      simp [pairs, ih]

theorem pairs_drop (o : Op) (es : List Expr) (m : Nat) :
    pairs o (es.drop (2 * m)) = (pairs o es).drop m := by
  induction m generalizing es with
  | zero => simp
  | succ m ih =>
    rcases es with _ | ⟨a, _ | ⟨b, rest⟩⟩
    · simp [pairs]
    · simp [pairs, show 2 * (m + 1) = 2 * m + 1 + 1 by omega]
    · rw [show 2 * (m + 1) = 2 * m + 1 + 1 by omega]
      simp [pairs, ih]

theorem unpaired_eq_drop (es : List Expr) : unpaired es = es.drop (2 * (es.length / 2)) := by
  fun_induction unpaired es with
  | case1 a b rest ih =>
    rw [ih, List.length_cons, List.length_cons, show (rest.length + 1 + 1) / 2 = rest.length / 2 + 1 by omega,
      show 2 * (rest.length / 2 + 1) = 2 * (rest.length / 2) + 1 + 1 by omega]
    simp
  | case2 es hes =>
    rcases eq_nil_or_singleton hes with rfl | ⟨a, rfl⟩
    · rfl
    · simp

theorem pairUp_eq (o : Op) (es : List Expr) : pairUp o es = pairs o es ++ unpaired es := by
  fun_induction pairUp o es with
  | case1 a b rest ih => simp [pairs, unpaired, ih]
  | case2 es hes =>
    rcases eq_nil_or_singleton hes with rfl | ⟨a, rfl⟩
    · rfl
    · rfl

theorem pairUp_eq_pairs {o : Op} {es : List Expr} (h : es.length % 2 = 0) :
    pairUp o es = pairs o es := by
  rw [pairUp_eq, unpaired_eq_drop, List.drop_eq_nil_of_le (by omega), List.append_nil]

@[simp] theorem length_pairUp (o : Op) (es : List Expr) :
    (pairUp o es).length = (es.length + 1) / 2 := by
  rw [pairUp_eq, List.length_append, length_pairs, unpaired_eq_drop, List.length_drop]
  omega

theorem pairUp_append {o : Op} {xs : List Expr} (h : xs.length % 2 = 0) (ys : List Expr) :
    pairUp o (xs ++ ys) = pairUp o xs ++ pairUp o ys := by
  fun_induction pairUp o xs with
  | case1 a b rest ih =>
    simp only [List.cons_append, pairUp, List.cons.injEq, true_and]
    exact ih (by simp at h; omega)
  | case2 es hes =>
    rcases eq_nil_or_singleton hes with rfl | ⟨a, rfl⟩
    · rfl
    · simp at h

/-! ## Levels -/

@[simp] theorem levels_nil (es : List Expr) : levels [] es = es := rfl

@[simp] theorem levels_cons (o : Op) (ops : List Op) (es : List Expr) :
    levels (o :: ops) es = levels ops (pairUp o es) := rfl

theorem levels_empty (ops : List Op) : levels ops [] = [] := by
  induction ops with
  | nil => rfl
  | cons o ops ih => simpa [pairUp] using ih

-- A multiple of the size of a tree one level taller is even, and its half is a multiple of
-- the size of the tree.
theorem dvd_levels_cons {o : Op} {ops : List Op} {n : Nat} (h : 2 ^ (o :: ops).length ∣ n) :
    n % 2 = 0 ∧ 2 ^ ops.length ∣ n / 2 := by
  obtain ⟨c, hc⟩ := h
  have hn : n = 2 * (2 ^ ops.length * c) := by
    rw [hc, List.length_cons, Nat.pow_succ, Nat.mul_comm (2 ^ ops.length) 2, Nat.mul_assoc]
  exact ⟨by omega, ⟨c, by omega⟩⟩

theorem levels_append {ops : List Op} {xs : List Expr} (h : 2 ^ ops.length ∣ xs.length)
    (ys : List Expr) : levels ops (xs ++ ys) = levels ops xs ++ levels ops ys := by
  induction ops generalizing xs ys with
  | nil => rfl
  | cons o ops ih =>
    obtain ⟨heven, hhalf⟩ := dvd_levels_cons h
    rw [levels_cons, pairUp_append heven, ih, levels_cons, levels_cons]
    rwa [length_pairUp, show (xs.length + 1) / 2 = xs.length / 2 by omega]

theorem length_levels {ops : List Op} {es : List Expr} {k : Nat}
    (h : es.length = k * 2 ^ ops.length) : (levels ops es).length = k := by
  induction ops generalizing es with
  | nil => simpa using h
  | cons o ops ih =>
    rw [levels_cons]
    refine ih ?_
    rw [length_pairUp, h, List.length_cons, Nat.pow_succ, ← Nat.mul_assoc]
    omega

/-! ## Blocks and binary digits -/

theorem flatMap_levels_blocks (inner : List Op) (es : List Expr) {k : Nat}
    (hk : k * 2 ^ inner.length ≤ es.length) :
    (List.range k).flatMap (fun i =>
        levels inner ((es.drop (i * 2 ^ inner.length)).take (2 ^ inner.length))) =
      levels inner (es.take (k * 2 ^ inner.length)) := by
  induction k with
  | zero => simp [levels_empty]
  | succ k ih =>
    have hk' : k * 2 ^ inner.length ≤ es.length :=
      Nat.le_trans (Nat.mul_le_mul_right _ (Nat.le_succ k)) hk
    have hdvd : 2 ^ inner.length ∣ (es.take (k * 2 ^ inner.length)).length := by
      rw [List.length_take, Nat.min_eq_left hk']
      exact Dvd.intro_left k rfl
    rw [List.range_succ, List.flatMap_append, ih hk', Nat.succ_mul, List.take_add,
      levels_append hdvd]
    simp

theorem blockTrees_eq (inner : List Op) (es : List Expr) :
    blockTrees inner es =
      levels inner (es.take (es.length / 2 ^ inner.length * 2 ^ inner.length)) := by
  simp only [blockTrees, Nat.pow_eq]
  exact flatMap_levels_blocks inner es (Nat.div_mul_le_self _ _)

theorem length_blockTrees (inner : List Op) (es : List Expr) :
    (blockTrees inner es).length = es.length / 2 ^ inner.length := by
  rw [blockTrees_eq]
  refine length_levels ?_
  rw [List.length_take, Nat.min_eq_left (Nat.div_mul_le_self _ _)]

@[simp] theorem digitTrees_nil (ops : List Op) (es : List Expr) : digitTrees ops [] es = [] := rfl

theorem digitTrees_cons (ops : List Op) (d : Nat) (ds : List Nat) (es : List Expr) :
    digitTrees ops (d :: ds) es =
      levels (ops.take d) (es.take (2 ^ d)) ++ digitTrees ops ds (es.drop (2 ^ d)) := rfl

theorem digitTrees_append (ops : List Op) (ds ds' : List Nat) (es : List Expr) :
    digitTrees ops (ds ++ ds') es =
      digitTrees ops ds es ++ digitTrees ops ds' (es.drop (ds.map (2 ^ ·)).sum) := by
  induction ds generalizing es with
  | nil => simp
  | cons d ds ih => simp [digitTrees_cons, ih, List.drop_drop]

theorem digitTrees_halve (o : Op) (ops : List Op) (ds : List Nat) (es : List Expr)
    (h : 2 * (ds.map (2 ^ ·)).sum ≤ es.length) :
    digitTrees (o :: ops) (ds.map (· + 1)) es = digitTrees ops ds (pairs o es) := by
  induction ds generalizing es with
  | nil => rfl
  | cons d ds ih =>
    simp only [List.map_cons, List.sum_cons] at h ⊢
    have htake : (es.take (2 * 2 ^ d)).length % 2 = 0 := by
      rw [List.length_take, Nat.min_eq_left (by omega)]
      omega
    rw [digitTrees_cons, digitTrees_cons, List.take_succ_cons, levels_cons, Nat.pow_succ',
      pairUp_eq_pairs htake, pairs_take, ih _ (by rw [List.length_drop]; omega), pairs_drop]

theorem bitIndices_reverse (n : Nat) :
    n.bitIndices.reverse = (n / 2).bitIndices.reverse.map (· + 1) ++ (if n % 2 = 0 then [] else [0]) := by
  obtain ⟨m, rfl | rfl⟩ : ∃ m, n = 2 * m ∨ n = 2 * m + 1 := ⟨n / 2, by omega⟩
  · rw [Nat.bitIndices_two_mul, List.map_reverse]
    simp
  · rw [Nat.bitIndices_two_mul_add_one, List.reverse_cons, List.map_reverse]
    simp [show (2 * m + 1) / 2 = m by omega, show (2 * m + 1) % 2 = 1 by omega]

theorem sum_bitIndices_reverse (n : Nat) :
    (n.bitIndices.reverse.map (2 ^ ·)).sum = n := by
  rw [List.map_reverse, List.sum_reverse, Nat.sum_map_two_pow_bitIndices]

theorem sum_map_two_pow_succ (ds : List Nat) :
    ((ds.map (· + 1)).map (2 ^ ·)).sum = 2 * (ds.map (2 ^ ·)).sum := by
  induction ds with
  | nil => rfl
  | cons d ds ih => simp only [List.map_cons, List.sum_cons, ih, Nat.pow_succ']; omega

/-! ## The trees by halving -/

theorem shape_single (outer : Op) (es : List Expr) : shape [] outer es = foldBlocks outer es := by
  simp [shape, blockTrees_eq, Nat.pow_eq, Nat.mod_one]

theorem shape_halve (o : Op) (inner : List Op) (outer : Op) (es : List Expr) :
    shape (o :: inner) outer es = shape inner outer (pairs o es) ++ unpaired es := by
  -- the counts of values and of pairs, through the block size `b` of `inner`
  have hB : 2 ^ (o :: inner).length = 2 * 2 ^ inner.length := by
    rw [List.length_cons, Nat.pow_succ']
  have hq : es.length / (2 * 2 ^ inner.length) = es.length / 2 / 2 ^ inner.length :=
    (Nat.div_div_eq_div_mul _ _ _).symm
  have hr : es.length % (2 * 2 ^ inner.length) =
      es.length % 2 + 2 * (es.length / 2 % 2 ^ inner.length) := Nat.mod_mul
  have hfull : es.length / (2 * 2 ^ inner.length) * (2 * 2 ^ inner.length) =
      2 * (es.length / 2 / 2 ^ inner.length * 2 ^ inner.length) := by
    rw [hq, Nat.mul_left_comm]
  have hsplit := Nat.div_add_mod' (es.length / 2) (2 ^ inner.length)
  have hle : es.length / 2 / 2 ^ inner.length * 2 ^ inner.length ≤ es.length / 2 :=
    Nat.div_mul_le_self _ _
  -- the full blocks: combining a block level by level starts by pairing its values
  have hblocks : blockTrees (o :: inner) es = blockTrees inner (pairs o es) := by
    have heven : (es.take (2 * (es.length / 2 / 2 ^ inner.length * 2 ^ inner.length))).length % 2
        = 0 := by
      rw [List.length_take, Nat.min_eq_left (by omega)]
      omega
    rw [blockTrees_eq, blockTrees_eq, hB, hfull, levels_cons, pairUp_eq_pairs heven, pairs_take,
      length_pairs]
  -- the values after them: their binary digits are those of their pairs one place up
  have hdigits := bitIndices_reverse (es.length % (2 * 2 ^ inner.length))
  rw [show es.length % (2 * 2 ^ inner.length) / 2 = es.length / 2 % 2 ^ inner.length by omega,
    show es.length % (2 * 2 ^ inner.length) % 2 = es.length % 2 by omega] at hdigits
  have hsum := sum_bitIndices_reverse (es.length / 2 % 2 ^ inner.length)
  simp only [shape, Nat.pow_eq]
  rw [hblocks, hB, hdigits, hfull, digitTrees_append, digitTrees_halve _ _ _ _ (by
      rw [hsum, List.length_drop]; omega), pairs_drop, sum_map_two_pow_succ, hsum, length_pairs,
    List.append_assoc, unpaired_eq_drop]
  congr 2
  split
  · exact (List.drop_eq_nil_of_le (by omega)).symm
  · rw [List.drop_drop, show 2 * (es.length / 2 / 2 ^ inner.length * 2 ^ inner.length) +
      2 * (es.length / 2 % 2 ^ inner.length) = 2 * (es.length / 2) by omega]
    simp only [digitTrees_cons, List.take_zero, levels_nil, digitTrees_nil, List.append_nil]
    exact List.take_of_length_le (by rw [List.length_drop]; omega)

theorem emit_eq_shape (inner : List Op) (outer : Op) (es : List Expr) :
    emit (inner ++ [outer]) 0 es = Expr.postorderAll (shape inner outer es) := by
  induction inner generalizing es with
  | nil =>
    rw [shape_single]
    rcases es with _ | ⟨b, bs⟩
    · rfl
    · simp [emit, operatorsDue_single, emit_single_succ, foldBlocks, postorder_foldl_node]
  | cons o inner ih =>
    rw [List.cons_append, ← Nat.mul_zero 2, emit_halve o (by simp), ih, shape_halve]
    simp

/-! ## The trees are perfect -/

theorem mem_pairs {o : Op} {es : List Expr} :
    ∀ t ∈ pairs o es, ∃ l ∈ es, ∃ r ∈ es, t = .node o l r := by
  fun_induction pairs o es with
  | case1 a b rest ih =>
    intro t ht
    rcases List.mem_cons.mp ht with rfl | ht
    · exact ⟨a, by simp, b, by simp, rfl⟩
    · obtain ⟨l, hl, r, hr, rfl⟩ := ih t ht
      exact ⟨l, by simp [hl], r, by simp [hr], rfl⟩
  | case2 es hes =>
    rcases eq_nil_or_singleton hes with rfl | ⟨a, rfl⟩
    · simp
    · simp

theorem perfect_of_mem_levels {pre ops : List Op} {es : List Expr}
    (hes : ∀ e ∈ es, e.Perfect pre) (hdvd : 2 ^ ops.length ∣ es.length) :
    ∀ t ∈ levels ops es, t.Perfect (pre ++ ops) := by
  induction ops generalizing pre es with
  | nil => simpa using hes
  | cons o ops ih =>
    obtain ⟨heven, hhalf⟩ := dvd_levels_cons hdvd
    -- the first level pairs the trees, which puts each pair one level up
    have hpairs : ∀ t ∈ pairs o es, t.Perfect (pre ++ [o]) := by
      intro t ht
      obtain ⟨l, hl, r, hr, rfl⟩ := mem_pairs t ht
      exact Expr.perfect_node_iff.mpr ⟨hes l hl, hes r hr⟩
    rw [levels_cons, pairUp_eq_pairs heven, List.append_cons]
    exact ih hpairs (by rwa [length_pairs])

theorem perfect_of_mem_blockTrees (inner : List Op) {es : List Expr}
    (hes : ∀ e ∈ es, e.Perfect []) : ∀ t ∈ blockTrees inner es, t.Perfect inner := by
  rw [blockTrees_eq]
  intro t ht
  have hdvd : 2 ^ inner.length ∣ (es.take (es.length / 2 ^ inner.length * 2 ^ inner.length)).length := by
    rw [List.length_take, Nat.min_eq_left (Nat.div_mul_le_self _ _)]
    exact Dvd.intro_left _ rfl
  simpa using perfect_of_mem_levels (fun e he => hes e (List.mem_of_mem_take he)) hdvd t ht

theorem forall₂_perfect_digitTrees (ops : List Op) (ds : List Nat) {es : List Expr}
    (hds : ∀ d ∈ ds, d ≤ ops.length) (hes : ∀ e ∈ es, e.Perfect [])
    (hlen : (ds.map (2 ^ ·)).sum ≤ es.length) :
    List.Forall₂ (fun d t => t.Perfect (ops.take d)) ds (digitTrees ops ds es) := by
  induction ds generalizing es with
  | nil => exact List.Forall₂.nil
  | cons d ds ih =>
    simp only [List.map_cons, List.sum_cons] at hlen
    -- the run of `2 ^ d` values makes one tree
    have hrun : (es.take (2 ^ d)).length = 1 * 2 ^ (ops.take d).length := by
      rw [List.length_take, List.length_take, Nat.min_eq_left (hds d (by simp)),
        Nat.min_eq_left (by omega), Nat.one_mul]
    obtain ⟨t, ht⟩ := List.length_eq_one_iff.mp (length_levels hrun)
    have hdvd : 2 ^ (ops.take d).length ∣ (es.take (2 ^ d)).length := ⟨1, by rw [hrun]; simp⟩
    have hperf := perfect_of_mem_levels (fun e he => hes e (List.mem_of_mem_take he)) hdvd t
      (by simp [ht])
    rw [List.nil_append] at hperf
    rw [digitTrees_cons, ht, List.singleton_append]
    exact .cons hperf (ih (fun d' hd' => hds d' (by simp [hd']))
      (fun e he => hes e (List.mem_of_mem_drop he)) (by rw [List.length_drop]; omega))

/-! ## The trees hold the values in order -/

theorem flatMap_leaves_pairUp (o : Op) (es : List Expr) :
    (pairUp o es).flatMap Expr.leaves = es.flatMap Expr.leaves := by
  fun_induction pairUp o es with
  | case1 a b rest ih => simp [Expr.leaves, ih]
  | case2 es hes =>
    rcases eq_nil_or_singleton hes with rfl | ⟨a, rfl⟩
    · rfl
    · rfl

theorem flatMap_leaves_levels (ops : List Op) (es : List Expr) :
    (levels ops es).flatMap Expr.leaves = es.flatMap Expr.leaves := by
  induction ops generalizing es with
  | nil => rfl
  | cons o ops ih => rw [levels_cons, ih, flatMap_leaves_pairUp]

theorem flatMap_leaves_digitTrees (ops : List Op) (ds : List Nat) (es : List Expr) :
    (digitTrees ops ds es).flatMap Expr.leaves =
      (es.take (ds.map (2 ^ ·)).sum).flatMap Expr.leaves := by
  induction ds generalizing es with
  | nil => simp
  | cons d ds ih =>
    rw [digitTrees_cons, List.flatMap_append, flatMap_leaves_levels, ih, List.map_cons,
      List.sum_cons, List.take_add, List.flatMap_append]

theorem flatMap_leaves_lit (xs : List Decimal) : (xs.map Expr.lit).flatMap Expr.leaves = xs := by
  induction xs with
  | nil => rfl
  | cons x xs ih => simp [Expr.leaves, ih]

/-! ## Counting the trees -/

theorem length_foldBlocks (outer : Op) (bs : List Expr) :
    (foldBlocks outer bs).length = if bs.length = 0 then 0 else 1 := by
  cases bs <;> simp [foldBlocks]

theorem length_bitIndices_eq_zero_iff {n : Nat} : n.bitIndices.length = 0 ↔ n = 0 := by
  constructor
  · intro h
    rw [← Nat.sum_map_two_pow_bitIndices n, List.length_eq_zero_iff.mp h]
    rfl
  · rintro rfl
    rfl

theorem length_bitIndices_eq_one_iff {n : Nat} : n.bitIndices.length = 1 ↔ ∃ j, n = 2 ^ j := by
  constructor
  · intro h
    obtain ⟨j, hj⟩ := List.length_eq_one_iff.mp h
    exact ⟨j, by rw [← Nat.sum_map_two_pow_bitIndices n, hj]; simp⟩
  · rintro ⟨j, rfl⟩
    simp

theorem count_eq_one_iff {k r : Nat} (h : k ≠ 0 ∨ r ≠ 0) :
    (if k = 0 then 0 else 1) + r.bitIndices.length = 1 ↔ r = 0 ∨ (k = 0 ∧ ∃ j, r = 2 ^ j) := by
  by_cases hk : k = 0
  · have hr : r ≠ 0 := by omega
    simp only [hk, if_true, Nat.zero_add, length_bitIndices_eq_one_iff, true_and]
    simp [hr]
  · simp only [hk, if_false, false_and, or_false]
    rw [← length_bitIndices_eq_zero_iff]
    omega

/-! ## Evaluating the trees -/

theorem mapM_eval_ne_missingOperands (fs : List Expr) (o : Op) :
    fs.mapM Expr.eval ≠ .error (.missingOperands o) := by
  induction fs with
  | nil => simp [pure, Except.pure]
  | cons t fs ih =>
    rw [Postfix.mapM_cons]
    cases ht : t.eval with
    | error e => simpa [ht] using t.eval_ne_missingOperands o
    | ok v =>
      cases hfs : fs.mapM Expr.eval with
      | error e => rw [hfs] at ih; simpa [Except.map] using ih
      | ok vs => simp [Except.map]

theorem eval_postorderAll (fs : List Expr) :
    Postfix.eval (Expr.postorderAll fs) =
      match fs.mapM Expr.eval with
      | .ok [v] => .ok v
      | .ok _ => .error (.leftover fs.length)
      | .error e => .error e := by
  have he : Expr.evalWith Op.apply = Expr.eval := rfl
  rw [Postfix.eval, Postfix.evalWith_postorderAll, he]
  cases hm : fs.mapM Expr.eval with
  | error e => rfl
  | ok vs =>
    have hlen := Postfix.length_of_mapM_ok hm
    rcases vs with _ | ⟨v, _ | ⟨w, vs⟩⟩
    · rw [← hlen]
    · rfl
    · rw [← hlen]

theorem eval_postorderAll_ne_missingOperands (fs : List Expr) (o : Op) :
    Postfix.eval (Expr.postorderAll fs) ≠ .error (.missingOperands o) := by
  have hne := mapM_eval_ne_missingOperands fs o
  rw [eval_postorderAll]
  cases hm : fs.mapM Expr.eval with
  | error e => rw [hm] at hne; simpa using hne
  | ok vs => rcases vs with _ | ⟨v, _ | ⟨w, vs⟩⟩ <;> simp

theorem eval_postorderAll_ok_iff (fs : List Expr) :
    (∃ v, Postfix.eval (Expr.postorderAll fs) = .ok v) ↔
      (∃ vs, fs.mapM Expr.eval = .ok vs) ∧ fs.length = 1 := by
  rw [eval_postorderAll]
  cases hm : fs.mapM Expr.eval with
  | error e => simp
  | ok vs =>
    have hlen := Postfix.length_of_mapM_ok hm
    rcases vs with _ | ⟨v, _ | ⟨w, vs⟩⟩ <;> simp at hlen ⊢ <;> omega

/-! ## Custom notation builds the trees -/

theorem toPostfix_eq_shape (inner : List Op) (outer : Op) {xs : List Decimal} (hxs : xs ≠ []) :
    toPostfix ((inner ++ [outer]).map .op ++ xs.map .num) =
      .ok (Expr.postorderAll (shape inner outer (xs.map .lit))) := by
  rw [toPostfix_ops_values (by simp) hxs, emit_eq_shape]

theorem shape_eq (inner : List Op) (outer : Op) (es : List Expr) :
    shape inner outer es = foldBlocks outer (blockTrees inner es) ++
      digitTrees inner (es.length % 2 ^ inner.length).bitIndices.reverse
        (es.drop (es.length / 2 ^ inner.length * 2 ^ inner.length)) := by
  simp only [shape, Nat.pow_eq]

theorem blockTrees_values (inner : List Op) (xs : List Decimal) :
    (blockTrees inner (xs.map .lit)).length = xs.length / 2 ^ inner.length ∧
      (∀ t ∈ blockTrees inner (xs.map .lit), t.Perfect inner) ∧
      (blockTrees inner (xs.map .lit)).flatMap Expr.leaves =
        xs.take (xs.length / 2 ^ inner.length * 2 ^ inner.length) := by
  refine ⟨by rw [length_blockTrees, List.length_map], perfect_of_mem_blockTrees inner Expr.perfect_of_mem_map_lit, ?_⟩
  rw [blockTrees_eq, flatMap_leaves_levels, List.length_map, ← List.map_take, flatMap_leaves_lit]

theorem digitTrees_values (inner : List Op) (ys : List Decimal) (hys : ys.length < 2 ^ inner.length) :
    List.Forall₂ (fun d t => t.Perfect (inner.take d)) ys.length.bitIndices.reverse
        (digitTrees inner ys.length.bitIndices.reverse (ys.map .lit)) ∧
      (digitTrees inner ys.length.bitIndices.reverse (ys.map .lit)).flatMap Expr.leaves = ys := by
  have hsum := sum_bitIndices_reverse ys.length
  -- a digit of a count below `2 ^ inner.length` is below `inner.length`
  have hds : ∀ d ∈ ys.length.bitIndices.reverse, d ≤ inner.length := by
    intro d hd
    have hle := Nat.two_pow_le_of_mem_bitIndices (List.mem_reverse.mp hd)
    by_contra hlt
    have := Nat.pow_le_pow_right Nat.zero_lt_two (Nat.le_of_not_le hlt)
    omega
  refine ⟨forall₂_perfect_digitTrees inner _ hds Expr.perfect_of_mem_map_lit (by rw [hsum, List.length_map]), ?_⟩
  rw [flatMap_leaves_digitTrees, hsum, List.take_of_length_le (by simp), flatMap_leaves_lit]

/-- Custom notation reads operators and then values, and rejects any other input at the
first token out of place, or at its end when operators or values are missing. Over the
operators `inner ++ [outer]` and `k` full blocks of `2 ^ inner.length` values with `r` values
after them, its postfix form is that of the block trees, each perfect under `inner`, folded
from the left by `outer`, then one perfect tree for each binary digit of `r`, the highest
first. Evaluated, it never runs short of operands, and it has a value exactly when these
trees have values and are one: when `r = 0`, or when there is no full block and `r` is a
power of two. -/
theorem toPostfix_custom :
    (∀ ts, (∃ out, toPostfix ts = .ok out) ↔
        ∃ (ops : List Op) (xs : List Decimal), ops ≠ [] ∧ xs ≠ [] ∧
          ts = ops.map .op ++ xs.map .num) ∧
      (toPostfix [] = .error .noOperator ∧
        (∀ x rest, toPostfix (.num x :: rest) = .error (.valueBeforeOperator x)) ∧
        (∀ ops : List Op, ops ≠ [] → toPostfix (ops.map .op) = .error .noValue) ∧
        (∀ (ops : List Op) (xs : List Decimal) o rest, ops ≠ [] → xs ≠ [] →
          toPostfix (ops.map .op ++ xs.map .num ++ .op o :: rest) =
            .error (.operatorAfterValue o)) ∧
        (∀ (ops : List Op) (xs : List Decimal) t rest, (t = .lparen ∨ t = .rparen) →
          (ops ≠ [] ∨ xs = []) →
          toPostfix (ops.map .op ++ xs.map .num ++ t :: rest) = .error .parenInCustom)) ∧
      ∀ (inner : List Op) (outer : Op) (xs : List Decimal), xs ≠ [] →
        let size := 2 ^ inner.length
        let k := xs.length / size
        let r := xs.length % size
        ∃ bs dts : List Expr,
          let F := foldBlocks outer bs ++ dts
          toPostfix ((inner ++ [outer]).map .op ++ xs.map .num) = .ok (Expr.postorderAll F) ∧
          (bs.length = k ∧ (∀ t ∈ bs, t.Perfect inner) ∧
            bs.flatMap Expr.leaves = xs.take (k * size)) ∧
          (List.Forall₂ (fun d t => t.Perfect (inner.take d)) r.bitIndices.reverse dts ∧
            dts.flatMap Expr.leaves = xs.drop (k * size)) ∧
          (r = 0 → ∃ b bs', bs = b :: bs' ∧
            toPostfix ((inner ++ [outer]).map .op ++ xs.map .num) =
              .ok (bs'.foldl (.node outer) b).postorder) ∧
          F.length = (if k = 0 then 0 else 1) + r.bitIndices.length ∧
          (∀ o, Postfix.eval (Expr.postorderAll F) ≠ .error (.missingOperands o)) ∧
          Postfix.eval (Expr.postorderAll F) =
            (match F.mapM Expr.eval with
              | .ok [v] => .ok v
              | .ok _ => .error (.leftover F.length)
              | .error e => .error e) ∧
          ((∃ v, Postfix.eval (Expr.postorderAll F) = .ok v) ↔
            (∃ vs, F.mapM Expr.eval = .ok vs) ∧ (r = 0 ∨ (k = 0 ∧ ∃ j, r = 2 ^ j))) := by
  refine ⟨fun ts => toPostfix_ok_iff, ⟨rfl, fun x rest => rfl, fun ops => toPostfix_ops_only,
    fun ops xs o rest hops hxs => toPostfix_op_after_values hops hxs o rest,
    fun ops xs t rest ht h => toPostfix_paren ht h rest⟩, ?_⟩
  intro inner outer xs hxs
  dsimp only
  have hdiv := Nat.div_add_mod' xs.length (2 ^ inner.length)
  have hkr : xs.length / 2 ^ inner.length ≠ 0 ∨ xs.length % 2 ^ inner.length ≠ 0 := by
    by_contra hc
    simp only [not_or, not_not] at hc
    rw [hc.1, hc.2, Nat.zero_mul] at hdiv
    exact hxs (List.length_eq_zero_iff.mp (by omega))
  -- the values after the full blocks, fewer than a block
  have hrest : (xs.drop (xs.length / 2 ^ inner.length * 2 ^ inner.length)).length =
      xs.length % 2 ^ inner.length := by
    rw [List.length_drop]
    omega
  obtain ⟨hlenB, hperfB, hleavesB⟩ := blockTrees_values inner xs
  obtain ⟨hperfD, hleavesD⟩ := digitTrees_values inner
    (xs.drop (xs.length / 2 ^ inner.length * 2 ^ inner.length))
    (by rw [hrest]; exact Nat.mod_lt _ (Nat.two_pow_pos _))
  rw [hrest] at hperfD hleavesD
  have hout := toPostfix_eq_shape inner outer hxs
  rw [shape_eq, List.length_map, ← List.map_drop] at hout
  have hcount : (foldBlocks outer (blockTrees inner (xs.map .lit)) ++
      digitTrees inner (xs.length % 2 ^ inner.length).bitIndices.reverse
        ((xs.drop (xs.length / 2 ^ inner.length * 2 ^ inner.length)).map .lit)).length =
      (if xs.length / 2 ^ inner.length = 0 then 0 else 1) +
        (xs.length % 2 ^ inner.length).bitIndices.length := by
    rw [List.length_append, length_foldBlocks, hlenB, ← hperfD.length_eq, List.length_reverse]
  refine ⟨_, _, hout, ⟨hlenB, hperfB, hleavesB⟩, ⟨hperfD, hleavesD⟩, ?_, hcount,
    eval_postorderAll_ne_missingOperands _, eval_postorderAll _, ?_⟩
  · -- no values after the blocks: no digit trees, and at least one block
    intro hr
    have hk := hkr.resolve_right (by simp [hr])
    rcases hbs : blockTrees inner (xs.map .lit) with _ | ⟨b, bs'⟩
    · rw [hbs] at hlenB
      exact absurd hlenB.symm hk
    · refine ⟨b, bs', rfl, ?_⟩
      rw [hout, hbs, hr]
      simp [foldBlocks]
  · rw [eval_postorderAll_ok_iff, hcount, count_eq_one_iff hkr]

theorem toPostfix_custom_three :
    ∃ out, toPostfix [.op .add, .op .sub, .num ⟨false, 1, 0⟩, .num ⟨false, 2, 0⟩,
        .num ⟨false, 3, 0⟩] = .ok out ∧
      (∀ o, Postfix.eval out ≠ .error (.missingOperands o)) ∧ ¬ ∃ v, Postfix.eval out = .ok v := by
  obtain ⟨bs, dts, hout, -, -, -, -, hmiss, -, hiff⟩ :=
    toPostfix_custom.2.2 [.add] .sub [⟨false, 1, 0⟩, ⟨false, 2, 0⟩, ⟨false, 3, 0⟩] (by simp)
  refine ⟨_, hout, hmiss, fun h => ?_⟩
  have hone := (hiff.mp h).2
  simp at hone

end Custom

end Abacus
