import Abacus.Proofs.Evaluate

/-!
# Postfix tokens as trees read one after another

While postfix tokens are evaluated, the stack holds the values of the largest trees read
so far, one after another. So tokens without parentheses are either such trees
(`postorderAll`), or fewer than two trees followed by an operator that finds too few
operands (`exists_forest`). Evaluating trees read one after another evaluates them left to
right and stops at the first failure (`runWith_postorderAll_append`).

The postfix tokens of a tree name that tree only (`postorder_injective`), and they are the
token lists in which every nonempty prefix has more numbers than operators and the whole
list one more (`exists_postorder_iff_counted`). A postfix text without parentheses thus has a
value exactly when it writes a tree with a value; otherwise the error is the first failure
in token order (`eval_paren_free`).
-/

namespace Abacus

-- Errors have no decidable equality, so closed results are compared through `toOption`.
theorem eq_ok_of_toOption {ε α : Type} {x : Except ε α} {v : α} (h : x.toOption = some v) :
    x = .ok v := by
  cases x with
  | ok w => cases h; rfl
  | error e => cases h

def Token.isOp : Token → Bool
  | .op _ => true
  | _ => false

namespace Expr

/-- The postfix tokens of trees, one tree after another. -/
def postorderAll (fs : List Expr) : List Token := fs.flatMap postorder

@[simp] theorem postorderAll_nil : postorderAll [] = [] := rfl

@[simp] theorem postorderAll_cons (t : Expr) (fs : List Expr) :
    postorderAll (t :: fs) = t.postorder ++ postorderAll fs := rfl

@[simp] theorem postorderAll_append (fs gs : List Expr) :
    postorderAll (fs ++ gs) = postorderAll fs ++ postorderAll gs := by
  simp [postorderAll]

def build : List Token → List Expr → Option (List Expr)
  | [], stack => some stack
  | .num x :: rest, stack => build rest (.lit x :: stack)
  | .op o :: rest, b :: a :: stack => build rest (.node o a b :: stack)
  | _ :: _, _ => none

theorem build_postorder_append (t : Expr) (rest : List Token) (stack : List Expr) :
    build (t.postorder ++ rest) stack = build rest (t :: stack) := by
  induction t generalizing rest stack with
  | lit x => rfl
  | node o l r ihl ihr =>
    rw [postorder, List.append_assoc, List.append_assoc, ihl, ihr]
    rfl

theorem build_postorder (t : Expr) : build t.postorder [] = some [t] := by
  have h := build_postorder_append t [] []
  rwa [List.append_nil] at h

theorem postorder_injective : Function.Injective postorder := by
  intro t t' h
  have := build_postorder t
  rw [h, build_postorder t'] at this
  exact (List.cons.inj (Option.some.inj this)).1.symm

/-! ## Counting numbers and operators -/

theorem prefix_append_cases {α : Type} {pre xs ys : List α} (h : pre <+: xs ++ ys) :
    pre <+: xs ∨ ∃ u, pre = xs ++ u ∧ u <+: ys := by
  obtain ⟨z, hz⟩ := h
  rcases List.append_eq_append_iff.mp hz with ⟨a', rfl, -⟩ | ⟨c', rfl, rfl⟩
  · exact .inl (List.prefix_append _ _)
  · exact .inr ⟨c', rfl, List.prefix_append _ _⟩

@[simp] theorem countP_isNum_postorder (t : Expr) :
    t.postorder.countP Token.isNum = t.postorder.countP Token.isOp + 1 := by
  induction t with
  | lit x => rfl
  | node o l r ihl ihr =>
    simp only [postorder, List.countP_append, ihl, ihr]
    simp [Token.isNum, Token.isOp]
    omega

theorem countP_isNum_postorderAll (fs : List Expr) :
    (postorderAll fs).countP Token.isNum = (postorderAll fs).countP Token.isOp + fs.length := by
  induction fs with
  | nil => rfl
  | cons t fs ih =>
    simp only [postorderAll_cons, List.countP_append, countP_isNum_postorder, ih, List.length_cons]
    omega

theorem countP_prefix_postorder (t : Expr) :
    ∀ pre, pre <+: t.postorder → pre ≠ [] → pre.countP Token.isOp < pre.countP Token.isNum := by
  induction t with
  | lit x =>
    intro pre hp hne
    rcases List.prefix_cons_iff.mp hp with rfl | ⟨u, rfl, hu⟩
    · exact absurd rfl hne
    · rw [List.prefix_nil.mp hu]
      simp [Token.isNum, Token.isOp]
  | node o l r ihl ihr =>
    intro pre hp hne
    -- a prefix stops inside the left operand, inside the right one, or takes the operator too
    rw [postorder, List.append_assoc] at hp
    rcases prefix_append_cases hp with hl | ⟨u, rfl, hu⟩
    · exact ihl pre hl hne
    · have hlc := countP_isNum_postorder l
      rcases prefix_append_cases hu with hr | ⟨w, rfl, hw⟩
      · by_cases hu0 : u = []
        · subst hu0
          simp only [List.append_nil]
          omega
        · have := ihr u hr hu0
          simp only [List.countP_append]
          omega
      · have hrc := countP_isNum_postorder r
        rcases List.prefix_cons_iff.mp hw with rfl | ⟨w', rfl, hw'⟩
        · simp only [List.append_nil, List.countP_append]
          omega
        · rw [List.prefix_nil.mp hw']
          simp only [List.countP_append]
          simp [Token.isNum, Token.isOp, hlc, hrc]

end Expr

namespace Postfix

/-- Every nonempty prefix of the tokens holds more numbers than operators, and the whole list
one more. -/
def Counted (ts : List Token) : Prop :=
  (∀ pre, pre <+: ts → pre ≠ [] → pre.countP Token.isOp < pre.countP Token.isNum) ∧
    ts.countP Token.isNum = ts.countP Token.isOp + 1

/-! ## Reading trees one after another -/

theorem exists_forest_after {ts : List Token} (hp : Token.lparen ∉ ts ∧ Token.rparen ∉ ts)
    (stack : List Expr) :
    ∃ fs, Expr.postorderAll stack.reverse ++ ts = Expr.postorderAll fs ∨
      ∃ o rest, fs.length < 2 ∧
        Expr.postorderAll stack.reverse ++ ts = Expr.postorderAll fs ++ .op o :: rest := by
  induction ts generalizing stack with
  | nil => exact ⟨stack.reverse, .inl (List.append_nil _)⟩
  | cons t ts ih =>
    have hp' : Token.lparen ∉ ts ∧ Token.rparen ∉ ts :=
      ⟨fun h => hp.1 (List.mem_cons_of_mem _ h), fun h => hp.2 (List.mem_cons_of_mem _ h)⟩
    cases t with
    | num x =>
      obtain ⟨fs, h⟩ := ih hp' (.lit x :: stack)
      refine ⟨fs, ?_⟩
      simpa [Expr.postorder] using h
    | op o =>
      rcases stack with _ | ⟨b, _ | ⟨a, stack⟩⟩
      · exact ⟨[], .inr ⟨o, ts, by simp, by simp⟩⟩
      · exact ⟨[b], .inr ⟨o, ts, by simp, by simp⟩⟩
      · -- the operator joins the two trees on top into one
        obtain ⟨fs, h⟩ := ih hp' (.node o a b :: stack)
        refine ⟨fs, ?_⟩
        simpa [Expr.postorder] using h
    | lparen => exact absurd List.mem_cons_self hp.1
    | rparen => exact absurd List.mem_cons_self hp.2

theorem exists_forest {ts : List Token} (hp : Token.lparen ∉ ts ∧ Token.rparen ∉ ts) :
    ∃ fs, ts = Expr.postorderAll fs ∨
      ∃ o rest, fs.length < 2 ∧ ts = Expr.postorderAll fs ++ .op o :: rest := by
  simpa using exists_forest_after hp []

theorem exists_postorder_iff_counted {ts : List Token}
    (hp : Token.lparen ∉ ts ∧ Token.rparen ∉ ts) : (∃ t : Expr, ts = t.postorder) ↔ Counted ts := by
  constructor
  · rintro ⟨t, rfl⟩
    exact ⟨Expr.countP_prefix_postorder t, Expr.countP_isNum_postorder t⟩
  · rintro ⟨hpre, hcount⟩
    obtain ⟨fs, rfl | ⟨o, rest, hlen, rfl⟩⟩ := exists_forest hp
    · -- one more number than operators leaves one tree
      have hfs := Expr.countP_isNum_postorderAll fs
      obtain ⟨t, rfl⟩ := List.length_eq_one_iff.mp (by omega : fs.length = 1)
      exact ⟨t, by simp⟩
    · -- the operator after fewer than two trees makes a prefix without more numbers
      have h := hpre (Expr.postorderAll fs ++ [.op o]) (by simp) (by simp)
      have hfs := Expr.countP_isNum_postorderAll fs
      simp only [List.countP_append, hfs] at h
      simp [Token.isNum, Token.isOp] at h
      omega

/-! ## Running trees one after another -/

variable {f : Combine}

theorem mapM_cons (g : Expr → Except Error Decimal) (t : Expr) (fs : List Expr) :
    (t :: fs).mapM g = match g t with
      | .ok v => (fs.mapM g).map (v :: ·)
      | .error e => .error e := by
  rw [List.mapM_cons]
  cases g t <;> cases fs.mapM g <;> rfl

theorem length_of_mapM_ok {g : Expr → Except Error Decimal} {fs : List Expr} {vs : List Decimal}
    (h : fs.mapM g = .ok vs) : vs.length = fs.length := by
  induction fs generalizing vs with
  | nil => cases h; rfl
  | cons t fs ih =>
    rw [mapM_cons] at h
    split at h
    · cases hm : fs.mapM g with
      | ok ws =>
        rw [hm] at h
        cases h
        simp [ih hm]
      | error e => rw [hm] at h; cases h
    · cases h

theorem runWith_postorderAll_append (f : Combine) (fs : List Expr) (rest : List Token)
    (stack : List Decimal) :
    runWith f (Expr.postorderAll fs ++ rest) stack =
      match fs.mapM (Expr.evalWith f) with
      | .ok vs => runWith f rest (vs.reverse ++ stack)
      | .error e => .error e := by
  induction fs generalizing stack with
  | nil => rfl
  | cons t fs ih =>
    rw [Expr.postorderAll_cons, List.append_assoc, runWith_postorder_append, mapM_cons]
    cases t.evalWith f with
    | error e => rfl
    | ok v =>
      simp only [ih]
      cases fs.mapM (Expr.evalWith f) <;> simp [Except.map]

theorem runWith_missing (f : Combine) (o : Op) (rest : List Token) {stack : List Decimal}
    (h : stack.length < 2) : runWith f (.op o :: rest) stack = .error (.missingOperands o) := by
  rcases stack with _ | ⟨b, _ | ⟨a, stack⟩⟩
  · rfl
  · rfl
  · simp only [List.length_cons] at h
    omega

theorem evalWith_postorderAll (f : Combine) (fs : List Expr) :
    evalWith f (Expr.postorderAll fs) =
      match fs.mapM (Expr.evalWith f) with
      | .ok [v] => .ok v
      | .ok vs => .error (.leftover vs.length)
      | .error e => .error e := by
  have h := runWith_postorderAll_append f fs [] []
  rw [List.append_nil] at h
  unfold evalWith
  rw [h]
  cases fs.mapM (Expr.evalWith f) with
  | error e => rfl
  | ok vs =>
    simp only [runWith, List.append_nil]
    -- the stack holds the values last first, and a singleton reversed is itself
    rcases vs with _ | ⟨a, _ | ⟨b, rest⟩⟩
    · rfl
    · rfl
    · split
      · rename_i h
        have := congrArg List.length (Except.ok.inj h)
        simp at this
      · rename_i h
        rw [← Except.ok.inj h]
        simp
      · rename_i h
        cases h

theorem evalWith_postorderAll_op (f : Combine) {fs : List Expr} (hlen : fs.length < 2) (o : Op)
    (rest : List Token) :
    evalWith f (Expr.postorderAll fs ++ .op o :: rest) =
      match fs.mapM (Expr.evalWith f) with
      | .ok _ => .error (.missingOperands o)
      | .error e => .error e := by
  unfold evalWith
  rw [runWith_postorderAll_append]
  cases hm : fs.mapM (Expr.evalWith f) with
  | error e => rfl
  | ok vs =>
    have hvs : (vs.reverse ++ []).length < 2 := by simpa [length_of_mapM_ok hm] using hlen
    simp only
    rw [runWith_missing f o rest hvs]

theorem mapM_eq_ok_singleton {g : Expr → Except Error Decimal} {fs : List Expr} {v : Decimal}
    (h : fs.mapM g = .ok [v]) : ∃ t, fs = [t] ∧ g t = .ok v := by
  have hlen := length_of_mapM_ok h
  rcases fs with _ | ⟨t, _ | ⟨t', fs⟩⟩
  · cases hlen
  · rw [List.mapM_cons] at h
    cases ht : g t with
    | ok w =>
      rw [ht] at h
      simp [pure, Except.pure, bind, Except.bind] at h
      exact ⟨t, rfl, by rw [ht, h]⟩
    | error e => rw [ht] at h; cases h
  · simp at hlen

/-- Postfix tokens without parentheses have a value exactly when they are the postfix tokens
of a tree with a value, which they name alone, and they are such tokens exactly when they are
counted. Otherwise they are trees read one after another, which fail at their first failure
and else leave as many values as they have more numbers than operators; or fewer than two
trees followed by an operator, which has too few operands unless a tree before it fails. -/
theorem eval_paren_free {ts : List Token} (hp : Token.lparen ∉ ts ∧ Token.rparen ∉ ts) :
    ((∃ t : Expr, ts = t.postorder) ↔ Counted ts) ∧
      (∀ t t' : Expr, ts = t.postorder → ts = t'.postorder → t = t') ∧
      (∀ v, eval ts = .ok v ↔ ∃ t : Expr, ts = t.postorder ∧ t.eval = .ok v) ∧
      ∃ fs : List Expr,
        (ts = Expr.postorderAll fs ∧
          eval ts = match fs.mapM Expr.eval with
            | .ok [v] => .ok v
            | .ok _ => .error (.leftover (ts.countP Token.isNum - ts.countP Token.isOp))
            | .error e => .error e) ∨
        (∃ o rest, fs.length < 2 ∧ ts = Expr.postorderAll fs ++ .op o :: rest ∧
          eval ts = match fs.mapM Expr.eval with
            | .ok _ => .error (.missingOperands o)
            | .error e => .error e) := by
  obtain ⟨fs, hfs⟩ := exists_forest hp
  have he : Expr.eval = Expr.evalWith Op.apply := rfl
  have hforest : (ts = Expr.postorderAll fs ∧
      eval ts = match fs.mapM Expr.eval with
        | .ok [v] => .ok v
        | .ok _ => .error (.leftover (ts.countP Token.isNum - ts.countP Token.isOp))
        | .error e => .error e) ∨
      (∃ o rest, fs.length < 2 ∧ ts = Expr.postorderAll fs ++ .op o :: rest ∧
        eval ts = match fs.mapM Expr.eval with
          | .ok _ => .error (.missingOperands o)
          | .error e => .error e) := by
    rcases hfs with rfl | ⟨o, rest, hlen, rfl⟩
    · refine .inl ⟨rfl, ?_⟩
      rw [eval, evalWith_postorderAll, he, Expr.countP_isNum_postorderAll, Nat.add_sub_cancel_left]
      cases hm : fs.mapM (Expr.evalWith Op.apply) with
      | error e => rfl
      | ok vs =>
        -- the values left are as many as the trees
        rw [← length_of_mapM_ok hm]
        rcases vs with _ | ⟨a, _ | ⟨b, rest⟩⟩ <;> rfl
    · exact .inr ⟨o, rest, hlen, rfl, by rw [he]; exact evalWith_postorderAll_op Op.apply hlen o rest⟩
  refine ⟨exists_postorder_iff_counted hp, ?_, fun v => ⟨fun h => ?_, ?_⟩, fs, hforest⟩
  · rintro t t' rfl h
    exact Expr.postorder_injective h
  · rcases hforest with ⟨rfl, heval⟩ | ⟨o, rest, -, -, heval⟩
    · rw [heval] at h
      cases hm : fs.mapM Expr.eval with
      | error e => rw [hm] at h; cases h
      | ok vs =>
        rw [hm] at h
        rcases vs with _ | ⟨w, _ | ⟨w', vs⟩⟩
        · cases h
        · cases h
          obtain ⟨t, rfl, ht⟩ := mapM_eq_ok_singleton hm
          exact ⟨t, by simp, ht⟩
        · cases h
    · rw [heval] at h
      cases hm : fs.mapM Expr.eval <;> rw [hm] at h <;> cases h
  · rintro ⟨t, rfl, ht⟩
    rw [eval_postorder, ht]

theorem eval_paren_free_sum :
    (Token.lparen ∉ [.num ⟨false, 1, 0⟩, .num ⟨false, 2, 0⟩, .op .add] ∧
      Token.rparen ∉ [.num ⟨false, 1, 0⟩, .num ⟨false, 2, 0⟩, .op .add]) ∧
    Counted [.num ⟨false, 1, 0⟩, .num ⟨false, 2, 0⟩, .op .add] ∧
    eval [.num ⟨false, 1, 0⟩, .num ⟨false, 2, 0⟩, .op .add] = .ok ⟨false, 3, 0⟩ := by
  have hp : Token.lparen ∉ [.num ⟨false, 1, 0⟩, .num ⟨false, 2, 0⟩, .op .add] ∧
      Token.rparen ∉ [.num ⟨false, 1, 0⟩, .num ⟨false, 2, 0⟩, .op .add] := by decide
  have h := eval_paren_free hp
  have ht : (Expr.node .add (.lit ⟨false, 1, 0⟩) (.lit ⟨false, 2, 0⟩)).eval = .ok ⟨false, 3, 0⟩ :=
    eq_ok_of_toOption (by decide +kernel)
  exact ⟨hp, h.1.mp ⟨.node .add (.lit ⟨false, 1, 0⟩) (.lit ⟨false, 2, 0⟩), rfl⟩,
    (h.2.2.1 _).mpr ⟨_, rfl, ht⟩⟩

end Postfix

end Abacus
