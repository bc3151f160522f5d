import Mathlib.Data.List.Perm.Basic
import Abacus.Proofs.Forest

/-!
# What reordering algebraic tokens keeps

Shunting-yard moves operators through its stack and drops parentheses, but loses and
invents nothing: operators leave the stack in three ways (before a later operator, at a
closing parenthesis, or at the end), and each opening parenthesis is dropped by its closing
one or flushed at the end. So the pass stops exactly when some prefix of the input closes
more parentheses than it opens; otherwise its output holds the input's numbers in their
order, its operators each once, no closing parenthesis and the opening ones never closed
(`toPostfix_conserves`).

Each statement is an invariant of the stack and the output together, over every rest of
the input: the stack holds only operators and opening parentheses (`Pending`).
-/

namespace Abacus

namespace Algebraic

/-- The stack holds operators and opening parentheses only. -/
def Pending (stack : List Token) : Prop := ∀ t ∈ stack, t = .lparen ∨ t.isOp = true

/-! ## The two ways of leaving the stack -/

theorem popFor_moves (o : Op) (stack out : List Token) :
    ∃ m, (∀ t ∈ m, t.isOp = true) ∧ stack = m ++ (popFor o stack out).1 ∧
      (popFor o stack out).2 = m.reverse ++ out := by
  fun_induction popFor o stack out with
  | case1 t stack out _ ih =>
    obtain ⟨m, hm, hs, ho⟩ := ih
    refine ⟨.op t :: m, ?_, by simp [← hs], by simp [ho]⟩
    simpa [Token.isOp] using hm
  | case2 => exact ⟨[], by simp, rfl, rfl⟩
  | case3 => exact ⟨[], by simp, rfl, rfl⟩

theorem popToOpen_moves {stack out s o : List Token} (h : popToOpen stack out = .ok (s, o)) :
    ∃ m, Token.lparen ∉ m ∧ stack = m ++ .lparen :: s ∧ o = m.reverse ++ out := by
  fun_induction popToOpen stack out with
  | case1 => cases h
  | case2 => cases h; exact ⟨[], by simp, rfl, rfl⟩
  | case3 t stack out ht ih =>
    obtain ⟨m, hm, hs, ho⟩ := ih h
    exact ⟨t :: m, by simp [hm, Ne.symm ht], by simp [hs], by simp [ho]⟩

theorem popToOpen_error {stack out : List Token} {e : Error}
    (h : popToOpen stack out = .error e) : Token.lparen ∉ stack ∧ e = .mismatchedParens := by
  fun_induction popToOpen stack out with
  | case1 => cases h; simp
  | case2 => cases h
  | case3 t stack out ht ih =>
    obtain ⟨hl, he⟩ := ih h
    exact ⟨by simp [hl, Ne.symm ht], he⟩

theorem Pending.of_popFor {o : Op} {stack out : List Token} (hs : Pending stack) :
    Pending (.op o :: (popFor o stack out).1) := by
  obtain ⟨m, -, hst, -⟩ := popFor_moves o stack out
  intro t ht
  rcases List.mem_cons.mp ht with rfl | ht
  · exact .inr rfl
  · exact hs t (by rw [hst]; exact List.mem_append_right _ ht)

/-! ## Numbers keep their order -/

theorem filter_isNum_eq_nil {m : List Token} (hm : ∀ t ∈ m, t = .lparen ∨ t.isOp = true) :
    m.filter Token.isNum = [] := by
  refine List.filter_eq_nil_iff.mpr fun t ht => ?_
  rcases hm t ht with rfl | h
  · simp [Token.isNum]
  · cases t <;> simp_all [Token.isNum, Token.isOp]

theorem shunt_filter_isNum {ts stack out r : List Token} (h : shunt ts stack out = .ok r)
    (hs : Pending stack) : r.filter Token.isNum = out.reverse.filter Token.isNum ++ ts.filter Token.isNum := by
  induction ts generalizing stack out with
  | nil =>
    simp only [shunt, Except.ok.injEq] at h
    subst h
    simp [filter_isNum_eq_nil hs]
  | cons t rest ih =>
    cases t with
    | num x =>
      rw [ih h hs]
      simp [List.filter_cons, Token.isNum]
    | op o =>
      obtain ⟨m, hm, hst, hout⟩ := popFor_moves o stack out
      simp only [shunt] at h
      rw [ih h hs.of_popFor, hout]
      simp [filter_isNum_eq_nil (fun t ht => .inr (hm t ht)), Token.isNum]
    | lparen =>
      refine (ih h fun t ht => ?_).trans (by simp [Token.isNum])
      rcases List.mem_cons.mp ht with rfl | ht
      · exact .inl rfl
      · exact hs t ht
    | rparen =>
      simp only [shunt] at h
      split at h
      · rename_i s o' hpop
        obtain ⟨m, hm, hst, hout⟩ := popToOpen_moves hpop
        -- what the parenthesis moves are operators, since it stops at the first opening one
        have hmo : ∀ t ∈ m, t = .lparen ∨ t.isOp = true := fun t ht =>
          hs t (by rw [hst]; exact List.mem_append_left _ ht)
        have hs' : Pending s := fun t ht => hs t (by rw [hst]; simp [ht])
        rw [ih h hs', hout]
        simp [filter_isNum_eq_nil hmo, Token.isNum]
      · cases h

/-! ## Operators are kept, each once -/

theorem shunt_filter_isOp_perm {ts stack out r : List Token} (h : shunt ts stack out = .ok r) :
    (r.filter Token.isOp).Perm ((out ++ stack ++ ts).filter Token.isOp) := by
  induction ts generalizing stack out with
  | nil =>
    simp only [shunt, Except.ok.injEq] at h
    subst h
    simpa using (List.reverse_perm (out.filter Token.isOp)).append_right _
  | cons t rest ih =>
    refine List.perm_iff_count.mpr fun a => ?_
    cases t with
    | num x =>
      rw [List.perm_iff_count.mp (ih h) a]
      simp [List.count_append, Token.isOp]
    | op o =>
      obtain ⟨m, -, hst, hout⟩ := popFor_moves o stack out
      rcases hp : popFor o stack out with ⟨s', o'⟩
      rw [hp] at hst hout
      dsimp only at hst hout
      simp only [shunt, hp] at h
      rw [List.perm_iff_count.mp (ih h) a, hout, hst]
      simp [List.count_append, List.count_cons, List.filter_reverse, List.filter_cons, Token.isOp]
      omega
    | lparen =>
      rw [List.perm_iff_count.mp (ih h) a]
      simp [List.count_append, Token.isOp]
    | rparen =>
      simp only [shunt] at h
      split at h
      · rename_i s o' hpop
        obtain ⟨m, -, hst, hout⟩ := popToOpen_moves hpop
        rw [List.perm_iff_count.mp (ih h) a, hout, hst]
        simp [List.count_append, List.filter_reverse, Token.isOp]
        omega
      · cases h

/-! ## Closing parentheses are dropped -/

theorem shunt_rparen_not_mem {ts stack out r : List Token} (h : shunt ts stack out = .ok r)
    (hs : Token.rparen ∉ stack) (ho : Token.rparen ∉ out) : Token.rparen ∉ r := by
  induction ts generalizing stack out with
  | nil =>
    simp only [shunt, Except.ok.injEq] at h
    subst h
    simp [hs, ho]
  | cons t rest ih =>
    cases t with
    | num x => exact ih h hs (by simp [ho])
    | op o =>
      obtain ⟨m, -, hst, hout⟩ := popFor_moves o stack out
      simp only [shunt] at h
      have hs' : Token.rparen ∉ m ++ (popFor o stack out).1 := hst ▸ hs
      rw [List.mem_append, not_or] at hs'
      refine ih h (by simp [hs'.2]) ?_
      rw [hout]
      simp [hs'.1, ho]
    | lparen => exact ih h (by simp [hs]) ho
    | rparen =>
      simp only [shunt] at h
      split at h
      · rename_i s o' hpop
        obtain ⟨m, -, hst, hout⟩ := popToOpen_moves hpop
        rw [hst, List.mem_append, not_or] at hs
        refine ih h (by simp_all) ?_
        rw [hout]
        simp [hs.1, ho]
      · cases h

/-! ## The pass stops at an excess closing parenthesis -/

theorem shunt_error {ts stack out : List Token} {e : Error} (h : shunt ts stack out = .error e) :
    e = .mismatchedParens ∧
      ∃ pre, pre <+: ts ∧ stack.count .lparen + pre.count .lparen < pre.count .rparen := by
  induction ts generalizing stack out with
  | nil => cases h
  | cons t rest ih =>
    cases t with
    | num x =>
      obtain ⟨he, pre, hp, hc⟩ := ih h
      exact ⟨he, .num x :: pre, List.prefix_cons_iff.mpr (.inr ⟨pre, rfl, hp⟩), by simpa using hc⟩
    | op o =>
      simp only [shunt] at h
      obtain ⟨he, pre, hp, hc⟩ := ih h
      have hk := (popFor_count_lparen o stack out).1
      refine ⟨he, .op o :: pre, List.prefix_cons_iff.mpr (.inr ⟨pre, rfl, hp⟩), ?_⟩
      simp only [List.count_cons, hk] at hc ⊢
      simpa using hc
    | lparen =>
      obtain ⟨he, pre, hp, hc⟩ := ih h
      refine ⟨he, .lparen :: pre, List.prefix_cons_iff.mpr (.inr ⟨pre, rfl, hp⟩), ?_⟩
      simp only [List.count_cons] at hc ⊢
      simp at hc ⊢
      omega
    | rparen =>
      simp only [shunt] at h
      split at h
      · rename_i s o' hpop
        obtain ⟨he, pre, hp, hc⟩ := ih h
        have hk := (popToOpen_count_lparen hpop).1
        refine ⟨he, .rparen :: pre, List.prefix_cons_iff.mpr (.inr ⟨pre, rfl, hp⟩), ?_⟩
        simp at hc ⊢
        omega
      · -- no opening parenthesis is waiting: the closing one alone is the prefix
        rename_i e' hpop
        cases h
        obtain ⟨hl, he⟩ := popToOpen_error hpop
        refine ⟨he, [.rparen], List.prefix_cons_iff.mpr (.inr ⟨[], rfl, List.nil_prefix⟩), ?_⟩
        simp [List.count_eq_zero.mpr hl]

/-- Reordering algebraic tokens stops, with the error "Mismatched parentheses", exactly when
some prefix closes more parentheses than it opens. Otherwise it outputs the numbers of the
input in their order, its operators each once, no closing parenthesis, and as many opening
ones as the input opens and does not close. -/
theorem toPostfix_conserves (ts : List Token) :
    (toPostfix ts = .error .mismatchedParens ↔
        ∃ pre, pre <+: ts ∧ pre.count .lparen < pre.count .rparen) ∧
      ((∀ pre, pre <+: ts → pre.count .rparen ≤ pre.count .lparen) →
        ∃ r, toPostfix ts = .ok r ∧
          r.filter Token.isNum = ts.filter Token.isNum ∧
          (r.filter Token.isOp).Perm (ts.filter Token.isOp) ∧
          Token.rparen ∉ r ∧
          r.count .lparen = ts.count .lparen - ts.count .rparen) ∧
      Error.message .mismatchedParens = "Mismatched parentheses" := by
  have hok : ∀ r, toPostfix ts = .ok r →
      ∀ pre, pre <+: ts → pre.count .rparen ≤ pre.count .lparen := fun r h => by
    simpa using (shunt_ok_parens h).1
  have herr : ∀ e, toPostfix ts = .error e →
      e = .mismatchedParens ∧ ∃ pre, pre <+: ts ∧ pre.count .lparen < pre.count .rparen :=
    fun e h => by simpa using shunt_error h
  refine ⟨⟨fun h => (herr _ h).2, fun ⟨pre, hp, hc⟩ => ?_⟩, fun hb => ?_, rfl⟩
  · cases hr : toPostfix ts with
    | ok r => exact absurd (hok r hr pre hp) (by omega)
    | error e => rw [(herr e hr).1]
  · cases hr : toPostfix ts with
    | error e =>
      obtain ⟨pre, hp, hc⟩ := (herr e hr).2
      exact absurd (hb pre hp) (by omega)
    | ok r =>
      have hcount := (shunt_ok_parens hr).2
      refine ⟨r, rfl, ?_, ?_, shunt_rparen_not_mem hr (by simp) (by simp), ?_⟩
      · simpa using shunt_filter_isNum hr (by simp [Pending])
      · simpa using shunt_filter_isOp_perm hr
      · simp only [List.count_nil, Nat.zero_add] at hcount
        omega

theorem toPostfix_conserves_unclosed :
    toPostfix [.rparen] = .error .mismatchedParens ∧
      ∃ r, toPostfix [.lparen, .num ⟨false, 1, 0⟩] = .ok r ∧ r.count .lparen = 1 := by
  refine ⟨(toPostfix_conserves [.rparen]).1.mpr ⟨[.rparen], List.prefix_refl _, by decide⟩, ?_⟩
  -- no prefix of the second input closes a parenthesis
  have hb : ∀ pre, pre <+: [Token.lparen, .num ⟨false, 1, 0⟩] →
      pre.count .rparen ≤ pre.count .lparen := by
    intro pre hp
    have h := hp.sublist.count_le Token.rparen
    have h0 : [Token.lparen, .num ⟨false, 1, 0⟩].count .rparen = 0 := by decide
    omega
  obtain ⟨r, hr, -, -, -, hcount⟩ := (toPostfix_conserves _).2.1 hb
  exact ⟨r, hr, by rw [hcount]; decide⟩

end Algebraic

end Abacus
