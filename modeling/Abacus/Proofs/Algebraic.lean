import Abacus.Expr.Algebraic
import Abacus.Notation.Algebraic

/-!
# Shunting-yard against the algebraic grammar

While an expression of binding level `p` is read, the operators below it on the stack stay
there as long as each of them `waits` for such an expression; once a token that `ends` the
level follows it (or a closing parenthesis, or the end of the input), every operator of the
expression has left the stack, in postfix order. `Reorders p ts e` says this of every stack
and every rest of the input, and every derivation of the grammar gives it: the reordering of
algebraic tokens is the postfix form of the expression they write.

The opening parentheses on the stack count those read and not yet closed. A closing one with
no partner stops the pass, and one never closed is flushed into the output.
-/

namespace Abacus

def Token.Balanced (ts : List Token) : Prop :=
  (∀ pre, pre <+: ts → pre.count .rparen ≤ pre.count .lparen) ∧
    ts.count .lparen = ts.count .rparen

namespace Algebraic

/-- The operator `t`, waiting on the stack, stays there while an expression of binding
level `p` is read after it. -/
def waits (p : Nat) (t : Op) : Bool := t.precedence < p ∨ (t.precedence = p ∧ t.rightAssoc)

/-- The operator `o`, read right after an expression of binding level `p`, ends it. -/
def ends (p : Nat) (o : Op) : Bool := o.precedence < p ∨ (o.precedence = p ∧ !o.rightAssoc)

def StackWaits (p : Nat) : List Token → Prop
  | .op t :: _ => waits p t = true
  | _ => True

def RestEnds (p : Nat) : List Token → Prop
  | [] => True
  | .rparen :: _ => True
  | .op o :: _ => ends p o = true
  | _ => False

section
variable {p q : Nat}

theorem binds_below_mono {x : Nat} {b : Bool} (h : p ≤ q) (hx : x < p ∨ (x = p ∧ b = true)) :
    x < q ∨ (x = q ∧ b = true) := by
  rcases hx with hx | ⟨rfl, hb⟩
  · exact .inl (by omega)
  · rcases Nat.lt_or_eq_of_le h with h | rfl
    · exact .inl h
    · exact .inr ⟨rfl, hb⟩

theorem waits_mono (h : p ≤ q) {t : Op} (ht : waits p t = true) : waits q t = true := by
  simp only [waits, decide_eq_true_eq] at ht ⊢
  exact binds_below_mono h ht

theorem ends_mono (h : p ≤ q) {o : Op} (ho : ends p o = true) : ends q o = true := by
  simp only [ends, decide_eq_true_eq] at ho ⊢
  exact binds_below_mono h ho

theorem StackWaits.mono (h : p ≤ q) {stack : List Token} (hs : StackWaits p stack) :
    StackWaits q stack := by
  match stack, hs with
  | .op t :: _, hs => exact waits_mono h hs
  | [], _ | .num _ :: _, _ | .lparen :: _, _ | .rparen :: _, _ => trivial

theorem RestEnds.mono (h : p ≤ q) {rest : List Token} (hr : RestEnds p rest) :
    RestEnds q rest := by
  match rest, hr with
  | .op o :: _, hr => exact ends_mono h hr
  | [], _ | .rparen :: _, _ => trivial

end

/-! ## One operator against the stack -/

theorem yields_eq_false {t o : Op} (ht : waits o.precedence t = true) : yields t o = false := by
  revert ht
  cases t <;> cases o <;> decide

theorem yields_of_ends {t o : Op} (ho : ends t.precedence o = true) : yields t o = true := by
  revert ho
  cases t <;> cases o <;> decide

theorem popFor_of_stackWaits {o : Op} {stack : List Token} (out : List Token)
    (h : StackWaits o.precedence stack) : popFor o stack out = (stack, out) := by
  match stack, h with
  | .op t :: stack, h => simp [popFor, yields_eq_false h]
  | [], _ | .num _ :: _, _ | .lparen :: _, _ | .rparen :: _, _ => rfl

theorem shunt_pending {t : Op} {rest : List Token} (stack out : List Token)
    (hr : RestEnds t.precedence rest) :
    shunt rest (.op t :: stack) out = shunt rest stack (.op t :: out) := by
  match rest, hr with
  | [], _ => simp [shunt]
  | .rparen :: rest, _ => simp only [shunt, popToOpen]
  | .op o :: rest, hr => simp only [shunt, popFor, yields_of_ends hr, if_true]

/-! ## Reading one expression -/

def Reorders (p : Nat) (ts : List Token) (e : Expr) : Prop :=
  ∀ rest stack out, StackWaits p stack → RestEnds p rest →
    shunt (ts ++ rest) stack out = shunt rest stack (e.postorder.reverse ++ out)

theorem Reorders.mono {p q : Nat} {ts : List Token} {e : Expr} (h : p ≤ q) (hr : Reorders q ts e) :
    Reorders p ts e :=
  fun rest stack out hs he => hr rest stack out (hs.mono h) (he.mono h)

theorem reorders_lit (x : Decimal) : Reorders 5 [.num x] (.lit x) :=
  fun _ _ _ _ _ => rfl

theorem reorders_paren {ts : List Token} {e : Expr} (h : Reorders 2 ts e) :
    Reorders 5 (.lparen :: ts ++ [.rparen]) e := by
  intro rest stack out _ _
  calc shunt ((.lparen :: ts ++ [.rparen]) ++ rest) stack out
      = shunt (ts ++ .rparen :: rest) (.lparen :: stack) out := by simp [shunt]
    _ = shunt (.rparen :: rest) (.lparen :: stack) (e.postorder.reverse ++ out) :=
        h _ _ _ trivial trivial
    _ = shunt rest stack (e.postorder.reverse ++ out) := rfl

theorem reorders_node {o : Op} {p pl pr : Nat} {ts us : List Token} {a b : Expr}
    (ho : o.precedence = p) (hl : ends pl o = true) (hw : waits pr o = true)
    (hpl : p ≤ pl) (hpr : p ≤ pr) (ha : Reorders pl ts a) (hb : Reorders pr us b) :
    Reorders p (ts ++ .op o :: us) (.node o a b) := by
  intro rest stack out hs he
  subst ho
  calc shunt ((ts ++ .op o :: us) ++ rest) stack out
      = shunt (.op o :: (us ++ rest)) stack (a.postorder.reverse ++ out) := by
        rw [List.append_assoc, List.cons_append]
        exact ha _ _ _ (hs.mono hpl) hl
    _ = shunt (us ++ rest) (.op o :: stack) (a.postorder.reverse ++ out) := by
        simp only [shunt, popFor_of_stackWaits _ hs]
    _ = shunt rest (.op o :: stack) (b.postorder.reverse ++ a.postorder.reverse ++ out) := by
        rw [hb rest (.op o :: stack) _ hw (he.mono hpr), List.append_assoc]
    _ = shunt rest stack (.op o :: b.postorder.reverse ++ a.postorder.reverse ++ out) :=
        shunt_pending _ _ he
    _ = shunt rest stack ((Expr.node o a b).postorder.reverse ++ out) := by
        simp [Expr.postorder]

theorem reorders_of_written {p : Nat} {ts : List Token} {e : Expr} (h : Expr.Written p ts e) :
    Reorders p ts e := by
  -- the power reads its left operand one level up and its right one at its own level; the
  -- product and the sum the other way round, which makes them group to the left
  induction h with
  | lit x => exact reorders_lit x
  | paren _ ih => exact reorders_paren ih
  | base _ ih => exact ih.mono (by omega)
  | pow _ _ iha ihb => exact reorders_node rfl rfl rfl (by omega) (Nat.le_refl _) iha ihb
  | factor _ ih => exact ih.mono (by omega)
  | mul ho _ _ iha ihb =>
    rcases ho with rfl | rfl
    all_goals exact reorders_node rfl rfl rfl (Nat.le_refl _) (by omega) iha ihb
  | term _ ih => exact ih.mono (by omega)
  | add ho _ _ iha ihb =>
    rcases ho with rfl | rfl
    all_goals exact reorders_node rfl rfl rfl (Nat.le_refl _) (by omega) iha ihb

theorem toPostfix_written {ts : List Token} {e : Expr} (h : Expr.Written 2 ts e) :
    toPostfix ts = .ok e.postorder := by
  have h := reorders_of_written h [] [] [] trivial trivial
  rw [List.append_nil] at h
  simpa [toPostfix, shunt] using h

/-! ## Parentheses -/

theorem popFor_count_lparen (o : Op) (stack out : List Token) :
    (popFor o stack out).1.count .lparen = stack.count .lparen ∧
      (popFor o stack out).2.count .lparen = out.count .lparen := by
  fun_induction popFor o stack out with
  | case1 t stack out _ ih => simpa using ih
  | case2 => simp
  | case3 => simp

theorem popToOpen_count_lparen {stack out s o : List Token}
    (h : popToOpen stack out = .ok (s, o)) :
    s.count .lparen + 1 = stack.count .lparen ∧ o.count .lparen = out.count .lparen := by
  fun_induction popToOpen stack out with
  | case1 => cases h
  | case2 => cases h; simp
  | case3 t stack out ht ih =>
    have hne : (t == Token.lparen) = false := beq_eq_false_iff_ne.mpr ht
    obtain ⟨hs, ho⟩ := ih h
    simp only [List.count_cons, hne, Bool.false_eq_true, if_false, Nat.add_zero] at ho ⊢
    exact ⟨hs, ho⟩

theorem prefix_count_cons {t : Token} {rest : List Token} (k' : Nat) {k : Nat}
    (hk : k' + [t].count .rparen = k + [t].count .lparen)
    (h : ∀ pre, pre <+: rest → pre.count .rparen ≤ k' + pre.count .lparen) :
    ∀ pre, pre <+: t :: rest → pre.count .rparen ≤ k + pre.count .lparen := by
  intro pre hp
  rcases List.prefix_cons_iff.mp hp with rfl | ⟨pre', rfl, hp'⟩
  · simp
  · have := h pre' hp'
    cases t <;> simp at hk ⊢ <;> omega

theorem shunt_ok_parens {ts stack out r : List Token} (h : shunt ts stack out = .ok r) :
    (∀ pre, pre <+: ts → pre.count .rparen ≤ stack.count .lparen + pre.count .lparen) ∧
      r.count .lparen + ts.count .rparen =
        out.count .lparen + stack.count .lparen + ts.count .lparen := by
  induction ts generalizing stack out with
  | nil =>
    simp only [shunt, Except.ok.injEq] at h
    subst h
    refine ⟨fun pre hp => ?_, by simp⟩
    rw [List.prefix_nil.mp hp]
    simp
  | cons t rest ih =>
    cases t with
    | num x =>
      obtain ⟨hpre, hcount⟩ := ih h
      refine ⟨prefix_count_cons _ (by simp) hpre, ?_⟩
      simp at hcount ⊢
      omega
    | op o =>
      rcases hp : popFor o stack out with ⟨s, o'⟩
      simp only [shunt, hp] at h
      obtain ⟨hs, ho⟩ := popFor_count_lparen o stack out
      rw [hp] at hs ho
      obtain ⟨hpre, hcount⟩ := ih h
      have hk : (Token.op o :: s).count .lparen = stack.count .lparen := by
        simpa [List.count_cons] using hs
      rw [hk] at hpre hcount
      refine ⟨prefix_count_cons (stack.count .lparen) (by simp) hpre, ?_⟩
      simp at ho ⊢
      omega
    | lparen =>
      obtain ⟨hpre, hcount⟩ := ih h
      refine ⟨prefix_count_cons (stack.count .lparen + 1) (by simp) (by simpa using hpre), ?_⟩
      simp at hcount ⊢
      omega
    | rparen =>
      -- the closing parenthesis takes its partner off the stack, or the pass stops
      simp only [shunt] at h
      split at h
      · rename_i s o' hs
        obtain ⟨hs, ho⟩ := popToOpen_count_lparen hs
        obtain ⟨hpre, hcount⟩ := ih h
        refine ⟨prefix_count_cons (s.count .lparen) (by simp; omega) hpre, ?_⟩
        simp at hcount ⊢
        omega
      · cases h

theorem toPostfix_ok_unbalanced {ts r : List Token} (h : toPostfix ts = .ok r)
    (hb : ¬ Token.Balanced ts) : Token.lparen ∈ r := by
  obtain ⟨hpre, hcount⟩ := shunt_ok_parens h
  simp only [List.count_nil, Nat.zero_add] at hpre hcount
  have hle : ts.count .rparen ≤ ts.count .lparen := hpre ts (List.prefix_refl ts)
  have hne : ts.count .lparen ≠ ts.count .rparen := fun heq => hb ⟨hpre, heq⟩
  exact List.count_pos_iff.mp (by omega)

end Algebraic

end Abacus
