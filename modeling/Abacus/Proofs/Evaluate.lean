import Mathlib.Data.List.Chain
import Abacus.Evaluate
import Abacus.Proofs.Algebraic
import Abacus.Proofs.Detect
import Abacus.Proofs.Postfix

/-!
# Values of texts

A text that writes an expression in algebraic notation has the expression's value, read in
algebraic notation or with the notation guessed, unless its first token is a negative
literal (`evaluate_written`). A text that lists an expression's tokens in postfix order is
guessed to be reverse Polish exactly when a literal that is not negative follows another
literal at once, and then has the expression's value (`evaluate_postorder`); otherwise it is
read as algebraic notation, where the operators are regrouped (`postorder_misread`).
Parentheses that do not pair up leave a text without a value in every notation, and any
parenthesis does in reverse Polish and custom notation (`evaluate_eq_none_of_parens`).
-/

namespace Abacus

/-! ## Written expressions -/

def Token.isNum : Token → Bool
  | .num _ => true
  | _ => false

def Token.Apart (a b : Token) : Prop := a.isNum = false ∨ b.isNum = false

namespace Expr

theorem isChain_append_op {ts us : List Token} {o : Op} (ha : ts.IsChain Token.Apart)
    (hb : us.IsChain Token.Apart) : (ts ++ .op o :: us).IsChain Token.Apart := by
  refine ha.append (hb.cons fun _ _ => .inl rfl) ?_
  intro _ _ y hy
  simp only [List.head?_cons, Option.mem_def, Option.some.injEq] at hy
  subst hy
  exact .inr rfl

theorem written_isChain {p : Nat} {ts : List Token} {e : Expr} (h : Written p ts e) :
    ts.IsChain Token.Apart := by
  induction h with
  | lit x => exact List.isChain_singleton _
  | paren _ ih =>
    refine List.IsChain.cons (ih.append (List.isChain_singleton _) ?_) fun _ _ => .inl rfl
    intro _ _ y hy
    simp only [List.head?_cons, Option.mem_def, Option.some.injEq] at hy
    subst hy
    exact .inr rfl
  | base _ ih | factor _ ih | term _ ih => exact ih
  | pow _ _ iha ihb | mul _ _ _ iha ihb | add _ _ _ iha ihb => exact isChain_append_op iha ihb

theorem not_numberPair_of_written {p : Nat} {ts : List Token} {e : Expr} (h : Written p ts e) :
    ¬ Token.NumberPair ts := by
  rintro ⟨pre, x, y, post, rfl, -⟩
  have := (List.isChain_append_cons_cons.mp (written_isChain h)).2.1
  simp [Token.Apart, Token.isNum] at this

theorem written_head {p : Nat} {ts : List Token} {e : Expr} (h : Written p ts e) :
    ∃ t rest, ts = t :: rest ∧ (t = .lparen ∨ ∃ x, t = .num x) := by
  induction h with
  | lit x => exact ⟨_, [], rfl, .inr ⟨x, rfl⟩⟩
  | paren _ _ => exact ⟨_, _, rfl, .inl rfl⟩
  | base _ ih | factor _ ih | term _ ih => exact ih
  | pow _ _ iha _ | mul _ _ _ iha _ | add _ _ _ iha _ =>
    obtain ⟨t, rest, rfl, ht⟩ := iha
    exact ⟨t, _, rfl, ht⟩

theorem postorder_head (e : Expr) : ∃ x rest, e.postorder = .num x :: rest := by
  induction e with
  | lit x => exact ⟨x, [], rfl⟩
  | node o l r ihl _ =>
    obtain ⟨x, rest, hl⟩ := ihl
    exact ⟨x, rest ++ r.postorder ++ [.op o], by simp [postorder, hl]⟩

end Expr

/-! ## From a text to its value -/

theorem evaluate_eq (s : String) (n : Option Notation) :
    evaluate s n = (valueIn s (n.getD (Notation.detect s))).toOption := by
  unfold evaluate
  cases valueIn s (n.getD (Notation.detect s)) <;> rfl

theorem toPostfix_of_scan {s : String} {ts : List Token} (h : Token.scan s = .ok ts)
    (n : Notation) :
    toPostfix s n = match n with
      | .reversePolish => .ok ts
      | .algebraic => Algebraic.toPostfix ts
      | .custom => Custom.toPostfix ts := by
  cases n <;> simp [toPostfix, h]

theorem valueIn_postorder {s : String} {n : Notation} {e : Expr}
    (h : toPostfix s n = .ok e.postorder) : valueIn s n = e.eval := by
  unfold valueIn
  rw [h]
  exact Postfix.eval_postorder e

theorem valueIn_ok {s : String} {n : Notation} {v : Decimal} (h : valueIn s n = .ok v) :
    ∃ r, toPostfix s n = .ok r ∧ Postfix.eval r = .ok v := by
  unfold valueIn at h
  split at h
  · exact ⟨_, ‹_›, h⟩
  · cases h

/-! ## Algebraic notation -/

theorem detect_written {s : String} {ts : List Token} {e : Expr} (hs : Token.scan s = .ok ts)
    (h : Expr.Written 2 ts e) (hneg : ∀ x, ts.head? = some (.num x) → x.neg = false) :
    Notation.detect s = .algebraic := by
  obtain ⟨t, rest, rfl, ht⟩ := Expr.written_head h
  have hc : Notation.startsCustom s.toList = false := by
    refine Notation.startsCustom_eq_false hs ?_
    rcases ht with rfl | ⟨x, rfl⟩
    · exact .inl rfl
    · exact .inr ⟨x, rfl, hneg x rfl⟩
  exact (Notation.detect_of_startsCustom_false hs hc).2.mpr (Expr.not_numberPair_of_written h)

/-- Algebraic tokens that write an expression are reordered into its postfix tokens, which
evaluate to its value for every way of combining values; a text with these tokens has the
expression's value in algebraic notation, and also with the notation guessed unless its
first token is a negative literal. -/
theorem evaluate_written {ts : List Token} {e : Expr} (h : Expr.Written 2 ts e) :
    Algebraic.toPostfix ts = .ok e.postorder ∧
      (∀ f, (Algebraic.toPostfix ts).bind (Postfix.evalWith f) = e.evalWith f) ∧
      ∀ s, Token.scan s = .ok ts →
        evaluate s (some .algebraic) = e.eval.toOption ∧
          ((∀ x, ts.head? = some (.num x) → x.neg = false) →
            evaluate s none = e.eval.toOption) := by
  have hpost := Algebraic.toPostfix_written h
  refine ⟨hpost, fun f => by rw [hpost]; exact Postfix.evalWith_postorder f e, fun s hs => ?_⟩
  have hval : valueIn s .algebraic = e.eval := by
    refine valueIn_postorder ?_
    rw [toPostfix_of_scan hs]
    exact hpost
  refine ⟨by simp [evaluate_eq, hval], fun hneg => ?_⟩
  simp [evaluate_eq, detect_written hs h hneg, hval]

theorem evaluate_written_paren_product :
    Expr.Written 2 [.lparen, .num ⟨false, 1, 0⟩, .op .add, .num ⟨false, 2, 0⟩, .rparen,
        .op .mul, .num ⟨false, 3, 0⟩, .op .sub, .num ⟨false, 4, 0⟩]
      (.node .sub (.node .mul (.node .add (.lit ⟨false, 1, 0⟩) (.lit ⟨false, 2, 0⟩))
        (.lit ⟨false, 3, 0⟩)) (.lit ⟨false, 4, 0⟩)) ∧
    Token.scan "(1 + 2) * 3 - 4" = .ok [.lparen, .num ⟨false, 1, 0⟩, .op .add,
        .num ⟨false, 2, 0⟩, .rparen, .op .mul, .num ⟨false, 3, 0⟩, .op .sub, .num ⟨false, 4, 0⟩] ∧
    evaluate "(1 + 2) * 3 - 4" none = some ⟨false, 5, 0⟩ := by
  have hw : Expr.Written 2 [.lparen, .num ⟨false, 1, 0⟩, .op .add, .num ⟨false, 2, 0⟩, .rparen,
      .op .mul, .num ⟨false, 3, 0⟩, .op .sub, .num ⟨false, 4, 0⟩]
      (.node .sub (.node .mul (.node .add (.lit ⟨false, 1, 0⟩) (.lit ⟨false, 2, 0⟩))
        (.lit ⟨false, 3, 0⟩)) (.lit ⟨false, 4, 0⟩)) :=
    .add (.inr rfl) (.term (.mul (.inl rfl) (.factor (.base (.paren (.add (.inl rfl)
      (.term (.factor (.base (.lit _)))) (.factor (.base (.lit _)))))))
      (.base (.lit _)))) (.factor (.base (.lit _)))
  have hs : Token.scan "(1 + 2) * 3 - 4" = .ok [.lparen, .num ⟨false, 1, 0⟩, .op .add,
      .num ⟨false, 2, 0⟩, .rparen, .op .mul, .num ⟨false, 3, 0⟩, .op .sub,
      .num ⟨false, 4, 0⟩] := rfl
  refine ⟨hw, hs, ?_⟩
  rw [((evaluate_written hw).2.2 _ hs).2 fun x hx => by cases hx]
  decide +kernel

/-! ## Postfix order -/

/-- A text that lists an expression's tokens in postfix order, with a literal that is not
negative first, is guessed to be reverse Polish exactly when a literal that is not negative
follows another literal at once, and algebraic otherwise; as reverse Polish it has the
expression's value. -/
theorem evaluate_postorder {e : Expr} {s : String} (hs : Token.scan s = .ok e.postorder)
    (hfirst : ∀ x, e.postorder.head? = some (.num x) → x.neg = false) :
    (Notation.detect s = .reversePolish ↔ Token.NumberPair e.postorder) ∧
      (Notation.detect s = .algebraic ↔ ¬ Token.NumberPair e.postorder) ∧
      (Token.NumberPair e.postorder → evaluate s none = e.eval.toOption) := by
  obtain ⟨x, rest, hx⟩ := Expr.postorder_head e
  have hneg : x.neg = false := hfirst x (by simp [hx])
  have hc : Notation.startsCustom s.toList = false := by
    rw [hx] at hs
    exact Notation.startsCustom_eq_false hs (.inr ⟨x, rfl, hneg⟩)
  obtain ⟨hdet, halg⟩ := Notation.detect_of_startsCustom_false hs hc
  refine ⟨hdet, halg, fun hp => ?_⟩
  have hval : valueIn s .reversePolish = e.eval := by
    refine valueIn_postorder ?_
    rw [toPostfix_of_scan hs]
  simp [evaluate_eq, hdet.mpr hp, hval]

theorem evaluate_postorder_one_two_add :
    Token.scan "1 2 +" = .ok (Expr.node .add (.lit ⟨false, 1, 0⟩) (.lit ⟨false, 2, 0⟩)).postorder ∧
    Token.NumberPair (Expr.node .add (.lit ⟨false, 1, 0⟩) (.lit ⟨false, 2, 0⟩)).postorder ∧
    evaluate "1 2 +" none = some ⟨false, 3, 0⟩ := by
  have hs : Token.scan "1 2 +" =
      .ok (Expr.node .add (.lit ⟨false, 1, 0⟩) (.lit ⟨false, 2, 0⟩)).postorder := rfl
  have hp : Token.NumberPair (Expr.node .add (.lit ⟨false, 1, 0⟩) (.lit ⟨false, 2, 0⟩)).postorder :=
    ⟨[], ⟨false, 1, 0⟩, ⟨false, 2, 0⟩, [.op .add], rfl, rfl⟩
  refine ⟨hs, hp, ?_⟩
  rw [(evaluate_postorder hs fun x hx => by cases hx; rfl).2.2 hp]
  decide +kernel

/-- Postfix tokens whose second literal is negative are read as algebraic notation, and the
power of the product is regrouped: `1 -2 + 3 *` is `(1 + -2) * 3 = -3` in postfix order but
evaluates to `1 + -2 * 3 = -5`. -/
theorem postorder_misread :
    ¬ ∀ (e : Expr) (s : String), 0 < e.size → Token.scan s = .ok e.postorder →
      (∀ x, e.postorder.head? = some (.num x) → x.neg = false) →
      evaluate s none = e.eval.toOption := by
  intro h
  have := h (.node .mul (.node .add (.lit ⟨false, 1, 0⟩) (.lit ⟨true, 2, 0⟩)) (.lit ⟨false, 3, 0⟩))
    "1 -2 + 3 *" (by decide) rfl fun x hx => by cases hx; rfl
  exact absurd this (by decide +kernel)

/-! ## Parentheses -/

theorem Custom.expand_ok_no_paren {ts : List Token} {ops : List Op} {seen : Nat}
    {out r : List Token} (h : Custom.expand ts ops seen out = .ok r) :
    Token.lparen ∉ ts ∧ Token.rparen ∉ ts := by
  induction ts generalizing ops seen out with
  | nil => simp
  | cons t rest ih =>
    cases t with
    | op o =>
      simp only [Custom.expand] at h
      split at h
      · simpa using ih h
      · cases h
    | num x =>
      simp only [Custom.expand] at h
      split at h
      · cases h
      · simpa using ih h
    | lparen => cases h
    | rparen => cases h

theorem Token.balanced_of_no_paren {ts : List Token} (h : Token.lparen ∉ ts ∧ Token.rparen ∉ ts) :
    Token.Balanced ts := by
  have hz : ∀ pre, pre <+: ts → pre.count .lparen = 0 ∧ pre.count .rparen = 0 := fun pre hp =>
    ⟨List.count_eq_zero.mpr fun hm => h.1 (hp.subset hm),
      List.count_eq_zero.mpr fun hm => h.2 (hp.subset hm)⟩
  refine ⟨fun pre hp => by simp [hz pre hp], ?_⟩
  rw [(hz ts (List.prefix_refl ts)).1, (hz ts (List.prefix_refl ts)).2]

theorem valueIn_ok_parens {s : String} {ts : List Token} {n : Notation} {v : Decimal}
    (hs : Token.scan s = .ok ts) (h : valueIn s n = .ok v) :
    Token.Balanced ts ∧ (n ≠ .algebraic → Token.lparen ∉ ts ∧ Token.rparen ∉ ts) := by
  obtain ⟨r, hr, hv⟩ := valueIn_ok h
  rw [toPostfix_of_scan hs] at hr
  -- the postfix evaluator reads no parenthesis, so none may reach it: reverse Polish and
  -- custom notation pass them on, and the algebraic reordering leaves unpaired ones behind
  have hnone := Postfix.evalWith_ok_no_paren hv
  cases n with
  | reversePolish =>
    cases hr
    exact ⟨Token.balanced_of_no_paren hnone, fun _ => hnone⟩
  | algebraic =>
    refine ⟨?_, fun hn => absurd rfl hn⟩
    by_contra hb
    exact hnone.1 (Algebraic.toPostfix_ok_unbalanced hr hb)
  | custom =>
    have hts := Custom.expand_ok_no_paren hr
    exact ⟨Token.balanced_of_no_paren hts, fun _ => hts⟩

/-- Parentheses that do not pair up leave a text without a value in every notation, and in
reverse Polish or custom notation any parenthesis does. -/
theorem evaluate_eq_none_of_parens {s : String} {ts : List Token} (hs : Token.scan s = .ok ts)
    (n : Option Notation) :
    (¬ Token.Balanced ts → evaluate s n = none) ∧
      ((n.getD (Notation.detect s) = .reversePolish ∨ n.getD (Notation.detect s) = .custom) →
        (Token.lparen ∈ ts ∨ Token.rparen ∈ ts) → evaluate s n = none) := by
  rw [evaluate_eq]
  constructor
  · intro hb
    cases hv : valueIn s (n.getD (Notation.detect s)) with
    | error _ => rfl
    | ok v => exact absurd (valueIn_ok_parens hs hv).1 hb
  · intro hm hp
    cases hv : valueIn s (n.getD (Notation.detect s)) with
    | error _ => rfl
    | ok v =>
      have hn : n.getD (Notation.detect s) ≠ .algebraic := by
        rcases hm with hm | hm <;> rw [hm] <;> decide
      obtain ⟨hl, hr⟩ := (valueIn_ok_parens hs hv).2 hn
      rcases hp with hp | hp
      · exact absurd hp hl
      · exact absurd hp hr

theorem evaluate_eq_none_unclosed :
    Token.scan "(1 + 2" = .ok [.lparen, .num ⟨false, 1, 0⟩, .op .add, .num ⟨false, 2, 0⟩] ∧
    ¬ Token.Balanced [.lparen, .num ⟨false, 1, 0⟩, .op .add, .num ⟨false, 2, 0⟩] ∧
    evaluate "(1 + 2" none = none ∧
    evaluate "(1 + 2" (some .reversePolish) = none := by
  have hs : Token.scan "(1 + 2" =
      .ok [.lparen, .num ⟨false, 1, 0⟩, .op .add, .num ⟨false, 2, 0⟩] := rfl
  have hb : ¬ Token.Balanced [.lparen, .num ⟨false, 1, 0⟩, .op .add, .num ⟨false, 2, 0⟩] :=
    fun h => absurd h.2 (by decide)
  exact ⟨hs, hb, (evaluate_eq_none_of_parens hs none).1 hb,
    (evaluate_eq_none_of_parens hs (some .reversePolish)).2 (.inl rfl) (.inl (by simp))⟩

end Abacus
