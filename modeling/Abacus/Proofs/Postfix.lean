import Abacus.Expr

/-!
# Running the postfix tokens of a tree

Running an expression's postfix tokens on a stack pushes the expression's value, or stops
at the error its bottom-up evaluation meets first: the stack machine and the tree agree for
every way of combining values. A run that succeeds has read no parenthesis.
-/

namespace Abacus

namespace Postfix

variable (f : Combine)

theorem runWith_postorder_append (e : Expr) (rest : List Token) (stack : List Decimal) :
    runWith f (e.postorder ++ rest) stack =
      match e.evalWith f with
      | .ok v => runWith f rest (v :: stack)
      | .error err => .error err := by
  induction e generalizing rest stack with
  | lit x => rfl
  | node o l r ihl ihr =>
    rw [Expr.postorder, List.append_assoc, List.append_assoc, ihl]
    simp only [Expr.evalWith]
    cases l.evalWith f with
    | error err => rfl
    | ok a =>
      simp only [ihr]
      cases r.evalWith f with
      | error err => rfl
      | ok b =>
        rw [List.singleton_append]
        cases hf : f o a b <;> simp [runWith, hf]

theorem evalWith_postorder (e : Expr) : evalWith f e.postorder = e.evalWith f := by
  have h := runWith_postorder_append f e [] []
  rw [List.append_nil] at h
  unfold evalWith
  rw [h]
  cases e.evalWith f <;> rfl

theorem eval_postorder (e : Expr) : eval e.postorder = e.eval :=
  evalWith_postorder Op.apply e

variable {f}

theorem runWith_ok_no_paren {ts : List Token} {stack r : List Decimal}
    (h : runWith f ts stack = .ok r) : Token.lparen ∉ ts ∧ Token.rparen ∉ ts := by
  induction ts generalizing stack with
  | nil => simp
  | cons t rest ih =>
    cases t with
    | num x => simpa using ih h
    | op o =>
      match stack, h with
      | b :: a :: stack, h =>
        simp only [runWith] at h
        split at h
        · simpa using ih h
        · cases h
      | [], h => cases h
      | [_], h => cases h
    | lparen => cases h
    | rparen => cases h

theorem evalWith_ok_no_paren {ts : List Token} {v : Decimal} (h : evalWith f ts = .ok v) :
    Token.lparen ∉ ts ∧ Token.rparen ∉ ts := by
  unfold evalWith at h
  split at h
  · exact runWith_ok_no_paren ‹_›
  · cases h
  · cases h

end Postfix

end Abacus
