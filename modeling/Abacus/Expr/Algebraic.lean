import Abacus.Expr

/-!
# The grammar of algebraic notation

Which token lists write which expression, in algebraic notation. Sums and differences
group to the left over products and quotients, which group to the left over powers; a
power groups to the right, and its base is a number or a parenthesized expression.
Parentheses may enclose any expression, also where they change nothing.

`Written p ts e` says that the tokens `ts` write `e` at binding level `p`: level 2 is a
whole expression, level 3 a product, level 4 a power and level 5 a single operand.
-/

namespace Abacus

namespace Expr

/-- The tokens `ts` write the expression at a binding level. -/
inductive Written : Nat → List Token → Expr → Prop where
  | lit (x : Decimal) : Written 5 [.num x] (.lit x)
  | paren {ts : List Token} {e : Expr} :
      Written 2 ts e → Written 5 (.lparen :: ts ++ [.rparen]) e
  | base {ts : List Token} {e : Expr} : Written 5 ts e → Written 4 ts e
  | pow {ts us : List Token} {a b : Expr} :
      Written 5 ts a → Written 4 us b → Written 4 (ts ++ .op .pow :: us) (.node .pow a b)
  | factor {ts : List Token} {e : Expr} : Written 4 ts e → Written 3 ts e
  | mul {ts us : List Token} {a b : Expr} {o : Op} :
      o = .mul ∨ o = .div → Written 3 ts a → Written 4 us b →
      Written 3 (ts ++ .op o :: us) (.node o a b)
  | term {ts : List Token} {e : Expr} : Written 3 ts e → Written 2 ts e
  | add {ts us : List Token} {a b : Expr} {o : Op} :
      o = .add ∨ o = .sub → Written 2 ts a → Written 3 us b →
      Written 2 (ts ++ .op o :: us) (.node o a b)

end Expr

end Abacus
