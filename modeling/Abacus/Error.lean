import Abacus.Binary.Power
import Abacus.Decimal.Context
import Abacus.Text.Quoted
import Abacus.Token

/-!
# Why an expression has no value

Every stage from text to value can reject its input: the lexer, the reordering into
postfix for each notation, and the evaluation with its arithmetic. Each reason is a
constructor of `Error`, and `Error.message` is the one place where they are worded.
-/

namespace Abacus

/-- Why an expression cannot be turned into a single value. -/
inductive Error where
  | unexpectedChar (c : Char)
  | invalidNumber (literal : String)
  | mismatchedParens
  | operatorAfterValue (o : Op)
  | valueBeforeOperator (x : Decimal)
  | parenInCustom
  | noOperator
  | noValue
  | missingOperands (o : Op)
  | parenInPostfix (opening : Bool)
  | leftover (count : Nat)
  | fault (o : Op) (a b : Decimal) (f : Fault)
  | power (a b : Decimal) (f : Binary.PowerFault)
  deriving Inhabited

namespace Error

/-- The message that reports the error. -/
def message : Error → String
  | .unexpectedChar c => "Unexpected character: " ++ Text.quote (String.singleton c)
  | .invalidNumber s => "Invalid number: " ++ Text.quote s
  | .mismatchedParens => "Mismatched parentheses"
  | .operatorAfterValue o => "Operator '" ++ String.singleton o.symbol ++ "' after a value"
  | .valueBeforeOperator x => "Value " ++ x.toText ++ " before any operator"
  | .parenInCustom => "Parentheses are not allowed in custom notation"
  | .noOperator => "Custom notation needs at least one operator"
  | .noValue => "Custom notation needs at least one value"
  | .missingOperands o => "Not enough operands for '" ++ String.singleton o.symbol ++ "'"
  | .parenInPostfix opening =>
    "Unexpected '" ++ (if opening then "(" else ")") ++ "' in postfix expression"
  | .leftover k => "Expression left " ++ toString k ++ " values, expected 1"
  | .fault o a b f =>
    "Cannot compute " ++ a.toText ++ " " ++ String.singleton o.symbol ++ " " ++ b.toText ++
      ": " ++ f.name
  | .power a b .domain => "Cannot compute " ++ a.toText ++ " ^ " ++ b.toText ++ ": math domain error"
  | .power a b .range => "Cannot compute " ++ a.toText ++ " ^ " ++ b.toText ++ ": math range error"
  | .power a b .notFinite => a.toText ++ " ^ " ++ b.toText ++ " is not finite"

end Error

end Abacus
