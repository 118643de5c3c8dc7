import GlslPrelude.Condition.Basic

/-!
# Text of conditions

A condition is written as it would stand behind `#if`: compound operands are put in parentheses, and
the empty conjunction and disjunction are written `1` and `0`.
-/

namespace GlslPrelude

namespace Condition

/-- Whether the condition is written without parentheses as an operand. -/
def isAtomic : Condition → Bool
  | .all (_ :: _) | .any (_ :: _) => false
  | _ => true

/-- An operand's text, in parentheses unless the operand is atomic. -/
def enclose (p : Condition) (text : String) : String :=
  if p.isAtomic then text else "(" ++ text ++ ")"

mutual

/-- Text of the condition. -/
def render : Condition → String
  | .always => "1"
  | .flag f => f.macroName
  | .not p => "!" ++ p.enclose p.render
  | .all [] => "1"
  | .any [] => "0"
  | .all (p :: ps) => p.enclose p.render ++ renderTerms " && " ps
  | .any (p :: ps) => p.enclose p.render ++ renderTerms " || " ps

/-- Text of the terms that follow the first one, each behind the separator. -/
def renderTerms (separator : String) : List Condition → String
  | [] => ""
  | p :: ps => separator ++ p.enclose p.render ++ renderTerms separator ps

end

end Condition

end GlslPrelude
