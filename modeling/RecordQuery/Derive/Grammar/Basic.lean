import RecordQuery.Derive.Reader
import RecordQuery.Derive.TypeExpr

/-! # Phrases of declarations

Types hold expressions, expressions hold blocks, blocks hold declarations, and declarations hold
types again. The readers of these phrases are defined on top of a grammar, a record of readers for
the phrases inside them. With each step a grammar reads phrases that are nested one level deeper.
-/

namespace RecordQuery.Derive

/-- What else a type can be a part of. -/
inductive TypeRole where
  /-- One name, perhaps with arguments: a value or bounds may follow it among arguments. -/
  | name
  /-- Names with separators between them: a bound. -/
  | path
  /-- A single bound, perhaps with lifetimes that it ranges over. -/
  | bound
  | other
  deriving DecidableEq

/-- What matters of an expression for what may stand around it. -/
inductive ExpressionForm where
  /-- Nothing but a text. -/
  | text (value : String)
  | range
  | comparison
  /-- A block or what ends in one: it needs no mark behind it. -/
  | block
  | bracedCall
  | other
  deriving DecidableEq

/-- What matters of a pattern for what may stand around it. -/
inductive PatternForm where
  | rest
  | openRange
  | other
  deriving DecidableEq

/-- How tight an operator binds, from loose to tight. -/
inductive Precedence where
  | jump
  | assign
  | range
  | or
  | and
  | compare
  | bitOr
  | bitXor
  | bitAnd
  | shift
  | sum
  | product
  | cast
  deriving DecidableEq

def Precedence.rank : Precedence → Nat
  | jump => 0
  | assign => 1
  | range => 2
  | or => 3
  | and => 4
  | compare => 5
  | bitOr => 6
  | bitXor => 7
  | bitAnd => 8
  | shift => 9
  | sum => 10
  | product => 11
  | cast => 12

/-- Readers of phrases that can be nested. -/
structure Grammar where
  /-- A type. A sum of bounds may stand where the flag says so. -/
  type : Bool → Reader (TypeExpr × TypeRole)
  /-- An expression. A name may be followed by fields in braces where the flag says so. -/
  expression : Bool → Reader ExpressionForm
  /-- An expression without operators between operands. -/
  operand : Bool → Reader ExpressionForm
  /-- An expression at the beginning of a statement or an arm. -/
  bounded : Reader ExpressionForm
  /-- The operators and operands that follow an operand and bind at least as tight as given. -/
  further : ExpressionForm → Bool → Precedence → Reader ExpressionForm
  /-- A pattern without alternatives. -/
  pattern : Reader PatternForm
  /-- Statements in braces. Attributes of the block may come first where the flag says so. -/
  block : Bool → Reader Unit
  item : Reader Unit
  /-- The names of a `use` declaration. They may begin with a separator where the flag says so. -/
  useTree : Bool → Reader Unit

namespace Grammar

def none : Grammar where
  type _ := failure
  expression _ := failure
  operand _ := failure
  bounded := failure
  further _ _ _ := failure
  pattern := failure
  block _ := failure
  item := failure
  useTree _ := failure

/-- A type as a part of something else. -/
def anyType (g : Grammar) (plus : Bool) : Reader Unit := do
  let _ ← g.type plus

def anyExpression (g : Grammar) : Reader Unit := do
  let _ ← g.expression true

end Grammar

end RecordQuery.Derive
