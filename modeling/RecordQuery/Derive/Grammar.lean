import RecordQuery.Derive.Grammar.Item
import RecordQuery.Derive.Grammar.Statement

/-! # Grammars of declarations

A grammar of a depth reads all phrases whose parts are nested no deeper. No phrase nests its parts
deeper than it has tokens, so the grammar for a list of tokens misses nothing.
-/

namespace RecordQuery.Derive

namespace Grammar

/-- Phrases whose parts a grammar reads. -/
def deeper (g : Grammar) : Grammar where
  type := g.readType
  expression := g.readExpression
  operand := g.readOperand
  bounded := g.readBounded
  further := g.readFurther
  pattern := g.readPattern
  block := g.readBlock
  item := g.readItem
  useTree := g.readUseTree

def ofDepth : Nat → Grammar
  | 0 => none
  | depth + 1 => (ofDepth depth).deeper

/-- A grammar that reads everything in a list of tokens. -/
def forTokens (tokens : List Token) : Grammar :=
  ofDepth (4 * (Token.listSize tokens + 2))

end Grammar

end RecordQuery.Derive
