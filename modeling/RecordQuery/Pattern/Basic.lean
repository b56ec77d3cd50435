import RecordQuery.Pattern.Automaton
import RecordQuery.Pattern.Reader.Group
import RecordQuery.Pattern.Scan

/-! # Patterns

A pattern is a text that spells an expression. Nesting and size have limits.
-/

namespace RecordQuery

namespace Pattern

/-- How deep groups, repetitions, sequences, alternatives and sets may nest. -/
def nestingLimit : Nat := 250

def read? (text : String) : Option Expr := do
  let cs := text.toList
  let (part, reading) ← (Reader.readAlternatives {} [] [] (cs.length + 1)).run { rest := cs }
  if reading.rest.isEmpty ∧ part.depth ≤ nestingLimit ∧ part.expr.fits then some part.expr
  else none

end Pattern

/-- A pattern and the text that spells it. -/
structure Pattern where
  source : String
  expr : Pattern.Expr
  spelled : Pattern.read? source = some expr

namespace Pattern

def ofText? (source : String) : Option Pattern :=
  match h : read? source with
  | some expr => some ⟨source, expr, h⟩
  | none => none

def matchesText (p : Pattern) (s : String) : Bool :=
  p.expr.matchesIn s.toList

@[ext] theorem ext_source {p q : Pattern} (h : p.source = q.source) : p = q := by
  obtain ⟨s, e, hs⟩ := p
  obtain ⟨t, f, ht⟩ := q
  cases h
  cases hs.symm.trans ht
  rfl

end Pattern

end RecordQuery
