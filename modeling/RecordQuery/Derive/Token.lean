/-! # Tokens of declarations

Source text is a sequence of words, punctuation marks, literals and groups in brackets.
-/

namespace RecordQuery.Derive

inductive Delimiter where
  | paren
  | bracket
  | brace
  deriving DecidableEq

namespace Delimiter

def opening : Delimiter → String
  | paren => "("
  | bracket => "["
  | brace => "\x7b"

def closing : Delimiter → String
  | paren => ")"
  | bracket => "]"
  | brace => "\x7d"

end Delimiter

/-- What a literal stands for, as far as it matters. -/
inductive LiteralValue where
  | text (value : String)
  /-- A whole number, known unless a word names its type. -/
  | integer (value : Option Nat)
  /-- A number with a fraction or an exponent. -/
  | fraction
  | other

namespace LiteralValue

def isNumber : LiteralValue → Bool
  | integer _ => true
  | fraction => true
  | _ => false

end LiteralValue

inductive Token where
  /-- An identifier or a keyword. A raw identifier keeps its mark. -/
  | word (name : String)
  /-- A punctuation mark; `joined` if another one follows without a gap. -/
  | mark (c : Char) (joined : Bool)
  | literal (spelled : String) (value : LiteralValue)
  | group (delimiter : Delimiter) (inner : List Token)
  deriving Inhabited

/-- Code as the spellings of its tokens, each bracket on its own. -/
abbrev Code := List String

namespace Token

mutual

def code : Token → Code
  | .word name => [name]
  | .mark c _ => [String.singleton c]
  | .literal spelled _ => [spelled]
  | .group delimiter inner => delimiter.opening :: (listCode inner ++ [delimiter.closing])

def listCode : List Token → Code
  | [] => []
  | token :: tokens => code token ++ listCode tokens

end

mutual

/-- The number of tokens, those in groups included. -/
def size : Token → Nat
  | .group _ inner => listSize inner + 1
  | _ => 1

def listSize : List Token → Nat
  | [] => 0
  | token :: tokens => size token + listSize tokens

end

end Token

end RecordQuery.Derive
