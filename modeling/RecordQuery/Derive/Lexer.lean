import RecordQuery.Derive.Literal
import RecordQuery.Text.Blank
import RecordQuery.Text.Quoted

/-! # From text to tokens

Blanks and comments separate tokens, and brackets have to match. A comment that documents something
stands for an attribute with its text.
-/

namespace RecordQuery.Derive

/-! ### Comments -/

/-- The text of a comment up to its end, with the comments nested in it, and the rest. -/
def takeBlock (depth : Nat) : List Char → Option (List Char × List Char)
  | '*' :: '/' :: cs => match depth with
    | 0 => some ([], cs)
    | depth + 1 => (takeBlock depth cs).map fun (text, rest) => ('*' :: '/' :: text, rest)
  | '/' :: '*' :: cs =>
    (takeBlock (depth + 1) cs).map fun (text, rest) => ('/' :: '*' :: text, rest)
  | c :: cs => (takeBlock depth cs).map fun (text, rest) => (c :: text, rest)
  | [] => none

def takeLine : List Char → List Char × List Char
  | [] => ([], [])
  | '\n' :: cs => ([], '\n' :: cs)
  | '\r' :: '\n' :: cs => ([], '\n' :: cs)
  | c :: cs => let (text, rest) := takeLine cs; (c :: text, rest)

def isGap (c : Char) : Bool :=
  Text.isBlankChar c || c == '\u200e' || c == '\u200f'

/-- Drops blanks and comments; comments that document something are none. -/
def skipGaps : Nat → List Char → List Char
  | 0, cs => cs
  | fuel + 1, cs =>
    let block (text : List Char) : List Char := match takeBlock 0 text with
      | some (_, rest) => skipGaps fuel rest
      | none => cs
    match cs with
    | '/' :: '/' :: '!' :: _ => cs
    | '/' :: '/' :: '/' :: '/' :: rest => skipGaps fuel (takeLine rest).2
    | '/' :: '/' :: '/' :: _ => cs
    | '/' :: '/' :: rest => skipGaps fuel (takeLine rest).2
    | '/' :: '*' :: '*' :: '/' :: rest => skipGaps fuel rest
    | '/' :: '*' :: '!' :: _ => cs
    | '/' :: '*' :: '*' :: '*' :: rest => block ('*' :: '*' :: rest)
    | '/' :: '*' :: '*' :: _ => cs
    | '/' :: '*' :: rest => block rest
    | c :: rest => if isGap c then skipGaps fuel rest else cs
    | [] => []

/-- The text of a comment that documents what stands behind it or, if the flag is set, what stands
around it. -/
def readDocumentation : List Char → Option (List Char × Bool × List Char)
  | '/' :: '/' :: '!' :: rest => let (text, rest) := takeLine rest; some (text, true, rest)
  | '/' :: '/' :: '/' :: rest => let (text, rest) := takeLine rest; some (text, false, rest)
  | '/' :: '*' :: '!' :: rest => (takeBlock 0 ('!' :: rest)).map fun (text, rest) =>
    (text.drop 1, true, rest)
  | '/' :: '*' :: '*' :: rest => (takeBlock 0 ('*' :: rest)).map fun (text, rest) =>
    (text.drop 1, false, rest)
  | _ => none

/-- Every carriage return stands before a line feed. -/
def linesEnd : List Char → Bool
  | [] => true
  | c :: cs => (c != '\r' || cs.head? == some '\n') && linesEnd cs

/-- The literal for a text. A zero before an octal digit is escaped with two digits. -/
def spellText : List Char → List Char
  | [] => []
  | '\x00' :: cs =>
    (if cs.head?.any (fun c => '0' ≤ c && c ≤ '7') then ['\\', 'x', '0', '0'] else ['\\', '0']) ++
      spellText cs
  | c :: cs => Text.quoteChar c ++ spellText cs

def documentation (text : List Char) (outward : Bool) : List Token :=
  .mark '#' false :: ((if outward then [.mark '!' false] else []) ++ [.group .bracket
    [.word "doc", .mark '=' false, .literal
      (String.ofList ('\x22' :: spellText text ++ ['\x22'])) (.text (String.ofList text))]])

/-! ### Words and marks -/

def readWord (cs : List Char) : Option (List Char × List Char) :=
  match cs with
  | 'r' :: '#' :: rest => match takeWord? rest with
    | some (word, rest) =>
      if ["_", "super", "self", "Self", "crate"].contains (String.ofList word) then none
      else some ('r' :: '#' :: word, rest)
    | none => none
  | cs => takeWord? cs

/-- The text begins like a literal with letters in front. -/
def resemblesLiteral (cs : List Char) : Bool :=
  [['r', '\x22'], ['r', '#', '\x22'], ['r', '#', '#'], ['b', '\x22'], ['b', '\''], ['b', 'r', '\x22'],
    ['b', 'r', '#'], ['c', '\x22'], ['c', 'r', '\x22'], ['c', 'r', '#']].any (List.isPrefixOf · cs)

def isMark (c : Char) : Bool :=
  ['~', '!', '@', '#', '$', '%', '^', '&', '*', '-', '=', '+', '|', ';', ':', ',', '<', '.', '>',
    '/', '?', '\''].contains c

/-- A mark stands at the front; the slash of a comment is none. -/
def startsMark : List Char → Bool
  | '/' :: '/' :: _ => false
  | '/' :: '*' :: _ => false
  | c :: _ => isMark c
  | [] => false

/-- The mark of a lifetime belongs to the word behind it, which no quote or hash ends. -/
def opensLifetime (cs : List Char) : Bool :=
  match readWord cs with
  | some (_, '\'' :: _) => false
  | some (_, '#' :: _) => ['r', '#'].isPrefixOf cs
  | some _ => true
  | none => false

/-! ### Tokens -/

inductive Lexeme where
  | opening (delimiter : Delimiter)
  | closing (delimiter : Delimiter)
  | token (t : Token)

def readPlain (cs : List Char) : Option (Lexeme × List Char) :=
  match cs with
  | [] => none
  | '(' :: rest => some (.opening .paren, rest)
  | '[' :: rest => some (.opening .bracket, rest)
  | '\x7b' :: rest => some (.opening .brace, rest)
  | ')' :: rest => some (.closing .paren, rest)
  | ']' :: rest => some (.closing .bracket, rest)
  | '\x7d' :: rest => some (.closing .brace, rest)
  | '\'' :: rest => if opensLifetime rest then some (.token (.mark '\'' true), rest) else none
  | c :: rest =>
    if startsMark cs then some (.token (.mark c (startsMark rest)), rest)
    else if resemblesLiteral cs then none
    else (readWord cs).map fun (word, rest) => (.token (.word (String.ofList word)), rest)

def unknownLiteral : List Char :=
  ['(', '/', '*', 'E', 'R', 'R', 'O', 'R', '*', '/', ')']

def readLexeme (cs : List Char) : Option (Lexeme × List Char) :=
  if unknownLiteral.isPrefixOf cs then
    some (.token (.literal (String.ofList unknownLiteral) .other), cs.drop unknownLiteral.length)
  else match readLiteral cs with
  | some (value, rest) =>
    some (.token (.literal (String.ofList (cs.take (cs.length - rest.length))) value), rest)
  | none => readPlain cs

def readLexemes : Nat → List Char → Option (List Lexeme)
  | 0, _ => none
  | fuel + 1, cs => match skipGaps cs.length cs with
    | [] => some []
    | cs => match readDocumentation cs with
      | some (text, outward, rest) =>
        if linesEnd text then
          (readLexemes fuel rest).map ((documentation text outward).map Lexeme.token ++ ·)
        else none
      | none => do
        let (lexeme, rest) ← readLexeme cs
        let lexemes ← readLexemes fuel rest
        some (lexeme :: lexemes)

/-- Collects the tokens between brackets. `outer` holds what stands before each open bracket; all
lists are reversed. -/
def nest (outer : List (Delimiter × List Token)) (done : List Token) :
    List Lexeme → Option (List Token)
  | [] => if outer.isEmpty then some done.reverse else none
  | .token t :: rest => nest outer (t :: done) rest
  | .opening d :: rest => nest ((d, done) :: outer) [] rest
  | .closing d :: rest => match outer with
    | (opened, before) :: outer =>
      if opened = d then nest outer (.group d done.reverse :: before) rest else none
    | [] => none

def scan? (text : List Char) : Option (List Token) :=
  (readLexemes (text.length + 1) text).bind (nest [] [])

end RecordQuery.Derive
