import RecordQuery.Derive.Token
import RecordQuery.Text.Class.Identifiers
import RecordQuery.Text.Hex

/-! # Literals

Numbers, characters and quoted texts at the front of a source text. Quoted texts come in three
kinds that differ in what may stand between the quotes, and each kind may be raw, without escapes
and between hashes.
-/

namespace RecordQuery.Derive

/-! ### Words -/

def opensWord (c : Char) : Bool :=
  c == '_' || Text.identifierStart.has c

def continuesWord (c : Char) : Bool :=
  Text.identifierContinue.has c

def takeWord? : List Char → Option (List Char × List Char)
  | [] => none
  | c :: cs =>
    if opensWord c then some (c :: cs.takeWhile continuesWord, cs.dropWhile continuesWord)
    else none

def isWord (cs : List Char) : Bool :=
  match takeWord? cs with
  | some (_, rest) => rest.isEmpty
  | none => false

/-- A literal may be followed by a word that names its type. -/
def dropSuffix (cs : List Char) : List Char :=
  match takeWord? cs with
  | some (_, rest) => rest
  | none => cs

/-! ### Quoted texts -/

inductive Quotation where
  | text
  /-- Characters of ASCII and escapes for all bytes. -/
  | bytes
  /-- A text that a zero byte ends. -/
  | terminated
  deriving DecidableEq

namespace Quotation

def allows : Quotation → Char → Bool
  | text, _ => true
  | bytes, c => c.toNat < 0x80
  | terminated, c => c != '\x00'

/-- The value of two hexadecimal digits may be escaped in such a text. -/
def allowsByte : Quotation → Nat → Bool
  | text, n => n < 0x80
  | bytes, _ => true
  | terminated, n => n != 0

end Quotation

/-- The code point between braces: one to six digits with underscores between them. -/
def readCodePoint (value count : Nat) : List Char → Option (Char × List Char)
  | [] => none
  | c :: cs =>
    if c = '\x7d' then
      if h : 0 < count ∧ value.isValidChar then some (Char.ofNatAux value h.2, cs) else none
    else if c = '_' ∧ 0 < count then readCodePoint value count cs
    else match Text.hexValue? c with
      | some digit => if count < 6 then readCodePoint (value * 16 + digit) (count + 1) cs else none
      | none => none

/-- The character that an escape stands for, after its backslash. -/
def readEscape (quotation : Quotation) : List Char → Option (Char × List Char)
  | 'x' :: a :: b :: rest => match Text.hexFrom? 0 [a, b] with
    | some n => if quotation.allowsByte n then some (Char.ofNat n, rest) else none
    | none => none
  | 'u' :: '\x7b' :: rest => match readCodePoint 0 0 rest with
    | some (c, rest) =>
      if quotation = .bytes ∨ !quotation.allows c then none else some (c, rest)
    | none => none
  | 'n' :: rest => some ('\n', rest)
  | 'r' :: rest => some ('\r', rest)
  | 't' :: rest => some ('\t', rest)
  | '0' :: rest => if quotation = .terminated then none else some ('\x00', rest)
  | '\\' :: rest => some ('\\', rest)
  | '\'' :: rest => some ('\'', rest)
  | '\x22' :: rest => some ('\x22', rest)
  | _ => none

/-- Drops the blanks after a backslash that ends its line. -/
def dropContinuation : List Char → Option (List Char)
  | [] => none
  | '\r' :: '\n' :: rest => dropContinuation rest
  | '\r' :: _ => none
  | c :: rest => if c = ' ' ∨ c = '\t' ∨ c = '\n' then dropContinuation rest else some (c :: rest)

/-- The value of a text up to its closing quote, and the rest. -/
def readQuoted (quotation : Quotation) : Nat → List Char → Option (List Char × List Char)
  | 0, _ => none
  | fuel + 1, cs =>
    let more (read : List Char) (rest : List Char) : Option (List Char × List Char) :=
      (readQuoted quotation fuel rest).map fun (value, rest) => (read ++ value, rest)
    match cs with
    | [] => none
    | '\x22' :: rest => some ([], rest)
    | '\r' :: '\n' :: rest => more ['\n'] rest
    | '\r' :: _ => none
    | '\\' :: '\n' :: rest => (dropContinuation ('\n' :: rest)).bind (more [])
    | '\\' :: '\r' :: rest => (dropContinuation ('\r' :: rest)).bind (more [])
    | '\\' :: rest => (readEscape quotation rest).bind fun (c, rest) => more [c] rest
    | c :: rest => if quotation.allows c then more [c] rest else none

/-- The value of a raw text up to a quote with the given number of hashes. -/
def readRaw (quotation : Quotation) (hashes : Nat) : List Char → Option (List Char × List Char)
  | [] => none
  | c :: cs =>
    if c = '\x22' ∧ (List.replicate hashes '#').isPrefixOf cs then some ([], cs.drop hashes)
    else if !quotation.allows c ∨ c = '\r' ∧ cs.head? ≠ some '\n' then none
    else (readRaw quotation hashes cs).map fun (value, rest) => (c :: value, rest)

def readRawQuoted (quotation : Quotation) (cs : List Char) : Option (List Char × List Char) :=
  let hashes := (cs.takeWhile (· == '#')).length
  match cs.drop hashes with
  | '\x22' :: rest => if hashes ≤ 255 then readRaw quotation hashes rest else none
  | _ => none

/-- What is left after a character literal without its opening quote. -/
def dropCharacter (quotation : Quotation) : List Char → Option (List Char)
  | '\\' :: rest => match readEscape quotation rest with
    | some (_, '\'' :: rest) => some rest
    | _ => none
  | c :: '\'' :: rest => if quotation.allows c then some rest else none
  | _ => none

/-! ### Numbers -/

def isDigitOrGap (c : Char) : Bool :=
  c.isDigit || c == '_'

/-- What is left after an exponent without its letter: digits with at most one sign in front. -/
def dropExponent (signed found : Bool) : List Char → Option (List Char)
  | [] => if found then some [] else none
  | c :: cs =>
    if c.isDigit then dropExponent signed true cs
    else if c = '_' then dropExponent signed found cs
    else if found then some (c :: cs)
    else if (c = '+' ∨ c = '-') ∧ !signed then dropExponent true false cs
    else none

/-- What is left after a number with a fraction or an exponent. An exponent without digits is none:
its letter begins a suffix. -/
def dropFraction (cs : List Char) : Option (List Char) :=
  match cs, cs.dropWhile isDigitOrGap with
  | first :: _, '.' :: rest =>
    if !first.isDigit ∨ rest.head?.any (fun c => c == '.' || opensWord c) then none
    else match rest.dropWhile isDigitOrGap with
      | c :: tail =>
        if c = 'e' ∨ c = 'E' then some ((dropExponent false false tail).getD (c :: tail))
        else some (c :: tail)
      | [] => some []
  | first :: _, c :: rest =>
    if first.isDigit ∧ (c = 'e' ∨ c = 'E') then dropExponent false false rest else none
  | _, _ => none

/-- The value of the digits at the front, and the rest. A decimal digit outside the base is an
error; a letter outside it ends the digits. -/
def readDigits (base : Nat) (value : Option Nat) : List Char → Option (Nat × List Char)
  | [] => value.map (·, [])
  | c :: cs => match Text.hexValue? c with
    | some digit =>
      if digit < base then readDigits base (some (value.getD 0 * base + digit)) cs
      else if c.isDigit then none
      else value.map (·, c :: cs)
    | none =>
      if c = '_' then if base = 10 ∧ value.isNone then none else readDigits base value cs
      else value.map (·, c :: cs)

/-- A whole number in one of four bases. -/
def readInteger : List Char → Option (Nat × List Char)
  | '0' :: 'x' :: cs => readDigits 16 none cs
  | '0' :: 'o' :: cs => readDigits 8 none cs
  | '0' :: 'b' :: cs => readDigits 2 none cs
  | cs => readDigits 10 none cs

/-- A number ends where no word goes on. -/
def endsNumber (cs : List Char) : Bool :=
  !cs.head?.any continuesWord

def readNumber (cs : List Char) : Option (LiteralValue × List Char) :=
  match (dropFraction cs).filter fun rest => endsNumber (dropSuffix rest) with
  | some rest => some (.fraction, dropSuffix rest)
  | none => match readInteger cs with
    | some (value, rest) =>
      if !endsNumber (dropSuffix rest) then none
      else if rest.length = (dropSuffix rest).length then some (.integer (some value), rest)
      else some (.integer none, dropSuffix rest)
    | none => none

/-! ### Literals -/

def readLiteral (cs : List Char) : Option (LiteralValue × List Char) :=
  let text (read : Option (List Char × List Char)) : Option (LiteralValue × List Char) :=
    read.map fun (value, rest) => (.text (String.ofList value), dropSuffix rest)
  let other (read : Option (List Char × List Char)) : Option (LiteralValue × List Char) :=
    read.map fun (_, rest) => (.other, dropSuffix rest)
  let character (read : Option (List Char)) : Option (LiteralValue × List Char) :=
    read.map fun rest => (.other, dropSuffix rest)
  match cs with
  | '\x22' :: cs => text (readQuoted .text (cs.length + 1) cs)
  | 'r' :: cs => text (readRawQuoted .text cs)
  | 'b' :: '\x22' :: cs => other (readQuoted .bytes (cs.length + 1) cs)
  | 'b' :: 'r' :: cs => other (readRawQuoted .bytes cs)
  | 'c' :: '\x22' :: cs => other (readQuoted .terminated (cs.length + 1) cs)
  | 'c' :: 'r' :: cs => other (readRawQuoted .terminated cs)
  | 'b' :: '\'' :: cs => character (dropCharacter .bytes cs)
  | '\'' :: cs => character (dropCharacter .text cs)
  | cs => readNumber cs

end RecordQuery.Derive
