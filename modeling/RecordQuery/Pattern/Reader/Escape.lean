import RecordQuery.Pattern.Property
import RecordQuery.Pattern.Reader.Basic
import RecordQuery.Text.Hex

/-! # Escapes

What a backslash and the characters after it stand for.
-/

namespace RecordQuery.Pattern

inductive Escape where
  | char (c : Char)
  | set (s : CharSet)
  | anchor (a : Anchor)

/-! ### Classes of ASCII -/

namespace Ascii

def digit : CharSet := .ofLines ["30-39"]

def space : CharSet := .ofLines ["9-d 20"]

def word : CharSet := .ofLines ["30-39 41-5a 5f 61-7a"]

def table : List (String × CharSet) := [
  ("alnum", .ofLines ["30-39 41-5a 61-7a"]),
  ("alpha", .ofLines ["41-5a 61-7a"]),
  ("ascii", .ascii),
  ("blank", .ofLines ["9 20"]),
  ("cntrl", .ofLines ["0-1f 7f"]),
  ("digit", digit),
  ("graph", .ofLines ["21-7e"]),
  ("lower", .ofLines ["61-7a"]),
  ("print", .ofLines ["20-7e"]),
  ("punct", .ofLines ["21-2f 3a-40 5b-60 7b-7e"]),
  ("space", space),
  ("upper", .ofLines ["41-5a"]),
  ("word", word),
  ("xdigit", .ofLines ["30-39 41-46 61-66"])]

end Ascii

namespace Reader

def charOf (code : Nat) : Reader Char :=
  if code.isValidChar then return Char.ofNat code else failure

def hexNumber (digits : List Char) : Reader Nat := do
  if digits.isEmpty then failure else Text.hexFrom? 0 digits

/-- So many characters, with the blanks after each dropped. -/
def readExactly (flags : Flags) : Nat → Reader (List Char)
  | 0 => return []
  | count + 1 => do
    let c ← current
    dropWithBlanks flags
    return c :: (← readExactly flags count)

/-- A character by its hexadecimal digits, a fixed number of them or any number in braces. Fixed
digits of a byte spell a character in ASCII only if it is one. -/
def readHex (flags : Flags) (count : Nat) : Reader Char := do
  dropWithBlanks flags
  if (← current) = '\x7b' then
    dropWithBlanks flags
    let digits ← span flags (· ≠ '\x7d')
    let c ← charOf (← hexNumber digits)
    let _ ← current
    dropWithBlanks flags
    return c
  else
    let c ← charOf (← hexNumber (← readExactly flags count))
    if flags.ascii && count = 2 && 0x7f < c.toNat then failure else return c

/-- The set of a property, after the letter that announces it. -/
def readProperty (flags : Flags) (negated : Bool) : Reader CharSet := do
  dropWithBlanks flags
  let c ← current
  let found ←
    if c = '\x7b' then do
      dropWithBlanks flags
      let text ← span flags (· ≠ '\x7d')
      let _ ← current
      drop
      pure (Property.ofText? text)
    else if c = '\\' then failure
    else do
      dropWithBlanks flags
      pure (Property.find? [c])
  if flags.ascii then failure else flags.close? negated (← found)

/-- The edge of a word that a name in braces stands for. -/
def wordEdge? : List Char → Option WordEdge
  | ['s', 't', 'a', 'r', 't'] => some .start
  | ['e', 'n', 'd'] => some .stop
  | ['s', 't', 'a', 'r', 't', '-', 'h', 'a', 'l', 'f'] => some .startHalf
  | ['e', 'n', 'd', '-', 'h', 'a', 'l', 'f'] => some .stopHalf
  | _ => none

/-- An edge of words after its letter. A name in braces can follow; other braces are left for a
repetition. -/
def readWordEdge (flags : Flags) : Reader WordEdge := do
  let before ← rest
  if before.head? ≠ some '\x7b' then return .boundary
  else
    dropWithBlanks flags
    let isNamePart (c : Char) : Bool := c.isAlpha || c == '-'
    if isNamePart (← current) then
      let name ← span flags isNamePart
      if (← current) = '\x7d' then
        drop
        wordEdge? name
      else failure
    else
      goOn before
      return .boundary

def readEscape (flags : Flags) : Reader Escape := do
  let c ← current
  let single (c : Char) : Reader Escape := do
    drop
    return .char c
  let place (a : Anchor) : Reader Escape := do
    drop
    return .anchor a
  let named (negated : Bool) (full ascii : CharSet) : Reader Escape := do
    drop
    return .set (← flags.class? negated full ascii)
  match c with
  | 'd' => named false Category.decimalNumber Ascii.digit
  | 'D' => named true Category.decimalNumber Ascii.digit
  | 's' => named false Property.whiteSpace Ascii.space
  | 'S' => named true Property.whiteSpace Ascii.space
  | 'w' => named false Property.word Ascii.word
  | 'W' => named true Property.word Ascii.word
  | 'p' => return .set (← readProperty flags false)
  | 'P' => return .set (← readProperty flags true)
  | 'x' => return .char (← readHex flags 2)
  | 'u' => return .char (← readHex flags 4)
  | 'U' => return .char (← readHex flags 8)
  | 'A' => place .textStart
  | 'z' => place .textEnd
  | 'b' => do
    drop
    return .anchor (.word (← readWordEdge flags) flags.alphabet)
  | 'B' => place (.word .noBoundary flags.alphabet)
  | '<' => place (.word .start flags.alphabet)
  | '>' => place (.word .stop flags.alphabet)
  | 'a' => single '\x07'
  | 'f' => single '\x0c'
  | 't' => single '\t'
  | 'n' => single '\n'
  | 'r' => single '\r'
  | 'v' => single '\x0b'
  | c => if c.toNat < 0x80 && !c.isAlphanum then single c else failure

end Reader

end RecordQuery.Pattern
