import RecordQuery.Json.Tree
import RecordQuery.Text.Hex

/-! # Reading JSON

A reader takes a value off the front of a text and returns what is left. The number of characters
bounds the recursion.
-/

namespace RecordQuery.Json

/-! ### Numbers -/

def power (n : Nat) : Binary64.Magnitude :=
  .ofDecimal 1 n

/-- Divides by `10 ^ (308 * steps + rest)`, one factor after the other. -/
def scaleDown (x : Binary64.Magnitude) : Nat → Nat → Binary64.Magnitude
  | 0, rest => x.div (power rest)
  | steps + 1, rest =>
    if x.val = 0 then x else scaleDown (x.div (power 308)) steps rest

/-- The magnitude of `digits * 10 ^ exponent`, computed in floating-point arithmetic: the digits
are rounded first and then scaled. Beyond the greatest finite magnitude there is none. -/
def scaled? (digits : Nat) (exponent : Int) : Option Binary64.Magnitude :=
  let x := Binary64.Magnitude.ofRatio digits 1
  match exponent with
  | .ofNat e =>
    if e ≤ 308 then (some (x.times (power e))).filter (· ≠ Binary64.Magnitude.infinity)
    else if x.val = 0 then some x
    else none
  | .negSucc e => some (scaleDown x ((e + 1) / 308) ((e + 1) % 308))

/-- Takes digits as long as the number they spell fits an unsigned word. -/
def takeDigits (value : Nat) : List Char → Nat × List Char
  | [] => (value, [])
  | c :: cs =>
    let next := value * 10 + (c.toNat - 48)
    if next < 0x10000000000000000 then takeDigits next cs else (value, c :: cs)

/-- The number with the given whole digits, fraction digits and exponent. A whole number that
fits its word is exact. Otherwise only the leading digits that fit an unsigned word count. -/
def number? (negative : Bool) (whole : List Char) (fraction : Option (List Char))
    (exponent : Option Int) : Option Numeric := do
  let (value, excess) := takeDigits 0 whole
  let inexact (digits : Nat) (shift : Int) : Option Numeric := do
    Numeric.ofBinary64? (.signed negative (← scaled? digits shift))
  match fraction, exponent with
  | none, none =>
    if excess.isEmpty then
      if negative then
        if value = 0 ∨ 0x8000000000000000 < value then inexact value 0 else Numeric.ofInt? (-(value : Int))
      else Numeric.ofInt? value
    else inexact value excess.length
  | _, _ =>
    let fraction := fraction.getD []
    let (digits, dropped) := takeDigits value fraction
    inexact digits ((excess.length : Int) - (fraction.length - dropped.length : Nat) + exponent.getD 0)

/-- The exponent of a number and the rest; an absent one is no error. -/
def readExponent : List Char → Option (Option Int × List Char)
  | mark :: cs =>
    if mark = 'e' ∨ mark = 'E' then
      let (negative, cs) := match cs with
        | '-' :: cs => (true, cs)
        | '+' :: cs => (false, cs)
        | cs => (false, cs)
      let (digits, rest) := cs.span Char.isDigit
      (Numeral.natural? digits).map fun n =>
        (some (if negative then -(n : Int) else n), rest)
    else some (none, mark :: cs)
  | [] => some (none, [])

/-- A number: digits without leading zeros, an optional fraction and an optional exponent. -/
def readNumber (cs : List Char) : Option (Tree × List Char) := do
  let (negative, cs) := match cs with
    | '-' :: cs => (true, cs)
    | cs => (false, cs)
  let (whole, rest) ← match cs with
    | '0' :: rest => some (['0'], rest)
    | cs => match cs.span Char.isDigit with
      | ([], _) => none
      | digits => some digits
  let (fraction, rest) ← match rest with
    | '.' :: rest => match rest.span Char.isDigit with
      | ([], _) => none
      | (digits, rest) => some (some digits, rest)
    | rest => some (none, rest)
  let (exponent, rest) ← readExponent rest
  some (.number (number? negative whole fraction exponent), rest)

/-! ### Texts -/

/-- One piece of a text: a character, or a code unit that an escape names. -/
inductive Piece where
  | char (c : Char)
  | unit (n : Nat)

/-- The pieces of a text up to its closing quote, and the rest. -/
def readPieces : List Char → Option (List Piece × List Char)
  | [] => none
  | '\x22' :: rest => some ([], rest)
  | '\\' :: 'u' :: a :: b :: c :: d :: rest => do
    let n ← Text.hexFrom? 0 [a, b, c, d]
    let (pieces, rest) ← readPieces rest
    some (.unit n :: pieces, rest)
  | '\\' :: mark :: rest => do
    let c ← match mark with
      | '\x22' => some '\x22'
      | '\\' => some '\\'
      | '/' => some '/'
      | 'b' => some '\x08'
      | 'f' => some '\x0c'
      | 'n' => some '\n'
      | 'r' => some '\r'
      | 't' => some '\t'
      | _ => none
    let (pieces, rest) ← readPieces rest
    some (.char c :: pieces, rest)
  | c :: rest =>
    if c.toNat < 0x20 then none
    else do
      let (pieces, rest) ← readPieces rest
      some (.char c :: pieces, rest)

/-- The characters of the pieces. Two code units make a character when they are a surrogate pair;
half a pair is no character. -/
def pieceChars? : List Piece → Option (List Char)
  | [] => some []
  | .char c :: rest => (pieceChars? rest).map (c :: ·)
  | .unit high :: .unit low :: rest =>
    if 0xd800 ≤ high ∧ high < 0xdc00 then
      if 0xdc00 ≤ low ∧ low < 0xe000 then
        (pieceChars? rest).map
          (Char.ofNat (0x10000 + (high - 0xd800) * 0x400 + (low - 0xdc00)) :: ·)
      else none
    else if 0xdc00 ≤ high ∧ high < 0xe000 then none
    else (pieceChars? (.unit low :: rest)).map (Char.ofNat high :: ·)
  | .unit n :: rest =>
    if 0xd800 ≤ n ∧ n < 0xe000 then none else (pieceChars? rest).map (Char.ofNat n :: ·)

/-- A text after its opening quote, and the rest. -/
def readText (cs : List Char) : Option (Option String × List Char) :=
  (readPieces cs).map fun (pieces, rest) => ((pieceChars? pieces).map String.ofList, rest)

/-! ### Values -/

def skipBlanks (cs : List Char) : List Char :=
  cs.dropWhile fun c => c = ' ' ∨ c = '\t' ∨ c = '\n' ∨ c = '\r'

mutual

def readValue : Nat → List Char → Option (Tree × List Char)
  | 0, _ => none
  | fuel + 1, cs => match skipBlanks cs with
    | 'n' :: 'u' :: 'l' :: 'l' :: rest => some (.null, rest)
    | 't' :: 'r' :: 'u' :: 'e' :: rest => some (.bool true, rest)
    | 'f' :: 'a' :: 'l' :: 's' :: 'e' :: rest => some (.bool false, rest)
    | '\x22' :: rest => (readText rest).map fun (value, rest) => (.text value, rest)
    | '[' :: rest => match skipBlanks rest with
      | ']' :: rest => some (.array [], rest)
      | rest => (readItems fuel rest).map fun (items, rest) => (.array items, rest)
    | '\x7b' :: rest => match skipBlanks rest with
      | '\x7d' :: rest => some (.object [], rest)
      | rest => (readMembers fuel rest).map fun (members, rest) => (.object members, rest)
    | rest => readNumber rest

/-- The items of an array after its opening bracket. -/
def readItems : Nat → List Char → Option (List Tree × List Char)
  | 0, _ => none
  | fuel + 1, cs => do
    let (item, rest) ← readValue fuel cs
    match skipBlanks rest with
    | ',' :: rest => (readItems fuel rest).map fun (items, rest) => (item :: items, rest)
    | ']' :: rest => some ([item], rest)
    | _ => none

/-- The members of an object after its opening brace. -/
def readMembers : Nat → List Char → Option (List (Option String × Tree) × List Char)
  | 0, _ => none
  | fuel + 1, cs => match skipBlanks cs with
    | '\x22' :: rest => do
      let (key, rest) ← readText rest
      match skipBlanks rest with
      | ':' :: rest =>
        let (value, rest) ← readValue fuel rest
        match skipBlanks rest with
        | ',' :: rest =>
          (readMembers fuel rest).map fun (members, rest) => ((key, value) :: members, rest)
        | '\x7d' :: rest => some ([(key, value)], rest)
        | _ => none
      | _ => none
    | _ => none

end

def Tree.read? (text : String) : Option Tree :=
  let cs := text.toList
  match readValue (2 * cs.length + 2) cs with
  | some (tree, rest) => if (skipBlanks rest).isEmpty then some tree else none
  | none => none

def read? (text : String) : Option Json :=
  (Tree.read? text).bind (Tree.toJson? depthLimit)

end RecordQuery.Json
