import RecordQuery.Pattern.Expr

/-! # Scanning a text

A scan reads a text once, from the left. It keeps the expression with a mark at each character that
the last one read can stand for; a stretch of the text fits as soon as a mark has come to the end.
-/

namespace RecordQuery.Pattern

/-- An expression in which single characters, but no bounds of repetition are left. A character is
`reached` when the last one read stands for it, and a compound is `live` when it holds such a
character. -/
inductive Track where
  | empty
  | char (reached : Bool) (set : CharSet)
  | anchor (a : Anchor)
  | seq (live : Bool) (a b : Track)
  | alt (live : Bool) (a b : Track)
  | star (live : Bool) (a : Track)

namespace Track

/-- Some character is reached. -/
def isLive : Track → Bool
  | empty => false
  | char reached _ => reached
  | anchor _ => false
  | seq live _ _ => live
  | alt live _ _ => live
  | star live _ => live

def andThen (a b : Track) : Track :=
  seq (a.isLive || b.isLive) a b

def orElse (a b : Track) : Track :=
  alt (a.isLive || b.isLive) a b

def loop (a : Track) : Track :=
  star a.isLive a

/-- `count` times in sequence. The halves are nested, so that the nesting is not deep. -/
def copies (a : Track) (count : Nat) : Track :=
  if count = 0 then empty
  else if count = 1 then a
  else
    let half := copies a (count / 2)
    let twice := half.andThen half
    if count % 2 = 0 then twice else a.andThen twice
termination_by count

/-- The track of an expression before anything is read. -/
def ofExpr : Expr → Track
  | .empty => empty
  | .text cs => cs.foldr (fun c rest => (char false (.single c)).andThen rest) empty
  | .set s => char false s
  | .anchor a => anchor a
  | .repeated low high _ e =>
    let once := ofExpr e
    match high with
    | none => (copies once low).andThen once.loop
    | some high => (copies once low).andThen (copies (empty.orElse once) (high - low))
  | .group _ e => ofExpr e
  | .seq a b => (ofExpr a).andThen (ofExpr b)
  | .alt a b => (ofExpr a).orElse (ofExpr b)

/-- A stretch that fits ends at the place, when one may begin there if `opened`. -/
def ends (place : Place) (opened : Bool) : Track → Bool
  | empty => opened
  | char reached _ => reached
  | anchor a => opened && a.holds place
  | seq live a b => (opened || live) && b.ends place (a.ends place opened)
  | alt live a b => (opened || live) && (a.ends place opened || b.ends place opened)
  | star live a => opened || live && a.ends place false

/-- The track after the character `c` behind the place, when a stretch may begin there if
`opened`. Where none begins and none is on its way, nothing changes. -/
def advance (place : Place) (c : Char) (opened : Bool) : Track → Track
  | empty => empty
  | char _ set => char (opened && set.has c) set
  | anchor a => anchor a
  | seq live a b =>
    if opened || live then
      (a.advance place c opened).andThen (b.advance place c (a.ends place opened))
    else seq live a b
  | alt live a b =>
    if opened || live then (a.advance place c opened).orElse (b.advance place c opened)
    else alt live a b
  | star live a =>
    if opened || live then (a.advance place c (opened || a.ends place false)).loop
    else star live a

/-- Some stretch fits that began before or begins in the rest of the text. -/
def search (track : Track) (before : Option Char) : List Char → Bool
  | [] => track.ends ⟨before, none⟩ true
  | c :: cs =>
    let place : Place := ⟨before, some c⟩
    track.ends place true || search (track.advance place c true) (some c) cs

end Track

def Expr.matchesIn (e : Expr) (cs : List Char) : Bool :=
  (Track.ofExpr e).search none cs

end RecordQuery.Pattern
