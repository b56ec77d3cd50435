/-! # Ranges of encoded characters

The UTF-8 encodings of a range of characters are covered by sequences of byte ranges, each of which
stands for all the encodings that have every byte in its range.
-/

namespace RecordQuery.Text.Utf8

abbrev ByteRange := Nat × Nat

/-- The sequences for the code points from `first` to `last` among those with `count` bytes after
the leading one, which comes out of `lead` and the bits above theirs. -/
def sequencesOf (lead : Nat) : Nat → Nat → Nat → List (List ByteRange)
  | 0, first, last => [[(lead + first, lead + last)]]
  | count + 1, first, last =>
    let span := 64 ^ (count + 1)
    let low := first / span
    let high := last / span
    let after (start stop : Nat) : List (List ByteRange) := sequencesOf 0x80 count start stop
    let opened (byte : Nat) (rest : List (List ByteRange)) : List (List ByteRange) :=
      rest.map ((lead + byte, lead + byte) :: ·)
    if low = high then opened low (after (first % span) (last % span))
    else
      let cutLow := first % span ≠ 0
      let cutHigh := last % span ≠ span - 1
      let start := if cutLow then low + 1 else low
      let stop := if cutHigh then high - 1 else high
      (if cutLow then opened low (after (first % span) (span - 1)) else []) ++
        (if start ≤ stop then
          [(lead + start, lead + stop) :: List.replicate (count + 1) (0x80, 0xbf)] else []) ++
        if cutHigh then opened high (after 0 (last % span)) else []

/-- The stretches of characters with encodings of one shape: their ends, the number of bytes after
the leading one and what the leading byte starts from. -/
def shapes : List (Nat × Nat × Nat × Nat) := [
  (0, 0x7f, 0, 0), (0x80, 0x7ff, 1, 0xc0), (0x800, 0xd7ff, 2, 0xe0), (0xe000, 0xffff, 2, 0xe0),
  (0x10000, 0x10ffff, 3, 0xf0)]

/-- The sequences of the code points from `first` to `last`, in ascending order. -/
def sequences (first last : Nat) : List (List ByteRange) :=
  shapes.flatMap fun (low, high, count, lead) =>
    if max first low ≤ min last high then sequencesOf lead count (max first low) (min last high)
    else []

end RecordQuery.Text.Utf8
