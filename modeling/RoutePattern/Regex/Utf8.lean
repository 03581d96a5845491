import RoutePattern.Regex.CharSet

/-!
# Byte sequences of characters

A character is encoded in one to four bytes. The encodings of a range of characters are written as a
few sequences of byte ranges, in increasing order: a range is cut until the bytes after the first
one that differs run over all their values.
-/

namespace RoutePattern.Regex

/-- The bytes that encode a code point. -/
def utf8Bytes (code : Nat) : List Nat :=
  if code < 0x80 then [code]
  else if code < 0x800 then [0xC0 + code / 0x40, 0x80 + code % 0x40]
  else if code < 0x10000 then
    [0xE0 + code / 0x1000, 0x80 + code / 0x40 % 0x40, 0x80 + code % 0x40]
  else
    [0xF0 + code / 0x40000, 0x80 + code / 0x1000 % 0x40, 0x80 + code / 0x40 % 0x40,
      0x80 + code % 0x40]

/-- The bytes from `first` to `last`. -/
structure ByteRange where
  first : Nat
  last : Nat
  deriving DecidableEq, Repr

/-- The characters beyond ASCII whose encodings have the same number of bytes and are not divided by
the surrogates. -/
def encodingZones : List CodeRange :=
  [⟨0x80, 0x7FF⟩, ⟨0x800, 0xD7FF⟩, ⟨0xE000, 0xFFFF⟩, ⟨0x10000, 0x10FFFF⟩]

/-- Where to cut a range that starts or ends inside a block of code points and reaches beyond it. -/
def blockCut? (block : Nat) (range : CodeRange) : Option Nat :=
  if range.first / block = range.last / block then none
  else if range.first % block ≠ 0 then some ((range.first / block + 1) * block)
  else if (range.last + 1) % block ≠ 0 then some (range.last / block * block)
  else none

/-- Where to cut a range next: at the end of a block that the last bytes of an encoding number. -/
def cut? (range : CodeRange) : Option Nat :=
  ((blockCut? 0x40 range).or (blockCut? 0x1000 range)).or (blockCut? 0x40000 range)

/-- The pieces of a range within a zone, each of which is one sequence of byte ranges. -/
def pieces (range : CodeRange) : List CodeRange :=
  match cut? range with
  | none => [range]
  | some cut =>
    if range.first < cut ∧ cut ≤ range.last then
      pieces ⟨range.first, cut - 1⟩ ++ pieces ⟨cut, range.last⟩
    else [range]
termination_by range.last - range.first

/-- The byte ranges between the encodings of the ends of a piece. -/
def byteRanges (piece : CodeRange) : List ByteRange :=
  (utf8Bytes piece.first).zipWith ByteRange.mk (utf8Bytes piece.last)

/-- The encodings of a range of characters. -/
def rangeSequences (range : CodeRange) : List (List ByteRange) :=
  ((range.inter? ⟨0, 0x7F⟩).map byteRanges).toList ++
    encodingZones.flatMap fun zone =>
      match range.inter? zone with
      | some part => (pieces part).map byteRanges
      | none => []

/-- The encodings of the characters of a set. -/
def CharSet.byteSequences (set : CharSet) : List (List ByteRange) :=
  set.ranges.flatMap rangeSequences

end RoutePattern.Regex
