import MailFilter.Text.Basic

/-!
# UTF-8

Texts as octets. Decoding reads octets into pieces: a code point, or a longest run of octets that
begin a code point but do not complete one. What becomes of a broken piece is the caller's choice:
refuse, replace it, or keep each of its octets as a lone surrogate.

- `Utf8.encode?`: the octets of a text, unless it holds a lone surrogate.
- `Utf8.pieces`: the code points and broken runs of octets.
- `Utf8.decode?`, `Utf8.decodeReplacing`, `Utf8.decodeKeeping`: the three choices.
- `Utf8.encodeKeeping?`: octets that were kept as lone surrogates become octets again.
-/

namespace MailFilter

/-- A sequence of octets. -/
abbrev Octets := List UInt8

namespace Utf8

/-- The octets of a scalar value. -/
def encodeChar (c : Char) : Octets :=
  let n := c.toNat
  let tail (shift : Nat) : UInt8 := .ofNat (0x80 + n / shift % 0x40)
  if n < 0x80 then [.ofNat n]
  else if n < 0x800 then [.ofNat (0xC0 + n / 0x40), tail 1]
  else if n < 0x10000 then [.ofNat (0xE0 + n / 0x1000), tail 0x40, tail 1]
  else [.ofNat (0xF0 + n / 0x40000), tail 0x1000, tail 0x40, tail 1]

/-- The octets of a code point; a lone surrogate has none. -/
def encodePoint? : CodePoint → Option Octets
  | .char c => some (encodeChar c)
  | .surrogate _ => none

/-- The octets of a text without lone surrogates. -/
def encode? (t : Text) : Option Octets :=
  (t.mapM encodePoint?).map List.flatten

/-- The octet that a lone surrogate from `U+DC80` to `U+DCFF` stands for. -/
def keptOctet? : CodePoint → Option UInt8
  | .char _ => none
  | .surrogate i => if 0x480 ≤ i.val ∧ i.val < 0x500 then some (.ofNat (i.val - 0x400)) else none

/-- The octets of a text in which lone surrogates may stand for octets. -/
def encodeKeeping? (t : Text) : Option Octets :=
  (t.mapM fun c => encodePoint? c <|> (keptOctet? c).map ([·])).map List.flatten

/-- The lone surrogate that stands for an octet above `0x7F`; a smaller octet is its own code
point. -/
def keep (b : UInt8) : CodePoint :=
  if b < 0x80 then .char (Char.ofNat b.toNat) else CodePoint.ofNat (0xDC00 + b.toNat)

/-! ## Decoding -/

/-- What octets are read as. -/
inductive Piece where
  | point (c : Char)
  | broken (octets : Octets)
  deriving DecidableEq

/-- A code point of which some octets have been read: those octets, the value of their bits, how
many octets are still to come, and the range of the next one. -/
structure Partial where
  read : Octets
  bits : Nat
  owed : Nat
  low : UInt8
  high : UInt8

/-- What a first octet begins. -/
inductive Lead where
  | whole (c : Char)
  | begun (p : Partial)
  | invalid

/-- Classifies the first octet of a code point. -/
def lead (b : UInt8) : Lead :=
  let begun (base : Nat) (owed : Nat) (low high : UInt8) : Lead :=
    .begun ⟨[b], b.toNat - base, owed, low, high⟩
  if b < 0x80 then .whole (Char.ofNat b.toNat)
  else if b < 0xC2 then .invalid
  else if b < 0xE0 then begun 0xC0 1 0x80 0xBF
  else if b = 0xE0 then begun 0xE0 2 0xA0 0xBF
  else if b = 0xED then begun 0xE0 2 0x80 0x9F
  else if b < 0xF0 then begun 0xE0 2 0x80 0xBF
  else if b = 0xF0 then begun 0xF0 3 0x90 0xBF
  else if b < 0xF4 then begun 0xF0 3 0x80 0xBF
  else if b = 0xF4 then begun 0xF0 3 0x80 0x8F
  else .invalid

/-- The pieces of octets that follow the octets of an unfinished code point. -/
def piecesAfter : Option Partial → Octets → List Piece
  | none, [] => []
  | some p, [] => [.broken p.read]
  | none, b :: rest =>
    match lead b with
    | .whole c => .point c :: piecesAfter none rest
    | .begun p => piecesAfter (some p) rest
    | .invalid => .broken [b] :: piecesAfter none rest
  | some p, b :: rest =>
    if p.low ≤ b && b ≤ p.high then
      let bits := p.bits * 0x40 + (b.toNat - 0x80)
      if p.owed ≤ 1 then .point (Char.ofNat bits) :: piecesAfter none rest
      else piecesAfter (some ⟨p.read ++ [b], bits, p.owed - 1, 0x80, 0xBF⟩) rest
    else
      .broken p.read ::
        match lead b with
        | .whole c => .point c :: piecesAfter none rest
        | .begun p => piecesAfter (some p) rest
        | .invalid => .broken [b] :: piecesAfter none rest

/-- The pieces of a sequence of octets. -/
def pieces (octets : Octets) : List Piece :=
  piecesAfter none octets

/-- Decodes octets that are UTF-8 throughout. -/
def decode? (octets : Octets) : Option Text :=
  (pieces octets).mapM fun
    | .point c => some (CodePoint.char c)
    | .broken _ => none

/-- Decodes octets, writing `U+FFFD` for each broken piece. -/
def decodeReplacing (octets : Octets) : Text :=
  (pieces octets).map fun
    | .point c => CodePoint.char c
    | .broken _ => CodePoint.char '\uFFFD'

/-- Decodes octets, keeping the octets of broken pieces as lone surrogates. -/
def decodeKeeping (octets : Octets) : Text :=
  (pieces octets).flatMap fun
    | .point c => [CodePoint.char c]
    | .broken bad => bad.map keep

/-- Decodes octets as ASCII, keeping all others as lone surrogates. -/
def decodeAsciiKeeping (octets : Octets) : Text :=
  octets.map keep

end Utf8

end MailFilter
