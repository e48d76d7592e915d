import MailFilter.Text.Utf8

/-!
# Base64

Octets in groups of six bits. A reader passes over octets outside the alphabet and stops at a
padding that completes a group of four.

- `Base64.value?`, `Base64.digit`: the values of the sixty-four digits, and back.
- `Base64.decode?`: the octets that digits stand for.
- `Base64.encode`: the digits of octets.
- `Base64.value?_digit`: every digit has the value of its place.
-/

namespace MailFilter

namespace Base64

/-- The value of a digit. -/
def value? (b : UInt8) : Option Nat :=
  if 65 ≤ b ∧ b ≤ 90 then some (b.toNat - 65)
  else if 97 ≤ b ∧ b ≤ 122 then some (b.toNat - 97 + 26)
  else if 48 ≤ b ∧ b ≤ 57 then some (b.toNat - 48 + 52)
  else if b = 43 then some 62
  else if b = 47 then some 63
  else none

/-- The octet of the digit with a value. -/
def digit (n : Nat) : UInt8 :=
  if n < 26 then .ofNat (65 + n)
  else if n < 52 then .ofNat (97 + (n - 26))
  else if n < 62 then .ofNat (48 + (n - 52))
  else if n = 62 then 43
  else 47

/-- The digit with a value has that value. -/
theorem value?_digit : ∀ n : Fin 64, value? (digit n.val) = some n.val := by
  decide

/-- Decodes digits of a group of which `place` digits have been read. `left` is the value of the bits
that are still to become an octet, and `pads` counts the padding since the last digit. -/
def decodeFrom (place left pads : Nat) : Octets → Option Octets
  | [] => if place = 0 then some [] else none
  | b :: rest =>
    if b = 61 then
      if place < 2 then decodeFrom place left pads rest
      else if 4 ≤ place + pads + 1 then some []
      else decodeFrom place left (pads + 1) rest
    else match value? b with
    | none => decodeFrom place left pads rest
    | some v =>
      match place with
      | 0 => decodeFrom 1 v 0 rest
      | 1 => (decodeFrom 2 (v % 16) 0 rest).map (UInt8.ofNat (left * 4 + v / 16) :: ·)
      | 2 => (decodeFrom 3 (v % 4) 0 rest).map (UInt8.ofNat (left * 16 + v / 4) :: ·)
      | _ => (decodeFrom 0 0 0 rest).map (UInt8.ofNat (left * 64 + v) :: ·)

/-- The octets that digits stand for, unless the last group is incomplete. -/
def decode? (octets : Octets) : Option Octets :=
  decodeFrom 0 0 0 octets

/-- The digits of octets, the last group of four being filled with padding. -/
def encode : Octets → Octets
  | [] => []
  | [a] => [digit (a.toNat / 4), digit (a.toNat % 4 * 16), 61, 61]
  | [a, b] =>
    [digit (a.toNat / 4), digit (a.toNat % 4 * 16 + b.toNat / 16), digit (b.toNat % 16 * 4), 61]
  | a :: b :: c :: rest =>
    digit (a.toNat / 4) :: digit (a.toNat % 4 * 16 + b.toNat / 16) ::
      digit (b.toNat % 16 * 4 + c.toNat / 64) :: digit (c.toNat % 64) :: encode rest

end Base64

end MailFilter
