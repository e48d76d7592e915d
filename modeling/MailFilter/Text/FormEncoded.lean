import MailFilter.Text.Utf8

/-!
# Form encoding

The form encoding of a text keeps ASCII letters, digits and `* - _ .`, writes a blank as `+`, and
writes every other code point as the octets of its UTF-8 form, each as `%` and two capital
hexadecimal digits. A lone surrogate has no such form.

- `Text.formEncode?`: the encoding, one code point at a time.
- `Text.formEncode?_append`: it distributes over concatenation.
-/

namespace MailFilter

namespace CodePoint

/-- Kept as itself by the form encoding. -/
def isFormSafe (c : CodePoint) : Bool :=
  c.isAlphanum || c = .char '*' || c = .char '-' || c = .char '_' || c = .char '.'

/-- The hexadecimal digit of a number below sixteen, in capitals. -/
def hexDigit (n : Nat) : CodePoint :=
  .char (Nat.digitChar n).toUpper

/-- An octet as `%` and two digits. -/
def percent (b : UInt8) : Text :=
  [.char '%', hexDigit (b.toNat / 16), hexDigit (b.toNat % 16)]

/-- The form encoding of one code point. -/
def formEncode? (c : CodePoint) : Option Text :=
  if c.isFormSafe then some [c]
  else if c = .char ' ' then some [.char '+']
  else (Utf8.encodePoint? c).map (·.flatMap percent)

end CodePoint

namespace Text

/-- The form encoding of a text, if it holds no lone surrogate. -/
def formEncode? : Text → Option Text
  | [] => some []
  | c :: rest => do
    let first ← c.formEncode?
    let others ← formEncode? rest
    return first ++ others

theorem formEncode?_append (s t : Text) :
    formEncode? (s ++ t) = do
      let a ← formEncode? s
      let b ← formEncode? t
      return a ++ b := by
  induction s with
  | nil => simp [formEncode?]
  | cons c rest ih =>
    simp only [List.cons_append, formEncode?, ih]
    cases c.formEncode? <;> cases formEncode? rest <;> cases formEncode? t <;> simp

end Text

end MailFilter
