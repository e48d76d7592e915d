import MailFilter.Json.Basic

/-!
# Reading objects from text

A recursive descent over the text. Each step hands on what it has not read, and a bound on the depth
that the length of the text always suffices for.

- `Json.read?`: the tree that a text is the form of.
-/

namespace MailFilter

namespace Json

/-- Blanks between tokens. -/
def isBlank (c : CodePoint) : Bool :=
  c = .char ' ' || c = .char '\t' || c = .char '\n' || c = .char '\r'

/-- Drops blanks. -/
def skipBlanks (t : Text) : Text :=
  t.dropWhile isBlank

/-- Reads four hexadecimal digits. -/
def readUnit? : Text → Option (Nat × Text)
  | a :: b :: c :: d :: rest => do
    let a ← a.hexValue?
    let b ← b.hexValue?
    let c ← c.hexValue?
    let d ← d.hexValue?
    return (((a * 16 + b) * 16 + c) * 16 + d, rest)
  | _ => none

/-- The code point that a letter behind a backslash stands for. -/
def simpleEscape? : CodePoint → Option CodePoint
  | .char 'n' => some (.char '\n')
  | .char 'r' => some (.char '\r')
  | .char 't' => some (.char '\t')
  | .char 'b' => some (.char '\x08')
  | .char 'f' => some (.char '\x0c')
  | .char '"' => some (.char '"')
  | .char '\\' => some (.char '\\')
  | .char '/' => some (.char '/')
  | _ => none

/-- Joins the two halves of a surrogate pair. -/
def joinHalves? (high low : Nat) : Option CodePoint :=
  if 0xD800 ≤ high && high < 0xDC00 && 0xDC00 ≤ low && low < 0xE000 then
    CodePoint.ofNat? (0x10000 + (high - 0xD800) * 0x400 + (low - 0xDC00))
  else none

/-- Reads a unit written as an escape, and its other half if it is half of a pair. -/
def readEscapedPoint? (t : Text) : Option (CodePoint × Text) := do
  let (high, rest) ← readUnit? t
  let alone := (CodePoint.ofNat high, rest)
  match rest with
  | .char '\\' :: .char 'u' :: more =>
    match readUnit? more with
    | some (low, after) =>
      match joinHalves? high low with
      | some c => return (c, after)
      | none => return alone
    | none => none
  | _ => return alone

/-- Reads the rest of a text behind its opening quote. -/
def readText? : Nat → Text → Option (Text × Text)
  | 0, _ => none
  | _ + 1, [] => none
  | _ + 1, .char '"' :: rest => some ([], rest)
  | fuel + 1, .char '\\' :: .char 'u' :: rest => do
    let (c, rest) ← readEscapedPoint? rest
    let (t, after) ← readText? fuel rest
    return (c :: t, after)
  | fuel + 1, .char '\\' :: e :: rest => do
    let c ← simpleEscape? e
    let (t, after) ← readText? fuel rest
    return (c :: t, after)
  | fuel + 1, c :: rest => do
    if c.toNat < 0x20 then none
    let (t, after) ← readText? fuel rest
    return (c :: t, after)

/-- Reads a number. It is whole if it has neither a fraction nor an exponent. -/
def readNumber? (t : Text) : Option (Json × Text) := do
  let (negative, t) := match t with
    | .char '-' :: rest => (true, rest)
    | _ => (false, t)
  let digits := t.takeWhile CodePoint.isDigit
  let t := t.dropWhile CodePoint.isDigit
  if digits.isEmpty then none
  let (fraction, t) := match t with
    | .char '.' :: rest => (rest.takeWhile CodePoint.isDigit, rest.dropWhile CodePoint.isDigit)
    | _ => ([], t)
  let (exponent, t) : Option Int × Text := match t with
    | .char e :: rest =>
      if e = 'e' || e = 'E' then
        let (sign, rest) : Int × Text := match rest with
          | .char '-' :: rest => (-1, rest)
          | .char '+' :: rest => (1, rest)
          | _ => (1, rest)
        (some (sign * (Text.digitsValue (rest.takeWhile CodePoint.isDigit) : Nat)),
          rest.dropWhile CodePoint.isDigit)
      else (none, t)
    | _ => (none, t)
  if fraction.isEmpty && exponent.isNone then
    let n : Int := Text.digitsValue digits
    return (.int (if negative then -n else n), t)
  let value := Text.digitsValue (digits ++ fraction)
  return (.float (Binary.ofDecimal negative value (exponent.getD 0 - fraction.length)), t)

mutual

/-- Reads a tree, with a bound on its depth. -/
def readTree? : Nat → Text → Option (Json × Text)
  | 0, _ => none
  | fuel + 1, t =>
    match skipBlanks t with
    | .char '"' :: rest => (readText? (rest.length + 1) rest).map fun (t, after) => (.text t, after)
    | .char '[' :: rest =>
      match skipBlanks rest with
      | .char ']' :: after => some (.array [], after)
      | rest => (readItems? fuel rest).map fun (items, after) => (.array items, after)
    | .char '\x7b' :: rest =>
      match skipBlanks rest with
      | .char '\x7d' :: after => some (.object [], after)
      | rest => (readMembers? fuel rest).map fun (members, after) => (.object members, after)
    | t =>
      let literals : List (String × Json) :=
        [("null", .null), ("true", .bool true), ("false", .bool false),
          ("NaN", .float (0.0 / 0.0)), ("Infinity", .float (1.0 / 0.0)),
          ("-Infinity", .float (-1.0 / 0.0))]
      let literal := literals.findSome? fun (word, j) => (Text.dropPrefix? word t).map (j, ·)
      literal <|> readNumber? t

/-- Reads the items of an array up to its closing bracket. -/
def readItems? : Nat → Text → Option (List Json × Text)
  | 0, _ => none
  | fuel + 1, t => do
    let (item, rest) ← readTree? fuel t
    match skipBlanks rest with
    | .char ',' :: rest => do
      let (items, after) ← readItems? fuel rest
      return (item :: items, after)
    | .char ']' :: after => return ([item], after)
    | _ => none

/-- Reads the members of an object up to its closing brace. -/
def readMembers? : Nat → Text → Option (List (Text × Json) × Text)
  | 0, _ => none
  | fuel + 1, t => do
    match skipBlanks t with
    | .char '"' :: rest => do
      let (name, rest) ← readText? (rest.length + 1) rest
      match skipBlanks rest with
      | .char ':' :: rest => do
        let (value, rest) ← readTree? fuel rest
        match skipBlanks rest with
        | .char ',' :: rest => do
          let (members, after) ← readMembers? fuel rest
          return ((name, value) :: members, after)
        | .char '\x7d' :: after => return ([(name, value)], after)
        | _ => none
      | _ => none
    | _ => none

end

/-- The tree that a text is the form of. -/
def read? (t : Text) : Option Json := do
  let (j, rest) ← readTree? (t.length + 1) t
  if (skipBlanks rest).isEmpty then some j else none

end Json

end MailFilter
