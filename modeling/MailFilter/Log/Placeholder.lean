import MailFilter.Decimal.Places
import MailFilter.Failure

/-!
# Placeholders

The message of a record may hold places for values. A place begins with a percent sign and ends with
a letter that says how the value is written; between them stand the name of the value, marks, a width
and a precision, each of which may be missing.

- `Placeholder`: a place.
- `Placeholder.read?`: reads a place.
- `Placeholder.fill`: the message with its values.
-/

namespace MailFilter

/-- A number in a place: given, or taken from the values. -/
inductive Measure where
  | absent
  | given (n : Nat)
  | taken
  deriving DecidableEq

/-- A place for a value. -/
structure Placeholder where
  name : Option Text
  marks : List CodePoint
  width : Measure
  precision : Measure
  form : CodePoint

namespace Placeholder

/-- Whether a place has a mark. -/
def has (p : Placeholder) (mark : Char) : Bool :=
  p.marks.contains (.char mark)

/-- Reads a name in parentheses, which may hold others. -/
def readName? : (depth : Nat) → Text → Option (Text × Text)
  | _, [] => none
  | depth, c :: rest =>
    if c = .char ')' then
      match depth with
      | 0 => some ([], rest)
      | depth + 1 => (readName? depth rest).map fun (name, rest) => (c :: name, rest)
    else
      (readName? (if c = .char '(' then depth + 1 else depth) rest).map fun (name, rest) =>
        (c :: name, rest)

/-- Reads digits, or a star in place of them. -/
def readMeasure (t : Text) : Measure × Text :=
  match t with
  | .char '*' :: rest => (.taken, rest)
  | t =>
    let digits := t.takeWhile CodePoint.isDigit
    let measure : Measure :=
      if digits.isEmpty then .absent else .given (Text.digitsValue digits)
    (measure, t.drop digits.length)

/-- Whether a code point is a mark. -/
def isMark : CodePoint → Bool
  | .char c => "#0- +".toList.contains c
  | .surrogate _ => false

/-- Reads a place behind its percent sign. -/
def read? (t : Text) : Option (Placeholder × Text) := do
  let (name, t) ←
    match t with
    | .char '(' :: rest => (readName? 0 rest).map fun (name, rest) => (some name, rest)
    | t => some (none, t)
  let marks := t.takeWhile isMark
  let (width, t) := readMeasure (t.drop marks.length)
  let (precision, t) : Measure × Text :=
    match t with
    | .char '.' :: rest =>
      let (measure, rest) := readMeasure rest
      (if measure = .absent then .given 0 else measure, rest)
    | t => (.absent, t)
  let t :=
    match t with
    -- the size of a number means nothing here
    | .char 'h' :: rest | .char 'l' :: rest | .char 'L' :: rest => rest
    | t => t
  match t with
  | form :: rest => some (⟨name, marks, width, precision, form⟩, rest)
  | [] => none

/-! ## Values -/

/-- The values that are left. A mapping has values by name, or is the only value itself. -/
structure Supply where
  left : List Value
  named : Option (List (Value × Value))

/-- Filling places takes values. -/
abbrev Filling := StateT Supply (Except Fault)

/-- Takes the next value. -/
def next : Filling Value := do
  match (← get).left with
  | v :: rest =>
    modify fun s => { s with left := rest }
    return v
  | [] => throw .wrongKind

/-- Takes the value of a name. -/
def byName (name : Text) : Filling Value := do
  match (← get).named with
  | none => throw .wrongKind
  | some entries =>
    -- a mapping is the only value, and it counts as used from now on
    modify fun s => { s with left := [] }
    match Value.lookupText? name entries with
    | some v => return v
    | none => throw .missingKey

/-- A measure, taken from the values if need be. -/
def measure : Measure → Filling (Option Int)
  | .absent => return none
  | .given n => return some n
  | .taken => do
    match ← next with
    | .int n => return some n
    | .bool b => return some (if b then 1 else 0)
    | _ => throw .wrongKind

/-- A number without its fraction. -/
def whole (v : Value) : Filling Int :=
  match v with
  | .bool b => return if b then 1 else 0
  | .int n => return n
  | .float x =>
    match Binary.ofFloat x with
    | .notANumber => throw .badValue
    | .infinite _ => throw .overflow
    | .finite negative m q =>
      let magnitude : Nat := if 0 ≤ q then m * Nat.pow 2 q.natAbs else m / Nat.pow 2 q.natAbs
      return if negative then -(magnitude : Int) else magnitude
  | _ => throw .wrongKind

/-- A number that has no fraction by its kind. -/
def integer (v : Value) : Filling Int :=
  match v with
  | .bool b => return if b then 1 else 0
  | .int n => return n
  | _ => throw .wrongKind

/-- A number with a fraction. -/
def fractional (v : Value) : Filling Binary :=
  match v with
  | .bool b => return Binary.ofFloat (if b then 1 else 0)
  | .int n =>
    match Binary.ofFloat (Binary.ofInt n) with
    | .infinite _ => throw .overflow
    | x => return x
  | .float x => return Binary.ofFloat x
  | _ => throw .wrongKind

/-! ## Texts -/

/-- Fills a text up to a width. Zeros stand between the sign with the base and the digits. -/
def pad (width : Nat) (left zeros : Bool) (lead digits : Text) : Text :=
  let missing := width - (lead.length + digits.length)
  if left then lead ++ digits ++ List.replicate missing (.char ' ')
  else if zeros then lead ++ List.replicate missing (.char '0') ++ digits
  else List.replicate missing (.char ' ') ++ lead ++ digits

/-- The sign of a number. -/
def signOf (p : Placeholder) (negative : Bool) : Text :=
  if negative then "-" else if p.has '+' then "+" else if p.has ' ' then " " else []

/-- Capitals for the letters of a number. -/
def capitals (t : Text) : Text :=
  t.map fun
    | .char c => .char c.toUpper
    | c => c

/-- The digits of a number in a base, with at least so many digits. -/
def digitsIn (base least n : Nat) : Text :=
  let digits : Text := (Nat.toDigits base n).map .char
  List.replicate (least - digits.length) (.char '0') ++ digits

/-- A finite number with a fraction, without its sign. -/
def magnitude (form : Char) (explicit : Bool) (precision m : Nat) (q : Int) : Text :=
  let (num, den) : Nat × Nat := if 0 ≤ q then (m * Nat.pow 2 q.natAbs, 1) else (m, Nat.pow 2 q.natAbs)
  if form = 'f' then Places.fixed explicit precision num den
  else if form = 'e' then Places.scientific explicit precision num den
  else Places.general explicit precision num den

/-- The text of a number without a fraction: its base and its digits. -/
def writeWhole (p : Placeholder) (form : Char) (precision : Option Nat) (n : Int) : Text × Text :=
  let (base, mark) : Nat × Text :=
    if form = 'x' then (16, "0x") else if form = 'X' then (16, "0X")
    else if form = 'o' then (8, "0o") else (10, [])
  let digits := digitsIn base (precision.getD 0) n.natAbs
  (p.signOf (n < 0) ++ (if p.has '#' then mark else []),
    if form = 'X' then capitals digits else digits)

/-- The text of a number with a fraction: its sign and its digits. -/
def writeFractional (p : Placeholder) (form : Char) (precision : Option Nat) (x : Binary) :
    Text × Text :=
  let (negative, digits) : Bool × Text :=
    match x with
    | .notANumber => (false, "nan")
    | .infinite negative => (negative, "inf")
    | .finite negative m q =>
      (negative, magnitude form.toLower (p.has '#') (precision.getD 6) m q)
  (p.signOf negative, if form.isUpper then capitals digits else digits)

/-- A single code point. -/
def single (v : Value) : Filling Text :=
  match v with
  | .text [c] => return [c]
  | .bool b => return [CodePoint.ofNat (if b then 1 else 0)]
  | .int n =>
    if 0 ≤ n then
      match CodePoint.ofNat? n.toNat with
      | some c => return [c]
      | none => throw .overflow
    else throw .overflow
  | _ => throw .wrongKind

/-- The quoted form of a value in ASCII. -/
def asciiQuoted (v : Value) : Text :=
  v.quoted.flatMap fun c =>
    if c.toNat < 0x80 then [c]
    else if c.toNat < 0x100 then "\\x" ++ Text.hex 2 c.toNat
    else if c.toNat < 0x10000 then "\\u" ++ Text.hex 4 c.toNat
    else "\\U" ++ Text.hex 8 c.toNat

/-- The text in a place. -/
def write (p : Placeholder) : Filling Text := do
  let named ← p.name.mapM byName
  let width ← measure p.width
  let precision := (← measure p.precision).map Int.toNat
  -- a negative width is one for the left side
  let left := p.has '-' || width.any (· < 0)
  let width := (width.getD 0).natAbs
  let value : Filling Value := named.elim next pure
  let short (t : Text) : Text := (precision.map t.take).getD t
  match p.form with
  | .char '%' => return "%"
  | .char 's' => return pad width left false [] (short (← value).plain)
  | .char 'r' => return pad width left false [] (short (← value).quoted)
  | .char 'a' => return pad width left false [] (short (asciiQuoted (← value)))
  | .char 'c' => return pad width left false [] (← single (← value))
  | .char form =>
    if form = 'd' || form = 'i' || form = 'u' then
      let (lead, digits) := p.writeWhole form precision (← whole (← value))
      return pad width left (p.has '0') lead digits
    else if form = 'x' || form = 'X' || form = 'o' then
      let (lead, digits) := p.writeWhole form precision (← integer (← value))
      return pad width left (p.has '0') lead digits
    else if "eEfFgG".toList.contains form then
      let (lead, digits) := p.writeFractional form precision (← fractional (← value))
      return pad width left (p.has '0') lead digits
    else
      let _ ← value
      throw .badValue
  | .surrogate _ =>
    let _ ← value
    throw .badValue

/-- Fills the places of a message. -/
def fillFrom : (fuel : Nat) → Text → Filling Text
  | 0, _ => return []
  | _, [] => return []
  | fuel + 1, c :: rest => do
    if c = .char '%' then
      match read? rest with
      | none => throw .badValue
      | some (p, rest) =>
        let t ← p.write
        return t ++ (← fillFrom fuel rest)
    else return c :: (← fillFrom fuel rest)

/-- The message with its values. Every value has to be used; without values a message stands for
itself. -/
def fill (message : Text) (values : List Value) : Except Fault Text :=
  let supply : Supply :=
    match values with
    | [.map (entry :: entries)] => ⟨values, some (entry :: entries)⟩
    | _ => ⟨values, none⟩
  if values.isEmpty then .ok message
  else do
    let (t, left) ← (fillFrom (message.length + 1) message).run supply
    if left.left.isEmpty || left.named.isSome then return t else throw .wrongKind

end Placeholder

end MailFilter
