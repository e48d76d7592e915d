import MailFilter.Text.Blank

/-!
# Address lists

The values of several header fields are read as one address list, joined by commas. An address is a
bare address, a phrase with an address in angle brackets, or a group of addresses behind a colon.
Comments in parentheses are passed over. Reading never fails: what makes no sense yields an empty
address, or is skipped by one code point.

- `AddressList.read`: the addresses of one text.
- `AddressList.expected`: how many addresses the commas of a text make one expect.
- `AddressList.ofValues`: the addresses of the values of header fields, if they are as many as
  expected, empty ones left out.

Each reader hands on what it has not read. The readers that go round are bounded by the length of
the text, of which every round reads at least one code point.
-/

namespace MailFilter

namespace AddressList

/-- Whether a code point is one of the characters of a string. -/
def oneOf (marks : String) (c : CodePoint) : Bool :=
  marks.toList.any fun m => c = .char m

/-- A blank between words, line ends excepted. -/
def isSpace : CodePoint → Bool := oneOf " \t"

/-- A blank between words, or a line end. -/
def isFold : CodePoint → Bool := oneOf " \t\r\n"

/-- A mark with a meaning of its own. -/
def isSpecial : CodePoint → Bool := oneOf "()<>@,:;.\"[]"

/-- Ends an atom of an address. -/
def endsAtom (c : CodePoint) : Bool := isSpecial c || isFold c

/-- Ends a word of a phrase, in which points are allowed. -/
def endsWord (c : CodePoint) : Bool := endsAtom c && c ≠ .char '.'

/-- What follows a comment of which `depth` parentheses are open. A carriage return closes one. -/
def afterComment : (depth : Nat) → Text → Text
  | 0, t => t
  | _ + 1, [] => []
  | _ + 1, [_] => []
  | depth + 1, c :: d :: rest =>
    if c = .char '\\' then afterComment (depth + 1) rest
    else if c = .char ')' || c = .char '\r' then afterComment depth (d :: rest)
    else if c = .char '(' then afterComment (depth + 2) (d :: rest)
    else afterComment (depth + 1) (d :: rest)
termination_by _ t => t.length

/-- Reads up to an end mark or a carriage return; a backslash makes the next code point plain. -/
def readDelimited (last : CodePoint) : Text → Text × Text
  | [] => ([], [])
  | [c] => if c = last || c = .char '\r' || c = .char '\\' then ([], []) else ([c], [])
  | c :: d :: rest =>
    if c = last || c = .char '\r' then ([], d :: rest)
    else if c = .char '\\' then
      let (t, after) := readDelimited last rest
      (d :: t, after)
    else
      let (t, after) := readDelimited last (d :: rest)
      (c :: t, after)

/-- Passes over blanks and comments, and hands on the blanks that are no line ends. -/
def skipFill : (fuel : Nat) → Text → Text × Text
  | 0, t => ([], t)
  | _ + 1, [] => ([], [])
  | fuel + 1, c :: rest =>
    if isFold c then
      let (blanks, after) := skipFill fuel rest
      (if isSpace c then c :: blanks else blanks, after)
    else if c = .char '(' then skipFill fuel (afterComment 1 rest)
    else ([], c :: rest)

/-- What follows blanks and comments. -/
def afterFill (t : Text) : Text :=
  (skipFill t.length t).2

/-- Reads the words of a phrase. -/
def readPhrase : (fuel : Nat) → Text → List Text × Text
  | 0, t => ([], t)
  | _ + 1, [] => ([], [])
  | fuel + 1, c :: rest =>
    if isFold c then readPhrase fuel rest
    else if c = .char '"' then
      let (word, rest) := readDelimited (.char '"') rest
      let (words, after) := readPhrase fuel rest
      (word :: words, after)
    else if c = .char '(' then readPhrase fuel (afterComment 1 rest)
    else if endsWord c then ([], c :: rest)
    else
      let word := (c :: rest).takeWhile (!endsWord ·)
      let (words, after) := readPhrase fuel ((c :: rest).dropWhile (!endsWord ·))
      (word :: words, after)

/-- Reads a domain. A second at sign makes it empty. -/
def readDomain : (fuel : Nat) → Text → Text × Text
  | 0, t => ([], t)
  | _ + 1, [] => ([], [])
  | fuel + 1, c :: rest =>
    let add (part rest : Text) : Text × Text :=
      let (domain, after) := readDomain fuel rest
      if after.head? = some (.char '@') then ([], after) else (part ++ domain, after)
    if isSpace c then readDomain fuel rest
    else if c = .char '(' then readDomain fuel (afterComment 1 rest)
    else if c = .char '[' then
      let (part, rest) := readDelimited (.char ']') rest
      add ([.char '['] ++ part ++ [.char ']']) rest
    else if c = .char '.' then add [c] rest
    else if endsAtom c then ([], c :: rest)
    else add ((c :: rest).takeWhile (!endsAtom ·)) ((c :: rest).dropWhile (!endsAtom ·))

/-- Drops the last part if it is blank. Parts are kept in reverse. -/
def dropBlankPart : List Text → List Text
  | part :: parts => if part.all CodePoint.isBlank then parts else part :: parts
  | [] => []

/-- Puts a backslash before each backslash and quote. -/
def requote (t : Text) : Text :=
  t.flatMap fun c => if c = .char '\\' || c = .char '"' then [.char '\\', c] else [c]

/-- Reads the parts of an address before its at sign, and adds them in reverse. -/
def readLocal : (fuel : Nat) → (parts : List Text) → Text → List Text × Text
  | 0, parts, t => (parts, t)
  | _ + 1, parts, [] => (parts, [])
  | fuel + 1, parts, c :: rest =>
    if c = .char '.' then
      readLocal fuel ([c] :: dropBlankPart parts) (afterFill rest)
    else if c ≠ .char '"' && endsAtom c then (dropBlankPart parts, c :: rest)
    else
      let (part, rest) :=
        if c = .char '"' then
          let (quoted, rest) := readDelimited (.char '"') rest
          ([.char '"'] ++ requote quoted ++ [.char '"'], rest)
        else ((c :: rest).takeWhile (!endsAtom ·), (c :: rest).dropWhile (!endsAtom ·))
      -- blanks between parts are kept as a part of their own, until a point drops them
      let (blanks, rest) := skipFill rest.length rest
      readLocal fuel (if blanks.isEmpty then part :: parts else blanks :: part :: parts) rest

/-- Reads a bare address. One with an empty domain is empty. -/
def readAddress (t : Text) : Text × Text :=
  let (parts, rest) := readLocal (t.length + 1) [] (afterFill t)
  let localPart := parts.reverse.flatten
  match rest with
  | .char '@' :: rest =>
    let rest := afterFill rest
    let (domain, after) := readDomain (rest.length + 1) rest
    (if domain.isEmpty then [] else localPart ++ [.char '@'] ++ domain, after)
  | rest => (localPart, rest)

/-- Reads an address behind an opening angle bracket; a route before it is passed over. -/
def readAngle : (fuel : Nat) → (expectRoute : Bool) → Text → Text × Text
  | 0, _, t => ([], t)
  | _ + 1, _, [] => ([], [])
  | fuel + 1, true, t => readAngle fuel false (afterFill (readDomain (t.length + 1) t).2)
  | fuel + 1, false, c :: rest =>
    if c = .char '>' then ([], rest)
    else if c = .char '@' then readAngle fuel true (afterFill rest)
    else if c = .char ':' then readAngle fuel false (afterFill rest)
    else
      let (address, after) := readAddress (c :: rest)
      (address, after.drop 1)

mutual

/-- Reads the next entry of a list: its addresses, and what follows the comma behind it. -/
def readEntry : (fuel : Nat) → Text → List Text × Text
  | 0, t => ([], t)
  | fuel + 1, t =>
    let start := afterFill t
    let (phrase, rest) := readPhrase (start.length + 1) start
    let (addresses, after) : List Text × Text :=
      match afterFill rest with
      | [] => (phrase.take 1, [])
      | c :: rest =>
        -- the phrase was the beginning of a bare address, which is read once more from there
        if c = .char '.' || c = .char '@' then
          let (address, after) := readAddress start
          ([address], after)
        else if c = .char ':' then readGroup fuel rest
        else if c = .char '<' then
          let rest := afterFill rest
          let (address, after) := readAngle (2 * rest.length + 2) false rest
          ([address], after)
        -- a mark that begins nothing is skipped
        else if phrase.isEmpty then ([], if isSpecial c then rest else c :: rest)
        else (phrase.take 1, c :: rest)
    match afterFill after with
    | .char ',' :: after => (addresses, after)
    | after => (addresses, after)

/-- Reads the addresses of a group up to its semicolon. -/
def readGroup : (fuel : Nat) → Text → List Text × Text
  | 0, t => ([], t)
  | fuel + 1, t =>
    if t.isEmpty then ([], [])
    else match afterFill t with
    | .char ';' :: rest => ([], rest)
    | rest =>
      let (addresses, rest) := readEntry fuel rest
      let (others, after) := readGroup fuel rest
      (addresses ++ others, after)

end

/-- Reads entries up to the end of the text. An entry without an address counts as an empty one. -/
def readEntries : (fuel : Nat) → Text → List Text
  | 0, _ => []
  | _ + 1, [] => []
  | fuel + 1, t =>
    let (addresses, rest) := readEntry (2 * t.length + 2) t
    (if addresses.isEmpty then [[]] else addresses) ++ readEntries fuel rest

/-- The addresses of a text, empty ones included. -/
def read (t : Text) : List Text :=
  readEntries (t.length + 1) t

/-! ## Plausibility

The addresses of a list count only if there are as many as the commas make one expect. -/

/-- The text without its quotations. `quotation` is what has been read of a quotation, in reverse; one
without an end is kept. -/
def outsideQuotes (quotation : Option Text) : Text → Text
  | [] => (quotation.getD []).reverse
  | [c] => if c = .char '"' then (if quotation.isSome then [] else [c])
    else ((quotation.map (c :: ·)).getD [c]).reverse
  | c :: d :: rest =>
    if c = .char '\\' then
      match quotation with
      | some q => outsideQuotes (some (d :: c :: q)) rest
      | none => c :: d :: outsideQuotes none rest
    else match quotation with
    | some q =>
      if c = .char '"' then outsideQuotes none (d :: rest)
      else outsideQuotes (some (c :: q)) (d :: rest)
    | none =>
      if c = .char '"' then outsideQuotes (some [c]) (d :: rest)
      else c :: outsideQuotes none (d :: rest)

/-- Whether parentheses are balanced when `depth` of them are open. A backslash makes the next code
point plain. -/
def isBalanced : (depth : Nat) → (escaped : Bool) → Text → Bool
  | depth, _, [] => depth = 0
  | depth, true, _ :: rest => isBalanced depth false rest
  | depth, false, c :: rest =>
    if c = .char '\\' then isBalanced depth true rest
    else if c = .char '(' then isBalanced (depth + 1) false rest
    else if c = .char ')' then
      match depth with
      | 0 => false
      | depth + 1 => isBalanced depth false rest
    else isBalanced depth false rest

/-- A value with unbalanced parentheses stands for two empty quotations. -/
def withBalance (value : Text) : Text :=
  if isBalanced 0 false (outsideQuotes none value) then value else "('', '')"

/-- How many addresses the commas of a value make one expect. -/
def expected (value : Text) : Nat :=
  1 + (outsideQuotes none value).count (.char ',')

/-- The addresses of the values of header fields, read as one list. If there are more or fewer of them
than expected, there are none; an address with a bracket is passed over. -/
def ofValues (values : List Text) : List Text :=
  let values := values.map withBalance
  let addresses := read (Text.join ", " values)
  if addresses.length = (values.map expected).foldl Nat.add 0 then
    addresses.filter fun a => !a.isEmpty && !a.contains (.char '[')
  else []

end AddressList

end MailFilter
