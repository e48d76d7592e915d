import MailFilter.Message.Word

/-!
# Mailboxes

The fields that name senders and recipients hold a list of mailboxes and of groups of mailboxes. A
mailbox is an address, or a name with an address in angle brackets. What makes no sense is read as a
mailbox without name and address, up to the next comma.

- `LocalPart`, `Domain`, `Mailbox`, `Recipient`: the structure of such a field.
- `Recipient.readAll`: reads a field.
- `Recipient.shownAll`: the list as text, every part being quoted where it has to be.

Parts that are cut off may be impossible to show, which is found out only when they are shown.
-/

namespace MailFilter

/-! ## Addresses -/

/-- The part of an address before its at sign. -/
inductive LocalPart where
  | single (w : Word)
  | joined (parts : List Part)

namespace LocalPart

/-- Whether a part of a local part is a point. -/
def isPoint : Part → Bool
  | .point => true
  | _ => false

/-- The meaning of parts without fill. The fill of a word is dropped beside points and at both ends;
`point` tells whether the part before was a point or there was none. -/
def meaningAfter (point : Bool) : List Part → Text
  | [] => []
  | .word w :: rest =>
    let before := if point then [] else Fill.meaning w.before
    let after := if rest.head?.all isPoint then [] else Fill.meaning w.after
    before ++ w.core.meaning ++ after ++ meaningAfter false rest
  | part :: rest => part.meaning ++ meaningAfter (isPoint part) rest

/-- The meaning of a local part. -/
def meaning : LocalPart → Except Fault Text
  | .single w => if w.core.isHollow then .error .missingPosition else .ok w.core.meaning
  | .joined parts => .ok (meaningAfter true (parts.filter fun p => !p matches .fill _))

/-- Reads words, points and backslashes up to a mark that ends a phrase. -/
def readParts : (fuel : Nat) → Text → Reading (List Part × Text)
  | 0, t => .ok ([], t)
  | _ + 1, [] => .ok ([], [])
  | fuel + 1, c :: rest => do
    -- a backslash may stand between words, though nowhere else in a field
    if c.endsPhrase && c ≠ .char '\\' then return ([], c :: rest)
    let (part, rest) ←
      if c = .char '.' then .ok (Part.point, rest)
      else if c = .char '\\' then .ok (Part.backslash, rest)
      else Phrase.readWordOrFill (c :: rest)
    let (parts, rest) ← readParts fuel rest
    return (part :: parts, rest)

/-- Reads the parts of a local part, of which there has to be one beside fill. -/
def readAllParts (t : Text) : Reading (List Part × Text) := do
  let (parts, rest) ← readParts t.length t
  match parts with
  | [] | [.fill _] => Reading.cutOff .missingPosition
  | _ => return (parts, rest)

/-- Reads a word or words joined by points. -/
def readWord (t : Text) : Reading (Option Word × Text) :=
  Reading.orElse ((Word.readDotted t).map fun (w, rest) => (some w, rest)) fun _ =>
    Reading.orElse ((Word.read t).map fun (w, rest) => (some w, rest)) fun _ =>
      match t with
      | c :: _ => if c.endsPhrase && c ≠ .char '\\' then .error .absent else .ok (none, t)
      | [] => .error .absent

/-- Reads a local part. Where it goes on behind its first word, it is read once more in parts, from
the written form of that word on. -/
def read (t : Text) : Reading (LocalPart × Text) := do
  if t.isEmpty then Reading.cutOff .missingPosition
  let (before, t) := Fill.read? t
  if t.isEmpty then .error .absent
  let (word, rest) ← readWord t
  let whole : Option Word := word.map fun w => { w with before }
  -- the first word is put back in its written form, where comments and quotations are spelled anew
  let again : Text := (whole.map Word.written).getD (before.getD []) ++ rest
  let goesOn : Bool := rest.head?.any fun c => !c.endsPhrase || c = .char '\\'
  match whole with
  | some w =>
    if goesOn then (readAllParts again).map fun (parts, rest) => (.joined parts, rest)
    else return (.single w, rest)
  | none => (readAllParts again).map fun (parts, rest) => (.joined parts, rest)

end LocalPart

/-- The part of an address after its at sign: its written form, its name, and whether a literal in
brackets has its end. -/
structure Domain where
  written : Text
  name : Text
  isClosed : Bool := true

namespace Domain

/-- A name has no blanks. -/
def nameOf (t : Text) : Text :=
  t.filter (!·.isBlank)

/-- Reads the digits of a literal. There have to be some before a blank. -/
def readDigits (t : Text) : Reading (Text × Text) :=
  match t with
  | [] => Reading.cutOff .unset
  | c :: _ =>
    if c.isSpace then Reading.cutOff .unset
    else .ok (Text.readPlain (fun c => c = .char '[' || c = .char ']') false t)

/-- Drops blanks at the beginning of a text that begins with a blank. -/
def readBlanks (t : Text) : Text × Text :=
  if t.head?.any CodePoint.isSpace then Span.readBlanks t else ([], t)

/-- Reads a literal behind its opening bracket. -/
def readLiteral (before : Option Text) (t : Text) : Reading (Domain × Text) := do
  -- the text may end anywhere in a literal
  let unclosed : Domain × Text := (⟨[], [], false⟩, [])
  if t.isEmpty then return unclosed
  let (first, t) := readBlanks t
  let (digits, t) ← readDigits t
  if t.isEmpty then return unclosed
  let (second, t) := readBlanks t
  match t with
  | [] => return unclosed
  | .char ']' :: t =>
    let (after, rest) := Fill.read? t
    let inside := "[" ++ first ++ digits ++ second ++ "]"
    return (⟨before.getD [] ++ inside ++ after.getD [], nameOf inside, true⟩, rest)
  | _ => .error .absent

/-- Reads the further words of a name, each behind a point. -/
def readFurther : (fuel : Nat) → Text → Reading (List Word × Text)
  | fuel + 1, .char '.' :: t => do
    let (word, rest) ← Word.readAtom t
    let (words, rest) ← readFurther fuel rest
    return (word :: words, rest)
  | _, t => .ok ([], t)

/-- Reads a domain. An at sign behind its first word makes it unreadable. -/
def read (t : Text) : Reading (Domain × Text) := do
  if t.isEmpty then Reading.cutOff .missingPosition
  let (before, t) := Fill.read? t
  match t with
  | [] => .error .absent
  | .char '[' :: t => readLiteral before t
  | t =>
    let (word, rest) ← Reading.orElse (Word.readDotted t) fun _ => Word.readAtom t
    if rest.head? = some (.char '@') then .error .absent
    let (words, rest) ← readFurther rest.length rest
    let written := Text.join "." ((word :: words).map Word.written)
    let name := Text.join "." ((word :: words).map Word.meaning)
    return (⟨before.getD [] ++ written, nameOf name, true⟩, rest)

end Domain

/-- An address, the domain of which may be missing. -/
structure Address where
  localPart : LocalPart
  domain : Option Domain

namespace Address

/-- Reads an address. -/
def read (t : Text) : Reading (Address × Text) := do
  let (localPart, rest) ← LocalPart.read t
  match rest with
  | .char '@' :: rest =>
    let (domain, rest) ← Domain.read rest
    return (⟨localPart, some domain⟩, rest)
  | rest => return (⟨localPart, none⟩, rest)

/-- Passes over fill and commas. -/
def afterCommas : (fuel : Nat) → Text → Text
  | 0, t => t
  | fuel + 1, t =>
    match Fill.read? t with
    | (some _, rest) => afterCommas fuel rest
    | (none, .char ',' :: rest) => afterCommas fuel rest
    | (none, t) => t

/-- Passes over the further domains of a route, each behind a comma. -/
def afterDomains : (fuel : Nat) → Text → Reading Text
  | fuel + 1, .char ',' :: t =>
    -- a comma may stand without a domain behind it
    if t.isEmpty then .ok []
    else match (Fill.read? t).2 with
    | [] => Reading.cutOff .missingPosition
    | .char '@' :: rest => do
      let (_, rest) ← Domain.read rest
      afterDomains fuel rest
    | rest => afterDomains fuel rest
  | _, t => .ok t

/-- Passes over a route: domains, each behind an at sign, up to a colon. -/
def afterRoute (t : Text) : Reading Text := do
  match afterCommas t.length t with
  | .char '@' :: t =>
    let (_, rest) ← Domain.read t
    match ← afterDomains rest.length rest with
    | .char ':' :: rest => return rest
    | _ => .error .absent
  | _ => .error .absent

/-- Reads an address in angle brackets, which may be empty. The closing bracket may be missing. -/
def readAngle (t : Text) : Reading (Option Address × Text) := do
  match (Fill.read? t).2 with
  | [.char '<'] => Reading.cutOff .missingPosition
  | .char '<' :: .char '>' :: rest => return (none, rest)
  | .char '<' :: t =>
    let (address, rest) ← Reading.orElse (read t) fun _ => do read (← afterRoute t)
    -- what stands in place of the closing bracket is left
    let rest := if rest.head? = some (.char '>') then rest.drop 1 else rest
    return (some address, (Fill.read? rest).2)
  | _ => .error .absent

/-- Whether the domain, if it is a literal, has its end. -/
def isClosed (a : Address) : Bool :=
  a.domain.all Domain.isClosed

end Address

/-! ## Mailboxes and groups -/

/-- A mailbox. -/
structure Mailbox where
  name : Option (List Part)
  address : Option Address

namespace Mailbox

/-- What makes no sense. -/
def senseless : Mailbox := ⟨none, none⟩

/-- Reads a name before an address in angle brackets. The fill before it becomes part of its first
word. -/
def readName (before : Option Text) (t : Text) : Reading (List Part × Text) := do
  let (parts, rest) ← Phrase.read t
  if rest.isEmpty then .error .absent
  -- fill can be put into a word only: a name that begins with a point has no place for it
  match before, parts with
  | none, parts => return (parts, rest)
  | some _, .word w :: parts => return (.word { w with before } :: parts, rest)
  | some _, [] => Reading.cutOff .missingPosition
  | some _, _ => Reading.cutOff .wrongKind

/-- Reads an address in angle brackets, a name before it. -/
def readNamed (t : Text) : Reading (Mailbox × Text) := do
  let (before, t) := Fill.read? t
  match t with
  | [] => .error .absent
  | c :: _ =>
    if c = .char '<' then
      let (address, rest) ← Address.readAngle t
      return (⟨none, address⟩, rest)
    else if c.endsPhrase then .error .absent
    else
      let (name, rest) ← readName before t
      let (address, rest) ← Address.readAngle rest
      return (⟨some name, address⟩, rest)

/-- Reads a mailbox. -/
def read (t : Text) : Reading (Mailbox × Text) := do
  let (mailbox, rest) ← Reading.orElse (readNamed t) fun _ =>
    (Address.read t).map fun (address, rest) => (⟨none, some address⟩, rest)
  if mailbox.address.all Address.isClosed then return (mailbox, rest)
  else Reading.cutOff .noOperation

/-- Passes over what makes no sense up to an end mark. -/
def afterSenseless (ends : CodePoint → Bool) : (fuel : Nat) → Text → Reading Text
  | 0, t => .ok t
  | _ + 1, [] => .ok []
  | fuel + 1, c :: rest => do
    if ends c then return c :: rest
    if c.endsPhrase then afterSenseless ends fuel rest
    else
      let (_, rest) ← Phrase.read (c :: rest)
      afterSenseless ends fuel rest

/-- The meaning of a name without the fill at both ends. -/
def nameText (parts : List Part) : Except Fault Text := do
  let parts ← withoutFirst parts
  let parts ← withoutLast parts.reverse
  return parts.reverse.flatMap Part.meaning
where
  /-- Drops fill at the beginning. -/
  withoutFirst : List Part → Except Fault (List Part)
    | [] => .ok []
    | [.fill _] => .error .missingPosition
    | .fill _ :: rest => .ok rest
    | .word w :: rest => .ok (.word { w with before := none } :: rest)
    | .point :: _ | .backslash :: _ => .error .noOperation
  /-- Drops fill at the end; the parts are in reverse. -/
  withoutLast : List Part → Except Fault (List Part)
    | [] => .ok []
    | .fill _ :: rest => .ok rest
    | .word w :: rest => .ok (.word { w with after := none } :: rest)
    | .point :: _ | .backslash :: _ => .error .noOperation

/-- A text in quotes if it holds a mark with a meaning of its own. -/
def quotedIfSpecial (t : Text) : Text :=
  if t.any CodePoint.isSpecial then t.inQuotes else t

/-- The address as text; no address is an empty pair of brackets. -/
def addressText (localPart domain : Text) : Text :=
  let localPart :=
    if localPart.any fun c => c.endsAtom && c ≠ .char '.' then localPart.inQuotes else localPart
  if !domain.isEmpty then localPart ++ "@" ++ domain
  else if localPart.isEmpty then "<>"
  else localPart

/-- The mailbox as text. Line ends may not stand in it. -/
def shown (m : Mailbox) : Except Fault Text := do
  let name ← (m.name.map nameText).getD (.ok [])
  let localPart ← (m.address.map fun a => a.localPart.meaning).getD (.ok [])
  let domain := ((m.address.bind Address.domain).map Domain.name).getD []
  -- a line end would begin another field where the mailbox is written down
  if (name ++ localPart ++ domain).any fun c => c = .char '\r' || c = .char '\n' then
    .error .badValue
  let address := addressText localPart domain
  if name.isEmpty then return address
  else
    let inside := if address = ("<>" : Text) then [] else address
    return quotedIfSpecial name ++ " <" ++ inside ++ ">"

end Mailbox

/-- An entry of a list of recipients. -/
inductive Recipient where
  | mailbox (m : Mailbox)
  | group (name : List Part) (members : List Mailbox)
  /-- A group with something senseless behind it. -/
  | brokenGroup (name : List Part)

namespace Recipient

/-- Ends a member of a group. -/
def endsMember (c : CodePoint) : Bool :=
  c = .char ',' || c = .char ';'

/-- Reads a senseless mailbox behind fill, or nothing before an end mark. -/
def readSenseless (ends : CodePoint → Bool) (t : Text) : Reading (List Mailbox × Text) := do
  let rest := (Fill.read? t).2
  -- between two commas there is no mailbox at all
  if rest.head?.all ends then return ([], rest)
  return ([Mailbox.senseless], ← Mailbox.afterSenseless ends rest.length rest)

/-- Reads the members of a group up to a semicolon. -/
def readMembers : (fuel : Nat) → Text → Reading (List Mailbox × Text)
  | 0, t => .ok ([], t)
  | fuel + 1, t => do
    if t.head?.all (· = .char ';') then return ([], t)
    let (found, rest) ← Reading.orElse ((Mailbox.read t).map fun (m, rest) => ([m], rest))
      fun _ => readSenseless endsMember t
    let rest ← Mailbox.afterSenseless endsMember rest.length rest
    let rest := if rest.head? = some (.char ',') then rest.drop 1 else rest
    let (others, rest) ← readMembers fuel rest
    return (found ++ others, rest)

/-- Reads a group. -/
def readGroup (t : Text) : Reading (Recipient × Text) := do
  match ← Phrase.read t with
  | (name, .char ':' :: .char ';' :: rest) => return (.group name [], rest)
  | (name, .char ':' :: t) =>
    let (members, rest) ← readMembers (t.length + 1) (Fill.read? t).2
    match rest with
    | [] => return (.group name members, [])
    | .char ';' :: rest => return (.group name members, (Fill.read? rest).2)
    | _ => .error .absent
  | _ => .error .absent

/-- Reads a group or a mailbox. -/
def read (t : Text) : Reading (List Recipient × Text) :=
  Reading.orElse ((readGroup t).map fun (g, rest) => ([g], rest)) fun _ =>
    (Mailbox.read t).map fun (m, rest) => ([.mailbox m], rest)

/-- A recipient with something senseless behind it. -/
def broken : Recipient → Recipient
  | .group name _ => .brokenGroup name
  | r => r

/-- Reads recipients up to the end of the text. -/
def readFrom : (fuel : Nat) → Text → Reading (List Recipient)
  | 0, _ => .ok []
  | _ + 1, [] => .ok []
  | fuel + 1, t => do
    let isComma (c : CodePoint) : Bool := c = .char ','
    let (found, rest) ← Reading.orElse (read t) fun _ => do
      let (mailboxes, rest) ← readSenseless isComma t
      return (mailboxes.map Recipient.mailbox, rest)
    let after ← Mailbox.afterSenseless isComma rest.length rest
    -- what stands between a group and the next comma spoils the group
    let found := if rest.head?.all isComma then found else found.map broken
    let others ← readFrom fuel (after.drop 1)
    return found ++ others

/-- Reads recipients. -/
def readAll (t : Text) : Reading (List Recipient) :=
  readFrom t.length t

/-- A recipient as text. -/
def shown : Recipient → Except Fault Text
  | .mailbox m => m.shown
  | .group name members => do
    let name ← Mailbox.nameText name
    let members ← members.mapM Mailbox.shown
    let list := Text.join ", " members
    let list := if list.isEmpty then [] else .char ' ' :: list
    return Mailbox.quotedIfSpecial name ++ ":" ++ list ++ ";"
  | .brokenGroup name => do
    let _ ← Mailbox.nameText name
    .error .noOperation

/-- Recipients as text, separated by commas. -/
def shownAll (recipients : List Recipient) : Except Fault Text :=
  (recipients.mapM shown).map (Text.join ", ")

end Recipient

end MailFilter
