import MailFilter.Message.Parameter

/-!
# Media types

The fields that say how the body of a message is to be understood: its type, its disposition, its
encoding and the version of these rules. All of them are read leniently, and shown with fill spelled
in one way.

- `MediaType.readType`, `MediaType.readDisposition`: a type or a disposition with its parameters.
- `MediaType.readEncoding`: an encoding.
- `MediaType.readVersion`: a version.
-/

namespace MailFilter

namespace MediaType

/-- Reads a token with the fill on both sides of it, in its written form. -/
def readToken (t : Text) : Reading (Text × Text) :=
  (Parameter.readAttribute CodePoint.endsToken t).map fun (w, rest) => (w.written, rest)

/-- A semicolon and the parameters behind it, in their written form. -/
def readParameters (t : Text) : Reading Text := do
  match t with
  | .char ';' :: t =>
    let parameters ← Parameter.readAll t
    return .char ';' :: (← (Parameter.shownAll parameters).mapError .fault)
  | _ => return []

/-- Passes over what makes no sense up to the parameters. -/
def readSenseless (t : Text) : Reading Text := do
  let (part, rest) ← Parameter.skip t.length t
  return part ++ (← readParameters rest)

/-- Reads a type: two tokens with a slash between them, and parameters. -/
def readType (t : Text) : Reading Text :=
  readTokenThen t fun rest =>
    match rest with
    | .char '/' :: rest => do return .char '/' :: (← readTokenThen rest readSenseless)
    | rest => readSenseless rest
where
  /-- Reads a token and then goes on; without a token nothing makes sense up to the parameters. -/
  readTokenThen (t : Text) (next : Text → Reading Text) : Reading Text := do
    match readToken t with
    | .ok (token, rest) => return token ++ (← next rest)
    | .error .absent => readSenseless t
    | .error e => .error e

/-- Reads a disposition: a token and parameters. -/
def readDisposition (t : Text) : Reading Text :=
  readType.readTokenThen t readSenseless

/-- Reads words, points and marks up to the end of the text. -/
def readAnything : (fuel : Nat) → Text → Reading Text
  | 0, _ => .ok []
  | fuel + 1, t => do
    let (part, rest) ← Parameter.skip t.length t
    match rest with
    | [] => return part
    | c :: rest => return part ++ c :: (← readAnything fuel rest)

/-- Reads an encoding. -/
def readEncoding (t : Text) : Reading Text := do
  match readToken t with
  | .ok (token, rest) => return token ++ (← readAnything (rest.length + 1) rest)
  | .error .absent => readAnything (t.length + 1) t
  | .error e => .error e

/-- Reads up to fill or one of some marks. -/
def readNumber (ends : CodePoint → Bool) (t : Text) : Text × Text :=
  let stops (c : CodePoint) : Bool := ends c || c.beginsFill
  (t.takeWhile (!stops ·), t.dropWhile (!stops ·))

/-- The version with its fill spelled in one way: two numbers with a point between them. -/
def readVersion (t : Text) : Text :=
  let (first, t) := Fill.read? t
  let (major, t) := readNumber (· = .char '.') t
  let (second, t) := Fill.read? t
  let start := first.getD [] ++ major ++ second.getD []
  match t with
  | .char '.' :: t =>
    let (third, t) := Fill.read? t
    let (minor, t) := readNumber (fun _ => false) t
    let (fourth, t) := Fill.read? t
    start ++ "." ++ third.getD [] ++ minor ++ fourth.getD [] ++ t
  | t => start ++ t

end MediaType

end MailFilter
