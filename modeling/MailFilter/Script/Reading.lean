import MailFilter.Script.Basic

/-!
# Reading scripts from values

A script is a mapping with the entries `commands`, `name` and `require`. A command or a test is a
mapping with one entry, from its keyword to its body, or the keyword alone. Everything is checked
when the script is read.

A script is a tree. A value that contains itself is read as far as it is one: the place where it does
is not followed round again. What has to be read there counts as nested too deeply, which is a
convention, for a reader that follows it may find fault with it before it runs out of room.

- `Script.ofValue`: reads a script.
- `Command.ofValue`, `Command.blockOfValue`, `Test.ofValue`: read its parts.
- `Value.sizeOf_field?_lt`: what stands in a mapping is smaller than the mapping.
-/

namespace MailFilter

namespace Value

theorem sizeOf_lookupText?_lt {name : Text} {entries : List (Value × Value)} {v : Value}
    (h : lookupText? name entries = some v) : sizeOf v < sizeOf entries := by
  induction entries with
  | nil => simp [lookupText?] at h
  | cons entry rest ih =>
    obtain ⟨k, w⟩ := entry
    unfold lookupText? at h
    split at h
    · obtain rfl := Option.some.injEq .. ▸ h
      simp only [List.cons.sizeOf_spec, Prod.mk.sizeOf_spec]
      omega
    · have := ih h
      simp only [List.cons.sizeOf_spec]
      omega

/-- What stands in a mapping is smaller than the mapping. -/
theorem sizeOf_field?_lt {v w : Value} {name : Text} (h : v.field? name = some w) :
    sizeOf w < sizeOf v := by
  unfold field? at h
  split at h
  · have := sizeOf_lookupText?_lt h
    simp only [Value.map.sizeOf_spec]
    omega
  · contradiction

/-- The text of a text or of a number; truth values are no numbers. -/
def asText (what : Text) : Value → Except Failure Text
  | .text t => .ok t
  | .int n => if hasFewDigits n then .ok (Text.ofInt n) else .error (.fault .badValue)
  | .float x => .ok (numbers.render x)
  | v => Failure.refuseScript (.notText what v)

/-- The texts of a list, or of a single value. -/
def asTexts (what : Text) : Value → Except Failure (List Text)
  | .list items => items.mapM (asText what)
  | .pair first second => [first, second].mapM (asText what)
  | v => (asText what v).map ([·])

/-- The plain form of a value that can be shown. -/
def asPlain (v : Value) : Except Failure Text :=
  if v.isShowable then .ok v.plain else .error (.fault .badValue)

/-- Keyword and body of a mapping with one entry, or a keyword without a body. -/
def keywordAndBody (what : Text) : Value → Except Failure (Text × Value)
  | .text t => .ok (t.lower, .null)
  | .map [(k, body)] => k.asPlain.map fun t => (t.lower, body)
  | .cycle true => .error (.fault .tooDeep)
  | v => Failure.refuseScript (.notSingleKey what v)

/-- The body of a command or test is smaller than the command or test. -/
theorem sizeOf_keywordAndBody_lt {what keyword : Text} {v body : Value}
    (h : keywordAndBody what v = .ok (keyword, body)) : sizeOf body < sizeOf v := by
  unfold keywordAndBody at h
  split at h
  · next t =>
    obtain ⟨-, rfl⟩ := Prod.mk.injEq .. ▸ Except.ok.injEq .. ▸ h
    cases t <;> simp only [Value.text.sizeOf_spec, Value.null.sizeOf_spec, List.cons.sizeOf_spec,
      List.nil.sizeOf_spec] <;> omega
  · next k b =>
    cases hk : k.asPlain with
    | error e => simp [hk, Except.map] at h
    | ok t =>
      simp only [hk, Except.map, Except.ok.injEq, Prod.mk.injEq] at h
      rw [← h.2]
      simp only [Value.map.sizeOf_spec, List.cons.sizeOf_spec, Prod.mk.sizeOf_spec]
      omega
  · contradiction
  · simp [Failure.refuseScript] at h

end Value

namespace Keys

/-- Reads the keyword of a match type. -/
def matchTypeOfValue : Value → Except Failure MatchType
  | .text t => (MatchType.ofText? t).elim (.error (.comparison (.unknownType t))) .ok
  | .octets _ => .error (.fault .wrongKind)
  | _ => .error (.fault .noOperation)

/-- Reads the name of a comparator. -/
def comparatorOfValue : Value → Except Failure Comparator
  | .text t =>
    (Comparator.ofText? t).elim (.error (.comparison (.unknownComparator (.text t)))) .ok
  | .octets o => .error (.comparison (.unknownComparator (.octets o)))
  | _ => .error (.fault .noOperation)

/-- Reads the keys of a test and how they are compared. -/
def ofValue (keyword : Text) (body : Value) : Except Failure Keys := do
  let keys ← ((body.field? "keys").getD (.list [])).asTexts (keyword ++ " key")
  let matchType ← matchTypeOfValue ((body.field? "match").getD (.text MatchType.whole.keyword))
  let comparator ←
    comparatorOfValue ((body.field? "comparator").getD (.text Comparator.asciiCasemap.name))
  if comparator.supports matchType then return ⟨keys, matchType, comparator⟩
  else Failure.refuseScript (.unsupportedMatch comparator matchType)

end Keys

namespace AddressPart

/-- Reads the part of an address. -/
def ofValue (v : Value) : Except Failure AddressPart := do
  let part := (Text.trimLeft (· = .char ':') (← v.asPlain)).lower
  match ofKeyword? part with
  | some p => return p
  | none => Failure.refuseScript (.unknownAddressPart part)

end AddressPart

namespace Test

/-- Reads a test that compares values with keys. -/
def keyedOfValue (keyword : Text) (body : Value) : Except Failure Test := do
  let keys ← Keys.ofValue keyword body
  if keyword = "string" then
    return .string keys (← ((body.field? "sources").getD (.list [])).asTexts "string source")
  else
    -- header and address tests differ in the part that is taken of each value
    let names ← ((body.field? "names").getD (.list [])).asTexts (keyword ++ " name")
    if keyword = "header" then return .header keys names
    else return .address keys (← AddressPart.ofValue ((body.field? "part").getD (.text "all"))) names

mutual

/-- Reads a test. -/
def ofValue (v : Value) : Except Failure Test :=
  match v with
  | .bool b => .ok (.constant b)
  | v =>
    match _h : v.keywordAndBody "test" with
    | .error e => .error e
    | .ok (keyword, body) =>
      if keyword = "true" || keyword = "false" then .ok (.constant (keyword = "true"))
      else if keyword = "allof" || keyword = "anyof" then
        match _hb : body with
        | .list tests => (listOfValues tests).map (if keyword = "allof" then .allOf else .anyOf)
        | _ => Failure.refuseScript (.testsNotList keyword)
      else if keyword = "not" then
        (ofValue body).map .negation
      else if keyword = "exists" then (body.asTexts "exists header").map .present
      else if keyword = "header" || keyword = "address" || keyword = "string" then
        match body with
        | .map _ => keyedOfValue keyword body
        | _ => Failure.refuseScript (.testNotMapping keyword body)
      else Failure.refuseScript (.unknownTest keyword)
termination_by sizeOf v
decreasing_by
  · have := Value.sizeOf_keywordAndBody_lt _h
    simp only [Value.list.sizeOf_spec] at this
    omega
  · exact Value.sizeOf_keywordAndBody_lt _h

/-- Reads the tests of a list. -/
def listOfValues (vs : List Value) : Except Failure (List Test) :=
  match vs with
  | [] => .ok []
  | v :: rest => do
    let test ← ofValue v
    return test :: (← listOfValues rest)
termination_by sizeOf vs

end

end Test

namespace SetCommand

/-- Reads the arguments of a `set` command. In a mapping, modifiers come before name and value. -/
def argumentsOfValue (body : Value) : Except Failure (List Text) := do
  match body with
  | .map _ =>
    let modifiers ← ((body.field? "modifiers").getD (.list [])).asTexts "set modifier"
    -- modifiers may be given with their colon or without it
    let tokens := modifiers.map fun m => .char ':' :: Text.trimLeft (· = .char ':') m
    let plain ← (["name", "value"] : List Text).mapM fun field =>
      match body.field? field with
      | some v => (v.asText ("set " ++ field)).map ([·])
      | none => .ok []
    return tokens ++ plain.flatten
  | .null => return []
  | body => body.asTexts "set argument"

/-- Reads a `set` command. -/
def ofValue (body : Value) : Except Failure SetCommand := do
  let arguments ← argumentsOfValue body
  match ofArguments arguments with
  | .ok c => return c
  | .error e => .error (.set e)

end SetCommand

namespace Action

/-- Reads an action. -/
def ofValue (keyword : Text) (body : Value) : Except Failure Action :=
  let withArgument (build : Text → Action) : Except Failure Action :=
    match body with
    | .null => Failure.refuseScript (.missingArgument keyword)
    | body => (body.asText keyword).map build
  if keyword = "tag" then withArgument .tag
  else if keyword = "fileinto" then withArgument .fileInto
  else if keyword = "log" then withArgument .log
  else if keyword = "keep" then .ok .keep
  else if keyword = "discard" then .ok .discard
  else if keyword = "stop" then .ok .stop
  else Failure.refuseScript (.unknownCommand keyword)

end Action

namespace Command

mutual

/-- Reads a command. -/
def ofValue (v : Value) : Except Failure Command :=
  match _h : v.keywordAndBody "command" with
  | .error e => .error e
  | .ok (keyword, body) =>
    if keyword = "set" then (SetCommand.ofValue body).map .set
    else if keyword = "if" then do
      let first ← branchOfValue "if" body
      let others ←
        match _he : body.field? "elsif" with
        | some others => branchesOfValue others
        | none => .ok []
      let otherwise ←
        match _ho : body.field? "else" with
        | some block => blockOfValue block
        | none => .ok []
      return .choice (first :: others) otherwise
    else (Action.ofValue keyword body).map .action
termination_by sizeOf v
decreasing_by
  · exact Value.sizeOf_keywordAndBody_lt _h
  · exact Nat.lt_trans (Value.sizeOf_field?_lt _ho) (Value.sizeOf_keywordAndBody_lt _h)
  · exact Nat.lt_trans (Value.sizeOf_field?_lt _he) (Value.sizeOf_keywordAndBody_lt _h)

/-- Reads a test and the block that runs if it holds. -/
def branchOfValue (what : Text) (body : Value) : Except Failure (Test × List Command) :=
  match body.field? "test" with
  | none => Failure.refuseScript (.missingTest what body)
  | some test => do
    let test ← Test.ofValue test
    let block ←
      match _hb : body.field? "then" with
      | some block => blockOfValue block
      | none => .ok []
    return (test, block)
termination_by sizeOf body
decreasing_by exact Value.sizeOf_field?_lt _hb

/-- Reads further branches. What can be gone through but holds no branches is refused at its first
part. -/
def branchesOfValue (v : Value) : Except Failure (List (Test × List Command)) :=
  match v with
  | .null | .bool false | .text [] | .octets [] | .map [] | .set [] => .ok []
  | .list items => branchesOfList items
  | .pair first second => do
    return [← branchOfValue "elsif" first, ← branchOfValue "elsif" second]
  -- the first part is a code point, an octet or a key, and none of these has a test
  | .text (c :: _) => Failure.refuseScript (.missingTest "elsif" (.text [c]))
  | .octets (b :: _) => Failure.refuseScript (.missingTest "elsif" (.int b.toNat))
  | .map ((k, _) :: _) => Failure.refuseScript (.missingTest "elsif" k)
  | .set (k :: _) => Failure.refuseScript (.missingTest "elsif" k)
  | .int n => if n = 0 then .ok [] else .error (.fault .wrongKind)
  | .float x => if x == 0 then .ok [] else .error (.fault .wrongKind)
  | .bool true | .day _ | .moment _ => .error (.fault .wrongKind)
  | .cycle _ => .error (.fault .tooDeep)
termination_by sizeOf v

/-- Reads the branches of a list. -/
def branchesOfList (items : List Value) : Except Failure (List (Test × List Command)) :=
  match items with
  | [] => .ok []
  | v :: rest => do
    let branch ← branchOfValue "elsif" v
    return branch :: (← branchesOfList rest)
termination_by sizeOf items

/-- Reads a block of commands; null is an empty block. -/
def blockOfValue (v : Value) : Except Failure (List Command) :=
  match v with
  | .null => .ok []
  | .list items => listOfValues items
  | .cycle false => .error (.fault .tooDeep)
  | v => Failure.refuseScript (.blockNotList v)
termination_by sizeOf v

/-- Reads the commands of a list. -/
def listOfValues (vs : List Value) : Except Failure (List Command) :=
  match vs with
  | [] => .ok []
  | v :: rest => do
    let command ← ofValue v
    return command :: (← listOfValues rest)
termination_by sizeOf vs

end

end Command

namespace Script

/-- Reads a script from a tree of any depth. -/
def ofValue (v : Value) : Except Failure Script := do
  match v with
  | .map _ =>
    -- in this order, which decides what is reported of a script with several errors
    let commands ← Command.blockOfValue ((v.field? "commands").getD (.list []))
    let name ← ((v.field? "name").getD (.text [])).asPlain
    let require ← ((v.field? "require").getD (.list [])).asTexts "require"
    return ⟨name, require, commands⟩
  | _ => Failure.refuseScript .notMapping

end Script

end MailFilter
