import MailFilter.Script.Reading

/-!
# How a script is read, one layer at a time

The readers of commands and tests look at the keyword of a value, then at its body. Here each of
them is given for the keyword and the body, in terms of the readers of the parts; a list is read
item by item.

- `Test.ofKeyword`, `Command.ofKeyword`: what a keyword and its body stand for.
- `Test.ofValue_eq`, `Command.ofValue_eq`: a value is read as its keyword and its body.
- `Command.branchOfValue_eq`, `Command.blockOfValue_list`, `Command.branchesOfValue_list`: branches
  and lists.
-/

namespace MailFilter

namespace Test

theorem listOfValues_eq_mapM : ∀ vs : List Value, listOfValues vs = vs.mapM ofValue
  | [] => by rw [listOfValues]; rfl
  | v :: rest => by rw [listOfValues, List.mapM_cons, listOfValues_eq_mapM rest]

/-- The test that a keyword and its body stand for. -/
def ofKeyword (keyword : Text) (body : Value) : Except Failure Test :=
  if keyword = "true" || keyword = "false" then .ok (.constant (keyword = "true"))
  else if keyword = "allof" || keyword = "anyof" then
    match body with
    | .list tests => (tests.mapM ofValue).map (if keyword = "allof" then .allOf else .anyOf)
    | _ => Failure.refuseScript (.testsNotList keyword)
  else if keyword = "not" then (ofValue body).map .negation
  else if keyword = "exists" then (body.asTexts "exists header").map .present
  else if keyword = "header" || keyword = "address" || keyword = "string" then
    match body with
    | .map _ => keyedOfValue keyword body
    | _ => Failure.refuseScript (.testNotMapping keyword body)
  else Failure.refuseScript (.unknownTest keyword)

theorem ofKeyword_map {keyword : Text} (entries : List (Value × Value))
    (h : keyword ∈ (["header", "address", "string"] : List Text)) :
    ofKeyword keyword (.map entries) = keyedOfValue keyword (.map entries) := by
  simp only [List.mem_cons, List.not_mem_nil, or_false] at h
  rcases h with rfl | rfl | rfl <;> rfl

theorem ofValue_bool (b : Bool) : ofValue (.bool b) = .ok (.constant b) := by
  rw [ofValue]

/-- A test that is no truth value is read as its keyword and its body. -/
theorem ofValue_eq {v : Value} (hv : ∀ b, v ≠ .bool b) :
    ofValue v = v.keywordAndBody "test" >>= fun (keyword, body) => ofKeyword keyword body := by
  rw [ofValue.eq_2 v hv]
  split
  · next h =>
    rw [h]
    rfl
  · next keyword body h =>
    -- the branches on the left know of `h`, so it cannot be rewritten with
    refine Eq.trans ?_ (congrArg (· >>= fun (keyword, body) => ofKeyword keyword body) h.symm)
    show _ = ofKeyword keyword body
    unfold ofKeyword
    cases body with
    | list tests => simp only [listOfValues_eq_mapM]
    | _ => rfl

end Test

namespace Command

theorem listOfValues_eq_mapM : ∀ vs : List Value, listOfValues vs = vs.mapM ofValue
  | [] => by rw [listOfValues]; rfl
  | v :: rest => by rw [listOfValues, List.mapM_cons, listOfValues_eq_mapM rest]

theorem branchesOfList_eq_mapM :
    ∀ vs : List Value, branchesOfList vs = vs.mapM (branchOfValue "elsif")
  | [] => by rw [branchesOfList]; rfl
  | v :: rest => by rw [branchesOfList, List.mapM_cons, branchesOfList_eq_mapM rest]

/-- Reads an entry that may be left out. -/
def ofEntry {α : Type} (read : Value → Except Failure (List α)) :
    Option Value → Except Failure (List α)
  | some v => read v
  | none => .ok []

/-- The command that a keyword and its body stand for. -/
def ofKeyword (keyword : Text) (body : Value) : Except Failure Command :=
  if keyword = "set" then (SetCommand.ofValue body).map .set
  else if keyword = "if" then do
    let first ← branchOfValue "if" body
    let others ← ofEntry branchesOfValue (body.field? "elsif")
    let otherwise ← ofEntry blockOfValue (body.field? "else")
    return .choice (first :: others) otherwise
  else (Action.ofValue keyword body).map .action

theorem ofKeyword_if (body : Value) :
    ofKeyword "if" body = (do
      let first ← branchOfValue "if" body
      let others ← ofEntry branchesOfValue (body.field? "elsif")
      let otherwise ← ofEntry blockOfValue (body.field? "else")
      return .choice (first :: others) otherwise) := rfl

/-- A command is read as its keyword and its body. -/
theorem ofValue_eq (v : Value) :
    ofValue v = v.keywordAndBody "command" >>= fun (keyword, body) => ofKeyword keyword body := by
  rw [ofValue]
  split
  · next h =>
    rw [h]
    rfl
  · next keyword body h =>
    rw [h]
    show _ = ofKeyword keyword body
    unfold ofKeyword
    split
    · rfl
    · split
      · refine congrArg (branchOfValue "if" body >>= ·) (funext fun first => ?_)
        cases body.field? "elsif" <;> cases body.field? "else" <;> rfl
      · rfl

/-- The test of a branch is read before its block. -/
theorem branchOfValue_eq (what : Text) (body : Value) :
    branchOfValue what body =
      match body.field? "test" with
      | none => Failure.refuseScript (.missingTest what body)
      | some test => do
        let test ← Test.ofValue test
        let block ← ofEntry blockOfValue (body.field? "then")
        return (test, block) := by
  rw [branchOfValue]
  cases body.field? "test" with
  | none => rfl
  | some test =>
    refine congrArg (Test.ofValue test >>= ·) (funext fun test => ?_)
    cases body.field? "then" <;> rfl

theorem blockOfValue_list (items : List Value) :
    blockOfValue (.list items) = items.mapM ofValue := by
  rw [blockOfValue, listOfValues_eq_mapM]

theorem branchesOfValue_list (items : List Value) :
    branchesOfValue (.list items) = items.mapM (branchOfValue "elsif") := by
  rw [branchesOfValue, branchesOfList_eq_mapM]

end Command

end MailFilter
