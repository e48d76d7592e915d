import MailFilter.Proofs.Answer
import MailFilter.Proofs.Script.Location

/-!
# How a script is refused

A malformed script is refused with a documented failure. Three entries are the exception: a match
type and a comparator are used as texts, and further branches as a list, before anything has looked
at their kind. An integer with too many digits is beyond what messages can quote.

- `Failure.isOfScript`: the failures that are documented for reading scripts.
- `Value.Blames`: these, and the failure to show a value.
- `Script.Part.Offends`: the parts with an entry that is used before its kind is looked at.
- `Script.ofValue_refuses`: every failure is documented, or an offending part is reached.
-/

namespace MailFilter

open Relation

/-- The failures that are documented for reading scripts. -/
def Failure.isOfScript : Failure → Bool
  | .set _ | .comparison _ | .script _ => true
  | .settings _ | .mail _ | .binding _ | .fault _ | .file _ => false

namespace Value

variable {α : Type} {v w : Value}

/-- A documented failure, or the failure to show an integer in a value. -/
def Blames (v : Value) (e : Failure) : Prop :=
  e.isOfScript = true ∨ (e = .fault .badValue ∧ v.isShowable = false)

/-- What blames a part blames the whole, since a whole that can be shown has parts that can. -/
theorem Blames.of_part {e : Failure} (h : w.Blames e)
    (hshowable : v.isShowable = true → w.isShowable = true) : v.Blames e := by
  rcases h with h | ⟨rfl, hw⟩
  · exact .inl h
  · refine .inr ⟨rfl, Bool.eq_false_iff.mpr fun hv => ?_⟩
    rw [hshowable hv] at hw
    cases hw

/-- What blames a value blames every value that it stands in. -/
theorem Blames.of_within {e : Failure} (h : w.Blames e) (hwithin : w.Within v) : v.Blames e :=
  h.of_part (hereditary_isShowable.within hwithin)

/-- A refusal is documented, unless the value that it quotes cannot be shown. -/
theorem errsBy_refuse {cause : ScriptError} (h : v.isShowable = true → cause.isShowable = true) :
    ErrsBy v.Blames (Failure.refuseScript cause : Except Failure α) := by
  refine .error ?_
  split
  · exact .inl rfl
  · next hcause => exact .inr ⟨rfl, Bool.eq_false_iff.mpr fun hv => hcause (h hv)⟩

/-- A scalar is taken as a text, unless it is an integer with too many digits. -/
theorem errsBy_asText (what : Text) (v : Value) : ErrsBy v.Blames (v.asText what) := by
  cases v with
  | text t => exact .ok t
  | float x => exact .ok _
  | int n =>
    have hshowable : (int n).isShowable = hasFewDigits n := by rw [isShowable]
    rw [asText]
    cases hdigits : hasFewDigits n with
    | true => exact .ok _
    | false => exact .error (.inr ⟨rfl, hshowable.trans hdigits⟩)
  -- what is no scalar is refused with the value quoted
  | _ => exact errsBy_refuse id

/-- So is each item of a list, and a single value as a list of one. -/
theorem errsBy_asTexts (what : Text) (v : Value) : ErrsBy v.Blames (v.asTexts what) := by
  unfold asTexts
  split
  · exact .mapM fun w hw => (errsBy_asText what w).mono fun e he => he.of_within (.item hw)
  · next first second =>
    refine .mapM (List.forall_mem_cons.mpr ⟨?_, List.forall_mem_singleton.mpr ?_⟩)
    · exact (errsBy_asText what first).mono fun e he => he.of_within .first
    · exact (errsBy_asText what second).mono fun e he => he.of_within .second
  · exact (errsBy_asText what _).map _

/-- A value is taken for its text if it can be shown at all. -/
theorem errsBy_asPlain (v : Value) : ErrsBy v.Blames v.asPlain := by
  unfold asPlain
  split
  · exact .ok _
  · next h => exact .error (.inr ⟨rfl, Bool.eq_false_iff.mpr h⟩)

/-- A keyword with its body is a text or a mapping with one entry. Anything else is quoted. -/
theorem errsBy_keywordAndBody (what : Text) (htree : v.isTree = true) :
    ErrsBy v.Blames (v.keywordAndBody what) := by
  unfold keywordAndBody
  split
  · exact .ok _
  · next k body =>
    refine ((errsBy_asPlain k).mono fun e he => ?_).map _
    exact he.of_part fun hv => (hereditary_isShowable.entry hv _ (List.mem_singleton_self _)).1
  · cases htree
  · exact errsBy_refuse id

/-- What blames an entry blames the mapping. -/
theorem Blames.of_entry {default : Value} {name : Text} {e : Failure}
    (h : ((v.field? name).getD default).Blames e) (hdefault : default.isShowable = true) :
    v.Blames e :=
  h.of_part (hereditary_isShowable.fieldD hdefault)

/-- An entry fails as the list of texts in it; where it is missing there is nothing to fail. -/
theorem errsBy_asTexts_entry (what name : Text) (v : Value) :
    ErrsBy v.Blames (((v.field? name).getD (.list [])).asTexts what) :=
  (errsBy_asTexts _ _).mono fun _ he => he.of_entry rfl

end Value

open Value

/-- Arguments in a mapping are taken entry by entry, those in a list item by item. -/
theorem SetCommand.errsBy_argumentsOfValue (body : Value) :
    ErrsBy body.Blames (argumentsOfValue body) := by
  unfold argumentsOfValue
  split
  · refine (errsBy_asTexts_entry _ _ _).bind fun modifiers _ => ?_
    refine ErrsBy.bind (.mapM fun name _ => ?_) fun plain _ => .ok _
    split
    · next w hw =>
      exact ((errsBy_asText _ w).map _).mono fun e he => he.of_within (.field hw)
    · exact .ok _
  · exact .ok _
  · exact errsBy_asTexts _ _

/-- Arguments that make no command are refused with the error of the command itself. -/
theorem SetCommand.errsBy_ofValue (body : Value) : ErrsBy body.Blames (ofValue body) := by
  refine (errsBy_argumentsOfValue body).bind fun arguments _ => ?_
  split
  · exact .ok _
  · exact .error (.inl rfl)

/-- An action fails by its keyword, by a missing argument or by an argument that is no text. -/
theorem Action.errsBy_ofValue (keyword : Text) (body : Value) :
    ErrsBy body.Blames (ofValue keyword body) := by
  unfold ofValue
  dsimp only
  -- `tag`, `fileinto` and `log` take an argument, the other actions take none
  iterate 3
    split
    · split
      · exact errsBy_refuse fun _ => rfl
      · exact (errsBy_asText keyword _).map _
  iterate 3
    split
    · exact .ok _
  exact errsBy_refuse fun _ => rfl

/-- The part of an address is one of a few names, and any other is refused as documented. -/
theorem AddressPart.errsBy_ofValue (v : Value) : ErrsBy v.Blames (ofValue v) := by
  refine (errsBy_asPlain v).bind fun part _ => ?_
  dsimp only
  split
  · exact .ok _
  · exact errsBy_refuse fun _ => rfl

/-- What is no text stands under its name: the default is a text. -/
theorem Value.field?_of_ne_text {v : Value} {name default : Text}
    (h : ∀ t, (v.field? name).getD (.text default) ≠ .text t) :
    v.field? name = some ((v.field? name).getD (.text default)) := by
  cases hfield : v.field? name with
  | some w => rfl
  | none =>
    rw [hfield] at h
    exact absurd rfl (h default)

/-- Only a mapping has entries. -/
theorem Value.map_of_field? {v w : Value} {name : Text} (h : v.field? name = some w) :
    ∃ entries, v = .map entries := by
  unfold field? at h
  split at h
  · exact ⟨_, rfl⟩
  · cases h

namespace Keys

variable {keyword : Text} {body w : Value}

/-- The match type or the comparator of a test is no text; what is read before it is in order. -/
inductive Offends (keyword : Text) (body : Value) : Prop
  | matchType {keys : List Text} {w : Value} :
    ((body.field? "keys").getD (.list [])).asTexts (keyword ++ " key") = .ok keys →
    body.field? "match" = some w → (∀ t, w ≠ .text t) → Offends keyword body
  | comparator {keys : List Text} {matchType : MatchType} {w : Value} :
    ((body.field? "keys").getD (.list [])).asTexts (keyword ++ " key") = .ok keys →
    matchTypeOfValue ((body.field? "match").getD (.text MatchType.whole.keyword)) = .ok matchType →
    body.field? "comparator" = some w → (∀ t, w ≠ .text t) → Offends keyword body

/-- Of all trees a reader takes texts alone. It refuses a text as documented; anything else has no
such operation as it asks for. -/
structure TakesText {α : Type} (read : Value → Except Failure α) : Prop where
  text : ∀ t, ErrsBy (fun e => e.isOfScript = true) (read (.text t))
  other : ∀ w, w.isTree = true → (∀ t, w ≠ .text t) → read w = .error (.fault .noOperation)

/-- A match type is asked for the colon that it may begin with: only a text can answer. -/
theorem takesText_matchTypeOfValue : TakesText matchTypeOfValue where
  text t := by
    refine ErrsBy.elim ?_ (MatchType.ofText? t)
    rfl
  other w htree hw := by
    cases w with
    | text t => exact absurd rfl (hw t)
    | octets o => cases htree
    | _ => rfl

/-- A comparator is asked for its lower-case form: only a text can answer. -/
theorem takesText_comparatorOfValue : TakesText comparatorOfValue where
  text t := by
    refine ErrsBy.elim ?_ (Comparator.ofText? t)
    rfl
  other w htree hw := by
    cases w with
    | text t => exact absurd rfl (hw t)
    | octets o => cases htree
    | _ => rfl

/-- Such a reader fails as documented, or because it has been given no text. -/
theorem TakesText.errsBy {α : Type} {read : Value → Except Failure α} (h : TakesText read)
    (htree : w.isTree = true) :
    ErrsBy (fun e => e.isOfScript = true ∨ (e = .fault .noOperation ∧ ∀ t, w ≠ .text t))
      (read w) := by
  by_cases hw : ∃ t, w = .text t
  · obtain ⟨t, rfl⟩ := hw
    exact (h.text t).or_left
  · have hother : ∀ t, w ≠ .text t := fun t ht => hw ⟨t, ht⟩
    rw [h.other w htree hother]
    exact .error (.inr ⟨rfl, hother⟩)

/-- Keys are refused as documented, unless the match type or the comparator of the test offends. -/
theorem errsBy_ofValue (keyword : Text) (htree : body.isTree = true) :
    ErrsBy (fun e => body.Blames e ∨ (e = .fault .noOperation ∧ Offends keyword body))
      (ofValue keyword body) := by
  have hdefault (name default : Text) : ((body.field? name).getD (.text default)).isTree = true :=
    hereditary_isTree.fieldD rfl htree
  -- what has been read before is handed on, since an entry offends only if it is reached
  refine (errsBy_asTexts_entry _ "keys" body).or_left.bind fun keys hkeys => ?_
  have hmatch := takesText_matchTypeOfValue.errsBy (hdefault "match" MatchType.whole.keyword)
  refine (hmatch.mono ?_).bind fun matchType hmatchType => ?_
  · rintro e (he | ⟨rfl, hw⟩)
    · exact .inl (.inl he)
    · exact .inr ⟨rfl, .matchType hkeys (field?_of_ne_text hw) hw⟩
  have hcomparator :=
    takesText_comparatorOfValue.errsBy (hdefault "comparator" Comparator.asciiCasemap.name)
  refine (hcomparator.mono ?_).bind fun comparator _ => ?_
  · rintro e (he | ⟨rfl, hw⟩)
    · exact .inl (.inl he)
    · exact .inr ⟨rfl, .comparator hkeys hmatchType (field?_of_ne_text hw) hw⟩
  split
  · exact .ok _
  · exact (errsBy_refuse fun _ => rfl).or_left

/-- An entry that offends ends the reading, since what is read before it is in order. -/
theorem Offends.ofValue_eq (h : Offends keyword body) (htree : body.isTree = true) :
    ofValue keyword body = .error (.fault .noOperation) := by
  unfold ofValue
  cases h with
  | matchType hkeys hfield hw =>
    rw [hkeys, hfield]
    show (matchTypeOfValue _ >>= _) = _
    have hentry := hereditary_isTree.field hfield htree
    rw [Option.getD_some, takesText_matchTypeOfValue.other _ hentry hw]
    rfl
  | comparator hkeys hmatchType hfield hw =>
    rw [hkeys, hmatchType, hfield]
    show (comparatorOfValue _ >>= _) = _
    have hentry := hereditary_isTree.field hfield htree
    rw [Option.getD_some, takesText_comparatorOfValue.other _ hentry hw]
    rfl

end Keys

/-- Behind the keys stand lists of texts and the part of an address. None of these offends. -/
theorem Test.errsBy_keyedOfValue (keyword : Text) {body : Value} (htree : body.isTree = true) :
    ErrsBy (fun e => body.Blames e ∨ (e = .fault .noOperation ∧ Keys.Offends keyword body))
      (keyedOfValue keyword body) := by
  unfold keyedOfValue
  refine (Keys.errsBy_ofValue keyword htree).bind fun keys _ => ?_
  -- a string test lists its sources, the others the names of fields
  split
  · exact (errsBy_asTexts_entry _ _ _).or_left.bind fun sources _ => .ok _
  · refine (errsBy_asTexts_entry _ _ _).or_left.bind fun names _ => ?_
    split
    · exact .ok _
    · refine ErrsBy.bind ?_ fun part _ => .ok _
      exact (AddressPart.errsBy_ofValue _).mono fun e he => .inl (he.of_entry rfl)

/-- Truth values and numbers. -/
def Value.isScalar : Value → Bool
  | .bool _ | .int _ | .float _ => true
  | _ => false

/-- A scalar that counts as true is gone through as if it were a list. -/
theorem Command.branchesOfValue_of_isScalar {v : Value} (h : v.isScalar = true) :
    branchesOfValue v = if v.isTruthy then .error (.fault .wrongKind) else .ok [] := by
  cases v with
  | bool b => cases b <;> rw [branchesOfValue] <;> rfl
  | int n =>
    rw [branchesOfValue, isTruthy]
    by_cases hn : n = 0
    · rw [if_pos hn, if_neg (by simpa using hn)]
    · rw [if_neg hn, if_pos (bne_iff_ne.mpr hn)]
  | float x =>
    rw [branchesOfValue, isTruthy, bne]
    cases x == 0 <;> rfl
  | _ => cases h

namespace Script

namespace Part

/-- Something in a part is used as what it is not: a match type or a comparator that is no text, or
further branches that are no list. -/
inductive Offends : Part → Fault → Prop
  | keys {v body : Value} {keyword : Text} :
    v.keywordAndBody "test" = .ok (keyword, body) →
    keyword ∈ (["header", "address", "string"] : List Text) → Keys.Offends keyword body →
    Offends (.test v) .noOperation
  | branches {v : Value} : v.isScalar = true → v.isTruthy = true → Offends (.branches v) .wrongKind

variable {p : Part} {v : Value}

/-- A block without commands is empty, or is refused for what stands in its place. -/
theorem errsBy_blockOfValue (hinner : (block v).inner = []) (htree : v.isTree = true) :
    ErrsBy v.Blames (Command.blockOfValue v) := by
  unfold Command.blockOfValue
  split
  · exact .ok []
  · next items =>
    cases List.map_eq_nil_iff.mp hinner
    rw [Command.listOfValues]
    exact .ok []
  · cases htree
  · exact errsBy_refuse id

/-- A command without inner parts is a `set` or an action. -/
theorem errsBy_commandOfValue (hinner : (command v).inner = []) (htree : v.isTree = true) :
    ErrsBy v.Blames (Command.ofValue v) := by
  rw [Command.ofValue_eq]
  refine (errsBy_keywordAndBody "command" htree).bind ?_
  rintro ⟨keyword, body⟩ hbody
  have hwithin : body.Within v := .body hbody
  show ErrsBy v.Blames (Command.ofKeyword keyword body)
  unfold Command.ofKeyword
  split
  · exact ((SetCommand.errsBy_ofValue body).mono fun e he => he.of_within hwithin).map _
  · split
    -- a choice has an inner part, its first branch
    · next hkeyword =>
      rw [inner_command hbody, if_pos hkeyword] at hinner
      cases hinner
    · exact ((Action.errsBy_ofValue keyword body).mono fun e he => he.of_within hwithin).map _

/-- A branch without inner parts lacks its test. -/
theorem errsBy_branchOfValue {what : Text} (hinner : (branch what v).inner = []) :
    ErrsBy v.Blames (Command.branchOfValue what v) := by
  rw [Command.branchOfValue_eq]
  cases hfield : v.field? "test" with
  | none => exact errsBy_refuse id
  -- with a test there is an inner part
  | some operand =>
    rw [inner_branch hfield] at hinner
    cases hinner

/-- Further branches without a branch in them are empty, refused, or gone through as what they are
not. -/
theorem errsBy_branchesOfValue (hinner : (branches v).inner = []) (htree : v.isTree = true) :
    ErrsBy (fun e => v.Blames e ∨ ∃ fault, e = .fault fault ∧ (branches v).Offends fault)
      (Command.branchesOfValue v) := by
  -- scalars are the only trees that are neither gone through nor refused
  by_cases hscalar : v.isScalar = true
  · rw [Command.branchesOfValue_of_isScalar hscalar]
    split
    · next htrue => exact .error (.inr ⟨.wrongKind, rfl, .branches hscalar htrue⟩)
    · exact .ok []
  cases v with
  | null =>
    unfold Command.branchesOfValue
    exact .ok []
  | bool _ | int _ | float _ => exact absurd rfl hscalar
  | text t =>
    unfold Command.branchesOfValue
    cases t with
    | nil => exact .ok []
    | cons c t => exact (errsBy_refuse fun _ => rfl).or_left
  | list items =>
    cases List.map_eq_nil_iff.mp hinner
    rw [Command.branchesOfValue_list]
    exact .ok []
  | map entries =>
    unfold Command.branchesOfValue
    cases entries with
    | nil => exact .ok []
    | cons entry entries =>
      refine (errsBy_refuse fun hv => ?_).or_left
      exact (hereditary_isShowable.entry hv entry List.mem_cons_self).1
  | _ => cases htree

/-- A test without inner tests compares keys, asks for fields or is a constant. -/
theorem errsBy_testOfValue (hinner : (test v).inner = []) (htree : v.isTree = true) :
    ErrsBy (fun e => v.Blames e ∨ ∃ fault, e = .fault fault ∧ (test v).Offends fault)
      (Test.ofValue v) := by
  -- a bare truth value is a test of its own
  by_cases hv : ∃ b, v = .bool b
  · obtain ⟨b, rfl⟩ := hv
    rw [Test.ofValue_bool]
    exact .ok _
  rw [Test.ofValue_eq fun b hb => hv ⟨b, hb⟩]
  refine ErrsBy.bind ((errsBy_keywordAndBody "test" htree).or_left) ?_
  rintro ⟨keyword, body⟩ hbody
  have hwithin : body.Within v := .body hbody
  show ErrsBy _ (Test.ofKeyword keyword body)
  rw [inner_test hbody] at hinner
  unfold Test.ofKeyword
  split
  · exact .ok _
  split
  · next hkeyword =>
    rw [if_pos hkeyword] at hinner
    split
    · cases List.map_eq_nil_iff.mp hinner
      exact .ok _
    · exact (errsBy_refuse fun _ => rfl).or_left
  next hlists =>
  rw [if_neg hlists] at hinner
  split
  -- a negation has an inner part, the test that it negates
  · next hkeyword =>
    rw [if_pos hkeyword] at hinner
    cases hinner
  split
  · exact ((errsBy_asTexts _ body).mono fun e he => .inl (he.of_within hwithin)).map _
  split
  · next hkeyword =>
    split
    · refine (Test.errsBy_keyedOfValue keyword (hereditary_isTree.within hwithin htree)).mono ?_
      rintro e (he | ⟨rfl, hoffends⟩)
      · exact .inl (he.of_within hwithin)
      · exact .inr ⟨.noOperation, rfl, .keys hbody (by simpa [or_assoc] using hkeyword) hoffends⟩
    · refine (errsBy_refuse fun hshowable => ?_).or_left
      exact hereditary_isShowable.within hwithin hshowable
  · exact (errsBy_refuse fun _ => rfl).or_left

/-- A part without inner parts fails with a documented failure, because an integer cannot be shown,
or because something in it is used as what it is not. -/
theorem errsBy_check (hinner : p.inner = []) (htree : p.value.isTree = true) :
    ErrsBy (fun e => p.value.Blames e ∨ ∃ fault, e = .fault fault ∧ p.Offends fault) p.check := by
  cases p with
  | block v => exact ((errsBy_blockOfValue hinner htree).or_left).map _
  | command v => exact ((errsBy_commandOfValue hinner htree).or_left).map _
  | branch what v => exact ((errsBy_branchOfValue hinner).or_left).map _
  | branches v => exact (errsBy_branchesOfValue hinner htree).map _
  | test v => exact (errsBy_testOfValue hinner htree).map _

/-- So it is with every part, for the part in which its reading ends. -/
theorem errsBy_check_reached (htree : p.value.isTree = true) :
    ErrsBy (fun e => p.value.Blames e ∨
      ∃ q fault, ReflTransGen Next p q ∧ q.Offends fault ∧ e = .fault fault) p.check := by
  intro e he
  -- the failure is that of the part in which reading ends; what it says of that part's value holds
  -- of the whole
  obtain ⟨q, hreach, hinner, hq⟩ := check_eq_error_iff.mp he
  have hqtree := hereditary_of_reaches hereditary_isTree hreach htree
  rcases errsBy_check hinner hqtree e hq with hblames | ⟨fault, rfl, hoffends⟩
  · exact .inl (hblames.of_part (hereditary_of_reaches hereditary_isShowable hreach))
  · exact .inr ⟨q, fault, hreach, hoffends, rfl⟩

/-- A part that offends fails with the fault of its offence. -/
theorem Offends.check_eq {fault : Fault} (h : p.Offends fault) (htree : p.value.isTree = true) :
    p.check = .error (.fault fault) := by
  cases h with
  | keys hbody hkeyword hoffends =>
    rename_i v body keyword
    have hkeys := hoffends.ofValue_eq (hereditary_isTree.body hbody htree)
    -- an entry of the body offends, so the body is a mapping
    obtain ⟨entries, rfl⟩ : ∃ entries, body = .map entries := by
      cases hoffends with
      | matchType _ hfield _ => exact map_of_field? hfield
      | comparator _ _ hfield _ => exact map_of_field? hfield
    rw [check_test hbody, Test.ofKeyword_map entries hkeyword, Test.keyedOfValue, hkeys]
    rfl
  | branches hscalar htrue =>
    rw [check, Command.branchesOfValue_of_isScalar hscalar, if_pos htrue]
    rfl

end Part

/-- A part of a script is reached: everything that is read before it has been read. -/
def Reaches (v : Value) (p : Part) : Prop :=
  ∃ commands, v.field? "commands" = some commands ∧ ReflTransGen Part.Next (.block commands) p

/-- A script is a mapping: its commands are read first, then its name and its requirements. -/
theorem ofValue_map (entries : List (Value × Value)) :
    ofValue (.map entries) = (do
      let commands ← Command.blockOfValue (((Value.map entries).field? "commands").getD (.list []))
      let name ← (((Value.map entries).field? "name").getD (.text [])).asPlain
      let require ← (((Value.map entries).field? "require").getD (.list [])).asTexts "require"
      return ⟨name, require, commands⟩) := rfl

/-- The commands fail by the part in which their reading ends, name and requirements by their
values. -/
theorem errsBy_ofValue_map {entries : List (Value × Value)}
    (htree : (Value.map entries).isTree = true) :
    ErrsBy (fun e => (Value.map entries).Blames e ∨
        ∃ p fault, Reaches (.map entries) p ∧ p.Offends fault ∧ e = .fault fault)
      (ofValue (.map entries)) := by
  rw [ofValue_map]
  refine ErrsBy.bind ?_ fun commands _ => ErrsBy.bind ?_ fun name _ =>
    ErrsBy.bind ?_ fun require _ => .ok _
  · cases hfield : (Value.map entries).field? "commands" with
    | none =>
      rw [Option.getD_none, Command.blockOfValue_list]
      exact .ok []
    | some commands =>
      intro e he
      have hcheck : (Part.block commands).check = .error e := map_eq_error_iff.mpr he
      have hcommands : (Part.block commands).value.isTree = true :=
        hereditary_isTree.field hfield htree
      rcases Part.errsBy_check_reached hcommands e hcheck with h | ⟨p, fault, hreach, hoffends, rfl⟩
      · exact .inl (h.of_within (.field hfield))
      · exact .inr ⟨p, fault, ⟨commands, hfield, hreach⟩, hoffends, rfl⟩
  · -- the name, then the requirements
    exact (errsBy_asPlain _).mono fun e he => .inl (he.of_entry rfl)
  · exact (errsBy_asTexts_entry _ _ _).or_left

/-- Every failure to read a script from a tree is documented, unless an integer cannot be shown or a
part is reached in which something is used as what it is not. Such a part ends the reading with a
fault. The tree may be nested to any depth: how deep a machine can follow it before it runs out of
room is not modelled. -/
theorem ofValue_refuses {v : Value} (htree : v.isTree = true) :
    (∀ e, ofValue v = .error e →
      e.isOfScript = true ∨ (e = .fault .badValue ∧ v.isShowable = false) ∨
        ∃ p fault, Reaches v p ∧ p.Offends fault ∧ e = .fault fault) ∧
    ∀ p fault, Reaches v p → p.Offends fault → ofValue v = .error (.fault fault) := by
  constructor
  · -- every failure is one of the three
    cases v with
    | map entries =>
      intro e he
      rcases errsBy_ofValue_map htree e he with (hscript | hunshowable) | hoffends
      · exact .inl hscript
      · exact .inr (.inl hunshowable)
      · exact .inr (.inr hoffends)
    | _ =>
      intro e he
      cases he
      exact .inl rfl
  · -- the fault of a part passes through every part above it, up to the script
    rintro p fault ⟨commands, hcommands, hreach⟩ hoffends
    have hcommandsTree : commands.isTree = true := hereditary_isTree.field hcommands htree
    have hp : p.check = .error (.fault fault) :=
      hoffends.check_eq (Part.hereditary_of_reaches hereditary_isTree hreach hcommandsTree)
    have hblock : Command.blockOfValue commands = .error (.fault fault) :=
      map_eq_error_iff.mp (Part.check_eq_error_of_reaches hreach hp)
    obtain ⟨entries, rfl⟩ := map_of_field? hcommands
    rw [ofValue_map, hcommands]
    show (Command.blockOfValue commands >>= _) = _
    rw [hblock]
    rfl

/-- A truth value stands for the match type of a test inside another one, behind a command that is
in order; further branches are given as a truth value; and a test is unknown. -/
theorem ofValue_refuses_nested :
    let header : Value := .map [(.text "header", .map [(.text "match", .bool true)])]
    let negated : Value := .map [(.text "not", header)]
    let choice : Value := .map [(.text "test", negated)]
    let counted : Value := .map [(.text "test", .bool true), (.text "elsif", .bool true)]
    let unknown : Value := .map [(.text "test", .text "unknown")]
    let script (body : Value) : Value :=
      .map [(.text "commands", .list [.text "keep", .map [(.text "if", body)]])]
    ofValue (script choice) = .error (.fault .noOperation) ∧
      ofValue (script counted) = .error (.fault .wrongKind) ∧
      ∃ e, ofValue (script unknown) = .error e ∧ e.isOfScript = true := by
  intro header negated choice counted unknown script
  have hif (body : Value) :
      (Value.map [(.text "if", body)]).keywordAndBody "command" = .ok ("if", body) := by rfl
  have hkeep : (Part.command (.text "keep")).check = .ok () := by
    rw [Part.check, Command.ofValue_eq]
    rfl
  have hcommand (body : Value) :
      Part.Next (.block (.list [.text "keep", .map [(.text "if", body)]]))
        (.command (.map [(.text "if", body)])) :=
    ⟨[.command (.text "keep")], [], rfl, List.forall_mem_singleton.mpr hkeep⟩
  have hnegated : negated.keywordAndBody "test" = .ok ("not", header) := by rfl
  refine ⟨?_, ?_, ?_⟩
  · refine (ofValue_refuses rfl).2 (.test header) .noOperation ⟨_, rfl, ?_⟩ ?_
    · have hbranch : Part.Next (.command (.map [(.text "if", choice)])) (.branch "if" choice) :=
        ⟨[], [], Part.inner_command (hif choice), List.forall_mem_nil _⟩
      have htest : Part.Next (.branch "if" choice) (.test negated) :=
        ⟨[], [], Part.inner_branch rfl, List.forall_mem_nil _⟩
      have hoperand : Part.Next (.test negated) (.test header) :=
        ⟨[], [], Part.inner_test hnegated, List.forall_mem_nil _⟩
      exact .head (hcommand choice) (.head hbranch (.head htest (.single hoperand)))
    · have hkeys : Keys.Offends "header" (.map [(.text "match", .bool true)]) := by
        refine .matchType rfl rfl fun t ht => ?_
        cases ht
      exact .keys rfl List.mem_cons_self hkeys
  · refine (ofValue_refuses rfl).2 (.branches (.bool true)) .wrongKind ⟨_, rfl, ?_⟩ ?_
    · have hfirst : (Part.branch "if" counted).check = .ok () := by
        rw [Part.check_branch rfl, Part.checkAll_cons, Part.check, Test.ofValue_bool]
        rfl
      have hfurther :
          Part.Next (.command (.map [(.text "if", counted)])) (.branches (.bool true)) :=
        ⟨[.branch "if" counted], [], Part.inner_command (hif counted),
          List.forall_mem_singleton.mpr hfirst⟩
      exact .head (hcommand counted) (.single hfurther)
    · exact .branches rfl rfl
  · have hfails : (ofValue (script unknown)).isOk = false := by decide +kernel
    have hfault (fault : Fault) : ofValue (script unknown) ≠ .error (.fault fault) := by
      cases fault <;> decide +kernel
    cases h : ofValue (script unknown) with
    | ok s =>
      rw [h] at hfails
      cases hfails
    | error e =>
      refine ⟨e, rfl, ?_⟩
      rcases (ofValue_refuses rfl).1 e h with hscript | ⟨rfl, -⟩ | ⟨p, fault, -, -, rfl⟩
      · exact hscript
      · exact absurd h (hfault _)
      · exact absurd h (hfault _)

/-- The match type is a truth value: the script is neither read nor refused as documented. -/
theorem ofValue_truth_for_matchType :
    let v : Value := .map [(.text "commands", .list [.map [(.text "if", .map [(.text "test",
      .map [(.text "header", .map [(.text "match", .bool true)])])])]])]
    v.isTree = true ∧ v.isShowable = true ∧
      ∃ e, ofValue v = .error e ∧ e.isOfScript = false := by
  intro v
  have hreads : ofValue v = .error (.fault .noOperation) := by decide +kernel
  exact ⟨rfl, rfl, .fault .noOperation, hreads, rfl⟩

end Script

end MailFilter
