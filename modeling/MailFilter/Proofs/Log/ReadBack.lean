import Mathlib
import MailFilter.Log.Line
import MailFilter.Proofs.Json.RoundTrip

/-!
# Reading log lines back

Messages and contexts hold what strangers have written. In the line of a record none of it can end
the line, close its quotes or pass for another member: the line holds no control character, and what
is read from it is the record.

- `Json.membersToEntries_eq`: members of different names become entries in their order.
- `LogContext.IsPlain`: a context of texts under different names.
- `LogEntry.read_jsonLine`: the line of a record is one line and is read back as the record.
-/

namespace MailFilter

/-! ## Members as entries -/

theorem Value.put_of_not_mem {name : Text} {v : Value} {entries : List (Value × Value)}
    (h : ∀ entry ∈ entries, entry.1.isText name = false) :
    Value.put (.text name) v entries = entries ++ [(.text name, v)] := by
  induction entries with
  | nil => rfl
  | cons entry entries ih =>
    obtain ⟨hentry, hentries⟩ := List.forall_mem_cons.mp h
    rw [Value.put, Value.sameKey_text, hentry, if_neg (by decide), ih hentries]
    rfl

namespace Json

/-- The entry of a member. -/
def toEntry (m : Text × Json) : Value × Value :=
  (.text m.1, m.2.toValue)

/-- Members of different names are entered in their order. -/
theorem membersToEntries_eq {members : List (Text × Json)} {entries : List (Value × Value)}
    (hdistinct : (members.map Prod.fst).Nodup)
    (hnew : ∀ m ∈ members, ∀ entry ∈ entries, entry.1.isText m.1 = false) :
    membersToEntries members entries = entries ++ members.map toEntry := by
  induction members generalizing entries with
  | nil => rw [membersToEntries, List.map_nil, List.append_nil]
  | cons m members ih =>
    obtain ⟨hm, hmembers⟩ := List.nodup_cons.mp hdistinct
    obtain ⟨hfirst, hothers⟩ := List.forall_mem_cons.mp hnew
    -- the names of the other members are still new after the first one was entered
    have hstill : ∀ other ∈ members, ∀ entry ∈ entries ++ [toEntry m],
        entry.1.isText other.1 = false := by
      intro other hother entry hentry
      rcases List.mem_append.mp hentry with hentry | hentry
      · exact hothers other hother entry hentry
      · rw [List.mem_singleton.mp hentry]
        refine decide_eq_false fun hname => hm ?_
        rw [hname]
        exact List.mem_map_of_mem hother
    rw [membersToEntries, Value.put_of_not_mem hfirst]
    refine (ih hmembers hstill).trans ?_
    rw [List.append_assoc]
    rfl

theorem toValue_object {members : List (Text × Json)} (h : (members.map Prod.fst).Nodup) :
    (Json.object members).toValue = .map (members.map toEntry) := by
  rw [toValue, membersToEntries_eq h fun _ _ _ hentry => absurd hentry List.not_mem_nil]
  rfl

theorem membersFloatFree_iff {members : List (Text × Json)} :
    membersFloatFree members = true ↔ ∀ m ∈ members, m.2.floatFree = true := by
  induction members with
  | nil => simp [membersFloatFree]
  | cons m members ih => simp [membersFloatFree, ih]

end Json

/-! ## Contexts -/

/-- A context of texts under different names. -/
structure LogContext.IsPlain (context : LogContext) : Prop where
  distinct : context.keys.Nodup
  texts : ∀ entry ∈ context, ∃ t, entry.2 = .text t

namespace LogEntry

/-- The entries of a context as they are read back. -/
def contextEntries (context : LogContext) : List (Value × Value) :=
  context.map fun (name, v) => (.text name, v)

theorem contextJson_floatFree {context : LogContext} (h : context.IsPlain) :
    (contextJson context).floatFree = true := by
  refine Json.membersFloatFree_iff.mpr fun m hm => ?_
  obtain ⟨entry, hentry, rfl⟩ := List.mem_map.mp hm
  obtain ⟨t, ht⟩ := h.texts entry hentry
  show entry.2.toJson.floatFree = true
  rw [ht]
  rfl

theorem toValue_contextJson {context : LogContext} (h : context.IsPlain) :
    (contextJson context).toValue = .map (contextEntries context) := by
  have hnames : (context.map fun (name, v) => (name, v.toJson)).map Prod.fst = context.keys := by
    rw [List.map_map]
    rfl
  rw [contextJson, Json.toValue_object (hnames ▸ h.distinct), List.map_map]
  -- a text is read back as itself; other things that a context may hold need not be
  refine congrArg Value.map (List.map_congr_left fun entry hentry => ?_)
  obtain ⟨t, ht⟩ := h.texts entry hentry
  show (Value.text entry.1, entry.2.toJson.toValue) = (.text entry.1, entry.2)
  rw [ht]
  rfl

/-! ## Records -/

/-- What is read from the line of a record that reports no trouble. -/
def entries (e : LogEntry) (clock : Moment) : List (Value × Value) :=
  [(.text "timestamp", .text (clock.iso "T")), (.text "level", .text e.level.name),
    (.text "logger", .text e.logger), (.text "message", .text e.message),
    (.text "module", .text e.source),
    (.text "function", (e.operation.map Value.text).getD .null), (.text "line", .int e.line)] ++
  if e.context.isEmpty then [] else [(.text "data", .map (contextEntries e.context))]

/-- The members of such a record. -/
def members (e : LogEntry) (clock : Moment) : List (Text × Json) :=
  let data : List (Text × Json) :=
    if e.context.isEmpty then [] else [("data", contextJson e.context)]
  let always : List (Text × Json) :=
    [("timestamp", .text (clock.iso "T")), ("level", .text e.level.name),
      ("logger", .text e.logger), ("message", .text e.message), ("module", .text e.source),
      ("function", (e.operation.map Json.text).getD .null), ("line", .int e.line)]
  always ++ data

variable {e : LogEntry}

theorem json_eq_object (h : e.trouble = none) (clock : Moment) :
    e.json clock = .object (e.members clock) := by
  rw [json, h]
  rfl

theorem members_floatFree (h : e.context.IsPlain) (clock : Moment) :
    Json.membersFloatFree (e.members clock) = true := by
  have hoperation : ((e.operation.map Json.text).getD .null).floatFree = true := by
    cases e.operation <;> rfl
  refine Json.membersFloatFree_iff.mpr (List.forall_mem_append.mpr ⟨?_, ?_⟩)
  · simp [Json.floatFree, hoperation]
  · split
    · simp
    · simp [contextJson_floatFree h]

theorem map_toEntry_members (h : e.context.IsPlain) (clock : Moment) :
    (e.members clock).map Json.toEntry = e.entries clock := by
  have hoperation : ((e.operation.map Json.text).getD .null).toValue =
      (e.operation.map Value.text).getD .null := by
    cases e.operation <;> rfl
  rw [members, entries, List.map_append]
  congr 1
  · simp [Json.toEntry, Json.toValue, hoperation]
  · split
    · rfl
    · simp [Json.toEntry, toValue_contextJson h]

/-- No member passes for another. -/
theorem nodup_members (e : LogEntry) (clock : Moment) :
    ((e.members clock).map Prod.fst).Nodup := by
  rw [members, List.map_append]
  split
  -- the names are fixed, with a context or without one
  all_goals
    simp only [List.map_cons, List.map_nil]
    decide

/-- The line of a record that reports no trouble and has a context of texts holds no control
character, so that it is one line. What is read from it is the time, the level, the logger, the
message and the place of the record, and its context unless that is empty, with the very code points
of every text. -/
theorem read_jsonLine (htrouble : e.trouble = none) (hcontext : e.context.IsPlain)
    (clock : Moment) :
    (∀ c ∈ e.jsonLine clock, 0x20 ≤ c.toNat) ∧
      (Json.read? (e.jsonLine clock)).map Json.toValue = some (.map (e.entries clock)) := by
  have hfree : (e.json clock).floatFree = true := by
    rw [json_eq_object htrouble]
    exact members_floatFree hcontext clock
  have hvalue : (e.json clock).toValue = .map (e.entries clock) := by
    rw [json_eq_object htrouble, Json.toValue_object (nodup_members e clock),
      map_toEntry_members hcontext]
  refine ⟨Json.hasNoControl_write _ hfree, ?_⟩
  rw [jsonLine, Json.read?_write hfree, Option.map_some, hvalue]

/-- Quotes, escapes and a line end in a message, and the two halves of a surrogate pair side by side in
a context. -/
theorem read_jsonLine_hostile :
    let message : Text := "x\n\", \"level\": \"DEBUG\\\u0000\\u0041"
    let halves : Text := [.surrogate 0x3D, .surrogate 0x600]
    let e : LogEntry := {
      level := .warning, logger := "sieve_vars.engine", message := message,
      context := [("account", .text "a\\"), ("id", .text halves)],
      source := "engine", operation := some "run", line := 12 }
    let clock : Moment := ⟨⟨2024, 5, 1⟩, 12, 30, 0, 0, some 0⟩
    e.trouble = none ∧ e.context.IsPlain ∧ (∀ c ∈ e.jsonLine clock, 0x20 ≤ c.toNat) ∧
      (Json.read? (e.jsonLine clock)).map Json.toValue = some (.map [
        (.text "timestamp", .text "2024-05-01T12:30:00+00:00"), (.text "level", .text "WARNING"),
        (.text "logger", .text "sieve_vars.engine"), (.text "message", .text message),
        (.text "module", .text "engine"), (.text "function", .text "run"), (.text "line", .int 12),
        (.text "data", .map [(.text "account", .text "a\\"), (.text "id", .text halves)])]) := by
  intro message halves e clock
  have hcontext : e.context.IsPlain := by
    refine ⟨by decide, ?_⟩
    simp [e]
  have htime : clock.iso "T" = ("2024-05-01T12:30:00+00:00" : Text) := by decide +kernel
  have hlevel : e.level.name = "WARNING" := by decide +kernel
  obtain ⟨hline, hread⟩ := read_jsonLine (e := e) rfl hcontext clock
  rw [entries, htime, hlevel] at hread
  exact ⟨rfl, hcontext, hline, hread⟩

end LogEntry

end MailFilter
