import MailFilter.Delivery.Engine
import MailFilter.Proofs.Settings.Trouble

/-!
# Switches of accounts

Settings that pass their checks have a table of accounts with a truth value for each of them. The
check looks at these values alone: the names in the table may be anything that a settings file can
hold, while looking for an account compares letters and cannot be done with a number or a day. Such a
name is met only if no override stands before it.

- `VariablesSettings.isOverrideOf`, `VariablesSettings.switchFor`: the override of an account, and the
  switch that goes for it.
- `VariablesSettings.IsObstructed`: a name without letters stands where an override is looked for.
- `VariablesSettings.accountSwitch?_eq`: looking for an override is one search through the table.
- `Engine.deliver_of_enabledFor`: of the table a delivery takes one truth value.
- `Settings.enabledFor_of_validate`: what checked settings answer for an account.
- `Settings.enabledFor_fails_on_number`: a number among the names is enough for a failure.
-/

namespace MailFilter

namespace VariablesSettings

/-- Whether a name has letters to compare. -/
def hasLetters : Value → Bool
  | .text _ | .octets _ => true
  | _ => false

/-- Whether the name of an entry is that of an account, in letters of any case. -/
def isOverrideOf (account : Text) (entry : Value × Value) : Bool :=
  match entry.1 with
  | .text name => name.lower = account.lower
  | _ => false

/-- The switch that goes for an account: its first override, or else the one for all accounts. The
empty name stands for no account. -/
def switchFor (s : VariablesSettings) (entries : List (Value × Value)) (account : Text) : Value :=
  if account = [] then s.enabled
  else ((entries.find? (isOverrideOf account)).map Prod.snd).getD s.enabled

/-- A name without letters stands in the table, and no override of the account before it. -/
def IsObstructed (account : Text) (entries : List (Value × Value)) : Prop :=
  ∃ before entry after, entries = before ++ entry :: after ∧ hasLetters entry.1 = false ∧
    ∀ other ∈ before, isOverrideOf account other = false

variable {account : Text} {entries : List (Value × Value)}

theorem isObstructed_cons_iff {entry : Value × Value} :
    IsObstructed account (entry :: entries) ↔
      hasLetters entry.1 = false ∨
        isOverrideOf account entry = false ∧ IsObstructed account entries := by
  constructor
  · rintro ⟨before, other, after, hplace, hletters, hbefore⟩
    -- the name without letters is the first one, or stands behind it
    cases before with
    | nil =>
      obtain ⟨rfl, -⟩ := List.cons.inj hplace
      exact .inl hletters
    | cons first before =>
      obtain ⟨rfl, rfl⟩ := List.cons.inj hplace
      obtain ⟨hfirst, hbefore⟩ := List.forall_mem_cons.mp hbefore
      exact .inr ⟨hfirst, before, other, after, rfl, hletters, hbefore⟩
  · rintro (hletters | ⟨hentry, before, other, after, rfl, hletters, hbefore⟩)
    · exact ⟨[], entry, entries, rfl, hletters, List.forall_mem_nil _⟩
    · exact ⟨entry :: before, other, after, rfl, hletters, List.forall_mem_cons.mpr ⟨hentry, hbefore⟩⟩

/-- The search ends at the first override, unless a name without letters is met before. -/
theorem accountSwitch?_eq (account : Text) (entries : List (Value × Value)) :
    (IsObstructed account entries ∧ accountSwitch? account entries = .error .noOperation) ∨
      (¬ IsObstructed account entries ∧ accountSwitch? account entries =
        .ok ((entries.find? (isOverrideOf account)).map Prod.snd)) := by
  induction entries with
  | nil =>
    refine .inr ⟨?_, rfl⟩
    rintro ⟨before, entry, after, hnil, -, -⟩
    cases before <;> cases hnil
  | cons entry rest ih =>
    obtain ⟨name, switch⟩ := entry
    rw [isObstructed_cons_iff, List.find?_cons]
    -- a name with letters is an override or is passed over
    cases name with
    | text t =>
      show (_ ∧ (if t.lower = account.lower then _ else _) = _) ∨
        (_ ∧ (if t.lower = account.lower then _ else _) = _)
      by_cases hname : t.lower = account.lower
      · simp [hasLetters, isOverrideOf, hname]
      · simpa [hasLetters, isOverrideOf, hname] using ih
    | octets o => simpa [hasLetters, isOverrideOf, accountSwitch?] using ih
    | _ => exact .inl ⟨.inl rfl, rfl⟩

variable {s : VariablesSettings}

/-- Whether variables are enabled for an account can be told unless something bars the question or
a name obstructs the search. -/
theorem enabledFor_eq (haccounts : s.accounts = .map entries) (account : Text) :
    ((s.switchBar ≠ none ∨ account ≠ [] ∧ IsObstructed account entries) ∧
        ∃ fault, s.enabledFor (some account) = .error fault) ∨
      (¬(s.switchBar ≠ none ∨ account ≠ [] ∧ IsObstructed account entries) ∧
        s.enabledFor (some account) = .ok (s.switchFor entries account).isTruthy) := by
  unfold enabledFor
  cases s.switchBar with
  | some fault => exact .inl ⟨.inl nofun, fault, rfl⟩
  | none =>
    cases account with
    | nil => exact .inr ⟨by simp, rfl⟩
    | cons c account =>
      simp only [unlessBarred, haccounts, switchFor, if_neg (List.cons_ne_nil c account)]
      rcases accountSwitch?_eq (c :: account) entries with ⟨hobstructed, hfails⟩ | ⟨hfree, hfound⟩
      · exact .inl ⟨.inr ⟨List.cons_ne_nil c account, hobstructed⟩, .noOperation, by rw [hfails]; rfl⟩
      · exact .inr ⟨by simp [hfree], by rw [hfound]; rfl⟩

/-- Without a table of accounts the switch is the same for all of them. -/
theorem enabledFor_of_switch (on : Bool) (account : Option Text) :
    ({ enabled := .bool on } : VariablesSettings).enabledFor account = .ok on := by
  rcases account with _ | _ | _ <;> rfl

end VariablesSettings

namespace Engine

/-- Of all settings for variables a delivery takes the answer for the account. -/
theorem deliver_of_enabledFor {first second : VariablesSettings} {account : Option Text}
    (h : first.enabledFor account = second.enabledFor account) (script : Script)
    (message : Message) (journal : Journal) :
    deliver first script message account journal =
      deliver second script message account journal := by
  unfold deliver prepare
  rw [h]

theorem deliver_of_enabledFor_error {settings : VariablesSettings} {account : Option Text}
    {fault : Fault} (h : settings.enabledFor account = .error fault) (script : Script)
    (message : Message) (journal : Journal) :
    deliver settings script message account journal = (.error (.fault fault), journal) := by
  unfold deliver prepare
  rw [h]
  rfl

end Engine

namespace Settings

open VariablesSettings

/-- Settings that pass their checks have truth values for accounts. -/
theorem accounts_of_validate {s : Settings} (h : s.validate = .ok ()) :
    ∃ entries, s.vars.accounts = .map entries ∧ ∀ entry ∈ entries, ∃ on, entry.2 = .bool on := by
  have hswitches : Setting.areSwitches s.vars.accounts = true :=
    accountsTrouble?_eq_none_iff.mp (refusal?_of_validate h .vars)
  cases haccounts : s.vars.accounts with
  | map entries =>
    rw [haccounts] at hswitches
    refine ⟨entries, rfl, fun entry hentry => ?_⟩
    have hswitch : Setting.isSwitch entry.2 = true := List.all_eq_true.mp hswitches entry hentry
    cases hvalue : entry.2 with
    | bool on => exact ⟨on, rfl⟩
    | _ =>
      rw [hvalue] at hswitch
      cases hswitch
  | _ =>
    rw [haccounts] at hswitches
    cases hswitches

/-- Settings that pass their checks have a table of truth values. Asking them for an account fails
exactly if an entry has taken the place of the question, or a name without letters stands in the table
before any override of the account; no message can be delivered then. In every other case the answer is
the first override whose name is that of the account in letters of any case, or else the switch for
all accounts, and the table is of no other consequence to a delivery. -/
theorem enabledFor_of_validate {s : Settings} (h : s.validate = .ok ()) (account : Text) :
    ∃ entries, s.vars.accounts = .map entries ∧ (∀ entry ∈ entries, ∃ on, entry.2 = .bool on) ∧
      ((∃ fault, s.vars.enabledFor (some account) = .error fault) ↔
        s.vars.switchBar ≠ none ∨ account ≠ [] ∧ IsObstructed account entries) ∧
      (∀ fault, s.vars.enabledFor (some account) = .error fault → ∀ script message journal,
        Engine.deliver s.vars script message (some account) journal =
          (.error (.fault fault), journal)) ∧
      ∀ on, s.vars.enabledFor (some account) = .ok on →
        on = (s.vars.switchFor entries account).isTruthy ∧ ∀ script message journal,
          Engine.deliver s.vars script message (some account) journal =
            Engine.deliver { enabled := .bool on } script message (some account) journal := by
  obtain ⟨entries, haccounts, hswitches⟩ := accounts_of_validate h
  refine ⟨entries, haccounts, hswitches, ?_, fun _ hfails => Engine.deliver_of_enabledFor_error hfails,
    fun on hon => ⟨?_, ?_⟩⟩
  · rcases enabledFor_eq haccounts account with ⟨hcause, hfails⟩ | ⟨hnone, hanswers⟩
    · exact iff_of_true hfails hcause
    · refine iff_of_false ?_ hnone
      rintro ⟨fault, hfails⟩
      rw [hanswers] at hfails
      cases hfails
  · rcases enabledFor_eq haccounts account with ⟨-, fault, hfails⟩ | ⟨-, hanswers⟩
    · rw [hon] at hfails
      cases hfails
    · exact Except.ok.inj (hon.symm.trans hanswers)
  · -- a single switch with the same answer does for the whole table
    exact Engine.deliver_of_enabledFor (hon.trans (enabledFor_of_switch on (some account)).symm)

/-- An override counts that stands before a number, and so does one after octets. -/
theorem enabledFor_of_validate_mixed :
    let s : Settings :=
      { vars :=
          { accounts := .map [(.octets [], .bool true), (.text "Ann@X.org", .bool false),
              (.int 7, .bool true)] } }
    s.validate = .ok () ∧ s.vars.enabledFor (some "ann@x.ORG") = .ok false ∧
      ∀ script message journal,
        Engine.deliver s.vars script message (some "ann@x.ORG") journal =
          Engine.deliver { enabled := .bool false } script message (some "ann@x.ORG") journal := by
  intro s
  have hvalid : s.validate = .ok () := by cbv
  have hon : s.vars.enabledFor (some "ann@x.ORG") = .ok false := by cbv
  obtain ⟨entries, -, -, -, -, hanswers⟩ := enabledFor_of_validate hvalid "ann@x.ORG"
  exact ⟨hvalid, hon, (hanswers false hon).2⟩

/-- A number among the names is enough: no override is that of the account, and yet the switch for
all accounts cannot be told. -/
theorem enabledFor_fails_on_number :
    let entries : List (Value × Value) := [(.int 1, .bool true)]
    let s : Settings := { vars := { accounts := .map entries } }
    s.validate = .ok () ∧ entries.all (!isOverrideOf "ann" ·) = true ∧ s.vars.enabled.isTruthy = true ∧
      s.vars.enabledFor (some "ann") = .error .noOperation := by
  intro entries s
  exact ⟨by cbv, rfl, rfl, by cbv⟩

end Settings

end MailFilter
