import Mathlib
import MailFilter.Proofs.Variable.Arguments
import MailFilter.Proofs.Variable.Encodable
import MailFilter.Variable.Session

/-!
# What a session does to its store

Each step of a session reads first and writes last, so a step that breaks off has written nothing. A
`set` command that has been read does what evaluating its expanded value does, although the one reads
its modifiers beforehand and the other when it runs.

- `Session.exec_bind`: one computation after another.
- `Session.settled`: a computation that is done as a whole or not at all.
- `Session.exec_execute`, `Session.exec_evaluate`: both ways to a `set` command are such computations.
- `Session.execute_eq_evaluate`: they come to the same.
- `Session.Refuses`: why a step breaks off.
- `Session.failing_step_keeps_store`: a step that breaks off might as well have been left out.
-/

namespace MailFilter

namespace Session

section Exec

variable {α β : Type} (enabled : Bool) (s : Store)

@[simp] theorem exec_pure (a : α) : exec (pure a) enabled s = (.ok a, s) := rfl

@[simp] theorem exec_read : exec read enabled s = (.ok enabled, s) := rfl

@[simp] theorem exec_get : exec get enabled s = (.ok s, s) := rfl

@[simp] theorem exec_ofExcept (r : Except Failure α) : exec (ofExcept r) enabled s = (r, s) := by
  cases r <;> rfl

/-- The second computation begins with the store that the first one leaves, unless that broke off. -/
theorem exec_bind (x : Session α) (f : α → Session β) :
    exec (x >>= f) enabled s =
      match exec x enabled s with
      | (.ok a, t) => exec (f a) enabled t
      | (.error e, t) => (.error e, t) := by
  unfold exec ExceptT.run StateT.run
  simp only [bind, ReaderT.bind, ExceptT.bind, ExceptT.mk, StateT.bind, ExceptT.bindCont]
  rcases x enabled s with ⟨result, t⟩
  cases result <;> rfl

variable {enabled s} {x : Session α} {f : α → Session β} {t : Store}

/-- Behind a computation that answers, the next one begins with the store that it leaves. -/
theorem exec_bind_of_ok {a : α} (h : exec x enabled s = (.ok a, t)) :
    exec (x >>= f) enabled s = exec (f a) enabled t := by
  rw [exec_bind, h]

/-- One that breaks off is the last, and its store stays. -/
theorem exec_bind_of_error {e : Failure} (h : exec x enabled s = (.error e, t)) :
    exec (x >>= f) enabled s = (.error e, t) := by
  rw [exec_bind, h]

end Exec

/-! ## Computations that are done as a whole -/

section Settled

variable {α β : Type}

/-- What becomes of a store by a computation that answers together with a new store, or fails and
leaves the store as it was. -/
def settled (s : Store) : Except Failure (α × Store) → Except Failure α × Store
  | .ok (a, t) => (.ok a, t)
  | .error e => (.error e, s)

/-- A computation that breaks off has left the store as it was. -/
theorem settled_eq_error_iff {s t : Store} {r : Except Failure (α × Store)} {e : Failure} :
    settled s r = (.error e, t) ↔ r = .error e ∧ t = s := by
  rcases r with cause | ⟨a, u⟩
  · simp [settled, eq_comm]
  · simp [settled]

end Settled

variable (enabled : Bool) (s : Store)

/-- The modifiers of a set run one after another without touching the store. -/
theorem exec_modified (modifiers : ModifierSet) (value : Text) :
    exec (modified modifiers value) enabled s = ((modifiers.apply value).mapError .fault, s) := by
  unfold modified ModifierSet.apply
  induction modifiers.enabled generalizing value with
  | nil => rfl
  | cons m rest ih =>
    rw [List.foldlM_cons, List.foldlM_cons]
    cases happly : m.apply value with
    | error fault => exact exec_bind_of_error (exec_ofExcept enabled s _)
    | ok result => exact (exec_bind_of_ok (exec_ofExcept enabled s (.ok result))).trans (ih result)

/-- The value is bound when all modifiers have run, and not before. -/
theorem exec_assign (modifiers : ModifierSet) (name value : Text) :
    exec (assign modifiers name value) enabled s =
      settled s (s.assignModified modifiers name value) := by
  have hmodified := exec_modified enabled s modifiers value
  unfold assign Store.assignModified
  cases happly : modifiers.apply value with
  | error fault =>
    rw [happly] at hmodified
    exact exec_bind_of_error hmodified
  | ok result =>
    rw [happly] at hmodified
    exact exec_bind_of_ok hmodified

/-- A `set` command is run as a whole or not at all. -/
theorem exec_execute (c : SetCommand) :
    exec (execute c) enabled s = settled s (c.execute enabled s) := by
  unfold execute SetCommand.execute
  rw [exec_bind_of_ok (exec_read enabled s)]
  cases enabled with
  | false => rfl
  | true =>
    rw [if_pos rfl, if_pos rfl, exec_bind_of_ok (exec_get true s), exec_bind, exec_assign]
    rcases s.assignModified c.modifiers c.name (Template.expand s c.value) with e | ⟨result, t⟩ <;> rfl

/-- So is one with a value that is expanded already. -/
theorem exec_evaluate (tokens : List Text) (name value : Text) :
    exec (evaluate tokens name value) enabled s =
      settled s (s.assign enabled tokens name value) := by
  unfold evaluate Store.assign
  rw [exec_bind, exec_ofExcept]
  cases ModifierSet.ofTokens tokens with
  | error e => rfl
  | ok modifiers =>
    refine (exec_bind_of_ok (exec_read enabled s)).trans ?_
    dsimp only
    cases enabled with
    | false => rfl
    | true =>
      rw [if_pos rfl, if_pos rfl, exec_bind, exec_assign]
      rcases s.assignModified modifiers name value with e | ⟨result, t⟩ <;> rfl

/-! ## The two ways to a `set` command -/

/-- A command that has been read holds the set of modifiers that its tokens make. -/
theorem execute_eq_assign {arguments : List Text} {c : SetCommand}
    (h : SetCommand.ofArguments arguments = .ok c) :
    c.execute enabled s = s.assign enabled c.tokens c.name (Template.expand s c.value) := by
  obtain ⟨-, -, -, hmodifiers⟩ := SetCommand.ofArguments_eq_ok_iff_ofTokens.mp h
  rw [SetCommand.execute, Store.assign, hmodifiers]

/-- Executing a command that has been read and evaluating its modifiers, its name and its expanded
value answer the same, or fail for the same cause, and leave the same store. -/
theorem execute_eq_evaluate {arguments : List Text} {c : SetCommand}
    (h : SetCommand.ofArguments arguments = .ok c) (enabled : Bool) (s : Store) :
    exec (execute c) enabled s =
      exec (evaluate c.tokens c.name (Template.expand s c.value)) enabled s := by
  rw [exec_execute, exec_evaluate, execute_eq_assign enabled s h]

/-- A modifier in two spellings, with one store that lets the command end well and with one that does
not. -/
theorem execute_eq_evaluate_repeated :
    let tokens : List Text := [":Length", ":encodeurl", ":LENGTH"]
    let c : SetCommand := ⟨"Name", "$\x7b1\x7d!", tokens, .ofList [.length, .encodeUrl, .length]⟩
    let fine := Store.empty.capture ["a b"]
    let broken := Store.empty.capture [[.surrogate 0]]
    SetCommand.ofArguments c.arguments = .ok c ∧
      exec (execute c) true fine = (.ok (some "6"), fine.bind "Name" "6") ∧
      exec (evaluate tokens "Name" "a b!") true fine = exec (execute c) true fine ∧
      exec (execute c) true broken = (.error (.fault .unencodable), broken) ∧
      exec (evaluate tokens "Name" [.surrogate 0, .char '!']) true broken =
        exec (execute c) true broken := by
  intro tokens c fine broken
  have hread : tokens.mapM ModifierSet.ofToken = .ok [.length, .encodeUrl, .length] := by rfl
  have h : SetCommand.ofArguments c.arguments = .ok c :=
    SetCommand.ofArguments_eq_ok_iff_ofTokens.mpr
      ⟨rfl, by decide, by decide, congrArg (ModifierSet.ofList <$> ·) hread⟩
  have hfine : Template.expand fine c.value = "a b!" := by decide +kernel
  have hbroken : Template.expand broken c.value = [.surrogate 0, .char '!'] := by decide +kernel
  have hsix : c.modifiers.apply "a b!" = .ok "6" := by decide +kernel
  have hfails : c.modifiers.apply [.surrogate 0, .char '!'] = .error .unencodable := by
    decide +kernel
  refine ⟨h, ?_, hfine ▸ (execute_eq_evaluate h true fine).symm, ?_,
    hbroken ▸ (execute_eq_evaluate h true broken).symm⟩
  · rw [exec_execute, SetCommand.execute, if_pos rfl, hfine, Store.assignModified, hsix]
    rfl
  · rw [exec_execute, SetCommand.execute, if_pos rfl, hbroken, Store.assignModified, hfails]
    rfl

/-! ## Steps that break off -/

section Refusal

variable {enabled : Bool} {s t : Store} {e : Failure}

/-- Modifying and binding breaks off at a value without a form encoding, and nowhere else. -/
theorem assignModified_eq_error_iff {modifiers : ModifierSet} {name value : Text} :
    s.assignModified modifiers name value = .error e ↔
      modifiers.has .encodeUrl = true ∧ (∃ i, .surrogate i ∈ value) ∧ e = .fault .unencodable := by
  unfold Store.assignModified
  constructor
  · intro h
    split at h
    · cases h
    · next fault hfault =>
      obtain ⟨hencodes, hbroken, rfl⟩ := ModifierSet.apply_eq_error_iff.mp hfault
      exact ⟨hencodes, hbroken, (Except.error.inj h).symm⟩
  · rintro ⟨hencodes, hbroken, rfl⟩
    rw [ModifierSet.apply_eq_error_iff.mpr ⟨hencodes, hbroken, rfl⟩]

/-- What has been bound is only put into an answer. -/
theorem answered_eq_error_iff {α : Type} {r : Except Failure (α × Store)} :
    (do let (result, t) ← r
        return (some result, t) : Except Failure (Option α × Store)) = .error e ↔ r = .error e := by
  rcases r with cause | ⟨a, u⟩
  · simp [bind, Except.bind]
  · simp [bind, Except.bind, pure, Except.pure]

/-- Executing breaks off while variables are enabled and the value cannot be bound. -/
theorem execute_eq_error_iff {c : SetCommand} :
    c.execute enabled s = .error e ↔
      enabled = true ∧ s.assignModified c.modifiers c.name (Template.expand s c.value) = .error e := by
  unfold SetCommand.execute
  cases enabled with
  | false => simp
  | true =>
    rw [if_pos rfl, answered_eq_error_iff]
    simp

/-- Evaluating breaks off for its tokens in any case, and for its value while variables are enabled.
-/
theorem assign_eq_error_iff {tokens : List Text} {name value : Text} :
    s.assign enabled tokens name value = .error e ↔
      (∃ cause, ModifierSet.ofTokens tokens = .error cause ∧ e = .set cause) ∨
      ∃ modifiers, ModifierSet.ofTokens tokens = .ok modifiers ∧ enabled = true ∧
        s.assignModified modifiers name value = .error e := by
  unfold Store.assign
  cases ModifierSet.ofTokens tokens with
  | error cause => simp [eq_comm]
  | ok modifiers =>
    cases enabled with
    | false => simp
    | true =>
      dsimp only
      rw [if_pos rfl, answered_eq_error_iff]
      simp

/-- Why a step breaks off: its arguments or its modifiers cannot be read, or its value was to be form
encoded and holds a lone surrogate. -/
inductive Refuses (enabled : Bool) (s : Store) : Step → Failure → Prop
  | arguments {arguments : List Text} {cause : SetError}
      (h : SetCommand.ofArguments arguments = .error cause) :
      Refuses enabled s (.set arguments) (.set cause)
  | expanded {arguments : List Text} {c : SetCommand} {i : Fin 0x800}
      (hread : SetCommand.ofArguments arguments = .ok c) (henabled : enabled = true)
      (hencodes : c.modifiers.has .encodeUrl = true)
      (hbroken : .surrogate i ∈ Template.expand s c.value) :
      Refuses enabled s (.set arguments) (.fault .unencodable)
  | tokens {tokens : List Text} {name value : Text} {cause : SetError}
      (h : ModifierSet.ofTokens tokens = .error cause) :
      Refuses enabled s (.evaluate tokens name value) (.set cause)
  | value {tokens : List Text} {modifiers : ModifierSet} {name value : Text} {i : Fin 0x800}
      (hread : ModifierSet.ofTokens tokens = .ok modifiers) (henabled : enabled = true)
      (hencodes : modifiers.has .encodeUrl = true) (hbroken : .surrogate i ∈ value) :
      Refuses enabled s (.evaluate tokens name value) (.fault .unencodable)

/-- An answer that is only put into words breaks off where the answer does. -/
theorem exec_map_eq_error_iff {α β : Type} {x : Session α} {f : α → β} :
    exec (x >>= fun a => pure (f a)) enabled s = (.error e, t) ↔
      exec x enabled s = (.error e, t) := by
  rw [exec_bind]
  rcases exec x enabled s with ⟨cause | a, u⟩
  · simp
  · simp

/-- A `set` command breaks off for its arguments, or for its value once it is expanded. -/
theorem perform_set_eq_error_iff {arguments : List Text} :
    exec (perform (.set arguments)) enabled s = (.error e, t) ↔
      Refuses enabled s (.set arguments) e ∧ t = s := by
  cases hread : SetCommand.ofArguments arguments with
  -- arguments that cannot be read: no other reason can come in
  | error cause =>
    have hexec : exec (perform (.set arguments)) enabled s = (.error (.set cause), s) := by
      rw [perform, hread]
      rfl
    rw [hexec]
    constructor
    · rintro ⟨⟩
      exact ⟨.arguments hread, rfl⟩
    · rintro ⟨hrefuses, rfl⟩
      cases hrefuses with
      | arguments h => rw [Except.error.inj (hread.symm.trans h)]
      | expanded h => cases hread.symm.trans h
  | ok c =>
    have hexec : exec (perform (.set arguments)) enabled s =
        exec (execute c >>= fun result => pure (Answer.ofText? result)) enabled s := by
      rw [perform, hread]
      exact exec_bind_of_ok (exec_ofExcept enabled s (.ok c))
    rw [hexec, exec_map_eq_error_iff, exec_execute, settled_eq_error_iff, execute_eq_error_iff,
      assignModified_eq_error_iff]
    refine and_congr_left fun _ => ?_
    constructor
    · rintro ⟨henabled, hencodes, ⟨i, hbroken⟩, rfl⟩
      exact .expanded hread henabled hencodes hbroken
    · intro hrefuses
      cases hrefuses with
      | arguments h => cases hread.symm.trans h
      | expanded h henabled hencodes hbroken =>
        obtain rfl := Except.ok.inj (hread.symm.trans h)
        exact ⟨henabled, hencodes, ⟨_, hbroken⟩, rfl⟩

/-- An evaluation breaks off for its tokens, or for the value that it was given. -/
theorem perform_evaluate_eq_error_iff {tokens : List Text} {name value : Text} :
    exec (perform (.evaluate tokens name value)) enabled s = (.error e, t) ↔
      Refuses enabled s (.evaluate tokens name value) e ∧ t = s := by
  rw [perform, exec_map_eq_error_iff, exec_evaluate, settled_eq_error_iff, assign_eq_error_iff]
  refine and_congr_left fun _ => ?_
  constructor
  · rintro (⟨cause, hread, rfl⟩ | ⟨modifiers, hread, henabled, happly⟩)
    · exact .tokens hread
    · obtain ⟨hencodes, ⟨i, hbroken⟩, rfl⟩ := assignModified_eq_error_iff.mp happly
      exact .value hread henabled hencodes hbroken
  · intro hrefuses
    cases hrefuses with
    | tokens h => exact .inl ⟨_, h, rfl⟩
    | value h henabled hencodes hbroken =>
      exact .inr ⟨_, h, henabled, assignModified_eq_error_iff.mpr ⟨hencodes, ⟨_, hbroken⟩, rfl⟩⟩

/-- A step breaks off if and only if there is a reason for it, and then it has changed nothing. -/
theorem perform_eq_error_iff {step : Step} :
    exec (perform step) enabled s = (.error e, t) ↔ Refuses enabled s step e ∧ t = s := by
  cases step with
  | set arguments => exact perform_set_eq_error_iff
  | evaluate tokens name value => exact perform_evaluate_eq_error_iff
  | bind | capture | reset | lookup | contains | shown | keepGroups | expand =>
    -- these answer in every store
    refine iff_of_false (fun h => ?_) (fun h => ?_)
    · cases congrArg Prod.fst h
    · cases h.1

end Refusal

/-! ## Sessions -/

/-- Further steps go on with the store that the first ones leave. -/
theorem finish_append (enabled : Bool) (s : Store) (steps others : List Step) :
    finish enabled s (steps ++ others) = finish enabled (finish enabled s steps) others :=
  List.foldl_append

/-- After any steps, with variables enabled or not, a next step breaks off if and only if there is a
reason for it. Then the store is the one in which the step began, with the same bindings in the same
order and the same captures, and all that follows goes on as if the step had not been tried. -/
theorem failing_step_keeps_store (enabled : Bool) (start : Store) (history : List Step)
    (step : Step) :
    (∀ e t, exec (perform step) enabled (finish enabled start history) = (.error e, t) ↔
      Refuses enabled (finish enabled start history) step e ∧ t = finish enabled start history) ∧
    ∀ e, Refuses enabled (finish enabled start history) step e → ∀ rest,
      finish enabled start (history ++ step :: rest) = finish enabled start (history ++ rest) := by
  refine ⟨fun e t => perform_eq_error_iff, fun e hrefuses rest => ?_⟩
  have hexec := perform_eq_error_iff.mpr ⟨hrefuses, rfl⟩
  rw [finish_append, finish_append, finish, List.foldl_cons, hexec]
  rfl

/-- A captured surrogate that breaks in form encoding, after it has gone through the capitals. -/
theorem failing_step_keeps_store_encoding :
    let history : List Step := [.bind "A" "1", .keepGroups [[.surrogate 5]]]
    let step : Step := .set [":upper", ":encodeURL", "a", "$\x7b1\x7d"]
    let s := finish true .empty history
    Refuses true s step (.fault .unencodable) ∧
      exec (perform step) true s = (.error (.fault .unencodable), s) ∧
      finish true .empty (history ++ [step, .bind "a" "2"]) =
        finish true .empty (history ++ [.bind "a" "2"]) := by
  intro history step s
  have htokens : ModifierSet.ofTokens [":upper", ":encodeURL"] = .ok (.ofList [.upper, .encodeUrl]) := by
    rfl
  have hread : SetCommand.ofArguments [":upper", ":encodeURL", "a", "$\x7b1\x7d"] =
      .ok ⟨"a", "$\x7b1\x7d", [":upper", ":encodeURL"], .ofList [.upper, .encodeUrl]⟩ :=
    SetCommand.ofArguments_eq_ok_iff_ofTokens.mpr ⟨rfl, by decide, by decide, htokens⟩
  have hexpand : Template.expand s "$\x7b1\x7d" = [.surrogate 5] := by decide +kernel
  have hrefuses : Refuses true s step (.fault .unencodable) :=
    .expanded hread rfl (by decide) (hexpand ▸ List.mem_singleton_self _)
  obtain ⟨hbreaks, hskipped⟩ := failing_step_keeps_store true .empty history step
  exact ⟨hrefuses, (hbreaks _ _).mpr ⟨hrefuses, rfl⟩, hskipped _ hrefuses [.bind "a" "2"]⟩

end Session

end MailFilter
