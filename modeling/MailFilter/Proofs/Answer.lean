import MailFilter.Failure

/-!
# Answers and failures

What a reader answers, and why it may fail, follows from the readers that it calls.

- `Yields`: every answer has a property.
- `ErrsBy`: every failure is one of the allowed ones.
- `Failure.IsFault`: a fault, and no documented failure.
-/

namespace MailFilter

/-- What is computed from an answer is computed from some answer. -/
theorem exists_of_map_toOption {α β : Type} {r : Except Failure α} {f : α → β} {b : β}
    (h : r.toOption.map f = some b) : ∃ a, r = .ok a ∧ f a = b := by
  cases r with
  | ok a => exact ⟨a, rfl, Option.some.inj h⟩
  | error e => cases h

/-- What depends on an answer is there only if the answer is. -/
theorem exists_of_bind_toOption {α β : Type} {r : Except Failure α} {f : α → Option β} {b : β}
    (h : r.toOption.bind f = some b) : ∃ a, r = .ok a ∧ f a = some b := by
  cases r with
  | ok a => exact ⟨a, rfl, h⟩
  | error e => cases h

section Yields

variable {α β : Type} {P : α → Prop} {R : β → Prop}

/-- If there is an answer, it has a property. -/
def Yields (P : α → Prop) (r : Except Failure α) : Prop :=
  ∀ a, r = .ok a → P a

theorem Yields.ok {a : α} (h : P a) : Yields P (.ok a) := by
  intro b hb
  cases hb
  exact h

theorem Yields.error (e : Failure) : Yields P (.error e) := nofun

/-- What is computed behind an answer may rely on what was answered. -/
theorem Yields.bind {r : Except Failure α} {f : α → Except Failure β}
    (hf : ∀ a, r = .ok a → Yields R (f a)) : Yields R (r >>= f) := by
  cases r with
  | ok a => exact hf a rfl
  | error e => exact .error e

theorem Yields.map {r : Except Failure α} {f : α → β} (hr : Yields P r) (hf : ∀ a, P a → R (f a)) :
    Yields R (r.map f) := by
  cases r with
  | ok a => exact .ok (hf a (hr a rfl))
  | error e => exact .error e

/-- What holds of each answer holds of all of them together. -/
theorem Yields.mapM {f : α → Except Failure β} : ∀ {as : List α}, (∀ a ∈ as, Yields R (f a)) →
    Yields (fun bs => ∀ b ∈ bs, R b) (as.mapM f)
  | [], _ => .ok (List.forall_mem_nil R)
  | a :: as, h => by
    obtain ⟨hfirst, hrest⟩ := List.forall_mem_cons.mp h
    rw [List.mapM_cons]
    refine .bind fun b hb => .bind fun bs hbs => .ok ?_
    exact List.forall_mem_cons.mpr ⟨hfirst b hb, mapM hrest bs hbs⟩

end Yields

section ErrsBy

variable {α β : Type} {allowed : Failure → Prop}

/-- Where there is no answer, the cause is one of the allowed ones. -/
def ErrsBy (allowed : Failure → Prop) (r : Except Failure α) : Prop :=
  ∀ e, r = .error e → allowed e

theorem ErrsBy.ok (a : α) : ErrsBy allowed (.ok a) := nofun

theorem ErrsBy.error {e : Failure} (h : allowed e) :
    ErrsBy allowed (.error e : Except Failure α) := by
  intro cause hcause
  cases hcause
  exact h

/-- Behind an answer other causes may come in, and these are allowed as well. -/
theorem ErrsBy.bind {r : Except Failure α} {f : α → Except Failure β} (hr : ErrsBy allowed r)
    (hf : ∀ a, r = .ok a → ErrsBy allowed (f a)) : ErrsBy allowed (r >>= f) := by
  cases r with
  | ok a => exact hf a rfl
  | error e => exact .error (hr e rfl)

/-- A reader that computes something of an answer fails for the same causes. -/
theorem ErrsBy.map {r : Except Failure α} (f : α → β) (hr : ErrsBy allowed r) :
    ErrsBy allowed (r.map f) := by
  cases r with
  | ok a => exact .ok (f a)
  | error e => exact .error (hr e rfl)

/-- One reader for all items of a list fails for the causes it may have with one of them. -/
theorem ErrsBy.mapM {f : α → Except Failure β} :
    ∀ {as : List α}, (∀ a ∈ as, ErrsBy allowed (f a)) → ErrsBy allowed (as.mapM f)
  | [], _ => .ok []
  | a :: as, h => by
    obtain ⟨hfirst, hrest⟩ := List.forall_mem_cons.mp h
    rw [List.mapM_cons]
    exact hfirst.bind fun b _ => (mapM hrest).bind fun bs _ => .ok (b :: bs)

theorem ErrsBy.elim {e : Failure} (h : allowed e) (answer : Option α) :
    ErrsBy allowed (answer.elim (.error e) .ok) := by
  cases answer with
  | some a => exact .ok a
  | none => exact .error h

/-- Allowing more is a weaker statement. -/
theorem ErrsBy.mono {more : Failure → Prop} {r : Except Failure α} (hr : ErrsBy allowed r)
    (h : ∀ e, allowed e → more e) : ErrsBy more r :=
  fun e he => h e (hr e he)

theorem ErrsBy.or_left {other : Failure → Prop} {r : Except Failure α} (hr : ErrsBy allowed r) :
    ErrsBy (fun e => allowed e ∨ other e) r :=
  hr.mono fun _ => .inl

/-- A reader of which the answer is mapped fails as before. -/
theorem map_eq_error_iff {r : Except Failure α} {f : α → β} {e : Failure} :
    r.map f = .error e ↔ r = .error e := by
  cases r with
  | ok a => exact ⟨nofun, nofun⟩
  | error cause => exact ⟨fun h => by cases h; rfl, fun h => by cases h; rfl⟩

end ErrsBy

/-- A fault, and no documented failure. -/
def Failure.IsFault (e : Failure) : Prop :=
  ∃ fault, e = .fault fault

theorem Failure.isFault_fault (fault : Fault) : (Failure.fault fault).IsFault :=
  ⟨fault, rfl⟩

/-- An operation on values fails with a fault only. -/
theorem errsBy_mapError_fault {α : Type} (r : Except Fault α) :
    ErrsBy Failure.IsFault (r.mapError .fault) := by
  cases r with
  | ok a => exact .ok a
  | error fault => exact .error (Failure.isFault_fault fault)

/-- Whether a reader meets a fault can be found out. -/
instance decidableFault {α : Type} (r : Except Failure α) (fault : Fault) :
    Decidable (r = .error (.fault fault)) :=
  match r with
  | .error (.fault other) =>
    decidable_of_iff (other = fault) ⟨fun h => by rw [h], fun h => by cases h; rfl⟩
  | .ok _ => .isFalse nofun
  | .error (.set _) | .error (.comparison _) | .error (.script _) | .error (.settings _)
  | .error (.mail _) | .error (.binding _) | .error (.file _) => .isFalse nofun

end MailFilter
