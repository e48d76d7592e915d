import MailFilter.Proofs.Answer
import MailFilter.Proofs.Delivery.Exec
import MailFilter.Proofs.Script.Parts

/-!
# What tests may do

A test looks at the message and at the store. All that it may leave behind are the groups of a glob
and lines of the log: bindings and the outcome stay as they are, even where it breaks off.

- `Keeps`, `FailsBy`: a part of the state that a step leaves as it is, and the causes for which it
  may break off.
- `Observes`: a step that keeps bindings and outcome.
- `Test.observes`: every test is such a step, and breaks off by a fault or by one of its
  comparisons.
- `Test.kept_of_exec`: what a test keeps, whatever becomes of it.
-/

namespace MailFilter

namespace Delivery

open Run

variable {α β γ : Type} {allowed : Failure → Prop}

/-- Where a step breaks off, it does so for one of the allowed causes. -/
def FailsBy (allowed : Failure → Prop) (r : Run α) : Prop :=
  ∀ e s, ErrsBy allowed (exec r e s).1

theorem FailsBy.pure (a : α) : FailsBy allowed (Pure.pure a) :=
  fun _ _ => .ok a

/-- One step after another breaks off for a cause of either. -/
theorem FailsBy.bind {r : Run α} {f : α → Run β} (hr : FailsBy allowed r)
    (hf : ∀ a, FailsBy allowed (f a)) : FailsBy allowed (r >>= f) := by
  intro e s
  have hcause := hr e s
  rw [exec_bind]
  split
  · next a u _ => exact hf a e u
  · next failure t hfailure =>
    rw [hfailure] at hcause
    exact .error (hcause failure rfl)

/-- A step leaves a part of the state as it is, even where it breaks off. -/
def Keeps (part : State → β) (r : Run α) : Prop :=
  ∀ e s, part (exec r e s).2 = part s

/-- What each of two steps keeps both of them keep, also where the first one breaks off. -/
theorem Keeps.bind {part : State → γ} {r : Run α} {f : α → Run β} (hr : Keeps part r)
    (hf : ∀ a, Keeps part (f a)) : Keeps part (r >>= f) := by
  intro e s
  have hkept := hr e s
  rw [exec_bind]
  split
  · next a u hu =>
    rw [hu] at hkept
    exact (hf a e u).trans hkept
  · next hu => rwa [hu] at hkept

/-- A step that keeps the bindings and the outcome, and breaks off for an allowed cause only. -/
structure Observes (allowed : Failure → Prop) (r : Run α) : Prop where
  bindings : Keeps (fun s => s.store.bindings) r
  outcome : Keeps State.outcome r
  failsBy : FailsBy allowed r

theorem Observes.pure (a : α) : Observes allowed (Pure.pure a) :=
  ⟨fun _ _ => rfl, fun _ _ => rfl, .pure a⟩

/-- Two steps of which each keeps bindings and outcome keep them together. -/
theorem Observes.bind {r : Run α} {f : α → Run β} (hr : Observes allowed r)
    (hf : ∀ a, Observes allowed (f a)) : Observes allowed (r >>= f) :=
  ⟨hr.bindings.bind fun a => (hf a).bindings, hr.outcome.bind fun a => (hf a).outcome,
    hr.failsBy.bind fun a => (hf a).failsBy⟩

/-- A step that changes nothing at all. -/
theorem Observes.of_reads {r : Run α} {f : Surroundings → State → Except Failure α}
    (hr : ∀ e s, exec r e s = (f e s, s)) (hf : ∀ e s, ErrsBy allowed (f e s)) :
    Observes allowed r := by
  refine ⟨fun e s => by rw [hr], fun e s => by rw [hr], fun e s => ?_⟩
  rw [hr]
  exact hf e s

end Delivery

/-- Texts of fields fail with a fault only. -/
theorem Message.errsBy_textsOf (m : Message) (names : List Text) :
    ErrsBy Failure.IsFault (m.textsOf names) :=
  (errsBy_mapError_fault _).map _

/-- Asking for fields fails with a fault only. -/
theorem Message.errsBy_hasAll (m : Message) :
    ∀ names, ErrsBy Failure.IsFault (m.hasAll names)
  | [] => .ok true
  | name :: names => by
    unfold hasAll
    split
    · exact m.errsBy_hasAll names
    · exact .ok false
    · exact .error (Failure.isFault_fault _)

/-- Parts of addresses fail as the texts that they are taken from. -/
theorem AddressPart.errsBy_textsOf (part : AddressPart) (m : Message) (names : List Text) :
    ErrsBy Failure.IsFault (part.textsOf m names) :=
  (m.errsBy_textsOf names).map _

open Delivery Run

variable {α : Type} {allowed : Failure → Prop}

/-- The bindings after a match are those before it. -/
@[simp] theorem Delivery.State.bindings_matched (s : State) (e : Surroundings)
    (matchType : MatchType) (groups : List Text) :
    (s.matched e matchType groups).store.bindings = s.store.bindings := by
  unfold State.matched
  split <;> rfl

namespace Keys

/-- Comparing values with keys fails for one of the allowed causes only. -/
def FailsBy (allowed : Failure → Prop) (k : Keys) : Prop :=
  ∀ keys values, ErrsBy allowed (k.firstMatch keys values)

variable {k : Keys} {r : Run (List Text)}
variable {values : Surroundings → State → Except Failure (List Text)}

/-- A comparison keeps whatever a match keeps. -/
theorem keeps_decide {part : State → α} (hr : ∀ e s, exec r e s = (values e s, s))
    (hpart : ∀ s e matchType groups, part (State.matched s e matchType groups) = part s) :
    Keeps part (k.decide r) := by
  intro e s
  rw [exec_decide (hr e s)]
  split
  · rfl
  · exact hpart ..
  · rfl

/-- A comparison breaks off for a cause of its values or of its keys. -/
theorem failsBy_decide (hr : ∀ e s, exec r e s = (values e s, s)) (hk : k.FailsBy allowed)
    (hvalues : ∀ e s, ErrsBy allowed (values e s)) : Delivery.FailsBy allowed (k.decide r) := by
  intro e s
  have hboth :
      ErrsBy allowed ((values e s).bind (k.firstMatch (k.keys.map (e.expanded s.store)))) :=
    (hvalues e s).bind fun texts _ => hk _ texts
  rw [exec_decide (hr e s)]
  split
  · exact .ok false
  · exact .ok true
  · next failure hfailure => exact .error (hboth failure hfailure)

/-- A test that compares values with keys keeps all but the captures and the log. -/
theorem observes_decide (hr : ∀ e s, exec r e s = (values e s, s)) (hk : k.FailsBy allowed)
    (hvalues : ∀ e s, ErrsBy allowed (values e s)) : Observes allowed (k.decide r) :=
  ⟨keeps_decide hr State.bindings_matched, keeps_decide hr State.outcome_matched,
    failsBy_decide hr hk hvalues⟩

end Keys

namespace Test

mutual

/-- A test keeps bindings and outcome, and breaks off by a fault or by one of its comparisons. -/
theorem observes (hfault : ∀ e, Failure.IsFault e → allowed e) : ∀ test : Test,
    (∀ k ∈ test.comparisons, k.FailsBy allowed) → Observes allowed test.evaluate
  | .constant b, _ => by
    rw [evaluate]
    exact .pure b
  | .allOf tests, h => by
    rw [evaluate]
    exact observesAll hfault tests h
  | .anyOf tests, h => by
    rw [evaluate]
    exact observesAny hfault tests h
  | .negation test, h => by
    rw [evaluate]
    exact (observes hfault test h).bind fun b => .pure !b
  | .present names, _ => by
    exact .of_reads (exec_present names) fun e s => (e.message.errsBy_hasAll _).mono hfault
  | .header k names, h => by
    rw [evaluate]
    exact Keys.observes_decide (exec_headerValues names) (h k (List.mem_singleton_self k))
      fun e s => (e.message.errsBy_textsOf _).mono hfault
  | .address k part names, h => by
    rw [evaluate]
    exact Keys.observes_decide (exec_addressValues part names) (h k (List.mem_singleton_self k))
      fun e s => (part.errsBy_textsOf e.message _).mono hfault
  | .string k sources, h => by
    rw [evaluate]
    exact Keys.observes_decide (exec_expandAll sources) (h k (List.mem_singleton_self k))
      fun _ _ => .ok _

/-- Tests that all have to hold keep bindings and outcome, however many of them are decided. -/
theorem observesAll (hfault : ∀ e, Failure.IsFault e → allowed e) : ∀ tests : List Test,
    (∀ k ∈ comparisonsIn tests, k.FailsBy allowed) → Observes allowed (evaluateAll tests)
  | [], _ => by
    rw [evaluateAll]
    exact .pure true
  | test :: rest, h => by
    obtain ⟨hfirst, hrest⟩ := List.forall_mem_append.mp h
    rw [evaluateAll]
    refine (observes hfault test hfirst).bind fun b => ?_
    cases b with
    | true => exact observesAll hfault rest hrest
    | false => exact .pure false

/-- So do tests of which one has to hold. -/
theorem observesAny (hfault : ∀ e, Failure.IsFault e → allowed e) : ∀ tests : List Test,
    (∀ k ∈ comparisonsIn tests, k.FailsBy allowed) → Observes allowed (evaluateAny tests)
  | [], _ => by
    rw [evaluateAny]
    exact .pure false
  | test :: rest, h => by
    obtain ⟨hfirst, hrest⟩ := List.forall_mem_append.mp h
    rw [evaluateAny]
    refine (observes hfault test hfirst).bind fun b => ?_
    cases b with
    | true => exact .pure true
    | false => exact observesAny hfault rest hrest

end

/-- Whatever becomes of a test, the bindings and the outcome are as they were. -/
theorem kept_of_exec {test : Test} {e : Surroundings} {s t : State} {result : Except Failure Bool}
    (h : exec test.evaluate e s = (result, t)) :
    t.store.bindings = s.store.bindings ∧ t.outcome = s.outcome := by
  have hobserves : Observes (fun _ => True) test.evaluate :=
    observes (fun _ _ => trivial) test fun _ _ _ _ _ _ => trivial
  have hbindings := hobserves.bindings e s
  have houtcome := hobserves.outcome e s
  rw [h] at hbindings houtcome
  exact ⟨hbindings, houtcome⟩

end Test

end MailFilter
