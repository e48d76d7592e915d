import MailFilter.Proofs.Answer
import MailFilter.Proofs.Delivery.Exec
import MailFilter.Proofs.Script.Parts

/-!
# Runs that follow other runs

Two runs go through the same tests and commands, in states that are related. What has to be known of
the relation concerns single steps only; that whole tests and blocks follow each other is said here
once, for every relation.

- `Follows`: unless the first step breaks off for some other cause, the second one answers or breaks
  off as the first one does, and the states stay related.
- `Escorts`: what a relation has to keep while tests are decided.
- `Test.follows`, `Command.followsAll`: tests of which the texts expand alike, and blocks of which
  the parts follow. The second block may lack some of the `set` commands.
-/

namespace MailFilter

namespace Delivery

open Run

variable {causes : Failure → Prop} {rel : State → State → Prop} {e₁ e₂ : Surroundings}
variable {α β : Type}

/-- Unless the first step breaks off for a cause that is not meant, the second one answers or breaks
off as the first one does, and the states stay related. -/
def Follows (causes : Failure → Prop) (rel : State → State → Prop) (e₁ e₂ : Surroundings)
    (r₁ r₂ : Run α) : Prop :=
  ∀ s₁ s₂, rel s₁ s₂ → ErrsBy causes (exec r₁ e₁ s₁).1 →
    (exec r₂ e₂ s₂).1 = (exec r₁ e₁ s₁).1 ∧ rel (exec r₁ e₁ s₁).2 (exec r₂ e₂ s₂).2

theorem Follows.pure (a : α) : Follows causes rel e₁ e₂ (Pure.pure a) (Pure.pure a) :=
  fun _ _ hs _ => ⟨rfl, hs⟩

theorem Follows.bind {r₁ r₂ : Run α} {f₁ f₂ : α → Run β} (hr : Follows causes rel e₁ e₂ r₁ r₂)
    (hf : ∀ a, Follows causes rel e₁ e₂ (f₁ a) (f₂ a)) :
    Follows causes rel e₁ e₂ (r₁ >>= f₁) (r₂ >>= f₂) := by
  intro s₁ s₂ hs hcauses
  have hfirst := hr s₁ s₂ hs
  -- a failure of the first half is one of the whole, so it is for a cause that is meant
  rcases h₁ : exec r₁ e₁ s₁ with ⟨failure | a, u₁⟩
  · rcases h₂ : exec r₂ e₂ s₂ with ⟨result, u₂⟩
    rw [exec_bind_of_error h₁] at hcauses ⊢
    rw [h₁, h₂] at hfirst
    obtain ⟨rfl, hu⟩ := hfirst (.error (hcauses failure rfl))
    rw [exec_bind_of_error h₂]
    exact ⟨rfl, hu⟩
  · rcases h₂ : exec r₂ e₂ s₂ with ⟨result, u₂⟩
    rw [exec_bind_of_ok h₁] at hcauses ⊢
    rw [h₁, h₂] at hfirst
    obtain ⟨rfl, hu⟩ := hfirst (.ok a)
    rw [exec_bind_of_ok h₂]
    exact hf a u₁ u₂ hu hcauses

/-- A step of the first run may have no counterpart. -/
theorem Follows.skip {r : Run Unit} {f : Unit → Run β} {r₂ : Run β}
    (hr : Follows causes rel e₁ e₂ r (Pure.pure ()))
    (hf : Follows causes rel e₁ e₂ (f ()) r₂) : Follows causes rel e₁ e₂ (r >>= f) r₂ := by
  -- the missing counterpart is a step that does nothing
  have hboth : Follows causes rel e₁ e₂ (r >>= f) (Pure.pure () >>= fun _ => r₂) :=
    hr.bind fun _ => hf
  rwa [pure_bind] at hboth

/-- What a relation of states has to keep while tests are decided. -/
structure Escorts (rel : State → State → Prop) (e₁ e₂ : Surroundings) : Prop where
  /-- Both runs look at the same message. -/
  message : e₁.message = e₂.message
  /-- Both runs may keep the groups of the same match. -/
  matched : ∀ s₁ s₂ matchType groups, rel s₁ s₂ →
    rel (s₁.matched e₁ matchType groups) (s₂.matched e₂ matchType groups)

/-- A text expands alike in related states. -/
def ExpandsAlike (rel : State → State → Prop) (e₁ e₂ : Surroundings) (t : Text) : Prop :=
  ∀ s₁ s₂, rel s₁ s₂ → e₁.expanded s₁.store t = e₂.expanded s₂.store t

theorem ExpandsAlike.map_eq {ts : List Text} {s₁ s₂ : State}
    (ht : ∀ t ∈ ts, ExpandsAlike rel e₁ e₂ t) (hs : rel s₁ s₂) :
    ts.map (e₁.expanded s₁.store) = ts.map (e₂.expanded s₂.store) :=
  List.map_congr_left fun t h => ht t h s₁ s₂ hs

/-- Both steps only look at the states, and find the same in related ones, be it a failure. -/
def ReadsAlike (rel : State → State → Prop) (e₁ e₂ : Surroundings) (r : Run α) : Prop :=
  ∀ s₁ s₂, rel s₁ s₂ →
    ∃ result, exec r e₁ s₁ = (result, s₁) ∧ exec r e₂ s₂ = (result, s₂)

theorem ReadsAlike.follows {r : Run α} (h : ReadsAlike rel e₁ e₂ r) :
    Follows causes rel e₁ e₂ r r := by
  intro s₁ s₂ hs _
  obtain ⟨result, h₁, h₂⟩ := h s₁ s₂ hs
  rw [h₁, h₂]
  exact ⟨rfl, hs⟩

/-- A step that depends on the message and on texts as they are at that point only. -/
theorem Escorts.readsAlike (h : Escorts rel e₁ e₂) {r : Run α} {ts : List Text}
    {f : Message → List Text → Except Failure α}
    (hr : ∀ e s, exec r e s = (f e.message (ts.map (e.expanded s.store)), s))
    (hts : ∀ t ∈ ts, ExpandsAlike rel e₁ e₂ t) : ReadsAlike rel e₁ e₂ r := by
  intro s₁ s₂ hs
  refine ⟨_, hr e₁ s₁, ?_⟩
  rw [hr, h.message, ExpandsAlike.map_eq hts hs]

/-- A test that compares values with keys finds the same pair in both runs. -/
theorem Escorts.decide (h : Escorts rel e₁ e₂) {k : Keys} {r : Run (List Text)}
    (hkeys : ∀ t ∈ k.keys, ExpandsAlike rel e₁ e₂ t) (hvalues : ReadsAlike rel e₁ e₂ r) :
    Follows causes rel e₁ e₂ (k.decide r) (k.decide r) := by
  intro s₁ s₂ hs _
  obtain ⟨values, h₁, h₂⟩ := hvalues s₁ s₂ hs
  rw [Keys.exec_decide h₁, Keys.exec_decide h₂, ExpandsAlike.map_eq hkeys hs]
  split
  · exact ⟨rfl, hs⟩
  · exact ⟨rfl, h.matched s₁ s₂ _ _ hs⟩
  · exact ⟨rfl, hs⟩

end Delivery

open Delivery Run

variable {causes : Failure → Prop} {rel : State → State → Prop} {e₁ e₂ : Surroundings}

namespace Test

mutual

/-- A test of which all texts expand alike is decided alike. -/
theorem follows (h : Escorts rel e₁ e₂) : ∀ test : Test,
    (∀ t ∈ test.texts, ExpandsAlike rel e₁ e₂ t) →
      Follows causes rel e₁ e₂ test.evaluate test.evaluate
  | .constant b, _ => by
    rw [evaluate]
    exact .pure b
  | .allOf tests, htexts => by
    rw [evaluate]
    exact followsAll h tests htexts
  | .anyOf tests, htexts => by
    rw [evaluate]
    exact followsAny h tests htexts
  | .negation test, htexts => by
    rw [evaluate]
    exact (follows h test htexts).bind fun b => .pure !b
  | .present names, htexts => (h.readsAlike (exec_present names) htexts).follows
  | .header k names, htexts => by
    obtain ⟨hkeys, hnames⟩ := List.forall_mem_append.mp htexts
    rw [evaluate]
    exact h.decide hkeys (h.readsAlike (exec_headerValues names) hnames)
  | .address k part names, htexts => by
    obtain ⟨hkeys, hnames⟩ := List.forall_mem_append.mp htexts
    rw [evaluate]
    exact h.decide hkeys (h.readsAlike (exec_addressValues part names) hnames)
  | .string k sources, htexts => by
    obtain ⟨hkeys, hsources⟩ := List.forall_mem_append.mp htexts
    rw [evaluate]
    exact h.decide hkeys (h.readsAlike (f := fun _ ts => .ok ts) (exec_expandAll sources) hsources)

theorem followsAll (h : Escorts rel e₁ e₂) : ∀ tests : List Test,
    (∀ t ∈ textsIn tests, ExpandsAlike rel e₁ e₂ t) →
      Follows causes rel e₁ e₂ (evaluateAll tests) (evaluateAll tests)
  | [], _ => by
    rw [evaluateAll]
    exact .pure true
  | test :: rest, htexts => by
    obtain ⟨hfirst, hrest⟩ := List.forall_mem_append.mp htexts
    rw [evaluateAll]
    refine (follows h test hfirst).bind fun b => ?_
    cases b with
    | true => exact followsAll h rest hrest
    | false => exact .pure false

theorem followsAny (h : Escorts rel e₁ e₂) : ∀ tests : List Test,
    (∀ t ∈ textsIn tests, ExpandsAlike rel e₁ e₂ t) →
      Follows causes rel e₁ e₂ (evaluateAny tests) (evaluateAny tests)
  | [], _ => by
    rw [evaluateAny]
    exact .pure false
  | test :: rest, htexts => by
    obtain ⟨hfirst, hrest⟩ := List.forall_mem_append.mp htexts
    rw [evaluateAny]
    refine (follows h test hfirst).bind fun b => ?_
    cases b with
    | true => exact .pure true
    | false => exact followsAny h rest hrest

end

end Test

namespace Command

variable {p : SetCommand → Bool}

/-- What the second run does in place of a `set` command: nothing, if it is left out. -/
def unlessPruned (p : SetCommand → Bool) (c : SetCommand) : Run Unit :=
  if p c then pure () else c.run

mutual

/-- A command that is not left out does the same in both runs if its parts do, its blocks being
pruned in the second one. -/
theorem follows : ∀ c : Command, c.isSet p = false →
    (∀ test ∈ c.tests, Follows causes rel e₁ e₂ test.evaluate test.evaluate) →
    (∀ a ∈ c.actions, Follows causes rel e₁ e₂ a.run a.run) →
    (∀ d ∈ c.sets, Follows causes rel e₁ e₂ d.run (unlessPruned p d)) →
      Follows causes rel e₁ e₂ c.run (c.pruned p).run
  | .set c, hkept, _, _, hsets => by
    have hkept : p c = false := hkept
    have hc := hsets c (List.mem_singleton_self c)
    rw [unlessPruned, hkept] at hc
    rw [pruned, run]
    exact hc.bind fun _ => .pure true
  | .action a, _, _, hactions, _ => by
    rw [pruned, run]
    exact hactions a (List.mem_singleton_self a)
  | .choice branches otherwise, _, htests, hactions, hsets => by
    obtain ⟨htests, htestsElse⟩ := List.forall_mem_append.mp htests
    obtain ⟨hactions, hactionsElse⟩ := List.forall_mem_append.mp hactions
    obtain ⟨hsets, hsetsElse⟩ := List.forall_mem_append.mp hsets
    rw [pruned, run, run]
    exact followsChoice branches htests hactions hsets
      (followsAll otherwise htestsElse hactionsElse hsetsElse)

/-- Both runs choose the same branch, or none. -/
theorem followsChoice {r₁ r₂ : Run Bool} : ∀ branches : List (Test × List Command),
    (∀ test ∈ testsInBranches branches, Follows causes rel e₁ e₂ test.evaluate test.evaluate) →
    (∀ a ∈ actionsInBranches branches, Follows causes rel e₁ e₂ a.run a.run) →
    (∀ d ∈ setsInBranches branches, Follows causes rel e₁ e₂ d.run (unlessPruned p d)) →
    Follows causes rel e₁ e₂ r₁ r₂ →
      Follows causes rel e₁ e₂ (runChoice r₁ branches) (runChoice r₂ (prunedBranches p branches))
  | [], _, _, _, helse => by
    rw [prunedBranches, runChoice, runChoice]
    exact helse
  | (test, block) :: rest, htests, hactions, hsets, helse => by
    obtain ⟨htests, htestsRest⟩ := List.forall_mem_append.mp htests
    obtain ⟨htest, htestsBlock⟩ := List.forall_mem_cons.mp htests
    obtain ⟨hactionsBlock, hactionsRest⟩ := List.forall_mem_append.mp hactions
    obtain ⟨hsetsBlock, hsetsRest⟩ := List.forall_mem_append.mp hsets
    rw [prunedBranches, runChoice, runChoice]
    -- both runs have the same answer, and go the same way from here
    refine htest.bind fun b => ?_
    cases b with
    | true => exact followsAll block htestsBlock hactionsBlock hsetsBlock
    | false => exact followsChoice rest htestsRest hactionsRest hsetsRest helse

/-- A block does the same as the pruned block if its parts do. -/
theorem followsAll : ∀ commands : List Command,
    (∀ test ∈ testsIn commands, Follows causes rel e₁ e₂ test.evaluate test.evaluate) →
    (∀ a ∈ actionsIn commands, Follows causes rel e₁ e₂ a.run a.run) →
    (∀ d ∈ setsIn commands, Follows causes rel e₁ e₂ d.run (unlessPruned p d)) →
      Follows causes rel e₁ e₂ (runAll commands) (runAll (prunedIn p commands))
  | [], _, _, _ => by
    rw [prunedIn, runAll]
    exact .pure true
  | c :: rest, htests, hactions, hsets => by
    obtain ⟨htests, htestsRest⟩ := List.forall_mem_append.mp htests
    obtain ⟨hactions, hactionsRest⟩ := List.forall_mem_append.mp hactions
    obtain ⟨hsets, hsetsRest⟩ := List.forall_mem_append.mp hsets
    have hrest := followsAll rest htestsRest hactionsRest hsetsRest
    rw [prunedIn, runAll]
    cases hdrop : c.isSet p with
    | false =>
      rw [if_neg Bool.false_ne_true, runAll]
      refine (follows c hdrop htests hactions hsets).bind fun goesOn => ?_
      cases goesOn with
      | true => exact hrest
      | false => exact .pure false
    | true =>
      rw [if_pos rfl]
      -- only a `set` command is left out, and one always goes on
      cases c with
      | set d =>
        have hdrop : p d = true := hdrop
        have hd := hsets d (List.mem_singleton_self d)
        rw [unlessPruned, hdrop] at hd
        rw [run, bind_assoc]
        refine hd.skip ?_
        rw [pure_bind, if_pos rfl]
        exact hrest
      | action a => nomatch hdrop
      | choice branches otherwise => nomatch hdrop

end

end Command

end MailFilter
