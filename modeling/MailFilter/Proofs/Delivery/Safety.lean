import MailFilter.Proofs.Delivery.Observation
import MailFilter.Proofs.Script.Checked
import MailFilter.Proofs.Variable.Arguments

/-!
# Scripts that have been read do not fail on syntax

What is checked when a script is read need not be checked again. A run of such a script may break
off by a fault, for a number with too many digits or a text without an encoding, but not for the way
the script is written, whatever is put in place of its references.

- `Keys.Checked.failsBy`: a comparison that has been checked breaks off by a fault alone.
- `Command.failsBy_runAll`: and so does every block of which the comparisons have been checked.
- `Engine.fails_by_fault_of_ofValue`: and so does every delivery by a script that has been read.
-/

namespace MailFilter

open Delivery Run

/-- A comparator that supports a match type can compare any value with any key. -/
theorem Comparison.errsBy_groups {matchType : MatchType} {comparator : Comparator}
    (h : comparator.supports matchType = true) (value key : Text) :
    ErrsBy Failure.IsFault (groups matchType comparator value key) := by
  unfold groups
  rw [if_pos h]
  split
  · split
    · exact .ok _
    · exact .error (Failure.isFault_fault _)
    · exact .error (Failure.isFault_fault _)
  · exact .ok _
  · exact .ok _

namespace Keys

variable {k : Keys}

/-- A value is compared with one key after another, and no comparison asks for more than was
checked. -/
theorem Checked.errsBy_firstKey (h : k.Checked) (value : Text) :
    ∀ keys, ErrsBy Failure.IsFault (firstMatch.firstKey k value keys)
  | [] => .ok none
  | key :: keys => by
    rw [firstMatch.firstKey]
    refine (Comparison.errsBy_groups h value key).bind fun found _ => ?_
    cases found with
    | some groups => exact .ok _
    | none => exact errsBy_firstKey h value keys

/-- So are all values. -/
theorem Checked.errsBy_firstMatch (h : k.Checked) (keys : List Text) :
    ∀ values, ErrsBy Failure.IsFault (k.firstMatch keys values)
  | [] => .ok none
  | value :: values => by
    rw [firstMatch]
    refine (h.errsBy_firstKey value keys).bind fun found _ => ?_
    cases found with
    | some groups => exact .ok _
    | none => exact errsBy_firstMatch h keys values

/-- Whatever keys and values expand to, comparing them breaks off by a fault alone. -/
theorem Checked.failsBy (h : k.Checked) : k.FailsBy Failure.IsFault :=
  fun keys values => h.errsBy_firstMatch keys values

end Keys

/-- A test of which the comparisons have been checked breaks off by a fault alone. -/
theorem Test.Checked.failsBy {test : Test} (h : test.Checked) :
    FailsBy Failure.IsFault test.evaluate :=
  (test.observes (fun _ h => h) fun k hk => (h k hk).failsBy).failsBy

/-- Modifying and binding fails with a fault only. -/
theorem Store.errsBy_assignModified (s : Store) (modifiers : ModifierSet) (name value : Text) :
    ErrsBy Failure.IsFault (s.assignModified modifiers name value) := by
  unfold assignModified
  split
  · exact .ok _
  · exact .error (Failure.isFault_fault _)

/-- A `set` command is not read again when it runs, nor is what its value expands to. -/
theorem SetCommand.errsBy_execute (c : SetCommand) (enabled : Bool) (s : Store) :
    ErrsBy Failure.IsFault (c.execute enabled s) := by
  unfold execute
  split
  · exact (s.errsBy_assignModified _ _ _).bind fun _ _ => .ok _
  · exact .ok _

/-- The modifiers of a command that has been checked are known. -/
theorem SetCommand.Checked.ofTokens_eq {c : SetCommand} (h : c.Checked) :
    ModifierSet.ofTokens c.tokens = .ok c.modifiers := by
  obtain ⟨-, -, -, hmodifiers⟩ := SetCommand.ofArguments_eq_ok_iff_ofTokens.mp h
  exact hmodifiers

/-- The modifiers of such a command can be applied again, to any value under any name. -/
theorem SetCommand.Checked.errsBy_assign {c : SetCommand} (h : c.Checked) (s : Store)
    (enabled : Bool) (name value : Text) :
    ErrsBy Failure.IsFault (s.assign enabled c.tokens name value) := by
  unfold Store.assign
  rw [h.ofTokens_eq]
  dsimp only
  split
  · exact (s.errsBy_assignModified _ _ _).bind fun _ _ => .ok _
  · exact .ok _

/-- A `set` command that has been read breaks off by a fault alone. -/
theorem SetCommand.failsBy_run (c : SetCommand) : FailsBy Failure.IsFault c.run := by
  intro e s
  rw [exec_run]
  split
  · exact .ok ()
  · next failure hfailure =>
    exact .error (c.errsBy_execute e.variablesEnabled s.store failure hfailure)

/-- An action never breaks off. -/
theorem Action.failsBy_run (a : Action) : FailsBy Failure.IsFault a.run := by
  intro e s
  rw [exec_run]
  split
  · exact .ok false
  · exact .ok true

namespace Command

mutual

/-- A command of which the comparisons have been checked breaks off by a fault alone. The induction
is over the tree of commands. -/
theorem failsBy_run : ∀ c : Command, (∀ test ∈ c.tests, test.Checked) →
    FailsBy Failure.IsFault c.run
  | .set c, _ => by
    rw [run]
    exact c.failsBy_run.bind fun _ => .pure true
  | .action a, _ => by
    rw [run]
    exact a.failsBy_run
  | .choice branches otherwise, h => by
    obtain ⟨hbranches, hotherwise⟩ := List.forall_mem_append.mp h
    rw [run]
    exact failsBy_runChoice (failsBy_runAll otherwise hotherwise) branches hbranches

/-- So does a choice, by its tests or by the block that it chooses. -/
theorem failsBy_runChoice {otherwise : Run Bool} (hotherwise : FailsBy Failure.IsFault otherwise) :
    ∀ branches : List (Test × List Command), (∀ test ∈ testsInBranches branches, test.Checked) →
      FailsBy Failure.IsFault (runChoice otherwise branches)
  | [], _ => by
    rw [runChoice]
    exact hotherwise
  | (test, block) :: rest, h => by
    obtain ⟨hfirst, hrest⟩ := List.forall_mem_append.mp h
    obtain ⟨htest, hblock⟩ := List.forall_mem_cons.mp hfirst
    rw [runChoice]
    refine htest.failsBy.bind fun holds => ?_
    cases holds with
    | true => exact failsBy_runAll block hblock
    | false => exact failsBy_runChoice hotherwise rest hrest

/-- A block of which the comparisons have been checked breaks off by a fault alone. -/
theorem failsBy_runAll : ∀ block : List Command, (∀ test ∈ testsIn block, test.Checked) →
    FailsBy Failure.IsFault (runAll block)
  | [], _ => by
    rw [runAll]
    exact .pure true
  | c :: rest, h => by
    obtain ⟨hfirst, hrest⟩ := List.forall_mem_append.mp h
    rw [runAll]
    refine (failsBy_run c hfirst).bind fun goesOn => ?_
    cases goesOn with
    | true => exact failsBy_runAll rest hrest
    | false => exact .pure false

end

end Command

namespace Engine

/-- A script adds the record of an early end to its commands, which cannot break off. -/
theorem failsBy_runScript {script : Script} (h : ∀ test ∈ script.tests, test.Checked) :
    FailsBy Failure.IsFault (runScript script) := by
  intro e s
  have hcommands : FailsBy Failure.IsFault (runCommands script) := by
    refine (Command.failsBy_runAll script.commands h).bind fun finished => ?_
    cases finished with
    | true => exact .pure ()
    | false => exact fun _ _ => .ok ()
  rw [exec_runScript]
  exact hcommands e (announced e s)

/-- A delivery is made out beforehand, and then run. -/
theorem errsBy_deliver {script : Script} (h : ∀ test ∈ script.tests, test.Checked)
    (settings : VariablesSettings) (message : Message) (account : Option Text) (journal : Journal) :
    ErrsBy Failure.IsFault (deliver settings script message account journal).1 := by
  unfold deliver
  split
  -- the switch or the identity of the message cannot be made out
  · exact .error (Failure.isFault_fault _)
  · exact (failsBy_runScript h _ _).map _

/-- A script that has been read never fails on syntax. Its comparators compare any value with any
key; its `set` commands can be read again, and their modifiers apply to any value under any name;
and no delivery, by whatever message, account and settings, breaks off for anything but a fault. -/
theorem fails_by_fault_of_ofValue {v : Value} {script : Script}
    (h : Script.ofValue v = .ok script) :
    (∀ test ∈ script.tests, ∀ k ∈ test.comparisons, ∀ value key,
      ErrsBy Failure.IsFault (Comparison.groups k.matchType k.comparator value key)) ∧
    (∀ c ∈ script.sets, SetCommand.ofArguments c.arguments = .ok c ∧
      ∀ (s : Store) (enabled : Bool) (name value : Text),
        ErrsBy Failure.IsFault (s.assign enabled c.tokens name value)) ∧
    ∀ settings message account journal,
      ErrsBy Failure.IsFault (deliver settings script message account journal).1 := by
  have hchecked := Script.checked_ofValue v script h
  refine ⟨fun test htest k hk value key => ?_, fun c hc => ?_, ?_⟩
  · exact Comparison.errsBy_groups (hchecked.tests test htest k hk) value key
  · exact ⟨hchecked.sets c hc, (hchecked.sets c hc).errsBy_assign⟩
  · exact errsBy_deliver hchecked.tests

/-- The comparison and the `set` command of this script are in order. The value that is bound has no
encoding, so a delivery meets a fault. -/
theorem fails_by_fault_of_ofValue_unencodable :
    let test : Value := .map [(.text "string", .map [(.text "comparator", .text "i;ascii-numeric"),
      (.text "match", .text ":is"), (.text "keys", .text "$\x7bn\x7d"), (.text "sources", .int 7)])]
    let bound : Value := .map [(.text "modifiers", .text "encodeurl"), (.text "name", .text "x"),
      (.text "value", .text [.surrogate 0])]
    let v : Value := .map [(.text "commands", .list
      [.map [(.text "if", .map [(.text "test", .map [(.text "not", test)])])],
        .map [(.text "set", bound)]])]
    ∃ script, Script.ofValue v = .ok script ∧
      (∃ test ∈ script.tests, ∃ k ∈ test.comparisons, k.comparator = .asciiNumeric ∧
        ∀ value key,
          ErrsBy Failure.IsFault (Comparison.groups k.matchType k.comparator value key)) ∧
      (∃ c ∈ script.sets, c.name = "x" ∧ SetCommand.ofArguments c.arguments = .ok c) ∧
      ∃ failure, (deliver {} script ⟨[]⟩ none .empty).1 = .error failure ∧ failure.IsFault := by
  intro test bound v
  obtain ⟨script, h, hparts⟩ : ∃ script, Script.ofValue v = .ok script ∧
      (script.tests.flatMap (·.comparisons.map Keys.comparator), script.sets.map SetCommand.name) =
        ([Comparator.asciiNumeric], [Text.ofString "x"]) :=
    exists_of_map_toOption (by decide +kernel)
  obtain ⟨hcomparators, hnames⟩ := Prod.mk.inj hparts
  obtain ⟨hcompares, hsets, hdelivers⟩ := fails_by_fault_of_ofValue h
  have hruns : ((Script.ofValue v).bind fun s => (deliver {} s ⟨[]⟩ none .empty).1) =
      .error (.fault .unencodable) := by decide +kernel
  rw [h] at hruns
  refine ⟨script, h, ?_, ?_, _, hruns, hdelivers _ _ _ _ _ hruns⟩
  · have hmem : Comparator.asciiNumeric ∈
        script.tests.flatMap (·.comparisons.map Keys.comparator) := by
      rw [hcomparators]
      exact List.mem_singleton_self _
    obtain ⟨test, htest, hcomparator⟩ := List.mem_flatMap.mp hmem
    obtain ⟨k, hk, hnumeric⟩ := List.mem_map.mp hcomparator
    exact ⟨test, htest, k, hk, hnumeric, hcompares test htest k hk⟩
  · have hmem : Text.ofString "x" ∈ script.sets.map SetCommand.name := by
      rw [hnames]
      exact List.mem_singleton_self _
    obtain ⟨c, hc, hname⟩ := List.mem_map.mp hmem
    exact ⟨c, hc, hname, (hsets c hc).1⟩

end Engine

end MailFilter
