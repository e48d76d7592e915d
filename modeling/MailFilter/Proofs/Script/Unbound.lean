import Mathlib.Data.List.Nodup
import MailFilter.CommandLine.Program
import MailFilter.Proofs.Answer
import MailFilter.Proofs.Script.Parts
import MailFilter.Proofs.Template.Lookups

/-!
# Variables that nothing binds

A run may expand the arguments of actions, the values of `set` commands, and the keys, names and
sources of tests. Checking a script lists the names to which it refers and which it never binds, but
it goes over actions and `set` commands only, and it takes two spellings of a name for two names.

- `Script.Unbound`: a variable to which a text that may be expanded refers, and which no command
  binds.
- `Script.reported`: the variables that are listed.
- `Script.reported_exact_iff`: what is listed is what is unbound, each variable once, exactly if
  tests refer to no other unbound variables than commands do, and each is spelled in one way.
- `Program.check_reports`: what checking a file prints.

A list that is not exact says too little, never too much: every variable that is listed is unbound.
-/

namespace MailFilter

namespace Command

mutual

theorem mem_referenced_iff {name : Text} : ∀ c : Command,
    name ∈ c.referenced ↔
      (∃ d ∈ c.sets, name ∈ Template.references d.value) ∨
        ∃ a ∈ c.actions, name ∈ Template.references a.argument
  | .set _ => by simp [referenced, sets, actions]
  | .action _ => by simp [referenced, sets, actions]
  | .choice branches otherwise => by
    simp only [referenced, sets, actions, List.mem_append, or_and_right, exists_or,
      mem_referencedInBranches_iff branches, mem_referencedIn_iff otherwise]
    exact or_or_or_comm

/-- The names to which the commands of a block refer are those in the values and arguments of its
commands, at any depth. -/
theorem mem_referencedIn_iff {name : Text} : ∀ cs : List Command,
    name ∈ referencedIn cs ↔
      (∃ d ∈ setsIn cs, name ∈ Template.references d.value) ∨
        ∃ a ∈ actionsIn cs, name ∈ Template.references a.argument
  | [] => by simp [referencedIn, setsIn, actionsIn]
  | c :: rest => by
    simp only [referencedIn, setsIn, actionsIn, List.mem_append, or_and_right, exists_or,
      mem_referenced_iff c, mem_referencedIn_iff rest]
    exact or_or_or_comm

theorem mem_referencedInBranches_iff {name : Text} : ∀ bs : List (Test × List Command),
    name ∈ referencedInBranches bs ↔
      (∃ d ∈ setsInBranches bs, name ∈ Template.references d.value) ∨
        ∃ a ∈ actionsInBranches bs, name ∈ Template.references a.argument
  | [] => by simp [referencedInBranches, setsInBranches, actionsInBranches]
  | (test, block) :: rest => by
    simp only [referencedInBranches, setsInBranches, actionsInBranches, List.mem_append,
      or_and_right, exists_or, mem_referencedIn_iff block, mem_referencedInBranches_iff rest]
    exact or_or_or_comm

end

mutual

theorem assigned_eq : ∀ c : Command, c.assigned = c.sets.map fun d => d.name.lower
  | .set _ => rfl
  | .action _ => rfl
  | .choice branches otherwise => by
    rw [assigned, sets, List.map_append, assignedInBranches_eq branches, assignedIn_eq otherwise]

/-- The names that a block binds are those of its `set` commands, at any depth. -/
theorem assignedIn_eq : ∀ cs : List Command,
    assignedIn cs = (setsIn cs).map fun d => d.name.lower
  | [] => rfl
  | c :: rest => by
    rw [assignedIn, setsIn, List.map_append, assigned_eq c, assignedIn_eq rest]

theorem assignedInBranches_eq : ∀ bs : List (Test × List Command),
    assignedInBranches bs = (setsInBranches bs).map fun d => d.name.lower
  | [] => rfl
  | (test, block) :: rest => by
    rw [assignedInBranches, setsInBranches, List.map_append, assignedIn_eq block,
      assignedInBranches_eq rest]

end

end Command

namespace Template

/-- Every reference has a name that is spelled by a body, and that a reference may have. -/
theorem spells_of_mem_references {t name : Text} (h : name ∈ references t) :
    (∃ body, Spells body name) ∧ isName name = true := by
  rw [← List.drop_zero (l := t), references_drop] at h
  obtain ⟨i, -, hi⟩ := List.mem_filterMap.mp h
  obtain ⟨⟨n, stop⟩, hsite, rfl⟩ := Option.map_eq_some_iff.mp hi
  obtain ⟨body, hbody, hname, -⟩ := referenceAt?_eq_some_iff.mp (siteAt?_eq_some_iff.mp hsite).2
  exact ⟨⟨body, hbody⟩, hname⟩

/-- A name that consists of digits has one digit only, and small letters make no digit. -/
theorem isNumber_iff_of_mem_references {t name : Text} (h : name ∈ references t) :
    Store.isNumber name = true ↔ ∃ d : CodePoint, d.isDigit = true ∧ name.lower = [d] := by
  obtain ⟨⟨body, hbody⟩, hname⟩ := spells_of_mem_references h
  rw [Text.lower_of_isAscii hbody.isAscii]
  match name with
  | [] => simp [Store.isNumber, Text.asciiFold]
  | [c] => simp [Store.isNumber, Text.asciiFold]
  | c :: e :: rest =>
    -- A reference to a number of two digits or more is no reference.
    have htwo : c.isDigit = false ∨ e.isDigit = false := by
      simpa [isName, startsWithTwoDigits] using hname
    rcases htwo with hc | he
    · simp [Store.isNumber, Text.asciiFold, hc]
    · simp [Store.isNumber, Text.asciiFold, he]

end Template

namespace Script

/-- A text that a run may expand refers to the variable, no command binds it, and it is no digit. A
variable is given by its name in small letters. -/
def Unbound (s : Script) (x : Text) : Prop :=
  (∃ t ∈ s.texts ++ s.sets.map SetCommand.value, ∃ name ∈ Template.references t, name.lower = x) ∧
    (∀ c ∈ s.sets, c.name.lower ≠ x) ∧ ¬ ∃ d : CodePoint, d.isDigit = true ∧ x = [d]

/-- The variables that are listed. -/
def reported (s : Script) : List Text :=
  s.unassigned.map Text.lower

/-- A text that a run may expand belongs to a test, or to an action or a `set` command. -/
theorem mem_expandable_iff {s : Script} {t : Text} :
    t ∈ s.texts ++ s.sets.map SetCommand.value ↔
      (∃ test ∈ s.tests, t ∈ test.texts) ∨
        ((∃ c ∈ s.sets, c.value = t) ∨ ∃ a ∈ s.actions, a.argument = t) := by
  rw [List.mem_append, List.mem_map, texts, Command.mem_textsIn_iff, sets, actions, tests]
  -- what is left is the order of the three parts
  grind

/-- Only actions and `set` commands are gone over. -/
theorem mem_referenced_iff {s : Script} {name : Text} :
    name ∈ s.referenced ↔
      (∃ c ∈ s.sets, name ∈ Template.references c.value) ∨
        ∃ a ∈ s.actions, name ∈ Template.references a.argument :=
  Command.mem_referencedIn_iff s.commands

theorem mem_assigned_iff {s : Script} {x : Text} :
    x ∈ s.assigned ↔ ∃ c ∈ s.sets, c.name.lower = x := by
  rw [assigned, Command.assignedIn_eq, List.mem_map]
  rfl

/-- A name that actions or `set` commands refer to can be expanded. -/
theorem exists_expandable_of_mem_referenced {s : Script} {name : Text} (h : name ∈ s.referenced) :
    ∃ t ∈ s.texts ++ s.sets.map SetCommand.value, name ∈ Template.references t := by
  rcases mem_referenced_iff.mp h with ⟨c, hc, hname⟩ | ⟨a, ha, hname⟩
  · exact ⟨c.value, mem_expandable_iff.mpr (.inr (.inl ⟨c, hc, rfl⟩)), hname⟩
  · exact ⟨a.argument, mem_expandable_iff.mpr (.inr (.inr ⟨a, ha, rfl⟩)), hname⟩

/-- A name is listed if actions or `set` commands refer to it and its variable is unbound. -/
theorem mem_unassigned_iff_unbound {s : Script} {name : Text} :
    name ∈ s.unassigned ↔ name ∈ s.referenced ∧ s.Unbound name.lower := by
  rw [mem_unassigned_iff]
  refine and_congr_right fun href => ?_
  obtain ⟨t, ht, hname⟩ := exists_expandable_of_mem_referenced href
  -- with a reference at hand both sides differ in how a digit is told only
  rw [← Bool.not_eq_true, Template.isNumber_iff_of_mem_references hname, mem_assigned_iff]
  constructor
  · rintro ⟨hfree, hdigit⟩
    exact ⟨⟨t, ht, name, hname, rfl⟩, fun c hc heq => hfree ⟨c, hc, heq⟩, hdigit⟩
  · rintro ⟨-, hfree, hdigit⟩
    exact ⟨fun ⟨c, hc, heq⟩ => hfree c hc heq, hdigit⟩

/-- A variable is listed if it is unbound and actions or `set` commands refer to it. -/
theorem mem_reported_iff {s : Script} {x : Text} :
    x ∈ s.reported ↔ s.Unbound x ∧ ∃ name ∈ s.referenced, name.lower = x := by
  rw [reported, List.mem_map]
  constructor
  · rintro ⟨name, hname, rfl⟩
    obtain ⟨href, hunbound⟩ := mem_unassigned_iff_unbound.mp hname
    exact ⟨hunbound, name, href, rfl⟩
  · rintro ⟨hunbound, name, href, rfl⟩
    exact ⟨name, mem_unassigned_iff_unbound.mpr ⟨href, hunbound⟩, rfl⟩

theorem nodup_eraseDups (names : List Text) : names.eraseDups.Nodup := by
  match names with
  | [] => exact List.nodup_nil
  | name :: rest =>
    rw [List.eraseDups_cons]
    refine List.nodup_cons.mpr ⟨fun hmem => ?_, nodup_eraseDups (rest.filter fun b => !b == name)⟩
    simpa using (List.mem_filter.mp (List.mem_eraseDups.mp hmem)).2
termination_by names.length
decreasing_by exact Nat.lt_succ_of_le (List.length_filter_le ..)

theorem nodup_unassigned (s : Script) : s.unassigned.Nodup :=
  (List.mergeSort_perm ..).nodup_iff.mpr (nodup_eraseDups _)

/-- A variable is listed once if it is spelled in one way only. -/
theorem nodup_reported_iff (s : Script) :
    s.reported.Nodup ↔ ∀ a ∈ s.unassigned, ∀ b ∈ s.unassigned, a.lower = b.lower → a = b :=
  List.nodup_map_iff_inj_on s.nodup_unassigned

/-- All unbound variables are listed if tests refer to no other ones than actions and `set` commands
do. -/
theorem reported_complete_iff (s : Script) :
    (∀ x, s.Unbound x → x ∈ s.reported) ↔
      ∀ test ∈ s.tests, ∀ t ∈ test.texts, ∀ name ∈ Template.references t, s.Unbound name.lower →
        ∃ other ∈ s.referenced, other.lower = name.lower := by
  constructor
  · intro hall test htest t ht name hname hunbound
    exact (mem_reported_iff.mp (hall name.lower hunbound)).2
  · intro htests x hunbound
    refine mem_reported_iff.mpr ⟨hunbound, ?_⟩
    obtain ⟨t, ht, name, hname, rfl⟩ := hunbound.1
    rcases mem_expandable_iff.mp ht with ⟨test, htest, hmem⟩ | ⟨c, hc, rfl⟩ | ⟨a, ha, rfl⟩
    · exact htests test htest t hmem name hname hunbound
    · exact ⟨name, mem_referenced_iff.mpr (.inl ⟨c, hc, hname⟩), rfl⟩
    · exact ⟨name, mem_referenced_iff.mpr (.inr ⟨a, ha, hname⟩), rfl⟩

/-- The list is exact, each variable standing in it once, exactly if tests refer to no other unbound
variables than actions and `set` commands do, and each name that is listed has one spelling. -/
theorem reported_exact_iff (s : Script) :
    ((∀ x, x ∈ s.reported ↔ s.Unbound x) ∧ s.reported.Nodup) ↔
      (∀ test ∈ s.tests, ∀ t ∈ test.texts, ∀ name ∈ Template.references t, s.Unbound name.lower →
        ∃ other ∈ s.referenced, other.lower = name.lower) ∧
      ∀ a ∈ s.unassigned, ∀ b ∈ s.unassigned, a.lower = b.lower → a = b := by
  rw [← reported_complete_iff, ← nodup_reported_iff]
  -- what is listed is unbound in any case
  refine and_congr_left fun _ => ⟨fun h x => (h x).mpr, fun h x => ⟨fun hx => ?_, h x⟩⟩
  exact (mem_reported_iff.mp hx).1

end Script

namespace Program

theorem run_forM_print (lines : List Text) (printed : Text) :
    (lines.forM print).run.run printed =
      (.ok (), printed ++ lines.flatMap fun line => line ++ [.char '\n']) := by
  induction lines generalizing printed with
  | nil =>
    rw [List.flatMap_nil, List.append_nil]
    rfl
  | cons line lines ih =>
    rw [List.flatMap_cons, ← List.append_assoc, ← List.append_assoc]
    exact ih (printed ++ line ++ [.char '\n'])

/-- A file that holds a script is checked by printing what is said of the script. -/
theorem run_check_of_ok {format : DocumentFormat} {files : FileTree} {file : Text}
    {script : Script} {journal : Journal}
    (h : Engine.scriptOfFile files (Path.ofText file) .empty format = .ok (script, journal))
    (printed : Text) :
    (check files file format).run.run printed =
      (.ok (), printed ++ (describe script).flatMap fun line => line ++ [.char '\n']) := by
  rw [← run_forM_print]
  unfold check
  rw [h]
  rfl

/-- What is printed of names that are never bound. -/
def listing (names : List Text) : Text :=
  if names.isEmpty then []
  else "  Referenced but never set: " ++ Text.join ", " names ++ "\n"

/-- Checking a file that holds a script, in any format, prints that the script is valid, and a list of
names if there is any. Every variable in the list is unbound. The list is exact, each variable standing in it
once, exactly if tests refer to no other unbound variables than actions and `set` commands do, and
each name that is listed has one spelling. -/
theorem check_reports {format : DocumentFormat} {files : FileTree} {file : Text} {script : Script}
    {journal : Journal}
    (h : Engine.scriptOfFile files (Path.ofText file) .empty format = .ok (script, journal))
    (printed : Text) :
    (check files file format).run.run printed =
        (.ok (), printed ++ ("Script '" ++ script.name ++ "' is valid (" ++
          Text.ofNat script.commands.length ++ " top-level commands)\n") ++
          listing script.unassigned) ∧
      (∀ x ∈ script.reported, script.Unbound x) ∧
      (((∀ x, x ∈ script.reported ↔ script.Unbound x) ∧ script.reported.Nodup) ↔
        (∀ test ∈ script.tests, ∀ t ∈ test.texts, ∀ name ∈ Template.references t,
          script.Unbound name.lower → ∃ other ∈ script.referenced, other.lower = name.lower) ∧
        ∀ a ∈ script.unassigned, ∀ b ∈ script.unassigned, a.lower = b.lower → a = b) := by
  refine ⟨?_, fun x hx => (Script.mem_reported_iff.mp hx).1, script.reported_exact_iff⟩
  -- the last character of each line is printed apart from the line
  have hvalid : Text.ofString " top-level commands)\n" =
      Text.ofString " top-level commands)" ++ [.char '\n'] := by decide
  rw [run_check_of_ok h, describe, listing, hvalid]
  split
  · simp
  · have hend : Text.ofString "\n" = [.char '\n'] := rfl
    simp [hend]

/-- The file that holds a text, alone in its directory. -/
def fileHolding (name : Text) (content : String) : FileTree :=
  ⟨[([name], .file content.toUTF8.toList)]⟩

/-- The script in a file, known by what is made out of it. -/
theorem exists_script_of_map {α : Type} (files : FileTree) (path : Path) (f : Script → α) {a : α}
    (h : (Engine.scriptOfFile files path .empty).toOption.map (fun p => f p.1) = some a) :
    ∃ script journal, Engine.scriptOfFile files path .empty = .ok (script, journal) ∧
      f script = a := by
  obtain ⟨p, hread, hparts⟩ := exists_of_map_toOption h
  exact ⟨p.1, p.2, hread, hparts⟩

/-- A test refers to a variable that is bound later, and to one that a nested action refers to. -/
theorem check_reports_nested :
    let files := fileHolding "s" "commands:
      - if:
          test:
            not:
              header:
                names: '$\x7bf\x7d'
                keys: '$\x7bWho\x7d'
          then:
            - tag: '$\x7bf\x7d'
      - set: [who, '$\x7b1\x7d']"
    ∃ script journal, Engine.scriptOfFile files (Path.ofText "s") .empty = .ok (script, journal) ∧
      (check files "s").run.run [] = (.ok (),
        Text.ofString
          "Script 's' is valid (2 top-level commands)\n  Referenced but never set: f\n") ∧
      ∀ x, script.Unbound x ↔ x = "f" := by
  intro files
  obtain ⟨script, journal, hread, hparts⟩ := exists_script_of_map files (Path.ofText "s")
    (fun s => [[s.name, Text.ofNat s.commands.length], s.assigned, s.referenced.map Text.lower,
      (s.tests.flatMap Test.texts).flatMap Template.references, s.unassigned])
    (a := [["s", "2"], ["who"], ["f", "1"], ["Who", "f"], ["f"]]) (by decide +kernel)
  simp only [List.cons.injEq, and_true] at hparts
  obtain ⟨⟨hname, hlength⟩, hassigned, hreferenced, htests, hunassigned⟩ := hparts
  obtain ⟨hprint, -, hexact⟩ := check_reports hread []
  refine ⟨script, journal, hread, ?_, fun x => ?_⟩
  · rw [hprint, hname, hlength, hunassigned]
    rfl
  · have hlisted : script.reported = [Text.ofString "f"] := by
      rw [Script.reported, hunassigned]
      decide
    -- Of the names in the test one is bound, and the other one is that of the action.
    have hcovered : ∀ test ∈ script.tests, ∀ t ∈ test.texts, ∀ name ∈ Template.references t,
        script.Unbound name.lower → ∃ other ∈ script.referenced, other.lower = name.lower := by
      intro test htest t ht name hmem hunbound
      have hmem : name ∈ (script.tests.flatMap Test.texts).flatMap Template.references :=
        List.mem_flatMap.mpr ⟨t, List.mem_flatMap.mpr ⟨test, htest, ht⟩, hmem⟩
      rw [← List.mem_map, hreferenced]
      simp only [htests, List.mem_cons, List.not_mem_nil, or_false] at hmem
      rcases hmem with rfl | rfl
      · have hbound : Text.lower "Who" ∈ script.assigned := by
          rw [hassigned]
          decide
        obtain ⟨c, hc, hcname⟩ := Script.mem_assigned_iff.mp hbound
        exact absurd hcname (hunbound.2.1 c hc)
      · decide
    have honce : ∀ a ∈ script.unassigned, ∀ b ∈ script.unassigned, a.lower = b.lower → a = b := by
      rw [hunassigned]
      decide
    rw [← (hexact.mpr ⟨hcovered, honce⟩).1 x, hlisted, List.mem_singleton]

/-- The name of the header field that a test looks at is not gone over. -/
theorem check_overlooks_tests :
    let files := fileHolding "s" "commands:
      - if:
          test:
            header:
              names: '$\x7bfield\x7d'
              keys: x"
    ∃ script journal, Engine.scriptOfFile files (Path.ofText "s") .empty = .ok (script, journal) ∧
      (check files "s").run.run [] =
        (.ok (), Text.ofString "Script 's' is valid (1 top-level commands)\n") ∧
      script.Unbound "field" ∧ Text.ofString "field" ∉ script.reported := by
  intro files
  obtain ⟨script, journal, hread, hparts⟩ := exists_script_of_map files (Path.ofText "s")
    (fun s => [[s.name, Text.ofNat s.commands.length], s.texts, s.assigned, s.unassigned])
    (a := [["s", "1"], ["x", "$\x7bfield\x7d"], [], []]) (by decide +kernel)
  simp only [List.cons.injEq, and_true] at hparts
  obtain ⟨⟨hname, hlength⟩, htexts, hassigned, hunassigned⟩ := hparts
  refine ⟨script, journal, hread, ?_, ⟨?_, ?_, ?_⟩, ?_⟩
  · rw [run_check_of_ok hread, describe, hname, hlength, hunassigned]
    rfl
  · refine ⟨"$\x7bfield\x7d", ?_, "field", by decide +kernel, by decide⟩
    rw [htexts]
    exact List.mem_append_left _ (by decide)
  · intro c hc hbound
    have hmem := Script.mem_assigned_iff.mpr ⟨c, hc, hbound⟩
    rw [hassigned] at hmem
    exact List.not_mem_nil hmem
  · -- a name of five characters is no digit
    rintro ⟨d, -, h⟩
    have hlen : 5 = 1 := congrArg List.length h
    exact absurd hlen (by decide)
  · rw [Script.reported, hunassigned]
    exact List.not_mem_nil

end Program

end MailFilter
