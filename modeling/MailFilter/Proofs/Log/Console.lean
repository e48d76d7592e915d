import MailFilter.Log.Recorder
import MailFilter.Proofs.Answer

/-!
# What reaches the console

A recorder is set up once; whatever is asked of it later, its console handler goes on writing the
records that are grave enough. They are the records of the loggers below the root. A logger gets a
name below the root unless its own name begins like that of the root and goes on with something else
than a dot: such a logger lies beside the root, where the level that was asked for does not count
and no handler stands. What it has to warn of is left to the last resort, and the rest is dropped.

- `Logger.Strays`: a name that begins like the root only.
- `Logger.isBelowRoot_fullName_iff`: which loggers lie below the root.
- `LogStep`, `Recorder.after`: what is asked of a recorder, and what becomes of it.
- `Recorder.ShowsFrom`: a recorder whose console handler writes records from a level on.
- `Recorder.showsFrom_setUp`, `Recorder.ShowsFrom.after`: it begins with being set up, and no step
  ends it.
- `Recorder.ShowsFrom.log_of_isBelowRoot`, `Recorder.log_of_not_isBelowRoot`: a record of a logger
  below the root and one of a logger beside it.
- `Recorder.console_of_setUp`: the records of a logger, by the name that it is asked for.
-/

namespace MailFilter

namespace Logger

variable {name : Text}

/-- The name begins like that of the root and goes on with something else than a dot. -/
def Strays (name : Text) : Prop :=
  ∃ c rest, name = rootName ++ c :: rest ∧ c ≠ .char '.'

/-- A name at the root or below it. -/
def IsBelowRoot (name : Text) : Prop :=
  name = rootName ∨ rootName ++ ("." : Text) <+: name

/-- The check of a name says whether it is at the root or below it. -/
theorem isBelowRoot_iff : isBelowRoot name = true ↔ IsBelowRoot name := by
  rw [isBelowRoot, Bool.or_eq_true, decide_eq_true_iff, Text.startsWith, List.isPrefixOf_iff_prefix,
    IsBelowRoot]

/-- A name that goes on behind that of the root is below the root if it goes on with a dot. -/
theorem isBelowRoot_append_cons (c : CodePoint) (rest : Text) :
    IsBelowRoot (rootName ++ c :: rest) ↔ c = .char '.' := by
  have hroot : rootName ++ c :: rest ≠ rootName := by
    intro h
    exact absurd (List.append_right_eq_self.mp h) (List.cons_ne_nil c rest)
  have hdot : rootName ++ ("." : Text) <+: rootName ++ c :: rest ↔ c = .char '.' := by
    rw [List.prefix_append_right_inj]
    show [CodePoint.char '.'] <+: c :: rest ↔ _
    rw [List.cons_prefix_cons]
    exact ⟨fun h => h.1.symm, fun h => ⟨h.symm, List.nil_prefix⟩⟩
  rw [IsBelowRoot, hdot]
  exact or_iff_right hroot

/-- Only a name that strays gives a logger that is not below the root. -/
theorem isBelowRoot_fullName_iff : IsBelowRoot (fullName name) ↔ ¬Strays name := by
  unfold fullName
  split
  · next hprefix =>
    -- the name is kept, and what follows the root in it decides
    obtain ⟨behind, rfl⟩ := List.isPrefixOf_iff_prefix.mp hprefix
    cases behind with
    | nil =>
      rw [List.append_nil]
      refine iff_of_true (.inl rfl) ?_
      rintro ⟨c, rest, hname, -⟩
      exact absurd (List.append_right_eq_self.mp hname.symm) (List.cons_ne_nil c rest)
    | cons d behind =>
      rw [isBelowRoot_append_cons]
      constructor
      · rintro rfl ⟨c, rest, hname, hc⟩
        obtain ⟨rfl, -⟩ := List.cons.inj (List.append_cancel_left hname)
        exact hc rfl
      · intro hstays
        by_cases hd : d = .char '.'
        · exact hd
        · exact absurd ⟨d, behind, rfl, hd⟩ hstays
  · next hprefix =>
    -- the root and a dot come first, and a name that strays would not have got here
    refine iff_of_true (.inr (List.prefix_append ..)) ?_
    rintro ⟨c, rest, rfl, -⟩
    exact hprefix (List.isPrefixOf_iff_prefix.mpr (List.prefix_append ..))

end Logger

namespace Level

/-- The levels of records. -/
def usual : List Level :=
  [debug, info, warning, error, critical]

end Level

/-- What is asked of a recorder. -/
inductive LogStep where
  | setUp (s : LogSetup)
  /-- Adds to the context. -/
  | enter (entries : LogContext)
  /-- Empties the context. -/
  | leave
  /-- Hands a record to the handlers. -/
  | log (clock : Moment) (time : Text) (e : LogEntry)

/-- Asks for a console handler that writes records from a level on. -/
structure LogSetup.ShowsFrom (s : LogSetup) (L : Level) : Prop where
  console : s.toConsole = true
  level : ∃ word, s.level = .text word ∧ Level.ofWord word = .ok L
  usual : L ∈ Level.usual

namespace Recorder

variable {r : Recorder} {s : LogSetup} {L : Level}

/-- Does what is asked. -/
def perform (r : Recorder) : LogStep → Recorder
  | .setUp s => (r.setUp s).2
  | .enter entries => r.enter entries
  | .leave => r.leave
  | .log clock time e => (r.log clock time e).2

/-- The recorder after some steps. -/
def after (r : Recorder) (steps : List LogStep) : Recorder :=
  steps.foldl perform r

/-- A recorder that has been set up with a console handler for records from a level on. -/
structure ShowsFrom (r : Recorder) (L : Level) : Prop where
  isSetUp : r.isSetUp = true
  console : r.toConsole = true
  level : r.level = L
  usual : L ∈ Level.usual

/-! ## Setting up -/

/-- What has been set up stays as it is. -/
theorem setUp_of_isSetUp (h : r.isSetUp = true) (s : LogSetup) : r.setUp s = (.ok (), r) := by
  rw [setUp, if_pos h]

/-- Making the file of records leaves the level and the console alone. -/
theorem yields_openFile (r : Recorder) (directory : Value) (isJson : Bool) :
    Yields (fun opened => opened.level = r.level ∧ opened.toConsole = r.toConsole)
      (r.openFile directory isJson) := by
  unfold openFile
  split
  · exact .ok ⟨rfl, rfl⟩
  · split
    · refine .bind fun files _ => ?_
      dsimp only
      -- a file that is missing is made, and any other obstacle counts
      split
      · exact .bind fun _ _ => .ok ⟨rfl, rfl⟩
      · exact .error _
      · exact .ok ⟨rfl, rfl⟩
    · exact .error _

/-- Being set up for the first time makes the console handler write records from the level on. -/
theorem showsFrom_setUp (hs : s.ShowsFrom L) (hfirst : r.isSetUp = false)
    (hdone : (r.setUp s).1 = .ok ()) : (r.setUp s).2.ShowsFrom L := by
  obtain ⟨word, hlevel, hword⟩ := hs.level
  have hset : r.setLevel s.level = .ok { r with level := L } := by
    rw [hlevel, setLevel, hword]
  rw [setUp, hfirst, if_neg Bool.false_ne_true, hset] at hdone ⊢
  dsimp only at hdone ⊢
  split at hdone
  · cases hdone
  · next opened hopened =>
    obtain ⟨hopenedLevel, hopenedConsole⟩ := yields_openFile _ _ _ opened hopened
    exact ⟨rfl, hopenedConsole.trans hs.console, hopenedLevel, hs.usual⟩

/-! ## Steps -/

/-- Writing a record changes files only. -/
theorem log_snd (r : Recorder) (clock : Moment) (time : Text) (e : LogEntry) :
    ∃ files, (r.log clock time e).2 = { r with files } := by
  unfold log
  split
  · exact ⟨r.files, rfl⟩
  · dsimp only
    split
    · exact ⟨r.files, rfl⟩
    · split
      · exact ⟨_, rfl⟩
      · exact ⟨r.files, rfl⟩

/-- No step takes the console handler away or changes its level. -/
theorem ShowsFrom.perform (h : r.ShowsFrom L) (step : LogStep) : (r.perform step).ShowsFrom L := by
  cases step with
  | setUp s =>
    -- the first setting up was the last one that counts
    show (r.setUp s).2.ShowsFrom L
    rw [setUp_of_isSetUp h.isSetUp]
    exact h
  | enter entries => exact ⟨h.isSetUp, h.console, h.level, h.usual⟩
  | leave => exact ⟨h.isSetUp, h.console, h.level, h.usual⟩
  | log clock time e =>
    obtain ⟨files, hfiles⟩ := r.log_snd clock time e
    show (r.log clock time e).2.ShowsFrom L
    rw [hfiles]
    exact ⟨h.isSetUp, h.console, h.level, h.usual⟩

/-- However the recorder is used later, its console handler writes what it has written before. -/
theorem ShowsFrom.after (h : r.ShowsFrom L) (steps : List LogStep) :
    (r.after steps).ShowsFrom L := by
  induction steps generalizing r with
  | nil => exact h
  | cons step steps ih => exact ih (h.perform step)

/-! ## The console -/

/-- The line that the console handler writes of a record, with the present context. -/
def consoleLine (r : Recorder) (clock : Moment) (e : LogEntry) : Text :=
  { e with context := r.context }.coloured clock ++ [.char '\n']

/-- The console handler writes a record once or not at all. -/
theorem log_fst (r : Recorder) (clock : Moment) (time : Text) (e : LogEntry) :
    (r.log clock time e).1 =
      if r.isWritten e.logger e.level = true ∧ r.toConsole = true then r.consoleLine clock e
      else [] := by
  unfold log
  cases hwritten : r.isWritten e.logger e.level with
  | false => simp
  | true =>
    simp only [Bool.not_true, Bool.false_eq_true, if_false, true_and]
    split
    · rfl
    · split <;> rfl

/-- The usual levels are not too low for the handlers, and none of them leaves the choice to the
system. -/
theorem rank_pos_of_usual (h : L ∈ Level.usual) : Level.debug.rank ≤ L.rank ∧ L.rank ≠ 0 := by
  have hall : ∀ l ∈ Level.usual, Level.debug.rank ≤ l.rank ∧ l.rank ≠ 0 := by decide
  exact hall L h

/-- Below the root a record is dropped if it is less grave than the level, and else the console
handler writes it. Nothing is left to the last resort. -/
theorem ShowsFrom.log_of_isBelowRoot (h : r.ShowsFrom L) {e : LogEntry}
    (he : Logger.IsBelowRoot e.logger) (clock : Moment) (time : Text) :
    (r.isEnabled e.logger e.level = true ↔ L.rank ≤ e.level.rank) ∧
      (r.log clock time e).1 = (if L.rank ≤ e.level.rank then r.consoleLine clock e else []) ∧
      r.lastResort e = [] := by
  have hbelow := Logger.isBelowRoot_iff.mpr he
  obtain ⟨hleast, hset⟩ := rank_pos_of_usual h.usual
  have henabled : r.isEnabled e.logger e.level = true ↔ L.rank ≤ e.level.rank := by
    simp [isEnabled, threshold, hbelow, h.level, hset]
  have hwritten : r.isWritten e.logger e.level = true ↔ L.rank ≤ e.level.rank := by
    rw [isWritten, Bool.and_eq_true, Bool.and_eq_true, henabled, decide_eq_true_iff, leastWritten]
    exact ⟨fun hall => hall.1.1, fun hgrave => ⟨⟨hgrave, hbelow⟩, by omega⟩⟩
  have hhandler : r.hasHandler e.logger = true := by
    simp [hasHandler, hbelow, h.console]
  refine ⟨henabled, ?_, lastResort_eq_nil hhandler⟩
  rw [log_fst]
  simp only [hwritten, h.console, and_true]

/-- Beside the root the level does not count and the console handler writes nothing. Warnings and
what is graver are left to the last resort. -/
theorem log_of_not_isBelowRoot (r : Recorder) {e : LogEntry} (he : ¬Logger.IsBelowRoot e.logger)
    (clock : Moment) (time : Text) :
    (r.isEnabled e.logger e.level = true ↔ Level.warning.rank ≤ e.level.rank) ∧
      (r.log clock time e).1 = [] ∧
      r.lastResort e =
        (if Level.warning.rank ≤ e.level.rank then e.bare ++ [.char '\n'] else []) := by
  have hbeside : Logger.isBelowRoot e.logger = false :=
    Bool.eq_false_iff.mpr fun h => he (Logger.isBelowRoot_iff.mp h)
  have henabled : r.isEnabled e.logger e.level = decide (Level.warning.rank ≤ e.level.rank) := by
    simp [isEnabled, threshold, hbeside]
  have hhandler : r.hasHandler e.logger = false := by
    simp [hasHandler, hbeside]
  refine ⟨by rw [henabled, decide_eq_true_iff], ?_, ?_⟩
  · rw [log_fst, isWritten, hbeside]
    simp
  · simp [lastResort, henabled, hhandler]

end Recorder

end MailFilter
