import MailFilter.Text.DigitTable

/-!
# Options

The words of a command line are options, each with a value of its own or without one. The name of an
option may be cut short as long as it stays clear which one is meant. A value follows its option as
the next word, or in the same word behind an equals sign. Words that belong to no option are refused.

- `Options`: what the command line says.
- `CommandWord.ofText`: what a word is.
- `Options.ofWords`: reads the words.
-/

namespace MailFilter

/-- What can be said on the command line. -/
inductive Switch where
  | help
  | script
  | expand
  | check
  | message
  | account
  | binding
  | modifier
  | config
  | debug
  deriving DecidableEq, Repr

namespace Switch

/-- The names of switches, in the order in which they are listed. -/
def names : List (Text × Switch) :=
  [("-h", help), ("--help", help), ("--script", script), ("--expand", expand), ("--check", check),
    ("--message", message), ("--account", account), ("--var", binding), ("--modifier", modifier),
    ("--config", config), ("--debug", debug)]

/-- The switch of a full name. -/
def ofName? (name : Text) : Option Switch :=
  (names.find? fun (known, _) => known = name).map Prod.snd

/-- The switches whose name begins with a text, once for each such name. -/
def begunBy (start : Text) : List Switch :=
  (names.filter fun (known, _) => known.startsWith start).map Prod.snd

/-- Whether a switch has a value. -/
def hasValue : Switch → Bool
  | .help | .debug => false
  | _ => true

end Switch

/-- What the command line says. -/
structure Options where
  script : Option Text := none
  expand : Option Text := none
  check : Option Text := none
  message : Option Text := none
  account : Option Text := none
  bindings : List Text := []
  modifiers : List Text := []
  config : Option Text := none
  debug : Bool := false
  deriving DecidableEq, Inhabited

/-- Why a command line is not followed. -/
inductive Refusal where
  /-- Help is asked for. -/
  | help
  /-- The words make no sense. -/
  | misuse
  deriving DecidableEq, Repr

/-- What a word is. -/
inductive CommandWord where
  /-- A switch, with the value behind an equals sign. -/
  | switch (s : Switch) (value : Option Text)
  /-- The switch of one letter, with others behind it or behind an equals sign. -/
  | cluster (rest : Text)
  /-- It looks like a switch, and is none. -/
  | unknown
  | value (t : Text)
  /-- From here on all words are values. -/
  | separator

namespace CommandWord

/-- Whether a text is not empty and holds only digits, of any script. -/
def isDigits (t : Text) : Bool :=
  !t.isEmpty && t.all fun c => c.decimal?.isSome

/-- Whether a word is a negative number. A line feed may follow it. -/
def isNegative : Text → Bool
  | .char '-' :: rest =>
    let rest := if rest.getLast? = some (.char '\n') then rest.dropLast else rest
    match Text.cut? "." rest with
    | none => isDigits rest
    | some (whole, fraction) => (whole.isEmpty || isDigits whole) && isDigits fraction
  | _ => false

/-- What a word is that is no switch by its full name. -/
def ofOther (t : Text) : CommandWord :=
  if isNegative t || t.contains (.char ' ') then .value t else .unknown

/-- What a word is that begins with a minus sign and goes on. -/
def ofSigned (t : Text) : Except Refusal CommandWord :=
  let (name, given) : Text × Option Text :=
    match Text.cut? "=" t with
    | some (name, given) => (name, some given)
    | none => (t, none)
  match Switch.ofName? name with
  | some s =>
    match given with
    | some letters => .ok (if name.startsWith "--" then .switch s given else .cluster letters)
    | none => .ok (.switch s none)
  | none =>
    if t.startsWith "--" then
      match Switch.begunBy name with
      | [] => .ok (ofOther t)
      | [s] => .ok (.switch s given)
      | _ => .error .misuse
    else
      match Text.dropPrefix? "-h" t with
      | some rest => .ok (.cluster rest)
      | none => .ok (ofOther t)

/-- What a word is. -/
def ofText (t : Text) : Except Refusal CommandWord :=
  match t with
  | .char '-' :: _ :: _ => ofSigned t
  | _ => .ok (.value t)

/-- What the words of a command line are. -/
def ofTexts : List Text → Except Refusal (List CommandWord)
  | [] => .ok []
  | t :: rest =>
    if t = ("--" : Text) then .ok (.separator :: rest.map .value)
    else do
      let word ← ofText t
      return word :: (← ofTexts rest)

/-- Whether letters behind the switch of one letter are switches themselves: each must ask for help
again. -/
def clusterHelps (t : Text) : Bool :=
  !t.isEmpty && t.all (· = .char 'h')

end CommandWord

namespace Options

/-- Gives a switch its value. Of the three things to do only one can be asked for. -/
def assign (o : Options) (s : Switch) (v : Text) : Except Refusal Options :=
  match s with
  | .script =>
    if o.expand.isSome || o.check.isSome then .error .misuse else .ok { o with script := some v }
  | .expand =>
    if o.script.isSome || o.check.isSome then .error .misuse else .ok { o with expand := some v }
  | .check =>
    if o.script.isSome || o.expand.isSome then .error .misuse else .ok { o with check := some v }
  | .message => .ok { o with message := some v }
  | .account => .ok { o with account := some v }
  | .binding => .ok { o with bindings := o.bindings ++ [v] }
  | .modifier => .ok { o with modifiers := o.modifiers ++ [v] }
  | .config => .ok { o with config := some v }
  | .help => .error .help
  | .debug => .ok { o with debug := true }

/-- Follows words. `stray` says whether a word belonged to no switch: this is refused at the end, so
that help can still be asked for. -/
def follow (o : Options) (stray : Bool) : List CommandWord → Except Refusal Options
  | [] => if stray then .error .misuse else .ok o
  | .switch s (some v) :: rest =>
    if s.hasValue then do follow (← o.assign s v) stray rest else .error .misuse
  | .switch s none :: .value v :: rest =>
    if s.hasValue then do follow (← o.assign s v) stray rest
    else do follow (← o.assign s []) true rest
  | .switch s none :: rest =>
    if s.hasValue then .error .misuse else do follow (← o.assign s []) stray rest
  | .cluster t :: _ => .error (if CommandWord.clusterHelps t then .help else .misuse)
  | .unknown :: rest | .value _ :: rest | .separator :: rest => follow o true rest

/-- Reads the words of a command line. -/
def ofWords (words : List Text) : Except Refusal Options := do
  follow {} false (← CommandWord.ofTexts words)

/-- Help is shown even if other words make no sense, unless they come first. -/
theorem ofWords_help (rest : List Text) (h : ∃ words, CommandWord.ofTexts rest = .ok words) :
    ofWords ("--help" :: rest) = .error .help := by
  obtain ⟨words, hw⟩ := h
  have first : CommandWord.ofTexts ("--help" :: rest) = .ok (.switch .help none :: words) := by
    have one : CommandWord.ofText "--help" = .ok (.switch .help none) := by rfl
    have apart : ¬(("--help" : Text) = ("--" : Text)) := by decide
    simp [CommandWord.ofTexts, apart, one, hw, bind, Except.bind, pure, Except.pure]
  cases words with
  | nil => simp [ofWords, first, bind, Except.bind, follow, Switch.hasValue, assign]
  | cons w more =>
    cases w <;> simp [ofWords, first, bind, Except.bind, follow, Switch.hasValue, assign]

end Options

end MailFilter
