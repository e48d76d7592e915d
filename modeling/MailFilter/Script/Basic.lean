import MailFilter.Variable.SetCommand

/-!
# Scripts

A script is a list of commands. A command binds a variable, records an action, or chooses a block of
commands by tests. Every text in a script but the names of `set` commands may refer to variables.

- `Test`, `Command`, `Script`: the trees.
- `AddressPart`, `Keys`, `Action`: what tests and commands are made of.
-/

namespace MailFilter

/-- The part of an address that a test looks at. -/
inductive AddressPart where
  | all
  | localPart
  | domain
  deriving DecidableEq, Repr

namespace AddressPart

/-- The keyword of a part. -/
def keyword : AddressPart → Text
  | .all => "all"
  | .localPart => "localpart"
  | .domain => "domain"

/-- Reads a keyword in small letters. -/
def ofKeyword? (t : Text) : Option AddressPart :=
  [all, localPart, domain].find? fun p => p.keyword = t

end AddressPart

/-- The keys of a test, and how values are compared with them. -/
structure Keys where
  keys : List Text
  matchType : MatchType
  comparator : Comparator
  deriving DecidableEq

/-- A condition on the message and the variables. -/
inductive Test where
  | constant (b : Bool)
  | allOf (tests : List Test)
  | anyOf (tests : List Test)
  | negation (test : Test)
  /-- All header fields of these names are present. -/
  | present (names : List Text)
  | header (keys : Keys) (names : List Text)
  | address (keys : Keys) (part : AddressPart) (names : List Text)
  | string (keys : Keys) (sources : List Text)
  deriving Inhabited

/-- What a command records in the outcome of a delivery. -/
inductive Action where
  | tag (name : Text)
  | fileInto (folder : Text)
  | log (line : Text)
  | keep
  | discard
  | stop
  deriving DecidableEq, Inhabited

namespace Action

/-- The keyword of an action. -/
def keyword : Action → Text
  | .tag _ => "tag"
  | .fileInto _ => "fileinto"
  | .log _ => "log"
  | .keep => "keep"
  | .discard => "discard"
  | .stop => "stop"

/-- The argument of an action, empty for an action that takes none. -/
def argument : Action → Text
  | .tag t | .fileInto t | .log t => t
  | .keep | .discard | .stop => []

end Action

/-- A step of a script. -/
inductive Command where
  | set (c : SetCommand)
  | action (a : Action)
  /-- The block of the first branch whose test holds, or the last block if none does. -/
  | choice (branches : List (Test × List Command)) (otherwise : List Command)
  deriving Inhabited

/-- A named list of commands. -/
structure Script where
  name : Text
  /-- The declared extensions. They are not looked at. -/
  require : List Text
  commands : List Command
  deriving Inhabited

end MailFilter
