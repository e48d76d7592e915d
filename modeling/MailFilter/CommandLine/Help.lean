import MailFilter.Text.Basic

/-!
# Help

- `Help.text`: what the program answers when it is asked for help.
-/

namespace MailFilter

namespace Help

/-- How the program is used. -/
def usage : List String :=
  ["usage: sieve-vars [-h] [--script FILE | --expand TEXT | --check FILE]",
    "                  [--message FILE] [--account ACCOUNT] [--var NAME=VALUE]",
    "                  [--modifier NAME] [--config PATH] [--debug]"]

/-- What the program is for. -/
def purpose : List String :=
  ["Sieve Variables Engine - variable binding and $\x7b...\x7d expansion for mail filters"]

/-- The switches, one on a line. -/
def switches : List String :=
  ["options:",
    "  -h, --help         show this help message and exit",
    "  --script FILE      Filter script (YAML) to run against --message",
    "  --expand TEXT      Expand a template against --var bindings",
    "  --check FILE       Load and validate a filter script",
    "  --message FILE     Message file (RFC 5322) for --script",
    "  --account ACCOUNT  Account the message is delivered to",
    "  --var NAME=VALUE   Variable binding for --expand (repeatable)",
    "  --modifier NAME    Modifier applied to each --var value (repeatable)",
    "  --config PATH      Path to configuration file",
    "  --debug            Enable debug logging"]

/-- Command lines that do something. -/
def examples : List String :=
  ["Examples:",
    "  python main.py --script rules.yaml --message mail.eml",
    "  python main.py --script rules.yaml --message mail.eml --account user@example.com",
    "  python main.py --expand '$\x7ba.b\x7d $\x7bCOMPANY\x7d' --var a.b=Hi --var company=ACME",
    "  python main.py --expand '$\x7bname\x7d' --var name=joe --modifier upperfirst",
    "  python main.py --check rules.yaml",
    "        "]

/-- What the program answers when it is asked for help. -/
def text : Text :=
  let lines := usage ++ [""] ++ purpose ++ [""] ++ switches ++ [""] ++ examples
  lines.flatMap fun line => Text.ofString line ++ [.char '\n']

end Help

end MailFilter
