import Tapeline.Text.Basic

/-!
# Help

What the help of each command says: how it is used, what it does, and its options.
-/

namespace Tapeline

namespace CommandLine

/-- What help is asked about. -/
inductive Topic where
  | program
  | evaluate
  | format
  | parse
  | config
  | showSettings
deriving DecidableEq, Repr

namespace Topic

/-- How a command is called. -/
def usage : Topic → String
  | program => "onsitecalc [OPTIONS] COMMAND [ARGS]..."
  | evaluate => "onsitecalc eval [OPTIONS] EXPRESSION"
  | format => "onsitecalc format [OPTIONS] INCHES"
  | parse => "onsitecalc parse [OPTIONS] TOKEN"
  | config => "onsitecalc config [OPTIONS] COMMAND [ARGS]..."
  | showSettings => "onsitecalc config show [OPTIONS]"

/-- What a command does. -/
def purpose : Topic → String
  | program => "Feet, inches and fractions calculator"
  | evaluate => "Evaluate a measurement or arithmetic expression."
  | format => "Render decimal inches as feet-inches-fraction and total inches."
  | parse => "Print the number of inches a single measurement stands for."
  | config => "Inspect limits, logging and interpreter settings."
  | showSettings => "Print the resolved settings as JSON."

/-- The options of a command. -/
def options : Topic → List String
  | program => ["--version            Show onsitecalc version and exit"]
  | evaluate =>
    ["--json               Print the full result as JSON",
     "--log-file PATH      Append JSONL evaluation events to this file"]
  | format => ["--json               Print both renderings as JSON"]
  | parse => []
  | config => []
  | showSettings =>
    ["--config-file FILE   Alternative TOML/YAML configuration to use",
     "--refresh            Ignore the cache and rebuild settings"]

/-- The commands below a command. -/
def commands : Topic → List String
  | program => ["eval", "format", "parse", "config"]
  | config => ["show"]
  | _ => []

/-- A headed list, each item on a line of its own; nothing if there are no items. -/
def listed (heading : String) (items : List String) : List String :=
  if items.isEmpty then [] else "" :: heading :: items.map ("  " ++ ·)

/-- The help of a command. -/
def text (t : Topic) : Text :=
  let lines :=
    ["Usage: " ++ t.usage, "", "  " ++ t.purpose] ++
      listed "Options:" (t.options ++ ["--help               Show this message and exit"]) ++
      listed "Commands:" t.commands
  lines.flatMap fun line => line.toList ++ ['\n']

end Topic

end CommandLine

end Tapeline
