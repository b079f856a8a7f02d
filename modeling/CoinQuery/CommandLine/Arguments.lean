import CoinQuery.Inspection
import CoinQuery.Results.Order

/-!
# Command-line arguments

Arguments are read from left to right. The first one that is no option begins the relation, and so
does everything behind `--`; the words of a relation are joined by spaces. A request for help or for
the version, and a mistake, end the reading where they stand.
-/

namespace CoinQuery.CommandLine

def version : String := "0.1.0"

/-- The field by which results are grouped unless another is named. -/
def defaultGroup : String := "category"

def help : String :=
"icosearch " ++ version ++ "

Inspect coin relation expressions and page through search results.

Usage:
  icosearch [OPTIONS] [--] <relation...>
  icosearch [OPTIONS] --results <file.json>

Options:
  -c, --coins <n>            Number of queried coins the relation refers to (at most "
    ++ toString mostInspectedCoins ++ ").
                             Default: the highest label in the relation, capped.
  -r, --results <file>       JSON search results (record array or searchCoin response).
  --sort <field[:dir]>       Sort results by field; dir is asc or desc.
  --group <field>            Group each page by field. Default: " ++ defaultGroup ++ "
  --page <n>                 Show page n (1-based).
  --page-size <n>            Records per page. Overrides the config file.
  --config <file>            Engine configuration (JSON).
  --color                    Force ANSI color output.
  --no-color                 Disable ANSI color output.
  -v, --verbose              More log output on stderr (repeatable). RUST_LOG wins.
  -h, --help                 Show this help message.
  -V, --version              Print version information.

Exit codes:
  0  Success.
  1  Runtime error (unreadable file, bad config, page out of range).
  2  Invalid arguments or missing input.
"

structure Options where
  relation : Option String
  coins : Option Nat
  resultsPath : Option String
  configPath : Option String
  sort : Option SortSpec
  group : String
  page : Option Nat
  pageSize : Option Nat
  color : Bool
deriving DecidableEq

/-- What the arguments ask for. -/
inductive Invocation
  | help
  | version
  | mistake (message : String)
  | run (options : Options)
deriving DecidableEq

namespace Options

/-- Without any argument; colours are used on a terminal. -/
def initial (terminal : Bool) : Options where
  relation := none
  coins := none
  resultsPath := none
  configPath := none
  sort := none
  group := defaultGroup
  page := none
  pageSize := none
  color := terminal

/-- Without a relation and without results, the relation is read from the input. -/
def needsInput (o : Options) : Bool := o.relation.isNone && o.resultsPath.isNone

/-- Takes the relation from the input where it is needed. -/
def withInput (o : Options) (input : String) : Except String Options :=
  if o.needsInput then
    if Text.trim input = "" then .error ("error: no input provided\n\n" ++ help)
    else .ok { o with relation := some (Text.trimEnd input) }
  else .ok o

end Options

/-! ## The values of options -/

def number (flag value : String) : Except String Nat :=
  match Text.wordOfOption? value with
  | some n => .ok n
  | none => .error ("error: " ++ flag ++ " expects a number, got '" ++ value ++ "'")

def coinCount (value : String) : Except String Nat := do
  let n ← number "--coins" value
  if mostInspectedCoins < n then
    .error ("error: --coins must be at most " ++ toString mostInspectedCoins ++ ", got "
      ++ toString n)
  else .ok n

/-- A field, or a field and a direction behind the first colon. -/
def sortSpec (value : String) : Except String SortSpec := do
  let field := String.ofList (value.toList.takeWhile (· ≠ ':'))
  let direction ← match value.toList.dropWhile (· ≠ ':') with
    | [] => .ok .ascending
    | _ :: name =>
      (SortDirection.named (String.ofList name)).mapError fun e => "error: " ++ e.message
  if field = "" then .error "error: --sort expects a field name" else .ok ⟨field, direction⟩

/-! ## Reading the arguments -/

namespace Invocation

/-- Goes on with options that take in a value, unless the value is a mistake. -/
def withValue (value : Except String α) (next : α → Invocation) : Invocation :=
  match value with
  | .ok value => next value
  | .error message => .mistake message

/-- Reads what is left of the arguments. -/
def parseFrom (o : Options) : List String → Invocation
  | [] => .run o
  | "-h" :: _ | "--help" :: _ => .help
  | "-V" :: _ | "--version" :: _ => .version
  | "--color" :: rest => parseFrom { o with color := true } rest
  | "--no-color" :: rest => parseFrom { o with color := false } rest
  | "-v" :: rest | "--verbose" :: rest => parseFrom o rest
  | "-c" :: value :: rest | "--coins" :: value :: rest =>
    withValue (coinCount value) fun n => parseFrom { o with coins := some n } rest
  | "-r" :: value :: rest | "--results" :: value :: rest =>
    parseFrom { o with resultsPath := some value } rest
  | "--config" :: value :: rest => parseFrom { o with configPath := some value } rest
  | "--sort" :: value :: rest =>
    withValue (sortSpec value) fun spec => parseFrom { o with sort := some spec } rest
  | "--group" :: value :: rest => parseFrom { o with group := value } rest
  | "--page" :: value :: rest =>
    withValue (number "--page" value) fun n => parseFrom { o with page := some n } rest
  | "--page-size" :: value :: rest =>
    withValue (number "--page-size" value) fun n => parseFrom { o with pageSize := some n } rest
  | ["-c"] => missing "--coins"
  | ["-r"] => missing "--results"
  | "--" :: rest =>
    let relation := " ".intercalate rest
    .run (if Text.trim relation = "" then o else { o with relation := some relation })
  | arg :: rest =>
    if valued.contains arg then missing arg
    else if arg.startsWith "-" then .mistake ("error: unknown option '" ++ arg ++ "'")
    else .run { o with relation := some (" ".intercalate (arg :: rest)) }
where
  missing (flag : String) : Invocation := .mistake ("error: " ++ flag ++ " expects a value")
  valued : List String := ["--coins", "--results", "--config", "--sort", "--group", "--page",
    "--page-size"]

def parse (terminal : Bool) (arguments : List String) : Invocation :=
  parseFrom (.initial terminal) arguments

end Invocation

end CoinQuery.CommandLine
