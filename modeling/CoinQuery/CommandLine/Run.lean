import CoinQuery.CommandLine.Arguments
import CoinQuery.CommandLine.Report
import CoinQuery.Engine.State

/-!
# Running a command

A command prints a report on a relation, a report on a page of results, or both. What it prints and
the code it ends with follow from the arguments, the input and the files it reads; nothing here
reads or prints. A report printed before a failure stays printed.
-/

namespace CoinQuery.CommandLine

/-- The contents of a file, or why it could not be read. -/
abbrev Files := String → Except String String

/-- What a command leaves behind. -/
structure Outcome where
  code : Nat
  output : String
  errors : String
deriving DecidableEq

namespace Outcome

def printed (output : String) : Outcome := ⟨0, output, ""⟩

def misused (message : String) : Outcome := ⟨2, "", message ++ "\n"⟩

end Outcome

/-- The greatest label number in a text. -/
def highestLabel (text : String) : Nat :=
  (lexemes text).foldl (fun highest l =>
    match l.token with
    | .ref (.label n) => max highest n
    | _ => highest) 0

/-- The coins of an inspection unless their number is given. -/
def defaultCoinCount (text : String) : Nat := min (highestLabel text) mostInspectedCoins

/-- Search results as a file holds them: a bare array of records, or an answer in its envelope. -/
def parseResults (text : String) : Except String SearchResponse :=
  if (Text.trimStart text).startsWith "[" then
    match Json.readRecords text with
    | .ok records => .ok (.ok (records.map Record.mk))
    | .error fault => .error ("invalid results: " ++ fault.describe text)
  else
    (SearchResponse.ofText text).mapError fun e => "invalid results: " ++ e.message

def startEngine (o : Options) (files : Files) : Except String Engine := do
  let config ← match o.configPath with
    | none => .ok Config.default
    | some path =>
      match files path with
      | .error _ => .error (QueryError.unreadableConfig path).message
      | .ok text => (Config.load text).mapError QueryError.message
  (Engine.new { config with pageSize := o.pageSize.getD config.pageSize }).mapError
    QueryError.message

/-- The report on the relation, which is empty without a relation. -/
def inspectRelation (o : Options) : Except String String :=
  match o.relation with
  | none => .ok ""
  | some text => do
    let inspection ← (inspect text (o.coins.getD (defaultCoinCount text))).mapError
      QueryError.message
    .ok (relationReport o.color inspection)

def loadResults (path : String) (files : Files) (e : Engine) : Except String ResultSet := do
  let text ← (files path).mapError fun reason => "failed to read " ++ path ++ ": " ++ reason
  match e.applySearch (← parseResults text) with
  | (true, e) => .ok e.results
  | (false, _) => .error (path ++ " does not contain a successful search response")

/-- The report on the results, which is empty without results. -/
def showResults (o : Options) (files : Files) (e : Engine) : Except String String :=
  match o.resultsPath with
  | none => .ok ""
  | some path => do
    let results ← loadResults path files e
    let results := match o.sort with
      | some spec => results.sort spec
      | none => results
    let results ← match o.page with
      | none => .ok results
      | some page =>
        match results.setPage page with
        | (true, results) => .ok results
        | (false, _) => .error ("page " ++ toString page ++ " is out of range (1..="
            ++ toString results.totalPages ++ ")")
    .ok (resultsReport o.color results o.group)

/-- Puts the steps of a command together: the first failure ends it, and what was printed before it
stays. -/
def perform (o : Options) (files : Files) : Outcome :=
  let failed (output message : String) : Outcome := ⟨1, output, "error: " ++ message ++ "\n"⟩
  match startEngine o files with
  | .error message => failed "" message
  | .ok e =>
    match inspectRelation o with
    | .error message => failed "" message
    | .ok output =>
      match showResults o files e with
      | .error message => failed output message
      | .ok report => .printed (output ++ report)

def run (invocation : Invocation) (input : String) (files : Files) : Outcome :=
  match invocation with
  | .help => .printed (help ++ "\n")
  | .version => .printed ("icosearch " ++ version ++ "\n")
  | .mistake message => .misused message
  | .run o =>
    match o.withInput input with
    | .ok o => perform o files
    | .error message => .misused message

end CoinQuery.CommandLine
