import CoinQuery.Inspection
import CoinQuery.Results.Pages
import CoinQuery.Text.Quoted

/-!
# Reports

What is printed about a relation and about a page of results, as lines of text. Colours are escape
sequences around a text; without colours the text stands alone.
-/

namespace CoinQuery.CommandLine

/-! ## Colours -/

inductive Style
  | bold
  | dim
  | red
  | green
  | yellow
  | blue
  | cyan
  | gray

def Style.code : Style → String
  | bold => "1"
  | dim => "2"
  | red => "31"
  | green => "32"
  | yellow => "33"
  | blue => "34"
  | cyan => "36"
  | gray => "90"

/-- Puts a style on a text where colours are used. -/
def paint (color : Bool) (style : Style) (s : String) : String :=
  if color then "\x1b[" ++ style.code ++ "m" ++ s ++ "\x1b[0m" else s

/-- Lines, each with its end. -/
def unlines (lines : List String) : String := String.join (lines.map (· ++ "\n"))

/-! ## Relations -/

def lexemeLine (color : Bool) (index : Nat) (l : Lexeme) : String :=
  let kind := match l.token with
    | .ref _ => paint color .green "coin"
    | .op o => paint color .blue o.cssClass
  " ".intercalate [
    "  " ++ paint color .gray ("[" ++ toString index ++ "]"),
    paint color .bold l.token.spelling,
    paint color .dim "│",
    kind,
    paint color .yellow ("span " ++ toString l.start ++ ".." ++ toString l.stop)]

def nodeText (color : Bool) (n : VisualNode) : String :=
  let style := match n.token with
    | .ref _ => if n.isStale then Style.red else .green
    | .op _ => .blue
  paint color style n.text

def relationReport (color : Bool) (i : Inspection) : String :=
  let title := "⚙  Relation: \"" ++ i.input ++ "\""
  let noTokens := [
    paint color .dim "  No tokens recognised",
    "",
    paint color .yellow "Recognised tokens:",
    "  • C<n> coin labels (uppercase C, 1-based)",
    "  • AND, OR, NOT (uppercase only)",
    "  • ( and )"]
  unlines <|
    ["", paint color .bold (paint color .cyan title),
      paint color .dim ("   against " ++ toString i.coinCount ++ " queried coin(s)"),
      "", paint color .gray "━━━ Tokens ━━━"]
    ++ (if i.lexemes.isEmpty then noTokens else [])
    ++ i.lexemes.mapIdx (lexemeLine color)
    ++ ["", paint color .gray "━━━ Canonical ━━━",
      "  " ++ paint color .bold (Text.quote i.canonical),
      "", paint color .gray "━━━ Visual ━━━",
      "  " ++ " ".intercalate (i.visual.map (nodeText color))]
    ++ i.visual.map (fun n => "    " ++ paint color .dim n.markup)
    ++ ["", paint color .gray "━━━ Issues ━━━"]
    ++ (if i.issues.isEmpty then ["  " ++ paint color .green "✓ well-formed"] else [])
    ++ i.issues.map (fun issue => "  " ++ paint color .red "✗" ++ " " ++ issue.message)
    ++ [""]

/-! ## Results -/

/-- One line about a record: its id, and what is known of its weight, diameter, place, date and
obverse. -/
def recordLine (color : Bool) (r : Record) : String :=
  let dim := paint color .dim
  let measure (x : Binary64) : String := FieldValue.numberLayout.text x
  (" " ++ dim "│" ++ " ").intercalate <|
    [paint color .green (r.id?.getD "?")]
    ++ (r.weight?.map fun x => dim (measure x ++ " g")).toList
    ++ (r.maxDiameter?.map fun x => dim ("⌀ " ++ measure x ++ " mm")).toList
    ++ ((r.location? <|> r.region?).map (paint color .blue)).toList
    ++ (r.date?.map dim).toList
    ++ ((r.description? .obverse).map fun s => dim ("obv: " ++ s)).toList

def groupLines (color : Bool) (g : ResultGroup) : List String :=
  ("  " ++ paint color .bold (paint color .yellow g.key) ++ " "
    ++ paint color .dim ("(" ++ toString g.records.length ++ ")"))
  :: g.records.map fun r => "    " ++ recordLine color r

def resultsReport (color : Bool) (s : ResultSet) (field : String) : String :=
  let sorted := match s.sortSpec with
    | some spec => "sorted by " ++ spec.field ++ " (" ++ spec.direction.name ++ ")"
    | none => "unsorted"
  let title := "⚙  Results: " ++ toString s.records.length ++ " record(s)"
  let groups := s.groups field
  let link (enabled : Bool) (label : String) : String :=
    paint color (if enabled then .blue else .dim) label
  unlines <|
    ["", paint color .bold (paint color .cyan title) ++ " "
        ++ paint color .dim ("│ " ++ sorted ++ " │ grouped by " ++ field),
      "", paint color .gray ("━━━ " ++ s.pageLabel ++ " ━━━")]
    ++ (if groups.isEmpty then [paint color .dim "  No results on this page"] else [])
    ++ groups.flatMap (groupLines color)
    ++ ["", "  " ++ link s.hasPrevious "◀ previous" ++ "  " ++ link s.hasNext "next ▶", ""]

end CoinQuery.CommandLine
