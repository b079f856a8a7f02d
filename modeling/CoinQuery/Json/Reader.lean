import CoinQuery.Json.Lexeme
import CoinQuery.Json.Writer
import CoinQuery.Text.Quoted

/-!
# Reading JSON

A tree is built from the lexemes of a text in one pass, with the containers still open on a stack.
Two readers share the pass. `Json.read?` keeps flaws as unreadable parts, so that a reader of the
tree may still pass them over, and says no more about a bad text than that it is bad.
`Json.readRecords` wants an array of free-form objects, takes every flaw for a fault, and reports
the first fault with its place.
-/

namespace CoinQuery.Json

/-- How many containers may stand inside each other. -/
def nestingLimit : Nat := 127

/-- A container that is still open, its contents in reverse. -/
inductive Frame
  | array (items : List Json)
  /-- `key` is that of the member whose value comes next. An object with a flawed key stands for no
  value. -/
  | object (members : List (String × Json)) (readable : Bool) (key : String)

inductive Want
  | value
  /-- An item of an array; the first may be missing. -/
  | item (first : Bool)
  /-- A key of an object; the first may be missing. -/
  | key (first : Bool)
  | colon
  /-- A comma, or the end of the innermost container. -/
  | separator
  /-- The end of the text. -/
  | nothing (tree : Json)

structure Reader where
  /-- Whether an array of records is read. -/
  records : Bool
  frames : List Frame
  depth : Nat
  want : Want

namespace Reader

def start (records : Bool) : Reader := ⟨records, [], 0, .value⟩

/-- Puts a finished tree where it belongs. -/
def deliver (r : Reader) (tree : Json) : Reader :=
  match r.frames with
  | [] => { r with want := .nothing tree }
  | .array items :: outer =>
    { r with frames := .array (tree :: items) :: outer, want := .separator }
  | .object members readable key :: outer =>
    { r with frames := .object ((key, tree) :: members) readable key :: outer, want := .separator }

def enter (r : Reader) (frame : Frame) (want : Want) : Reader :=
  { r with frames := frame :: r.frames, depth := r.depth + 1, want := want }

/-- Ends the innermost container. Past the nesting limit it stands for no value. -/
def leave (r : Reader) : Reader :=
  match r.frames with
  | [] => r
  | frame :: outer =>
    let tree := match frame with
      | .array items => array items.reverse
      | .object members readable _ => if readable then object members.reverse else unreadable
    let tree := if nestingLimit < r.depth then unreadable else tree
    { r with frames := outer, depth := r.depth - 1 }.deliver tree

/-- What a tree is called where a record was expected. -/
def nameOf : Json → String
  | null => "null"
  | bool b => "boolean `" ++ toString b ++ "`"
  | number (.integer i) => "integer `" ++ toString i ++ "`"
  | number (.real x) => "floating point `" ++ (JsonNumber.real x).text ++ "`"
  | string s => "string " ++ Text.quote s
  | array _ => "sequence"
  | object _ => "map"
  | unreadable => "null"

/-- Whether the next value must be a record. -/
def wantsRecord (r : Reader) : Bool := r.records && r.depth == 1

/-- A scalar that ends at `stop`. -/
def stepScalar (r : Reader) (value : Except Fault Json) (stop : Nat) : Except Fault Reader :=
  match value with
  | .ok tree =>
    if r.wantsRecord then .error ⟨.notARecord (nameOf tree), stop⟩ else .ok (r.deliver tree)
  | .error fault => if r.records then .error fault else .ok (r.deliver unreadable)

/-- A container that begins where `lexeme` stands. -/
def stepOpen (r : Reader) (lexeme : Lexeme) (frame : Frame) (want : Want) : Except Fault Reader :=
  if r.records && nestingLimit ≤ r.depth then .error ⟨.nestedTooDeep, lexeme.start + 1⟩
  else .ok (r.enter frame want)

def stepValue (r : Reader) (lexeme : Lexeme) : Except Fault Reader :=
  match lexeme.glyph with
  | .openArray =>
    if r.wantsRecord then .error ⟨.notARecord (nameOf (array [])), lexeme.start⟩
    else r.stepOpen lexeme (.array []) (.item true)
  | .openObject => r.stepOpen lexeme (.object [] true "") (.key true)
  | .scalar value => r.stepScalar value lexeme.stop
  | .string value => r.stepScalar (value.map string) lexeme.stop
  | .broken _ fault => .error fault
  | .closeArray | .closeObject | .comma | .colon => .error ⟨.valueExpected, lexeme.start + 1⟩

def stepKey (r : Reader) (first : Bool) (lexeme : Lexeme) : Except Fault Reader :=
  let named (readable : Bool) (key : String) : Reader :=
    match r.frames with
    | .object members wasReadable _ :: outer =>
      { r with frames := .object members (wasReadable && readable) key :: outer, want := .colon }
    | _ => r
  match lexeme.glyph with
  | .string (.ok key) => .ok (named true key)
  | .string (.error fault) => if r.records then .error fault else .ok (named false "")
  | .broken true fault => .error fault
  | .closeObject => if first then .ok r.leave else .error ⟨.trailingComma, lexeme.start + 1⟩
  | _ => .error ⟨.keyExpected, lexeme.start + 1⟩

def stepSeparator (r : Reader) (lexeme : Lexeme) : Except Fault Reader :=
  match r.frames, lexeme.glyph with
  | .array _ :: _, .comma => .ok { r with want := .item false }
  | .array _ :: _, .closeArray => .ok r.leave
  | .object .. :: _, .comma => .ok { r with want := .key false }
  | .object .. :: _, .closeObject => .ok r.leave
  | .object .. :: _, _ => .error ⟨.objectSeparatorExpected, lexeme.start + 1⟩
  | _, _ => .error ⟨.arraySeparatorExpected, lexeme.start + 1⟩

def step (r : Reader) (lexeme : Lexeme) : Except Fault Reader :=
  match r.want with
  | .value => r.stepValue lexeme
  | .item first =>
    match lexeme.glyph with
    | .closeArray => if first then .ok r.leave else .error ⟨.trailingComma, lexeme.start + 1⟩
    | _ => r.stepValue lexeme
  | .key first => r.stepKey first lexeme
  | .colon =>
    match lexeme.glyph with
    | .colon => .ok { r with want := .value }
    | _ => .error ⟨.colonExpected, lexeme.start + 1⟩
  | .separator => r.stepSeparator lexeme
  | .nothing _ => .error ⟨.trailingText, lexeme.start + 1⟩

/-- The tree read when the text ends at `stop`. -/
def finish (r : Reader) (stop : Nat) : Except Fault Json :=
  match r.want, r.frames with
  | .nothing tree, _ => .ok tree
  | .item true, _ | .separator, .array _ :: _ => .error ⟨.endInArray, stop⟩
  | .key true, _ | .colon, _ | .separator, _ => .error ⟨.endInObject, stop⟩
  | _, _ => .error ⟨.endInValue, stop⟩

end Reader

def readWith (records : Bool) (text : String) : Except Fault Json := do
  let r ← (lexemes text).foldlM Reader.step (.start records)
  r.finish text.utf8ByteSize

/-- The tree a text spells. -/
def read? (text : String) : Option Json := (readWith false text).toOption

/-- The free-form objects of an array, or the first fault of the text. -/
def readRecords (text : String) : Except Fault (List Fields) := do
  match ← readWith true text with
  | array items => .ok (items.filterMap Fields.ofJson?)
  | _ => .ok []

end CoinQuery.Json
