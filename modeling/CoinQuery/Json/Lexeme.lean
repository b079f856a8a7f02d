import CoinQuery.Json.Basic

/-!
# JSON lexemes

A text is read character by character into lexemes that know the bytes they span. What stands in a
text may be wrong in two ways. A *break* ends the reading: no lexeme can be made of what is there.
A *flaw* leaves a lexeme that stands for no value, a string with an unpaired surrogate or a number
beyond every finite one, and reading goes on behind it.

Both are faults with a cause and the number of bytes that had been read, or looked at, when it was
noticed. Which faults count, and which of them first, is for the reader of the lexemes to say.
-/

namespace CoinQuery.Json

/-! ## Faults -/

inductive FaultCause
  | endInArray
  | endInObject
  | endInString
  | endInValue
  | colonExpected
  | arraySeparatorExpected
  | objectSeparatorExpected
  | wordExpected
  | valueExpected
  | badEscape
  | badNumber
  | numberTooLarge
  | unpairedSurrogate
  | surrogateWithoutPair
  | controlCharacter
  | keyExpected
  | trailingComma
  | trailingText
  | nestedTooDeep
  | notARecord (found : String)
deriving DecidableEq

def FaultCause.message : FaultCause → String
  | endInArray => "EOF while parsing a list"
  | endInObject => "EOF while parsing an object"
  | endInString => "EOF while parsing a string"
  | endInValue => "EOF while parsing a value"
  | colonExpected => "expected `:`"
  | arraySeparatorExpected => "expected `,` or `]`"
  | objectSeparatorExpected => "expected `,` or `\x7d`"
  | wordExpected => "expected ident"
  | valueExpected => "expected value"
  | badEscape => "invalid escape"
  | badNumber => "invalid number"
  | numberTooLarge => "number out of range"
  | unpairedSurrogate => "lone leading surrogate in hex escape"
  | surrogateWithoutPair => "unexpected end of hex escape"
  | controlCharacter => "control character (\\u0000-\\u001F) found while parsing a string"
  | keyExpected => "key must be a string"
  | trailingComma => "trailing comma"
  | trailingText => "trailing characters"
  | nestedTooDeep => "recursion limit exceeded"
  | notARecord found => "invalid type: " ++ found ++ ", expected a map"

structure Fault where
  cause : FaultCause
  /-- The bytes read, or looked at, when the fault was noticed. -/
  position : Nat
deriving DecidableEq

/-- The line a byte position lies in, counted from one, and the bytes before it in that line. -/
def lineColumn (text : String) (position : Nat) : Nat × Nat :=
  let step (place : Nat × Nat × Nat) (c : Char) : Nat × Nat × Nat :=
    let (done, line, start) := place
    if done < position && c = '\n' then (done + 1, line + 1, done + 1)
    else (done + c.utf8Size, line, start)
  let (_, line, start) := text.toList.foldl step (0, 1, 0)
  (line, position - start)

/-- The wording of a fault found in `text`. -/
def Fault.describe (fault : Fault) (text : String) : String :=
  let (line, column) := lineColumn text fault.position
  fault.cause.message ++ " at line " ++ toString line ++ " column " ++ toString column

/-! ## Lexemes -/

inductive Glyph
  | openArray
  | closeArray
  | openObject
  | closeObject
  | comma
  | colon
  /-- A literal word or a number, or its flaw. -/
  | scalar (value : Except Fault Json)
  | string (value : Except Fault String)
  /-- A break; `quoted` if it lies in what began as a string. -/
  | broken (quoted : Bool) (fault : Fault)

structure Lexeme where
  glyph : Glyph
  start : Nat
  stop : Nat

/-- What reading one more character makes of a lexeme under way. -/
inductive Progress (σ : Type)
  | more (state : σ)
  | done (glyph : Glyph)
  | broke (fault : Fault)

/-! ## Strings -/

/-- Where in an escape sequence a string is. -/
inductive EscapeState
  | outside
  | opened
  /-- Reading the four bytes of a code unit. `value` is none once one of them was no digit; `lead`
  is the leading surrogate before it. -/
  | unit (start seen : Nat) (value : Option Nat) (lead : Option Nat)
  | afterLead (lead : Nat)
  | afterLeadOpened (lead : Nat)

structure StringScan where
  /-- The characters so far, in reverse. -/
  read : List Char
  flaw : Option Fault
  escape : EscapeState

namespace StringScan

def start : StringScan := ⟨[], none, .outside⟩

/-- The first flaw of a string is its flaw. -/
def withFlaw (s : StringScan) (cause : FaultCause) (position : Nat) : StringScan :=
  { s with flaw := s.flaw <|> some ⟨cause, position⟩ }

/-- The first fault of the string if `fault` breaks it. -/
def broke (s : StringScan) (fault : Fault) : Progress StringScan := .broke (s.flaw.getD fault)

def hexValue? (c : Char) : Option Nat :=
  if '0' ≤ c && c ≤ '9' then some (c.toNat - '0'.toNat)
  else if 'a' ≤ c && c ≤ 'f' then some (c.toNat - 'a'.toNat + 10)
  else if 'A' ≤ c && c ≤ 'F' then some (c.toNat - 'A'.toNat + 10)
  else none

def isLead (unit : Nat) : Bool := 0xD800 ≤ unit && unit ≤ 0xDBFF

def isTrail (unit : Nat) : Bool := 0xDC00 ≤ unit && unit ≤ 0xDFFF

/-- A code unit has been read up to `position`. -/
def pushUnit (s : StringScan) (lead : Option Nat) (unit position : Nat) : StringScan :=
  match lead with
  | none =>
    if isLead unit then { s with escape := .afterLead unit }
    else if isTrail unit then { s with escape := .outside }.withFlaw .unpairedSurrogate position
    else { s with escape := .outside, read := Char.ofNat unit :: s.read }
  | some lead =>
    if isTrail unit then
      let point := 0x10000 + (lead - 0xD800) * 0x400 + (unit - 0xDC00)
      { s with escape := .outside, read := Char.ofNat point :: s.read }
    else { s with escape := .outside }.withFlaw .unpairedSurrogate position

/-- A character outside every escape sequence. -/
def stepOutside (s : StringScan) (position : Nat) (c : Char) : Progress StringScan :=
  if c = '"' then
    .done (.string (match s.flaw with
      | some fault => .error fault
      | none => .ok (String.ofList s.read.reverse)))
  else if c = '\\' then .more { s with escape := .opened }
  else if c.toNat < 0x20 then s.broke ⟨.controlCharacter, position + 1⟩
  else .more { s with read := c :: s.read }

/-- The character after a backslash. -/
def stepOpened (s : StringScan) (position : Nat) (c : Char) : Progress StringScan :=
  let push (c : Char) : Progress StringScan :=
    .more { s with escape := .outside, read := c :: s.read }
  match c with
  | '"' => push '"'
  | '\\' => push '\\'
  | '/' => push '/'
  | 'b' => push '\x08'
  | 'f' => push '\x0c'
  | 'n' => push '\n'
  | 'r' => push '\r'
  | 't' => push '\t'
  | 'u' => .more { s with escape := .unit (position + 1) 0 (some 0) none }
  | _ => s.broke ⟨.badEscape, position + 1⟩

def step (s : StringScan) (position : Nat) (c : Char) : Progress StringScan :=
  match s.escape with
  | .outside => s.stepOutside position c
  | .opened => s.stepOpened position c
  | .unit start seen value lead =>
    let seen := seen + c.utf8Size
    let value := do some (16 * (← value) + (← hexValue? c))
    if seen < 4 then .more { s with escape := .unit start seen value lead }
    else match value with
      | some unit => .more (s.pushUnit lead unit (start + 4))
      | none => s.broke ⟨.badEscape, start + 4⟩
  | .afterLead lead =>
    if c = '\\' then .more { s with escape := .afterLeadOpened lead }
    else { s with escape := .outside }.withFlaw .surrogateWithoutPair (position + 1)
      |>.stepOutside position c
  | .afterLeadOpened lead =>
    if c = 'u' then .more { s with escape := .unit (position + 1) 0 (some 0) (some lead) }
    else s.withFlaw .surrogateWithoutPair (position + 1) |>.stepOpened position c

end StringScan

/-! ## Numbers -/

/-- What of a number has been read. -/
inductive NumberPhase
  | sign
  | zero
  | whole
  | point
  | fraction
  | exponentMark
  | exponentSign
  | exponent
deriving DecidableEq

structure NumberScan where
  phase : NumberPhase
  negative : Bool
  /-- The digits before and behind the point as one number. -/
  digits : Nat
  places : Nat
  isReal : Bool
  exponentNegative : Bool
  exponent : Nat
  /-- Where the exponent passed the greatest that is kept exactly. -/
  exponentPassed : Option Nat

namespace NumberScan

def start (c : Char) : NumberScan where
  phase := if c = '-' then .sign else if c = '0' then .zero else .whole
  negative := c = '-'
  digits := if c = '-' then 0 else c.toNat - '0'.toNat
  places := 0
  isReal := false
  exponentNegative := false
  exponent := 0
  exponentPassed := none

def pushDigit (n : NumberScan) (phase : NumberPhase) (c : Char) : NumberScan :=
  { n with phase := phase, digits := 10 * n.digits + (c.toNat - '0'.toNat) }

def pushPlace (n : NumberScan) (c : Char) : NumberScan :=
  { n.pushDigit .fraction c with places := n.places + 1 }

/-- The greatest exponent that is kept exactly. -/
def exponentLimit : Nat := 0x7FFFFFFF

def pushExponent (n : NumberScan) (position : Nat) (c : Char) : NumberScan :=
  let exponent := 10 * n.exponent + (c.toNat - '0'.toNat)
  let passed := if exponentLimit < exponent then some (position + 1) else none
  { n with phase := .exponent, exponent, exponentPassed := n.exponentPassed <|> passed }

/-- A number read up to `position`. An integer that fits neither the unsigned nor the signed 64-bit
range, and minus zero, are real numbers. -/
def value (n : NumberScan) (position : Nat) : Except Fault Json :=
  if !n.isReal && !n.negative && n.digits < UInt64.size then .ok (number (.integer n.digits))
  else if !n.isReal && n.negative && n.digits ≠ 0 && n.digits ≤ 0x8000000000000000 then
    .ok (number (.integer (-n.digits)))
  else
    let exponent : Int := if n.exponentNegative then -n.exponent else n.exponent
    let x : Binary64 := match n.exponentPassed with
      | some _ => if n.exponentNegative || n.digits = 0 then ⟨0⟩ else ⟨0x7FF0000000000000⟩
      | none => Binary64.ofDecimal n.digits (exponent - n.places)
    if x.isFinite then .ok (number (.real (if n.negative then x.negate else x)))
    else .error ⟨.numberTooLarge, n.exponentPassed.getD position⟩

/-- The end of a number at `position`, behind which nothing that belongs to it follows. -/
def finish (n : NumberScan) (position : Nat) : Progress NumberScan :=
  .done (.scalar (n.value position))

def step (n : NumberScan) (position : Nat) (c : Char) : Progress NumberScan :=
  let looked : Progress NumberScan := .broke ⟨.badNumber, position + 1⟩
  let mark : Progress NumberScan := .more { n with phase := .exponentMark, isReal := true }
  match n.phase with
  | .sign =>
    if c = '0' then .more { n with phase := .zero }
    else if c.isDigit then .more (n.pushDigit .whole c) else looked
  | .zero =>
    if c.isDigit then looked
    else if c = '.' then .more { n with phase := .point, isReal := true }
    else if c = 'e' || c = 'E' then mark
    else n.finish position
  | .whole =>
    if c.isDigit then .more (n.pushDigit .whole c)
    else if c = '.' then .more { n with phase := .point, isReal := true }
    else if c = 'e' || c = 'E' then mark
    else n.finish position
  | .point => if c.isDigit then .more (n.pushPlace c) else looked
  | .fraction =>
    if c.isDigit then .more (n.pushPlace c)
    else if c = 'e' || c = 'E' then mark
    else n.finish position
  | .exponentMark =>
    if c = '+' then .more { n with phase := .exponentSign }
    else if c = '-' then .more { n with phase := .exponentSign, exponentNegative := true }
    else if c.isDigit then .more (n.pushExponent position c) else looked
  | .exponentSign => if c.isDigit then .more (n.pushExponent position c) else looked
  | .exponent => if c.isDigit then .more (n.pushExponent position c) else n.finish position

/-- The end of the text. -/
def stepEnd (n : NumberScan) (position : Nat) : Glyph :=
  match n.phase with
  | .zero | .whole | .fraction | .exponent => .scalar (n.value position)
  | .sign | .point | .exponentMark | .exponentSign => .broken false ⟨.endInValue, position⟩

end NumberScan

/-! ## The scan -/

/-- What the next character is read as. -/
inductive ScanMode
  | between
  /-- In a literal word, with what is still to come of it. -/
  | word (start : Nat) (rest : List Char) (value : Json)
  | string (start : Nat) (state : StringScan)
  | number (start : Nat) (state : NumberScan)
  /-- Behind a break. -/
  | ended

structure Scan where
  position : Nat
  /-- The lexemes so far, in reverse. -/
  lexemes : List Lexeme
  mode : ScanMode

namespace Scan

def emit (s : Scan) (glyph : Glyph) (start stop : Nat) : Scan :=
  { s with lexemes := ⟨glyph, start, stop⟩ :: s.lexemes, mode := .between }

def emitBreak (s : Scan) (quoted : Bool) (fault : Fault) (start : Nat) : Scan :=
  { s with lexemes := ⟨.broken quoted fault, start, fault.position⟩ :: s.lexemes, mode := .ended }

/-- Reads a character that begins a lexeme or stands between lexemes; `s.position` is before it. -/
def begin (s : Scan) (c : Char) : Scan :=
  let behind := s.position + 1
  let single (glyph : Glyph) : Scan := s.emit glyph s.position behind
  match c with
  | ' ' | '\n' | '\t' | '\r' => s
  | '[' => single .openArray
  | ']' => single .closeArray
  | '\x7b' => single .openObject
  | '\x7d' => single .closeObject
  | ',' => single .comma
  | ':' => single .colon
  | 'n' => { s with mode := .word s.position ['u', 'l', 'l'] null }
  | 't' => { s with mode := .word s.position ['r', 'u', 'e'] (bool true) }
  | 'f' => { s with mode := .word s.position ['a', 'l', 's', 'e'] (bool false) }
  | '"' => { s with mode := .string s.position .start }
  | c =>
    if c = '-' || c.isDigit then { s with mode := .number s.position (.start c) }
    else s.emitBreak false ⟨.valueExpected, behind⟩ s.position

/-- Reads a character, `s.position` being before it. -/
def read (s : Scan) (c : Char) : Scan :=
  match s.mode with
  | .between => s.begin c
  | .ended => s
  | .word start rest value =>
    match rest with
    | [] => (s.emit (.scalar (.ok value)) start s.position).begin c
    | [last] =>
      if c = last then s.emit (.scalar (.ok value)) start (s.position + 1)
      else s.emitBreak false ⟨.wordExpected, s.position + 1⟩ start
    | next :: rest =>
      if c = next then { s with mode := .word start rest value }
      else s.emitBreak false ⟨.wordExpected, s.position + 1⟩ start
  | .string start state =>
    match state.step s.position c with
    | .more state => { s with mode := .string start state }
    | .done glyph => s.emit glyph start (s.position + 1)
    | .broke fault => s.emitBreak true fault start
  | .number start state =>
    match state.step s.position c with
    | .more state => { s with mode := .number start state }
    | .done glyph => (s.emit glyph start s.position).begin c
    | .broke fault => s.emitBreak false fault start

def step (s : Scan) (c : Char) : Scan :=
  let s := s.read c
  { s with position := s.position + c.utf8Size }

/-- Reads the end of the text. -/
def stepEnd (s : Scan) : Scan :=
  match s.mode with
  | .between | .ended => s
  | .word start _ _ => s.emitBreak false ⟨.endInValue, s.position⟩ start
  | .string start state =>
    s.emitBreak true (state.flaw.getD ⟨.endInString, s.position⟩) start
  | .number start state => s.emit (state.stepEnd s.position) start s.position

end Scan

/-- The lexemes of a text, in order. Nothing follows a break. -/
def lexemes (text : String) : List Lexeme :=
  let s := (text.toList.foldl Scan.step ⟨0, [], .between⟩).stepEnd
  s.lexemes.reverse

end CoinQuery.Json
