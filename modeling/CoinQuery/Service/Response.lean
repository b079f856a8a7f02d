import CoinQuery.Json.Reader
import CoinQuery.Json.Shape
import CoinQuery.Results.Record
import CoinQuery.Service.Request

/-!
# Answers of the services

Every answer comes in the same envelope. A successful answer that carries a result yields it; every
other answer is an error of the action it answers.
-/

namespace CoinQuery

structure Response (α : Type) where
  success : Bool
  result : Option α
  error : Option String
  message : Option String
  /-- The number of rows, which comes with the results of a search. -/
  length : Option Nat

namespace Response

def ok (result : α) : Response α := ⟨true, some result, none, none, none⟩

def failed (error : String) : Response α := ⟨false, none, some error, none, none⟩

/-- The result of a successful answer to `action`. Of an unsuccessful one, the error says more than
the message. -/
def outcome (r : Response α) (action : String) : Except QueryError α :=
  match r.success, r.result with
  | true, some result => .ok result
  | true, none => .error (.serviceFailed action "response carried no result")
  | false, _ =>
    .error (.serviceFailed action ((r.error <|> r.message).getD "request failed"))

def ofJson? (read : Json → Option α) (j : Json) : Option (Response α) := do
  match ← j.slots? ["success", "result", "error", "message", "length"] with
  | [success, result, error, message, length] =>
    some ⟨← success.defaulted false Json.bool?, ← result.optional read,
      ← error.optional Json.string?, ← message.optional Json.string?,
      ← length.optional Json.word?⟩
  | _ => none

def ofText (read : Json → Option α) (text : String) : Except QueryError (Response α) :=
  decoded (ofJson? read) (Json.read? text)

end Response

abbrev CompileResponse := Response String

abbrev SearchResponse := Response (List Record)

abbrev RecommendationResponse := Response Json.Fields

def CompileResponse.ofText : String → Except QueryError CompileResponse :=
  Response.ofText Json.string?

def SearchResponse.ofText : String → Except QueryError SearchResponse :=
  Response.ofText (Json.list? Record.ofJson?)

def RecommendationResponse.ofText : String → Except QueryError RecommendationResponse :=
  Response.ofText Json.Fields.ofJson?

end CoinQuery
