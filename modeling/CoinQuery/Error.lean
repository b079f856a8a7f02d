/-!
# Errors

Little can fail: input that makes no sense is ignored and the return value says so. Errors arise
where text crosses into typed values, where a service answers with a failure, and where a
configuration or a count is refused. A name that is not known is reported as it was given.
-/

namespace CoinQuery

inductive QueryError
  | unknownCategory (name : String)
  | unknownSide (name : String)
  | unknownSearchType (name : String)
  | unknownSortDirection (name : String)
  | serviceFailed (action message : String)
  | malformedJson
  | tooManyCoins (requested most : Nat)
  | invalidConfig (reason : String)
  | unreadableConfig (path : String)
deriving DecidableEq

def QueryError.message : QueryError → String
  | unknownCategory name => "unknown descriptor category '" ++ name ++ "'"
  | unknownSide name => "unknown coin side '" ++ name ++ "'"
  | unknownSearchType name => "unknown search type '" ++ name ++ "'"
  | unknownSortDirection name => "unknown sort direction '" ++ name ++ "'"
  | serviceFailed action message => "backend request '" ++ action ++ "' failed: " ++ message
  | malformedJson => "failed to process JSON payload"
  | tooManyCoins requested most =>
    "cannot inspect against " ++ toString requested ++ " coins (at most " ++ toString most ++ ")"
  | invalidConfig reason => "invalid configuration: " ++ reason
  | unreadableConfig path => "failed to read config file: " ++ path

/-- A tree read by `read`, or the error of a payload that is not what was expected. -/
def decoded (read : α → Option β) (payload : Option α) : Except QueryError β :=
  match payload.bind read with
  | some value => .ok value
  | none => .error .malformedJson

end CoinQuery
