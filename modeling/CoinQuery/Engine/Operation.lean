import CoinQuery.Engine.State

/-!
# Runs of the engine

`Operation` lists everything that can change an engine, and `Engine.step` performs one operation and
gives its reply. A run is a list of operations, performed one after the other.
-/

namespace CoinQuery

/-- What can be done to a set of results. -/
inductive ResultOperation
  | setResults (records : List Record)
  | sort (spec : SortSpec)
  | setPage (page : Nat)
  | nextPage
  | previousPage

/-- Turning a page says whether it was turned. -/
def ResultSet.step (s : ResultSet) : ResultOperation → Option Bool × ResultSet
  | .setResults records => (none, s.setResults records)
  | .sort spec => (none, s.sort spec)
  | .setPage page => (s.setPage page).map some id
  | .nextPage => s.nextPage.map some id
  | .previousPage => s.previousPage.map some id

inductive Operation
  | addDescriptor (side : Side) (descriptor : Descriptor)
  | removeLastDescriptor (side : Side)
  | addKeyword (side : Side) (text : String)
  | toggleKeyword (side : Side) (text : String)
  | removeKeyword (side : Side) (text : String)
  | clearDraft
  | editCoin (index : Nat)
  | keyUp (side : Side) (key : Key) (text : String) (now : Nat)
  | poll (now : Nat)
  | applyRecommendations (side : Side) (response : RecommendationResponse)
  | pick (side : Side) (category : Category) (index : Nat)
  | addCoin
  | clearCoins
  | removeCoin (index : Nat)
  | reconcile
  | setRelationText (text : String)
  | editVisual (nodes : List VisualNode)
  | pushToken (token : Token)
  | pushReference (index : Nat)
  | insertToken (index : Nat) (token : Token)
  | removeToken (index : Nat)
  | clearRelation
  | setSearchType (searchType : SearchType)
  | applyCompile (seq : Nat) (response : CompileResponse)
  | setQueryText (text : String)
  | applySearch (response : SearchResponse)
  | results (operation : ResultOperation)

/-- What an operation returns. Where something may be refused, none or false says so. -/
inductive Reply
  | done
  | flag (done : Bool)
  | negation (state : Option Bool)
  | keyword (removed : Option Keyword)
  | action (action : InputAction)
  | lookups (due : List (Side × RecommendationRequest))
  | coin (removed : Option Coin)
  | request (request : Option CompileRequest)

/-- The compile request that a reply carries. -/
def Reply.request? : Reply → Option CompileRequest
  | request r => r
  | _ => none

namespace Engine

def step (e : Engine) : Operation → Reply × Engine
  | .addDescriptor side d => (.done, e.addDescriptor side d)
  | .removeLastDescriptor side => (e.removeLastDescriptor side).map .flag id
  | .addKeyword side text => (e.addKeyword side text).map .flag id
  | .toggleKeyword side text => (e.toggleKeyword side text).map .negation id
  | .removeKeyword side text => (e.removeKeyword side text).map .keyword id
  | .clearDraft => (.done, e.clearDraft)
  | .editCoin index => (e.editCoin index).map .flag id
  | .keyUp side key text now => (e.keyUp side key text now).map .action id
  | .poll now => (e.poll now).map .lookups id
  | .applyRecommendations side r => (e.applyRecommendations side r).map .flag id
  | .pick side category index => (e.pick side category index).map .flag id
  | .addCoin => e.addCoin.map (.request ∘ some) id
  | .clearCoins => e.clearCoins.map (.request ∘ some) id
  | .removeCoin index => (e.removeCoin index).map .coin id
  | .reconcile => e.reconcile.map (.request ∘ some) id
  | .setRelationText text => (e.setRelationText text).map (.request ∘ some) id
  | .editVisual nodes => (e.editVisual nodes).map (.request ∘ some) id
  | .pushToken t => (e.pushToken t).map (.request ∘ some) id
  | .pushReference index => (e.pushReference index).map .request id
  | .insertToken index t => (e.insertToken index t).map .request id
  | .removeToken index => (e.removeToken index).map .request id
  | .clearRelation => e.clearRelation.map (.request ∘ some) id
  | .setSearchType t => (e.setSearchType t).map (.request ∘ some) id
  | .applyCompile seq r => (e.applyCompile seq r).map .flag id
  | .setQueryText text => (.done, e.setQueryText text)
  | .applySearch r => (e.applySearch r).map .flag id
  | .results operation =>
    (e.onResults (·.step operation)).map (fun turned => (turned.map Reply.flag).getD .done) id

/-- The engine after a run. -/
def run (e : Engine) (operations : List Operation) : Engine :=
  operations.foldl (fun e o => (e.step o).2) e

/-- The replies of a run, in order. -/
def replies (e : Engine) : List Operation → List Reply
  | [] => []
  | o :: rest => (e.step o).1 :: replies (e.step o).2 rest

end Engine

end CoinQuery
