import CoinQuery.Coin.Mint
import CoinQuery.Config
import CoinQuery.Input
import CoinQuery.Relation.Binding
import CoinQuery.Relation.Diagnosis
import CoinQuery.Relation.Pruning
import CoinQuery.Service.Recommendations
import CoinQuery.Service.Sequencer

/-!
# The query engine

The engine holds all state of a query: the draft, the coins and their relation, the compiled query,
its results, and for each side of the draft an input field with its recommendations. It sends
nothing. What is to be sent is returned as a request, and the answer is applied when it comes.

## Synchronization

Whatever changes what is to be compiled ends in `sync`: stale references are pruned, labels are
bound, the canonical text is kept, and a compile request with the next number is returned. Removing
a coin does not sync. The relation then still refers to the coin, and the text kept still shows the
label it had, until something else syncs.
-/

namespace CoinQuery

structure Engine where
  config : Config
  mint : Mint
  coins : CoinSet
  relation : Relation
  /-- The canonical text of the relation when it was last synchronized. -/
  relationText : String
  searchType : SearchType
  sequencer : CompileSequencer
  /-- The compiled query, or what was written in its place. -/
  queryText : String
  results : ResultSet
  inputs : Sides DescriptionInput
  recommendations : Sides Recommendations

namespace Engine

def ofConfig (config : Config) : Engine where
  config := config
  mint := .new
  coins := []
  relation := []
  relationText := ""
  searchType := config.searchType
  sequencer := .new
  queryText := ""
  results := .withPageSize config.pageSize
  inputs := .uniform (.new config.debounceMs config.minQueryChars)
  recommendations := .uniform .empty

/-- A fresh engine, unless the configuration cannot be used. -/
def new (config : Config) : Except QueryError Engine := do .ok (ofConfig (← config.validate))

def sync (e : Engine) : CompileRequest × Engine :=
  let relation := (e.relation.prune e.coins).bind e.coins
  let text := relation.text e.coins
  let (seq, sequencer) := e.sequencer.issue
  (⟨seq, e.coins.toJson.text, text, e.searchType⟩,
    { e with relation, relationText := text, sequencer })

/-! ## The draft -/

def addDescriptor (e : Engine) (side : Side) (d : Descriptor) : Engine :=
  { e with mint := e.mint.addDescriptor side d }

/-- Works on the mint. -/
def onMint (e : Engine) (f : Mint → α × Mint) : α × Engine :=
  let (reply, mint) := f e.mint
  (reply, { e with mint })

def removeLastDescriptor (e : Engine) (side : Side) : Bool × Engine :=
  let (removed, e) := e.onMint (·.removeLastDescriptor side)
  (removed.isSome, e)

def addKeyword (e : Engine) (side : Side) (text : String) : Bool × Engine :=
  e.onMint (·.addKeyword side text)

def toggleKeyword (e : Engine) (side : Side) (text : String) : Option Bool × Engine :=
  e.onMint (·.toggleKeyword side text)

def removeKeyword (e : Engine) (side : Side) (text : String) : Option Keyword × Engine :=
  e.onMint (·.removeKeyword side text)

/-- Empties the draft and its fields: nothing is pending and nothing recommended. -/
def clearDraft (e : Engine) : Engine :=
  { e with
    mint := e.mint.clear
    inputs := ⟨e.inputs.obverse.reset, e.inputs.reverse.reset⟩
    recommendations := .uniform .empty }

/-- Loads the coin at `index` into a cleared draft. The coin stays in the set, and what becomes of
the draft will be a coin of its own. -/
def editCoin (e : Engine) (index : Nat) : Bool × Engine :=
  match e.coins[index]? with
  | some coin =>
    let e := e.clearDraft
    (true, { e with mint := e.mint.load coin })
  | none => (false, e)

/-! ## Recommendations -/

def setRecommendations (e : Engine) (side : Side) (r : Recommendations) : Engine :=
  { e with recommendations := e.recommendations.set side r }

/-- A key was released in the field of a side. -/
def keyUp (e : Engine) (side : Side) (key : Key) (text : String) (now : Nat) :
    InputAction × Engine :=
  let (action, input) := (e.inputs.get side).keyUp key text now
  let e := { e with inputs := e.inputs.set side input }
  match action with
  | .scheduled => (action, e)
  | .cleared => (action, e.setRecommendations side .empty)
  | .removeLastDescriptor =>
    (action, ((e.setRecommendations side .empty).removeLastDescriptor side).2)

/-- The lookup of one side, if it is due. -/
def pollSide (e : Engine) (side : Side) (now : Nat) : Option RecommendationRequest × Engine :=
  let (query, input) := (e.inputs.get side).poll now
  (query.map (⟨e.config.scope, ·⟩), { e with inputs := e.inputs.set side input })

/-- The lookups that are due, at most one for each side. -/
def poll (e : Engine) (now : Nat) : List (Side × RecommendationRequest) × Engine :=
  let (obverse, e) := e.pollSide .obverse now
  let (reverse, e) := e.pollSide .reverse now
  ((obverse.map (Side.obverse, ·)).toList ++ (reverse.map (Side.reverse, ·)).toList, e)

/-- Applies the answer to a lookup; a failure leaves the recommendations as they are. -/
def applyRecommendations (e : Engine) (side : Side) (response : RecommendationResponse) :
    Bool × Engine :=
  match response.outcome RecommendationRequest.action with
  | .ok result => (true, e.setRecommendations side (.ofResult result))
  | .error _ => (false, e)

/-- Picks a recommendation as a descriptor, which empties the field. -/
def pick (e : Engine) (side : Side) (category : Category) (index : Nat) : Bool × Engine :=
  match (e.recommendations.get side).item? category index with
  | some item =>
    let e := (e.addDescriptor side ⟨category, item⟩).setRecommendations side .empty
    (true, { e with inputs := e.inputs.modify side (·.reset) })
  | none => (false, e)

/-- The lookups of the classes of a descriptor. Verbs have no hierarchy. -/
def hierarchyRequests (e : Engine) (side : Side) (index : Nat) : List RecommendationRequest :=
  match (e.mint.draft.get side).descriptors[index]? with
  | some d => if d.category.isVerb then [] else d.item.classes.map .hierarchy
  | none => []

/-! ## Coins -/

/-- Strikes a coin from the draft and puts it behind the others, in the set and in the relation. -/
def addCoin (e : Engine) : CompileRequest × Engine :=
  let (coin, e) := e.onMint (·.strike)
  let coins := e.coins ++ [coin]
  let e := { e with coins }.clearDraft
  { e with relation := (e.relation.prune coins).followSize coins }.sync

def clearCoins (e : Engine) : CompileRequest × Engine :=
  { e with coins := [], relation := e.relation.followSize [] }.sync

/-- Takes a coin out of the set. The relation is left as it is. -/
def removeCoin (e : Engine) (index : Nat) : Option Coin × Engine :=
  match e.coins[index]? with
  | some coin => (some coin, { e with coins := e.coins.eraseIdx index })
  | none => (none, e)

def staleReferences (e : Engine) : List CoinId := e.relation.stale e.coins

/-- Drops references to coins that have been removed. -/
def reconcile (e : Engine) : CompileRequest × Engine := e.sync

/-! ## The relation -/

def visual (e : Engine) : List VisualNode := e.relation.visual e.coins

def diagnose (e : Engine) : List Issue := e.relation.diagnose e.coins

/-- Replaces the relation and syncs. -/
def withRelation (e : Engine) (relation : Relation) : CompileRequest × Engine :=
  { e with relation }.sync

def setRelationText (e : Engine) (text : String) : CompileRequest × Engine :=
  e.withRelation (.parse text e.coins)

def editVisual (e : Engine) (nodes : List VisualNode) : CompileRequest × Engine :=
  e.withRelation (.ofVisual nodes e.coins)

def pushToken (e : Engine) (t : Token) : CompileRequest × Engine :=
  e.withRelation (e.relation.push t e.coins)

def pushReference (e : Engine) (index : Nat) : Option CompileRequest × Engine :=
  match e.coins[index]? with
  | some coin =>
    let (request, e) := e.pushToken (.coin coin.id)
    (some request, e)
  | none => (none, e)

def insertToken (e : Engine) (index : Nat) (t : Token) : Option CompileRequest × Engine :=
  match e.relation.insert? index t e.coins with
  | some relation =>
    let (request, e) := e.withRelation relation
    (some request, e)
  | none => (none, e)

def removeToken (e : Engine) (index : Nat) : Option CompileRequest × Engine :=
  match e.relation.remove? index with
  | some (_, relation) =>
    let (request, e) := e.withRelation relation
    (some request, e)
  | none => (none, e)

def clearRelation (e : Engine) : CompileRequest × Engine := e.withRelation []

/-! ## Compiling and searching -/

def setSearchType (e : Engine) (searchType : SearchType) : CompileRequest × Engine :=
  { e with searchType }.sync

/-- Applies the answer to the compile request with this number, unless a newer one was answered. A
failure leaves the query as it is. -/
def applyCompile (e : Engine) (seq : Nat) (response : CompileResponse) : Bool × Engine :=
  let (accepted, sequencer) := e.sequencer.accept seq
  let e := { e with sequencer }
  if accepted then
    match response.outcome CompileRequest.action with
    | .ok query => (true, { e with queryText := query })
    | .error _ => (false, e)
  else (false, e)

def compilePending (e : Engine) : Bool := e.sequencer.isPending

def setQueryText (e : Engine) (text : String) : Engine := { e with queryText := text }

def searchRequest (e : Engine) : SearchRequest := ⟨e.queryText, e.searchType⟩

def downloadRequest (e : Engine) : DownloadRequest := ⟨e.queryText, e.searchType⟩

/-- Applies the answer to a search; a failure leaves the results as they are. -/
def applySearch (e : Engine) (response : SearchResponse) : Bool × Engine :=
  match response.outcome SearchRequest.action with
  | .ok records => (true, { e with results := e.results.setResults records })
  | .error _ => (false, e)

/-- Works on the results. -/
def onResults (e : Engine) (f : ResultSet → α × ResultSet) : α × Engine :=
  let (reply, results) := f e.results
  (reply, { e with results })

end Engine

end CoinQuery
