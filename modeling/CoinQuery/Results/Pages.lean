import CoinQuery.Results.Order

/-!
# Pages of results

The results of a search are one list, sorted as a whole and shown page by page. The sort last asked
for is remembered and applied to new results. Grouping looks at one page only, so a group that lies
across two pages shows on both.
-/

namespace CoinQuery

/-- Records shown on a page unless configured otherwise. -/
def defaultPageSize : Nat := 100

/-- How many pages a list of this length takes. There is always a first page, if only an empty
one. -/
def pageCount (length pageSize : Nat) : Nat := max 1 ((length + pageSize - 1) / pageSize)

structure ResultSet where
  records : List Record
  sortSpec : Option SortSpec
  /-- The page shown, counted from one. -/
  page : Nat
  pageSize : Nat
  /-- The number of pages, counted when the list is replaced. -/
  totalPages : Nat

namespace ResultSet

/-- No results, on pages of this size; a page holds at least one record. -/
def withPageSize (pageSize : Nat) : ResultSet := ⟨[], none, 1, max pageSize 1, 1⟩

def new : ResultSet := withPageSize defaultPageSize

/-- The records in the order last asked for. -/
def arranged (spec : Option SortSpec) (records : List Record) : List Record :=
  match spec with
  | some spec => spec.sort records
  | none => records

/-- Replaces the list and shows its first page. -/
def setResults (s : ResultSet) (records : List Record) : ResultSet :=
  let records := arranged s.sortSpec records
  { s with records, page := 1, totalPages := pageCount records.length s.pageSize }

def sort (s : ResultSet) (spec : SortSpec) : ResultSet :=
  { s with records := spec.sort s.records, sortSpec := some spec }

/-! ## Turning pages -/

/-- Shows page `n`; refused if there is no such page. -/
def setPage (s : ResultSet) (n : Nat) : Bool × ResultSet :=
  if 1 ≤ n && n ≤ s.totalPages then (true, { s with page := n }) else (false, s)

def nextPage (s : ResultSet) : Bool × ResultSet := s.setPage (s.page + 1)

def previousPage (s : ResultSet) : Bool × ResultSet :=
  if 1 < s.page then s.setPage (s.page - 1) else (false, s)

def hasNext (s : ResultSet) : Bool := s.page < s.totalPages

def hasPrevious (s : ResultSet) : Bool := 1 < s.page

def pageLabel (s : ResultSet) : String :=
  "Page " ++ toString s.page ++ " of " ++ toString s.totalPages

/-- How many records stand on the pages before this one, if these are full. -/
def offset (s : ResultSet) : Nat := (s.page - 1) * s.pageSize

def sliceStart (s : ResultSet) : Nat := min s.offset s.records.length

def sliceStop (s : ResultSet) : Nat := min (s.sliceStart + s.pageSize) s.records.length

/-- The records on the page shown. -/
def pageSlice (s : ResultSet) : List Record :=
  (s.records.drop s.sliceStart).take (s.sliceStop - s.sliceStart)

end ResultSet

/-! ## Groups -/

/-- The records of one page that share a key. -/
structure ResultGroup where
  key : String
  records : List Record

namespace ResultGroup

/-- The key of records without a value to group by. -/
def uncategorized : String := "uncategorized"

def keyOf (field : String) (r : Record) : String :=
  let value := r.field field
  if value.isBlank then uncategorized else value.asText

/-- Puts a record at the end of the group with its key, or of a new group behind the others. -/
def place (key : String) (r : Record) : List ResultGroup → List ResultGroup
  | [] => [⟨key, [r]⟩]
  | g :: rest =>
    if g.key = key then { g with records := g.records ++ [r] } :: rest else g :: place key r rest

/-- The groups of a list, in the order in which their keys first occur. -/
def ofRecords (field : String) (records : List Record) : List ResultGroup :=
  records.foldl (fun groups r => place (keyOf field r) r groups) []

def toJson (g : ResultGroup) : Json :=
  .object [("key", .string g.key), ("records", .array (g.records.map Record.toJson))]

end ResultGroup

namespace ResultSet

/-- The groups of the page shown. -/
def groups (s : ResultSet) (field : String) : List ResultGroup :=
  ResultGroup.ofRecords field s.pageSlice

/-- All that is needed to draw the page shown, grouped by `field`. -/
def viewJson (s : ResultSet) (field : String) : Json :=
  .object [
    ("sorted", .array (s.records.map Record.toJson)),
    ("sort", (s.sortSpec.map SortSpec.toJson).getD .null),
    ("page", .number (.integer s.page)),
    ("pageSize", .number (.integer s.pageSize)),
    ("totalPages", .number (.integer s.totalPages)),
    ("groups", .array ((s.groups field).map ResultGroup.toJson))]

end ResultSet

end CoinQuery
