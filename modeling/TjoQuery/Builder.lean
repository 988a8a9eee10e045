import TjoQuery.Validate

namespace TjoQuery

/-! The builder state of `query_builder.go` and its mutators.  A Go method on
`*QueryBuilder` that mutates in place and returns the receiver is a function from the
state to the new state; one that can panic (every mutator that calls
`isValidIdentifier`) returns `Option`, `none` standing for the panic, raised before any
field is written.  Exported methods keep their Go names, which also keeps them apart from
the fields they write (`OrderBy` and `orderBy`). -/

/-- The Go values stored in `interface{}` slots. -/
inductive Value
  | null
  | bool (b : Bool)
  | int (n : Int)
  | str (s : String)
  deriving DecidableEq, Repr

/-- `fmt.Sprintf("%s", v)`: a string as it is, anything else as Go's bad-verb text. -/
def Value.formatS : Value → String
  | .null => "%!s(<nil>)"
  | .bool b => "%!s(bool=" ++ toString b ++ ")"
  | .int n => "%!s(int=" ++ toString n ++ ")"
  | .str s => s

/-- The errors of this file, each as the call that builds it. -/
inductive Error
  /-- `fmt.Errorf(format, arg)` with a single `%q` verb. -/
  | quoted (format arg : String)
  /-- `fmt.Errorf(text)` -/
  | text (msg : String)
  /-- an error returned by the execution handle, passed on unchanged -/
  | port (code : Nat)
  /-- `fmt.Errorf(format, err)` with a single `%w` verb -/
  | wrapped (format : String) (inner : Error)
  /-- `fmt.Errorf("rollback failed: %v (original error: %w)", rbErr, err)` -/
  | rollbackFailed (rbErr err : Error)
  deriving DecidableEq, Repr

structure WhereCondition where
  column : String
  operator : String
  value : Value
  logic : String
  params : List Value
  deriving DecidableEq, Repr

structure JoinClause where
  joinType : String
  table : String
  onText : String
  deriving DecidableEq, Repr

/-- What the `DB` interface of a builder holds: a pool `*sql.DB` (nil when `none`) or a
`*sql.Tx` begun on one, named by the order it was begun in. -/
inductive Handle
  | pool (db : Option Nat)
  | tx (id : Nat)
  deriving DecidableEq, Repr

/-- Go's `int` fields are 64-bit signed, `BitVec 64` read with `toInt`; `unionQuery` is a
pointer, the address of another builder. -/
structure QueryBuilder where
  db : Handle
  rawDB : Option Nat
  table : String
  selectCols : List String
  whereConds : List WhereCondition
  orderBy : List String
  groupBy : List String
  having : List WhereCondition
  joins : List JoinClause
  limitCount : BitVec 64
  offsetCount : BitVec 64
  unionQuery : Option Nat
  unionAll : Bool
  err : Option Error
  includeTrashed : Bool
  deriving DecidableEq, Repr

def newQueryBuilderWithDB (db : Handle) (rawDB : Option Nat) : QueryBuilder where
  db := db
  rawDB := rawDB
  table := ""
  selectCols := []
  whereConds := []
  orderBy := []
  groupBy := []
  having := []
  joins := []
  limitCount := 0
  offsetCount := 0
  unionQuery := none
  unionAll := false
  err := none
  includeTrashed := false

def NewQueryBuilder (db : Option Nat) : QueryBuilder := newQueryBuilderWithDB (.pool db) db

@[simp] theorem newQueryBuilderWithDB_err (db : Handle) (rawDB : Option Nat) :
    (newQueryBuilderWithDB db rawDB).err = none := rfl

@[simp] theorem NewQueryBuilder_err (db : Option Nat) : (NewQueryBuilder db).err = none := rfl

namespace QueryBuilder

/-- The loop `for _, col := range columns { if !ok(col) { qb.err = ...; return qb } }` of
`Select` and `GroupBy`: the first column `accept` rejects, or `none` if `accept` panics
before one is found. -/
def firstRejected (accept : String → Option Bool) : List String → Option (Option String)
  | [] => some none
  | col :: rest => (accept col).bind fun ok =>
      if ok then firstRejected accept rest else some (some col)

theorem firstRejected_of_accepted {accept : String → Option Bool} :
    ∀ {cols : List String}, (∀ col ∈ cols, accept col = some true) →
      firstRejected accept cols = some none
  | [], _ => rfl
  | col :: _, h => by
      simp only [List.mem_cons, forall_eq_or_imp] at h
      simp [firstRejected, h.1, firstRejected_of_accepted h.2]

theorem firstRejected_append_of_accepted {accept : String → Option Bool} :
    ∀ {pre : List String}, (∀ col ∈ pre, accept col = some true) → ∀ rest,
      firstRejected accept (pre ++ rest) = firstRejected accept rest
  | [], _, _ => rfl
  | col :: _, h, rest => by
      simp only [List.mem_cons, forall_eq_or_imp] at h
      simp [firstRejected, h.1, firstRejected_append_of_accepted h.2 rest]

def Table (qb : QueryBuilder) (table : String) : Option QueryBuilder :=
  (isValidIdentifier table).map fun valid =>
    if valid then { qb with table := table }
    else { qb with err := some (.quoted "invalid table name: %q" table) }

/-- The test `Select` makes of each column: `*`, a select expression, or an identifier. -/
def selectable (col : String) : Option Bool :=
  if col = "*" || isValidSelectExpression col then some true else isValidIdentifier col

def Select (qb : QueryBuilder) (columns : List String) : Option QueryBuilder :=
  (firstRejected selectable columns).map fun
    | some col => { qb with err := some (.quoted "invalid column name: %q" col) }
    | none => { qb with selectCols := columns }

/-- `Where` and `OrWhere`, which differ in their messages and connective only. -/
def whereWith (columnMsg operatorMsg logic : String) (qb : QueryBuilder)
    (column operator : String) (value : Value) : Option QueryBuilder :=
  (isValidIdentifier column).map fun valid =>
    if !valid then { qb with err := some (.quoted columnMsg column) }
    else if !isValidOperator operator then { qb with err := some (.quoted operatorMsg operator) }
    else { qb with whereConds := qb.whereConds ++ [⟨column, operator, value, logic, []⟩] }

def Where : QueryBuilder → String → String → Value → Option QueryBuilder :=
  whereWith "invalid column name in WHERE: %q" "invalid operator in WHERE: %q" "AND"

def OrWhere : QueryBuilder → String → String → Value → Option QueryBuilder :=
  whereWith "invalid column name in OrWhere: %q" "invalid operator in OrWhere: %q" "OR"

/-- `WhereIn`, `WhereBetween`, `WhereNull` and `WhereNotNull`: validate the column, then
append the condition each of them builds. -/
def whereColumn (msg : String) (qb : QueryBuilder) (column : String)
    (cond : WhereCondition) : Option QueryBuilder :=
  (isValidIdentifier column).map fun valid =>
    if valid then { qb with whereConds := qb.whereConds ++ [cond] }
    else { qb with err := some (.quoted msg column) }

/-- `fmt.Sprintf("(%s)", strings.Join(placeholders, ", "))` for `n` placeholders. -/
def inClause (n : Nat) : String := "(" ++ Strings.join (List.replicate n "?") ", " ++ ")"

def WhereIn (qb : QueryBuilder) (column : String) (values : List Value) :
    Option QueryBuilder :=
  whereColumn "invalid column name in WhereIn: %q" qb column
    ⟨column, "IN", .str (inClause values.length), "AND", values⟩

def WhereBetween (qb : QueryBuilder) (column : String) (start stop : Value) :
    Option QueryBuilder :=
  whereColumn "invalid column name in WhereBetween: %q" qb column
    ⟨column, "BETWEEN", .str "? AND ?", "AND", [start, stop]⟩

def WhereNull (qb : QueryBuilder) (column : String) : Option QueryBuilder :=
  whereColumn "invalid column name in WhereNull: %q" qb column
    ⟨column, "IS NULL", .str "", "AND", []⟩

def WhereNotNull (qb : QueryBuilder) (column : String) : Option QueryBuilder :=
  whereColumn "invalid column name in WhereNotNull: %q" qb column
    ⟨column, "IS NOT NULL", .str "", "AND", []⟩

/-- `Join`, `LeftJoin` and `RightJoin`, which differ in their messages and join type. -/
def joinWith (tableMsg onMsg joinType : String) (qb : QueryBuilder) (table joinOn : String) :
    Option QueryBuilder :=
  (isValidIdentifier table).map fun valid =>
    if !valid then { qb with err := some (.quoted tableMsg table) }
    else if !isValidJoinCondition joinOn then { qb with err := some (.quoted onMsg joinOn) }
    else { qb with joins := qb.joins ++ [⟨joinType, table, joinOn⟩] }

def Join : QueryBuilder → String → String → Option QueryBuilder :=
  joinWith "invalid table name in Join: %q" "invalid JOIN condition: %q" "INNER"

def LeftJoin : QueryBuilder → String → String → Option QueryBuilder :=
  joinWith "invalid table name in LeftJoin: %q" "invalid LEFT JOIN condition: %q" "LEFT"

def RightJoin : QueryBuilder → String → String → Option QueryBuilder :=
  joinWith "invalid table name in RightJoin: %q" "invalid RIGHT JOIN condition: %q" "RIGHT"

def OrderBy (qb : QueryBuilder) (column direction : String) : Option QueryBuilder :=
  (isValidIdentifier column).map fun valid =>
    if !valid then { qb with err := some (.quoted "invalid column name in OrderBy: %q" column) }
    else
      let direction := if direction = "" then "ASC" else direction
      let dir := Strings.toUpper direction
      if !validOrderDirection.matchString dir then
        { qb with err := some (.quoted "invalid ORDER BY direction: %q" direction) }
      else { qb with orderBy := qb.orderBy ++ [column ++ " " ++ dir] }

def GroupBy (qb : QueryBuilder) (columns : List String) : Option QueryBuilder :=
  (firstRejected isValidIdentifier columns).map fun
    | some col => { qb with err := some (.quoted "invalid column name in GroupBy: %q" col) }
    | none => { qb with groupBy := qb.groupBy ++ columns }

def Having (qb : QueryBuilder) (column operator : String) (value : Value) :
    Option QueryBuilder :=
  (isValidIdentifier column).map fun valid =>
    if !valid && !isValidSelectExpression column then
      { qb with err := some (.quoted "invalid column/expression in Having: %q" column) }
    else if !isValidOperator operator then
      { qb with err := some (.quoted "invalid operator in Having: %q" operator) }
    else { qb with having := qb.having ++ [⟨column, operator, value, "AND", []⟩] }

def Limit (qb : QueryBuilder) (count : BitVec 64) : QueryBuilder := { qb with limitCount := count }

def Offset (qb : QueryBuilder) (count : BitVec 64) : QueryBuilder :=
  { qb with offsetCount := count }

def Union (qb : QueryBuilder) (query : Nat) : QueryBuilder :=
  { qb with unionQuery := some query, unionAll := false }

def UnionAll (qb : QueryBuilder) (query : Nat) : QueryBuilder :=
  { qb with unionQuery := some query, unionAll := true }

/-- `page < 1` and `perPage < 1` are signed comparisons; `(page - 1) * perPage` wraps. -/
def Paginate (qb : QueryBuilder) (page perPage : BitVec 64) : QueryBuilder :=
  let page := if page.slt 1 then 1 else page
  let perPage := if perPage.slt 1 then 15 else perPage
  (qb.Limit perPage).Offset ((page - 1) * perPage)

def WithTrashed (qb : QueryBuilder) : QueryBuilder := { qb with includeTrashed := true }

def OnlyTrashed (qb : QueryBuilder) : Option QueryBuilder := qb.WhereNotNull "deleted_at"

/-- `Scope(scopes...)`: each scope is a function on builders, applied left to right. -/
def Scope (qb : QueryBuilder) (scopes : List (QueryBuilder → Option QueryBuilder)) :
    Option QueryBuilder :=
  scopes.foldlM (fun qb scope => scope qb) qb

end QueryBuilder

end TjoQuery
