import TjoQuery.Port

namespace TjoQuery

/-! The operations of `query_builder.go` that talk to the port, as programs.  The ones
that assemble a query do so with `ToSQL` over the heap of builders, so they take the heap
and `ToSQL`'s fuel; `Chunk` and `ChunkByID` loop until the data or the callback stops
them, for at most `rounds` pages.  `First` and `Count` write to the builder they are
called on, and return it beside their program. -/

open Statement

namespace QueryBuilder

/-- The checks `Insert`, `Update` and `Delete` open with, the same as `ToSQL`'s. -/
def precheck (qb : QueryBuilder) : Option Error :=
  match qb.err with
  | some e => some e
  | none => if qb.table = "" then some (.text "table name is required") else none

section Assembled

variable (heap : Nat → QueryBuilder) (fuel : Nat)

/-- `query, params, err := qb.ToSQL(); if err != nil { return ..., err }`, then `k`. -/
def withSQL {β : Type} (qb : QueryBuilder) (k : Statement → Prog (Except Error β)) :
    Prog (Except Error β) :=
  match ToSQL heap fuel qb with
  | none => .abort
  | some (.error e) => .pure (.error e)
  | some (.ok st) => k st

def Get (qb : QueryBuilder) : Prog (Except Error Rows) :=
  withSQL heap fuel qb fun st => .call (.query qb.db st) .pure

/-- `First` writes `LIMIT 1` into the builder and ignores `ToSQL`'s error, sending the
empty query `ToSQL` then returns. -/
def First (qb : QueryBuilder) : QueryBuilder × Prog (Except Error (BitVec 64)) :=
  let qb := qb.Limit 1
  (qb, match ToSQL heap fuel qb with
    | none => .abort
    | some (.error _) => .call (.queryRow qb.db (lit "")) .pure
    | some (.ok st) => .call (.queryRow qb.db st) .pure)

/-- `Count` swaps the select list for `COUNT(*)` and puts it back only once `ToSQL` has
succeeded. -/
def Count (qb : QueryBuilder) : QueryBuilder × Prog (Except Error (BitVec 64)) :=
  let counting := { qb with selectCols := ["COUNT(*)"] }
  match ToSQL heap fuel counting with
  | none => (counting, .abort)
  | some (.error e) => (counting, .pure (.error e))
  | some (.ok st) => (qb, .call (.queryRow qb.db st) .pure)

def Exists (qb : QueryBuilder) : QueryBuilder × Prog (Except Error Bool) :=
  let (qb, count) := qb.Count heap fuel
  (qb, count.bind fun
    | .error e => .pure (.error e)
    | .ok count => .pure (.ok ((0 : BitVec 64).slt count)))

/-- One page of `Chunk` and `ChunkByID`: `Get`, stop at an error or an empty page, `Get`
again for the callback, and go on to `next` while the callback answers `true`. -/
def chunkStep (page : QueryBuilder) (next : Prog (Option Error)) : Prog (Option Error) :=
  (page.Get heap fuel).bind fun
    | .error e => .pure (some e)
    | .ok [] => .pure none
    | .ok _ => (page.Get heap fuel).bind fun
        | .error e => .pure (some e)
        | .ok rows => .call (.callback rows) fun more => if more then next else .pure none

/-- The builder `Chunk` makes for a page, field by field: the fields it does not name keep
their zero values, `err` and the union among them. -/
def chunkPage (qb : QueryBuilder) (size offset : BitVec 64) : QueryBuilder where
  db := qb.db
  rawDB := qb.rawDB
  table := qb.table
  selectCols := qb.selectCols
  whereConds := qb.whereConds
  orderBy := qb.orderBy
  groupBy := qb.groupBy
  having := qb.having
  joins := qb.joins
  limitCount := size
  offsetCount := offset
  unionQuery := none
  unionAll := false
  err := none
  includeTrashed := qb.includeTrashed

def chunkFrom (qb : QueryBuilder) (size : BitVec 64) : Nat → BitVec 64 → Prog (Option Error)
  | 0, _ => .abort
  | rounds + 1, offset =>
      chunkStep heap fuel (chunkPage qb size offset) (chunkFrom qb size rounds (offset + size))

def Chunk (qb : QueryBuilder) (size : BitVec 64) (rounds : Nat) : Prog (Option Error) :=
  if size.sle 0 then .pure (some (.text "chunk size must be positive"))
  else chunkFrom heap fuel qb size rounds 0

/-- The builder `ChunkByID` makes for a page, field by field, as `chunkPage` does. -/
def idPage (qb : QueryBuilder) (size : BitVec 64) (column : String) (lastID : Value) :
    QueryBuilder where
  db := qb.db
  rawDB := qb.rawDB
  table := qb.table
  selectCols := qb.selectCols
  whereConds := qb.whereConds ++ [⟨column, ">", lastID, "AND", []⟩]
  orderBy := [column ++ " ASC"]
  groupBy := qb.groupBy
  having := qb.having
  joins := qb.joins
  limitCount := size
  offsetCount := 0
  unionQuery := none
  unionAll := false
  err := none
  includeTrashed := qb.includeTrashed

/-- The loop of `ChunkByID`: `lastID` starts at `0` and nothing assigns it again. -/
def chunkByIDFrom (qb : QueryBuilder) (size : BitVec 64) (column : String) :
    Nat → Prog (Option Error)
  | 0 => .abort
  | rounds + 1 =>
      chunkStep heap fuel (idPage qb size column (.int 0)) (chunkByIDFrom qb size column rounds)

def ChunkByID (qb : QueryBuilder) (size : BitVec 64) (column : String) (rounds : Nat) :
    Prog (Option Error) :=
  if size.sle 0 then .pure (some (.text "chunk size must be positive"))
  else match isValidIdentifier column with
    | none => .abort
    | some false => .pure (some (.quoted "invalid column name: %q" column))
    | some true => chunkByIDFrom heap fuel qb size column rounds

end Assembled

/-- The loop over `data` in `Insert` and `Update`: the first key `isValidIdentifier`
rejects, reported with `msg`, or `none` for its panic.  `data` lists the map's entries in
the order `range` visits them. -/
def checkColumns (msg : String) (data : List (String × Value)) : Option (Option Error) :=
  (firstRejected isValidIdentifier (data.map Prod.fst)).map (Option.map (Error.quoted msg))

def Insert (qb : QueryBuilder) (data : List (String × Value)) : Prog (Except Error Nat) :=
  match qb.precheck, checkColumns "invalid column name in Insert: %q" data with
  | some e, _ => .pure (.error e)
  | none, none => .abort
  | none, some (some e) => .pure (.error e)
  | none, some none =>
      .call (.exec qb.db ⟨"INSERT INTO " ++ qb.table ++ " (" ++
        Strings.join (data.map Prod.fst) ", " ++ ") VALUES (" ++
        Strings.join (data.map fun _ => "?") ", " ++ ")", data.map Prod.snd⟩) .pure

/-- `Update`'s WHERE loop is `ToSQL`'s, so it is written with the same `whereClause`. -/
def Update (qb : QueryBuilder) (data : List (String × Value)) : Prog (Except Error Nat) :=
  match qb.precheck, checkColumns "invalid column name in Update: %q" data with
  | some e, _ => .pure (.error e)
  | none, none => .abort
  | none, some (some e) => .pure (.error e)
  | none, some none =>
      .call (.exec qb.db (⟨"UPDATE " ++ qb.table ++ " SET " ++
        Strings.join (data.map fun entry => entry.1 ++ " = ?") ", ", data.map Prod.snd⟩ ++
        whereClause qb.whereConds)) .pure

def Delete (qb : QueryBuilder) : Prog (Except Error Nat) :=
  match qb.precheck with
  | some e => .pure (.error e)
  | none =>
      .call (.exec qb.db (lit ("DELETE FROM " ++ qb.table) ++ whereClause qb.whereConds)) .pure

def Raw (qb : QueryBuilder) (st : Statement) : Prog (Except Error Rows) :=
  .call (.query qb.db st) .pure

def RawExec (qb : QueryBuilder) (st : Statement) : Prog (Except Error Nat) :=
  .call (.exec qb.db st) .pure

def SoftDelete (qb : QueryBuilder) : Prog (Except Error Nat) :=
  qb.Update [("deleted_at", .str "NOW()")]

def Restore (qb : QueryBuilder) : Prog (Except Error Nat) := qb.Update [("deleted_at", .null)]

def ForceDelete (qb : QueryBuilder) : Prog (Except Error Nat) := qb.Delete

def HasMany (qb : QueryBuilder) (relatedTable foreignKey : String) (id : Value) :
    Option QueryBuilder :=
  ((newQueryBuilderWithDB qb.db qb.rawDB).Table relatedTable).bind (·.Where foreignKey "=" id)

/-- `BelongsTo` matches on `id`, whatever `foreignKey` it is given. -/
def BelongsTo (qb : QueryBuilder) (relatedTable foreignKey : String) (fkValue : Value) :
    Option QueryBuilder :=
  ((newQueryBuilderWithDB qb.db qb.rawDB).Table relatedTable).bind (·.Where "id" "=" fkValue)

/-- `Transaction` begins on `rawDB`, hands `fn` a builder on the transaction (keeping
`rawDB`), and commits or rolls back on what `fn` returns. -/
def Transaction (qb : QueryBuilder) (fn : QueryBuilder → Prog (Option Error)) :
    Prog (Option Error) :=
  match qb.rawDB with
  | none => .pure (some (.text "cannot start transaction: no database connection"))
  | some db => .call (.begin db) fun
      | .error e => .pure (some (.wrapped "failed to begin transaction: %w" e))
      | .ok tx => (fn (newQueryBuilderWithDB (.tx tx) qb.rawDB)).bind fun
          | some err => .call (.rollback tx) fun
              | some rbErr => .pure (some (.rollbackFailed rbErr err))
              | none => .pure (some err)
          | none => .call (.commit tx) fun
              | some e => .pure (some (.wrapped "failed to commit transaction: %w" e))
              | none => .pure none

end QueryBuilder

namespace Model

section Operations

variable (heap : Nat → QueryBuilder) (fuel : Nat)

/-- `m.Query(db).Where(m.primaryKey, "=", id).First()`. -/
def Find (m : Model) (db : Option Nat) (id : Value) : Prog (Except Error (BitVec 64)) :=
  match (m.Query db).bind (·.Where m.primaryKey "=" id) with
  | none => .abort
  | some qb => (qb.First heap fuel).2

def All (m : Model) (db : Option Nat) : Prog (Except Error Rows) :=
  match m.Query db with
  | none => .abort
  | some qb => qb.Get heap fuel

end Operations

/-- `Create`, `Update` and `Delete` start from `NewQueryBuilder(db).Table(m.table)`, not
from `Query`, so they add no soft-delete condition. -/
def Create (m : Model) (db : Option Nat) (data : List (String × Value)) :
    Prog (Except Error Nat) :=
  match (NewQueryBuilder db).Table m.table with
  | none => .abort
  | some qb => qb.Insert data

def Update (m : Model) (db : Option Nat) (id : Value) (data : List (String × Value)) :
    Prog (Except Error Nat) :=
  match ((NewQueryBuilder db).Table m.table).bind (·.Where m.primaryKey "=" id) with
  | none => .abort
  | some qb => qb.Update data

def Delete (m : Model) (db : Option Nat) (id : Value) : Prog (Except Error Nat) :=
  match ((NewQueryBuilder db).Table m.table).bind (·.Where m.primaryKey "=" id) with
  | none => .abort
  | some qb => qb.Delete

end Model

end TjoQuery
