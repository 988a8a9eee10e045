import TjoQuery.Assemble

namespace TjoQuery

/-! `model.go`: table metadata and the builder `Query` hands out, with a
`deleted_at IS NULL` condition when soft delete is on; and what a WHERE clause means.
`ToSQL` writes the conditions flat, each after its own connective, so the clause is read
with SQL precedence: `AND` binds tighter than `OR`. -/

open QueryBuilder Statement

structure Model where
  table : String
  primaryKey : String
  softDelete : Bool
  deriving DecidableEq, Repr

def NewModel (table : String) : Model := ⟨table, "id", false⟩

namespace Model

def WithPrimaryKey (m : Model) (pk : String) : Model := { m with primaryKey := pk }

def WithSoftDelete (m : Model) : Model := { m with softDelete := true }

def Query (m : Model) (db : Option Nat) : Option QueryBuilder :=
  (isValidIdentifier m.table).bind fun valid =>
    if !valid then
      some { NewQueryBuilder db with err := some (.quoted "invalid table name: %q" m.table) }
    else ((NewQueryBuilder db).Table m.table).bind fun qb =>
      if m.softDelete then qb.WhereNull "deleted_at" else some qb

end Model

/-- The condition `WhereNull("deleted_at")` appends. -/
def trashedFilter : WhereCondition := ⟨"deleted_at", "IS NULL", .str "", "AND", []⟩

/-! ## What a WHERE clause admits -/

def Row := String → Option Value

/-- Whether one condition holds of a row: the null tests by their meaning, any other
operator as the database's `compare` decides. -/
def WhereCondition.holds (compare : WhereCondition → Row → Bool) (row : Row)
    (cond : WhereCondition) : Bool :=
  match cond.operator with
  | "IS NULL" => (row cond.column).isNone
  | "IS NOT NULL" => (row cond.column).isSome
  | _ => compare cond row

def orGroups (group : List WhereCondition) : List WhereCondition → List (List WhereCondition)
  | [] => [group]
  | cond :: rest =>
      if cond.logic = "OR" then group :: orGroups [cond] rest
      else orGroups (group ++ [cond]) rest

/-- A WHERE clause read with `AND` binding tighter than `OR`: it holds when every condition
of some group holds.  No condition admits every row. -/
def whereHolds (holds : WhereCondition → Bool) : List WhereCondition → Bool
  | [] => true
  | cond :: rest => (orGroups [cond] rest).any fun group => group.all holds

/-! ## Soft delete -/

def Mutator.joinsWithOr : Mutator → Bool
  | .OrWhere .. => true
  | _ => false

/-- `deleted_at IS NULL` first, and every later condition joined with `AND`. -/
def ExcludesTrashed (qb : QueryBuilder) : Prop :=
  ∃ rest, qb.whereConds = trashedFilter :: rest ∧ ∀ c ∈ rest, c.logic = "AND"

def softPosts : Model := (NewModel "posts").WithSoftDelete

def trashedPost : Row := fun col =>
  if col = "deleted_at" then some (.str "2024-01-01 00:00:00")
  else if col = "id" then some (.int 1) else none

/-! ## Trashed visibility -/

/-- On a soft-delete model's builder `WithTrashed` leaves `deleted_at IS NULL` in place, and
`OnlyTrashed` adds `deleted_at IS NOT NULL` beside it; the plain builder has neither. -/
theorem trashed_scopes_keep_soft_delete_filter :
    ((softPosts.Query none).map QueryBuilder.WithTrashed).bind
        (ToSQL (fun _ => NewQueryBuilder none) 1) =
      some (.ok (lit "SELECT * FROM posts WHERE deleted_at IS NULL")) ∧
    ((NewQueryBuilder none).Table "posts").bind (ToSQL (fun _ => NewQueryBuilder none) 1) =
      some (.ok (lit "SELECT * FROM posts")) ∧
    ((softPosts.Query none).bind QueryBuilder.OnlyTrashed).bind
        (ToSQL (fun _ => NewQueryBuilder none) 1) =
      some (.ok (lit "SELECT * FROM posts WHERE deleted_at IS NULL AND deleted_at IS NOT NULL")) ∧
    (((NewQueryBuilder none).Table "posts").bind (·.WhereNotNull "deleted_at")).bind
        (ToSQL (fun _ => NewQueryBuilder none) 1) =
      some (.ok (lit "SELECT * FROM posts WHERE deleted_at IS NOT NULL")) := by
  decide

end TjoQuery
