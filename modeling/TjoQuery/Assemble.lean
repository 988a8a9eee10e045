import TjoQuery.Mutator

namespace TjoQuery

/-! `ToSQL`.  The SQL text and the parameter list are written side by side, so the model
writes them as one `Statement` and builds the query by appending statements, in the
order of `ToSQL`'s `WriteString` and `append` calls.  The union child is a pointer: the
builders live in a heap, and `ToSQL` follows the pointer with fuel, `none` when the fuel
runs out. -/

instance decEqExcept {ε α : Type} [DecidableEq ε] [DecidableEq α] : DecidableEq (Except ε α)
  | .error x, .error y => decidable_of_iff (x = y) (by simp)
  | .ok x, .ok y => decidable_of_iff (x = y) (by simp)
  | .error _, .ok _ => isFalse (by simp)
  | .ok _, .error _ => isFalse (by simp)

@[ext] structure Statement where
  text : String
  params : List Value
  deriving DecidableEq, Repr

namespace Statement

instance : Append Statement := ⟨fun a b => ⟨a.text ++ b.text, a.params ++ b.params⟩⟩

def lit (text : String) : Statement := ⟨text, []⟩

def concat (parts : List Statement) : Statement := parts.foldr (· ++ ·) (lit "")

@[simp] theorem append_text (a b : Statement) : (a ++ b).text = a.text ++ b.text := rfl

@[simp] theorem append_params (a b : Statement) : (a ++ b).params = a.params ++ b.params := rfl

@[simp] theorem lit_text (text : String) : (lit text).text = text := rfl

@[simp] theorem lit_params (text : String) : (lit text).params = [] := rfl

theorem append_assoc (a b c : Statement) : a ++ b ++ c = a ++ (b ++ c) := by
  apply Statement.ext <;> simp [String.append_assoc]

@[simp] theorem append_lit_empty (a : Statement) : a ++ lit "" = a := by
  apply Statement.ext <;> simp

@[simp] theorem concat_nil : concat [] = lit "" := rfl

@[simp] theorem concat_cons (s : Statement) (parts : List Statement) :
    concat (s :: parts) = s ++ concat parts := rfl

end Statement

open Statement

/-- One WHERE condition as the `switch cond.operator` of `ToSQL`, `Update` and `Delete`
writes it: no placeholder for the null tests, the stored value text and its parameters
for `IN` and `BETWEEN`, one placeholder otherwise. -/
def WhereCondition.render (cond : WhereCondition) : Statement :=
  match cond.operator with
  | "IS NULL" | "IS NOT NULL" => lit (cond.column ++ " " ++ cond.operator)
  | "IN" | "BETWEEN" =>
      ⟨cond.column ++ " " ++ cond.operator ++ " " ++ cond.value.formatS, cond.params⟩
  | _ => ⟨cond.column ++ " " ++ cond.operator ++ " ?", [cond.value]⟩

/-- One HAVING condition: always `column operator ?`. -/
def WhereCondition.renderHaving (cond : WhereCondition) : Statement :=
  ⟨cond.column ++ " " ++ cond.operator ++ " ?", [cond.value]⟩

/-- The loop `for i, cond := range conds { if i > 0 { " LOGIC " }; cond }`: every
condition after the first is preceded by its own connective. -/
def renderConditions (render : WhereCondition → Statement) : List WhereCondition → Statement
  | [] => lit ""
  | cond :: rest =>
      render cond ++ concat (rest.map fun cond => lit (" " ++ cond.logic ++ " ") ++ render cond)

/-- `if len(conds) > 0 { " WHERE " ...}`, shared verbatim by `ToSQL`, `Update` and
`Delete`. -/
def whereClause (conds : List WhereCondition) : Statement :=
  if conds.isEmpty then lit "" else lit " WHERE " ++ renderConditions WhereCondition.render conds

namespace QueryBuilder

/-- `ToSQL` from `SELECT` to `OFFSET`, the part that does not follow the union pointer. -/
def assemble (qb : QueryBuilder) : Statement :=
  lit "SELECT " ++ lit (if qb.selectCols.isEmpty then "*" else Strings.join qb.selectCols ", ") ++
  lit (" FROM " ++ qb.table) ++
  concat (qb.joins.map fun join =>
    lit (" " ++ join.joinType ++ " JOIN " ++ join.table ++ " ON " ++ join.onText)) ++
  whereClause qb.whereConds ++
  (if qb.groupBy.isEmpty then lit "" else lit (" GROUP BY " ++ Strings.join qb.groupBy ", ")) ++
  (if qb.having.isEmpty then lit ""
    else lit " HAVING " ++ renderConditions WhereCondition.renderHaving qb.having) ++
  (if qb.orderBy.isEmpty then lit "" else lit (" ORDER BY " ++ Strings.join qb.orderBy ", ")) ++
  (if (0 : BitVec 64).slt qb.limitCount then lit (" LIMIT " ++ toString qb.limitCount.toInt)
    else lit "") ++
  (if (0 : BitVec 64).slt qb.offsetCount then lit (" OFFSET " ++ toString qb.offsetCount.toInt)
    else lit "")

def unionType (qb : QueryBuilder) : String := if qb.unionAll then "UNION ALL" else "UNION"

/-- The end of `ToSQL` once the union child is assembled: its error is returned, its
statement is written after ` UNION ` or ` UNION ALL `. -/
def withUnion (qb : QueryBuilder) : Except Error Statement → Except Error Statement
  | .error e => .error e
  | .ok union => .ok (qb.assemble ++ lit (" " ++ qb.unionType ++ " ") ++ union)

/-- `ToSQL`, over the heap `heap` that the union pointers point into. -/
def ToSQL (heap : Nat → QueryBuilder) : Nat → QueryBuilder → Option (Except Error Statement)
  | 0, _ => none
  | fuel + 1, qb =>
      match qb.err with
      | some e => some (.error e)
      | none =>
          if qb.table = "" then some (.error (.text "table name is required"))
          else match qb.unionQuery with
            | none => some (.ok qb.assemble)
            | some child => (ToSQL heap fuel (heap child)).map qb.withUnion

@[simp] theorem ToSQL_zero (heap : Nat → QueryBuilder) (qb : QueryBuilder) :
    ToSQL heap 0 qb = none := rfl

theorem ToSQL_eq_ok {heap : Nat → QueryBuilder} {fuel : Nat} {qb : QueryBuilder}
    {st : Statement} (h : ToSQL heap (fuel + 1) qb = some (.ok st)) :
    qb.err = none ∧ qb.table ≠ "" ∧
      (qb.unionQuery = none ∧ st = qb.assemble ∨
        ∃ child union, qb.unionQuery = some child ∧
          ToSQL heap fuel (heap child) = some (.ok union) ∧
          st = qb.assemble ++ lit (" " ++ qb.unionType ++ " ") ++ union) := by
  unfold ToSQL at h
  cases herr : qb.err with
  | some e => simp [herr] at h
  | none =>
      simp only [herr] at h
      by_cases htable : qb.table = ""
      · simp [htable] at h
      · simp only [htable, if_false] at h
        refine ⟨rfl, htable, ?_⟩
        cases hunion : qb.unionQuery with
        | none => simp_all
        | some child =>
            simp only [hunion] at h
            obtain ⟨r, hr, hst⟩ := Option.map_eq_some'.mp h
            cases r with
            | error e => cases hst
            | ok union =>
                simp only [withUnion, Except.ok.injEq] at hst
                exact .inr ⟨child, union, rfl, hr, hst.symm⟩

end QueryBuilder

end TjoQuery
