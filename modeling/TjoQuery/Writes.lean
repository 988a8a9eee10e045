import TjoQuery.Terminal

namespace TjoQuery

open Statement

/-! The WHERE loop of `ToSQL`, `Update` and `Delete`.  The three functions each carry
their own copy of the loop `for i, cond := range qb.whereConds`, with the connective
written when `i > 0`; the copies differ only in writing to a `strings.Builder` or with
`query +=`, so the loop is written here once, as Go runs it, over the query and the
parameters written so far.  It appends `whereClause`, the rendering `assemble`, `Update`
and `Delete` are written with; so the three statements share their WHERE suffix. -/

/-- One round of the loop: the connective when `i > 0`, then the `switch cond.operator`. -/
def whereStep (acc : Statement) (i : Nat) (cond : WhereCondition) : Statement :=
  (if i > 0 then acc ++ lit (" " ++ cond.logic ++ " ") else acc) ++ cond.render

def whereLoop : Nat → List WhereCondition → Statement → Statement
  | _, [], acc => acc
  | i, cond :: rest, acc => whereLoop (i + 1) rest (whereStep acc i cond)

/-- `if len(qb.whereConds) > 0 { query += " WHERE "; for i, cond := range ... }`. -/
def whereWrite (conds : List WhereCondition) (acc : Statement) : Statement :=
  if conds.length > 0 then whereLoop 0 conds (acc ++ lit " WHERE ") else acc

theorem whereLoop_succ (i : Nat) (rest : List WhereCondition) (acc : Statement) :
    whereLoop (i + 1) rest acc =
      acc ++ concat (rest.map fun cond => lit (" " ++ cond.logic ++ " ") ++ cond.render) := by
  induction rest generalizing i acc with
  | nil => simp [whereLoop]
  | cons cond rest ih =>
      simp only [whereLoop, ih, whereStep, if_pos (Nat.succ_pos i), List.map_cons, concat_cons,
        append_assoc]

/-- The loop as Go runs it appends `whereClause`, from whatever query it starts on. -/
theorem whereWrite_eq (conds : List WhereCondition) (acc : Statement) :
    whereWrite conds acc = acc ++ whereClause conds := by
  cases conds with
  | nil => simp [whereWrite, whereClause]
  | cons cond rest =>
      simp only [whereWrite, List.length_cons, Nat.succ_pos, if_true, whereLoop, whereStep,
        lt_irrefl, if_false, whereLoop_succ, whereClause, List.isEmpty_cons, Bool.false_eq_true,
        renderConditions, append_assoc]

namespace QueryBuilder

/-- What `ToSQL` writes before its WHERE loop: the select list, the table and the joins,
none of them with a parameter. -/
def selectHead (qb : QueryBuilder) : Statement :=
  lit "SELECT " ++ lit (if qb.selectCols.isEmpty then "*" else Strings.join qb.selectCols ", ") ++
  lit (" FROM " ++ qb.table) ++
  concat (qb.joins.map fun join =>
    lit (" " ++ join.joinType ++ " JOIN " ++ join.table ++ " ON " ++ join.onText))

theorem assemble_eq_selectHead (qb : QueryBuilder) :
    ∃ tail, qb.assemble = qb.selectHead ++ whereClause qb.whereConds ++ tail :=
  ⟨_, by simp only [assemble, selectHead, append_assoc]; rfl⟩

theorem ToSQL_eq_selectHead {heap : Nat → QueryBuilder} {fuel : Nat} {qb : QueryBuilder}
    {st : Statement} (h : ToSQL heap fuel qb = some (.ok st)) :
    ∃ tail, st = qb.selectHead ++ whereClause qb.whereConds ++ tail := by
  cases fuel with
  | zero => simp at h
  | succ fuel =>
      obtain ⟨tail, htail⟩ := qb.assemble_eq_selectHead
      obtain ⟨-, -, ⟨-, rfl⟩ | ⟨_, union, -, -, rfl⟩⟩ := ToSQL_eq_ok h
      · exact ⟨tail, htail⟩
      · exact ⟨tail ++ lit (" " ++ qb.unionType ++ " ") ++ union, by
          simp only [htail, append_assoc]⟩

/-- `Update` and `Delete` write `ToSQL`'s WHERE suffix, text and parameters, after their
own head: `Delete` always, `Update` once every key of `data` has passed
`isValidIdentifier`, with the values in the order `range` visits the keys.  The first key
that fails makes `Update` return its error before anything is sent, and a key the check
panics on makes `Update` panic. -/
theorem writes_reuse_where (qb : QueryBuilder) (data : List (String × Value))
    (hErr : qb.err = none) (hTable : qb.table ≠ "") :
    (∀ heap fuel st, ToSQL heap fuel qb = some (.ok st) →
      ∃ tail, st = qb.selectHead ++ whereClause qb.whereConds ++ tail) ∧
    qb.Delete = .call (.exec qb.db
      (lit ("DELETE FROM " ++ qb.table) ++ whereClause qb.whereConds)) .pure ∧
    ((∀ key ∈ data.map Prod.fst, isValidIdentifier key = some true) →
      qb.Update data = .call (.exec qb.db (⟨"UPDATE " ++ qb.table ++ " SET " ++
        Strings.join (data.map fun entry => entry.1 ++ " = ?") ", ", data.map Prod.snd⟩ ++
        whereClause qb.whereConds)) .pure) ∧
    (∀ pre key rest, data.map Prod.fst = pre ++ key :: rest →
      (∀ k ∈ pre, isValidIdentifier k = some true) →
      (isValidIdentifier key = some false →
        qb.Update data = .pure (.error (.quoted "invalid column name in Update: %q" key))) ∧
      (isValidIdentifier key = none → qb.Update data = .abort)) := by
  have hpre : qb.precheck = none := by simp [precheck, hErr, hTable]
  refine ⟨fun _ _ _ => ToSQL_eq_selectHead, by simp [Delete, hpre], fun hvalid => ?_,
    fun pre key rest hkeys hpass => ⟨fun hkey => ?_, fun hkey => ?_⟩⟩
  · simp [Update, hpre, checkColumns, firstRejected_of_accepted hvalid]
  all_goals simp [Update, hpre, checkColumns, hkeys, firstRejected_append_of_accepted hpass,
    firstRejected, hkey]

theorem writes_reuse_where_lone_quote :
    ({ NewQueryBuilder (some 0) with
        table := "users", whereConds := [⟨"id", "=", .int 1, "AND", []⟩] } : QueryBuilder).err =
      none ∧ "users" ≠ "" ∧
    ({ NewQueryBuilder (some 0) with
        table := "users", whereConds := [⟨"id", "=", .int 1, "AND", []⟩] } : QueryBuilder).Update
      [("`", .int 1)] = .abort :=
  ⟨rfl, by decide,
    ((writes_reuse_where { NewQueryBuilder (some 0) with
        table := "users", whereConds := [⟨"id", "=", .int 1, "AND", []⟩] } [("`", .int 1)]
      rfl (by decide)).2.2.2 [] "`" [] rfl (by simp)).2 (by decide)⟩

end QueryBuilder

end TjoQuery
