import TjoQuery.Chunking

namespace TjoQuery

/-! The database behind the port of `Get`, `Count` and `Exists`: it evaluates the SELECT
that `ToSQL` emitted over finite tables, the clauses in SQL's order: the rows of FROM,
WHERE, the groups (GROUP BY, or a single group for a select list with an aggregate),
HAVING, the select list, ORDER BY, OFFSET and LIMIT, and then the UNION with the child's
rows.  What the builder's text leaves to the database (the rows a table and its joins
hold, how one condition compares, what a projection or an aggregate computes, the sort
order) is a field of `Database`; `COUNT(*)` is the size of its group. -/

open Statement QueryBuilder

structure Database where
  /-- The rows of `FROM table` with its joins. -/
  source : String → List JoinClause → Rows
  /-- Whether a row satisfies a WHERE condition other than the null tests. -/
  compare : WhereCondition → Row → Bool
  /-- Whether a group satisfies a HAVING condition. -/
  having : WhereCondition → Rows → Bool
  /-- Whether the first row may come before the second under an ORDER BY list. -/
  before : List String → Row → Row → Bool
  /-- A select list of plain columns, read from one row. -/
  project : List String → Row → Row
  /-- A select list with an aggregate, over a group; its `COUNT(*)` is not read from here. -/
  aggregate : List String → Rows → Row
  /-- The values of a result row in column order, which `UNION` compares rows by. -/
  tuple : Row → List (Option Value)

def aggregating (cols : List String) : Bool :=
  cols.any fun col => aggregateFuncs.matchString (Strings.toUpper col)

theorem aggregating_count : aggregating ["COUNT(*)"] = true := by decide

def groupKey (cols : List String) (row : Row) : List (Option Value) := cols.map row

def groupRows (cols : List String) (rows : Rows) : List Rows :=
  (rows.map (groupKey cols)).eraseDups.map fun key => rows.filter fun row => groupKey cols row = key

def groups (b : QueryBuilder) (rows : Rows) : List Rows :=
  if b.groupBy.isEmpty then
    if aggregating b.selectCols then [rows] else rows.map ([·])
  else groupRows b.groupBy rows

/-- `UNION`'s duplicate removal: a row is kept when no row before it has its values. -/
def distinctBy (tuple : Row → List (Option Value)) (seen : List (List (Option Value))) :
    Rows → Rows
  | [] => []
  | row :: rest =>
      if tuple row ∈ seen then distinctBy tuple seen rest
      else row :: distinctBy tuple (tuple row :: seen) rest

namespace Database

variable (D : Database)

def filtered (b : QueryBuilder) : Rows :=
  (D.source b.table b.joins).filter fun row =>
    whereHolds (WhereCondition.holds D.compare row) b.whereConds

def aggregateRow (cols : List String) (group : Rows) : Row := fun col =>
  if col = "COUNT(*)" then some (.int group.length) else D.aggregate cols group col

def output (cols : List String) (group : Rows) : Row :=
  if aggregating cols then D.aggregateRow cols group
  else D.project cols (group.headD fun _ => none)

def arrange (b : QueryBuilder) (out : Rows) : Rows :=
  let sorted := if b.orderBy.isEmpty then out else out.mergeSort (D.before b.orderBy)
  let skipped :=
    if (0 : BitVec 64).slt b.offsetCount then sorted.drop b.offsetCount.toNat else sorted
  if (0 : BitVec 64).slt b.limitCount then skipped.take b.limitCount.toNat else skipped

def selectOwn (b : QueryBuilder) : Rows :=
  D.arrange b (((groups b (D.filtered b)).filter fun group =>
    whereHolds (D.having · group) b.having).map (D.output b.selectCols))

/-- The rows of the statement `ToSQL heap fuel b` emits, following the union pointer with
the same fuel. -/
def select (heap : Nat → QueryBuilder) : Nat → QueryBuilder → Rows
  | 0, _ => []
  | fuel + 1, b =>
      match b.unionQuery with
      | none => D.selectOwn b
      | some child =>
          let rows := List.append (D.selectOwn b) (select heap fuel (heap child))
          if b.unionAll then rows else distinctBy D.tuple [] rows

end Database

def scanInt (col : String) : Rows → Except Error (BitVec 64)
  | [] => .error (.text "sql: no rows in result set")
  | row :: _ =>
      match row col with
      | some (.int n) => .ok (BitVec.ofInt 64 n)
      | _ => .error (.text "sql: Scan error on column index 0")

/-- The port answers the statement `ToSQL` emits for `b` as `D` evaluates it: `Query` with
its rows, `QueryRow` with the scan of its first column. -/
def Evaluates (D : Database) (heap : Nat → QueryBuilder) (fuel : Nat)
    (answer : List Call → (c : Call) → c.Answer) (b : QueryBuilder) : Prop :=
  ∀ st, ToSQL heap fuel b = some (.ok st) → ∀ t,
    answer t (.query b.db st) = .ok (D.select heap fuel b) ∧
      answer t (.queryRow b.db st) = scanInt (b.selectCols.headD "*") (D.select heap fuel b)

/-! ## `Count` and `Get` -/

section Counting

variable {D : Database} {b : QueryBuilder}

@[simp] theorem filtered_with_selectCols (cols : List String) :
    D.filtered { b with selectCols := cols } = D.filtered b := rfl

@[simp] theorem toInt_zero64 : (0 : BitVec 64).toInt = 0 := rfl

theorem toNat_pos_of_slt {x : BitVec 64} (h : (0 : BitVec 64).slt x = true) : 0 < x.toNat := by
  simp only [BitVec.slt, decide_eq_true_eq, toInt_zero64] at h
  rw [BitVec.toInt_eq_toNat_cond] at h
  split at h <;> omega

theorem length_arrange (hlimit : ¬ (0 : BitVec 64).slt b.limitCount = true)
    (hoffset : ¬ (0 : BitVec 64).slt b.offsetCount = true) (out : Rows) :
    (D.arrange b out).length = out.length := by
  simp only [Database.arrange, hlimit, hoffset, if_false, Bool.false_eq_true]
  split <;> simp

theorem arrange_singleton (hoffset : ¬ (0 : BitVec 64).slt b.offsetCount = true) (row : Row) :
    D.arrange b [row] = [row] := by
  have hsorted : (if b.orderBy.isEmpty then [row] else [row].mergeSort (D.before b.orderBy)) =
      [row] := by
    split <;> simp
  simp only [Database.arrange, hsorted, hoffset, if_false, Bool.false_eq_true]
  split
  · next hpos => exact List.take_of_length_le (toNat_pos_of_slt hpos)
  · rfl

theorem length_selectOwn_of_plain (hgroup : b.groupBy = []) (hhaving : b.having = [])
    (hlimit : ¬ (0 : BitVec 64).slt b.limitCount = true)
    (hoffset : ¬ (0 : BitVec 64).slt b.offsetCount = true)
    (hplain : aggregating b.selectCols = false) :
    (D.selectOwn b).length = (D.filtered b).length := by
  simp [Database.selectOwn, length_arrange hlimit hoffset, groups, hgroup, hhaving, hplain,
    whereHolds]

theorem selectOwn_counting (hgroup : b.groupBy = []) (hhaving : b.having = [])
    (hoffset : ¬ (0 : BitVec 64).slt b.offsetCount = true) :
    D.selectOwn { b with selectCols := ["COUNT(*)"] } =
      [D.aggregateRow ["COUNT(*)"] (D.filtered b)] := by
  have hout : (((groups { b with selectCols := ["COUNT(*)"] } (D.filtered b)).filter fun group =>
      whereHolds (D.having · group) b.having).map (D.output ["COUNT(*)"])) =
      [D.aggregateRow ["COUNT(*)"] (D.filtered b)] := by
    simp [groups, hgroup, hhaving, aggregating_count, whereHolds, Database.output]
  exact (congrArg _ hout).trans (arrange_singleton hoffset _)

end Counting

theorem slt_ofNat_iff {n : Nat} (h : n < 2 ^ 63) :
    (0 : BitVec 64).slt (BitVec.ofNat 64 n) = true ↔ 0 < n := by
  have hmod : n % 2 ^ 64 = n := Nat.mod_eq_of_lt (by omega)
  simp only [BitVec.slt, decide_eq_true_eq, toInt_zero64]
  rw [BitVec.toInt_eq_toNat_cond, BitVec.toNat_ofNat, hmod, if_pos (by omega)]
  omega

section Terminal

variable {D : Database} {heap : Nat → QueryBuilder} {fuel : Nat}
  {answer : List Call → (c : Call) → c.Answer} {qb : QueryBuilder}

theorem select_of_union_none {b : QueryBuilder} (hunion : b.unionQuery = none) :
    D.select heap (fuel + 1) b = D.selectOwn b := by
  simp [Database.select, hunion]

/-- For a builder with no error, a table, and no UNION, GROUP BY, HAVING, LIMIT, OFFSET or
aggregate in its select list, over a port that evaluates the statements of `Get` and
`Count`: `Get` returns a row for each row WHERE admits, `Count` their number as an `int64`,
and `Exists` whether that number is positive, which below `2^63` is whether `Get` returns
a row. -/
theorem Count_agrees_with_Get (herr : qb.err = none) (htable : qb.table ≠ "")
    (hunion : qb.unionQuery = none) (hgroup : qb.groupBy = []) (hhaving : qb.having = [])
    (hlimit : ¬ (0 : BitVec 64).slt qb.limitCount = true)
    (hoffset : ¬ (0 : BitVec 64).slt qb.offsetCount = true)
    (hplain : aggregating qb.selectCols = false)
    (hget : Evaluates D heap (fuel + 1) answer qb)
    (hcount : Evaluates D heap (fuel + 1) answer { qb with selectCols := ["COUNT(*)"] }) :
    ((qb.Get heap (fuel + 1)).run answer []).1 = some (.ok (D.selectOwn qb)) ∧
      (D.selectOwn qb).length = (D.filtered qb).length ∧
      ((qb.Count heap (fuel + 1)).2.run answer []).1 =
        some (.ok (BitVec.ofNat 64 (D.selectOwn qb).length)) ∧
      ((qb.Exists heap (fuel + 1)).2.run answer []).1 =
        some (.ok ((0 : BitVec 64).slt (BitVec.ofNat 64 (D.selectOwn qb).length))) ∧
      ((D.selectOwn qb).length < 2 ^ 63 →
        ((0 : BitVec 64).slt (BitVec.ofNat 64 (D.selectOwn qb).length) = true ↔
          (D.selectOwn qb).length ≠ 0)) := by
  have hsql : ToSQL heap (fuel + 1) qb = some (.ok qb.assemble) := by
    simp [ToSQL, herr, htable, hunion]
  have hsqlCount : ToSQL heap (fuel + 1) { qb with selectCols := ["COUNT(*)"] } =
      some (.ok { qb with selectCols := ["COUNT(*)"] }.assemble) := by
    simp [ToSQL, herr, htable, hunion]
  have hlength := length_selectOwn_of_plain (D := D) hgroup hhaving hlimit hoffset hplain
  have hscan : answer [] (.queryRow qb.db { qb with selectCols := ["COUNT(*)"] }.assemble) =
      .ok (BitVec.ofNat 64 (D.selectOwn qb).length) := by
    rw [(hcount _ hsqlCount []).2,
      @select_of_union_none D heap fuel { qb with selectCols := ["COUNT(*)"] } hunion,
      selectOwn_counting hgroup hhaving hoffset]
    simp [scanInt, Database.aggregateRow, hlength]
  have hcountProg : (qb.Count heap (fuel + 1)).2 =
      .call (.queryRow qb.db { qb with selectCols := ["COUNT(*)"] }.assemble) .pure := by
    simp only [Count, hsqlCount]
  refine ⟨?_, hlength, ?_, ?_, fun hsmall => (slt_ofNat_iff hsmall).trans Nat.pos_iff_ne_zero⟩
  · simp [Get, withSQL, hsql, (hget _ hsql []).1, select_of_union_none hunion]
  · rw [hcountProg, Prog.run_call, hscan]
    rfl
  · simp only [QueryBuilder.Exists, hcountProg, Prog.call_bind, Prog.run_call, hscan]
    rfl

def evalPort (D : Database) (heap : Nat → QueryBuilder) (fuel : Nat) (bs : List QueryBuilder) :
    List Call → (c : Call) → c.Answer
  | _, .query _ st =>
      match bs.find? fun b => ToSQL heap fuel b = some (.ok st) with
      | some b => .ok (D.select heap fuel b)
      | none => .ok []
  | _, .queryRow _ st =>
      match bs.find? fun b => ToSQL heap fuel b = some (.ok st) with
      | some b => scanInt (b.selectCols.headD "*") (D.select heap fuel b)
      | none => .error (.text "sql: no rows in result set")
  | _, .exec .. | _, .begin _ => .ok 0
  | _, .commit _ | _, .rollback _ => none
  | _, .callback _ => false

theorem evalPort_evaluates {D : Database} {bs : List QueryBuilder} {b : QueryBuilder}
    {st₀ : Statement} (hsql : ToSQL heap fuel b = some (.ok st₀))
    (hfind : (bs.find? fun b' => ToSQL heap fuel b' = some (.ok st₀)) = some b) :
    Evaluates D heap fuel (evalPort D heap fuel bs) b := by
  intro st hst t
  rw [hsql, Option.some.injEq, Except.ok.injEq] at hst
  subst hst
  constructor <;> simp [evalPort, hfind]

def threeRowDb : Database where
  source _ _ := threeRows
  compare _ _ := true
  having _ _ := true
  before _ _ _ := true
  project _ row := row
  aggregate _ _ _ := none
  tuple _ := []

def threeRowPort (qb : QueryBuilder) : List Call → (c : Call) → c.Answer :=
  evalPort threeRowDb (fun _ => usersTable) 1 [qb, { qb with selectCols := ["COUNT(*)"] }]

theorem Count_agrees_with_Get_users :
    Evaluates threeRowDb (fun _ => usersTable) 1 (threeRowPort usersTable) usersTable ∧
      Evaluates threeRowDb (fun _ => usersTable) 1 (threeRowPort usersTable)
        { usersTable with selectCols := ["COUNT(*)"] } ∧
      ((usersTable.Get (fun _ => usersTable) 1).run (threeRowPort usersTable) []).1 =
          some (.ok (threeRowDb.selectOwn usersTable)) ∧
        (threeRowDb.selectOwn usersTable).length = (threeRowDb.filtered usersTable).length ∧
        ((usersTable.Count (fun _ => usersTable) 1).2.run (threeRowPort usersTable) []).1 =
          some (.ok (BitVec.ofNat 64 (threeRowDb.selectOwn usersTable).length)) ∧
        ((usersTable.Exists (fun _ => usersTable) 1).2.run (threeRowPort usersTable) []).1 =
          some (.ok ((0 : BitVec 64).slt
            (BitVec.ofNat 64 (threeRowDb.selectOwn usersTable).length))) ∧
        ((threeRowDb.selectOwn usersTable).length < 2 ^ 63 →
          ((0 : BitVec 64).slt (BitVec.ofNat 64 (threeRowDb.selectOwn usersTable).length) = true ↔
            (threeRowDb.selectOwn usersTable).length ≠ 0)) := by
  have hget : Evaluates threeRowDb (fun _ => usersTable) 1 (threeRowPort usersTable) usersTable :=
    evalPort_evaluates rfl rfl
  have hcount : Evaluates threeRowDb (fun _ => usersTable) 1 (threeRowPort usersTable)
      { usersTable with selectCols := ["COUNT(*)"] } :=
    evalPort_evaluates rfl rfl
  exact ⟨hget, hcount, Count_agrees_with_Get rfl (by decide) rfl rfl rfl (by decide) (by decide)
    (by decide) hget hcount⟩

/-- `Table("users").Limit(1)` over three rows: `Get` returns one row and `Count` three.
With `Offset(1)` instead, `Get` returns two rows and `Count` has no row to scan. -/
theorem Count_ignores_limit :
    Evaluates threeRowDb (fun _ => usersTable) 1 (threeRowPort (usersTable.Limit 1))
        (usersTable.Limit 1) ∧
      Evaluates threeRowDb (fun _ => usersTable) 1 (threeRowPort (usersTable.Limit 1))
        { usersTable.Limit 1 with selectCols := ["COUNT(*)"] } ∧
      (((usersTable.Limit 1).Get (fun _ => usersTable) 1).run
          (threeRowPort (usersTable.Limit 1)) []).1.map
          (Except.map fun rows : Rows => rows.length) =
        some (.ok 1) ∧
      (((usersTable.Limit 1).Count (fun _ => usersTable) 1).2.run
          (threeRowPort (usersTable.Limit 1)) []).1 = some (.ok 3) ∧
      Evaluates threeRowDb (fun _ => usersTable) 1 (threeRowPort (usersTable.Offset 1))
        (usersTable.Offset 1) ∧
      Evaluates threeRowDb (fun _ => usersTable) 1 (threeRowPort (usersTable.Offset 1))
        { usersTable.Offset 1 with selectCols := ["COUNT(*)"] } ∧
      (((usersTable.Offset 1).Get (fun _ => usersTable) 1).run
          (threeRowPort (usersTable.Offset 1)) []).1.map
          (Except.map fun rows : Rows => rows.length) =
        some (.ok 2) ∧
      (((usersTable.Offset 1).Count (fun _ => usersTable) 1).2.run
          (threeRowPort (usersTable.Offset 1)) []).1 =
        some (.error (.text "sql: no rows in result set")) :=
  ⟨evalPort_evaluates rfl rfl, evalPort_evaluates rfl rfl, by decide, by decide,
    evalPort_evaluates rfl rfl, evalPort_evaluates rfl rfl, by decide, by decide⟩

end Terminal

end TjoQuery
