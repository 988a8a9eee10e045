import TjoQuery.Builder

namespace TjoQuery

/-! The public mutators as data, so that a chain of calls can be quantified over.  Every
call splits into a validation that never reads the builder and, when it passes, an
update of the one field the call is about; a failed validation writes `err` and nothing
else. -/

inductive Mutator
  | Table (table : String)
  | Select (columns : List String)
  | Where (column operator : String) (value : Value)
  | OrWhere (column operator : String) (value : Value)
  | WhereIn (column : String) (values : List Value)
  | WhereBetween (column : String) (start stop : Value)
  | WhereNull (column : String)
  | WhereNotNull (column : String)
  | Join (table joinOn : String)
  | LeftJoin (table joinOn : String)
  | RightJoin (table joinOn : String)
  | OrderBy (column direction : String)
  | GroupBy (columns : List String)
  | Having (column operator : String) (value : Value)
  | Limit (count : BitVec 64)
  | Offset (count : BitVec 64)
  | Paginate (page perPage : BitVec 64)
  | Union (query : Nat)
  | UnionAll (query : Nat)
  | WithTrashed
  | OnlyTrashed

namespace Mutator

open QueryBuilder

def apply : Mutator → QueryBuilder → Option QueryBuilder
  | Table table, qb => qb.Table table
  | Select columns, qb => qb.Select columns
  | Where column operator value, qb => qb.Where column operator value
  | OrWhere column operator value, qb => qb.OrWhere column operator value
  | WhereIn column values, qb => qb.WhereIn column values
  | WhereBetween column start stop, qb => qb.WhereBetween column start stop
  | WhereNull column, qb => qb.WhereNull column
  | WhereNotNull column, qb => qb.WhereNotNull column
  | Join table joinOn, qb => qb.Join table joinOn
  | LeftJoin table joinOn, qb => qb.LeftJoin table joinOn
  | RightJoin table joinOn, qb => qb.RightJoin table joinOn
  | OrderBy column direction, qb => qb.OrderBy column direction
  | GroupBy columns, qb => qb.GroupBy columns
  | Having column operator value, qb => qb.Having column operator value
  | Limit count, qb => some (qb.Limit count)
  | Offset count, qb => some (qb.Offset count)
  | Paginate page perPage, qb => some (qb.Paginate page perPage)
  | Union query, qb => some (qb.Union query)
  | UnionAll query, qb => some (qb.UnionAll query)
  | WithTrashed, qb => some qb.WithTrashed
  | OnlyTrashed, qb => qb.OnlyTrashed

/-- A chain of calls on one builder; `none` once a call panics. -/
def run (qb : QueryBuilder) (chain : List Mutator) : Option QueryBuilder :=
  chain.foldlM (fun qb m => m.apply qb) qb

/-- What the validation of a call decides, read off the call on a fresh builder:
`none` for a panic, `some (some e)` when it records `e`, `some none` when it passes. -/
def check (m : Mutator) : Option (Option Error) :=
  (m.apply (NewQueryBuilder none)).map QueryBuilder.err

def effect : Mutator → QueryBuilder → QueryBuilder
  | Table table, qb => { qb with table := table }
  | Select columns, qb => { qb with selectCols := columns }
  | Where column operator value, qb =>
      { qb with whereConds := qb.whereConds ++ [⟨column, operator, value, "AND", []⟩] }
  | OrWhere column operator value, qb =>
      { qb with whereConds := qb.whereConds ++ [⟨column, operator, value, "OR", []⟩] }
  | WhereIn column values, qb =>
      { qb with whereConds := qb.whereConds ++
          [⟨column, "IN", .str (inClause values.length), "AND", values⟩] }
  | WhereBetween column start stop, qb =>
      { qb with whereConds := qb.whereConds ++
          [⟨column, "BETWEEN", .str "? AND ?", "AND", [start, stop]⟩] }
  | WhereNull column, qb =>
      { qb with whereConds := qb.whereConds ++ [⟨column, "IS NULL", .str "", "AND", []⟩] }
  | WhereNotNull column, qb =>
      { qb with whereConds := qb.whereConds ++ [⟨column, "IS NOT NULL", .str "", "AND", []⟩] }
  | Join table joinOn, qb => { qb with joins := qb.joins ++ [⟨"INNER", table, joinOn⟩] }
  | LeftJoin table joinOn, qb => { qb with joins := qb.joins ++ [⟨"LEFT", table, joinOn⟩] }
  | RightJoin table joinOn, qb => { qb with joins := qb.joins ++ [⟨"RIGHT", table, joinOn⟩] }
  | OrderBy column direction, qb =>
      { qb with orderBy := qb.orderBy ++
          [column ++ " " ++ Strings.toUpper (if direction = "" then "ASC" else direction)] }
  | GroupBy columns, qb => { qb with groupBy := qb.groupBy ++ columns }
  | Having column operator value, qb =>
      { qb with having := qb.having ++ [⟨column, operator, value, "AND", []⟩] }
  | Limit count, qb => qb.Limit count
  | Offset count, qb => qb.Offset count
  | Paginate page perPage, qb => qb.Paginate page perPage
  | Union query, qb => qb.Union query
  | UnionAll query, qb => qb.UnionAll query
  | WithTrashed, qb => qb.WithTrashed
  | OnlyTrashed, qb =>
      { qb with whereConds := qb.whereConds ++
          [⟨"deleted_at", "IS NOT NULL", .str "", "AND", []⟩] }

def settle (m : Mutator) (qb : QueryBuilder) : Option Error → QueryBuilder
  | some e => { qb with err := some e }
  | none => m.effect qb

theorem apply_eq (m : Mutator) (qb : QueryBuilder) : m.apply qb = m.check.map (m.settle qb) := by
  cases m <;>
    simp only [apply, check, Option.map_map, Option.map_some', QueryBuilder.Table,
      QueryBuilder.Select, QueryBuilder.Where, QueryBuilder.OrWhere, whereWith,
      QueryBuilder.WhereIn, QueryBuilder.WhereBetween, QueryBuilder.WhereNull,
      QueryBuilder.WhereNotNull, whereColumn, QueryBuilder.Join, QueryBuilder.LeftJoin,
      QueryBuilder.RightJoin, joinWith, QueryBuilder.OrderBy, QueryBuilder.GroupBy,
      QueryBuilder.Having, QueryBuilder.OnlyTrashed] <;>
    first
    | rfl
    | refine Option.map_congr fun o _ => ?_
      cases o <;> simp only [Function.comp_apply] <;> (repeat' split) <;> simp_all [settle, effect]

@[simp] theorem effect_err (m : Mutator) (qb : QueryBuilder) : (m.effect qb).err = qb.err := by
  cases m <;> rfl

@[simp] theorem settle_err (m : Mutator) (qb : QueryBuilder) (o : Option Error) :
    (m.settle qb o).err = o.or qb.err := by
  cases o <;> simp [settle]

theorem apply_cases {m : Mutator} {qb qb' : QueryBuilder} (h : m.apply qb = some qb') :
    (∃ e, qb' = { qb with err := some e }) ∨ qb' = m.effect qb := by
  rw [apply_eq] at h
  obtain ⟨o, -, rfl⟩ := Option.map_eq_some'.mp h
  cases o with
  | some e => exact .inl ⟨e, rfl⟩
  | none => exact .inr rfl

/-- The one field a call is documented to change, and how. -/
def Documented : Mutator → QueryBuilder → QueryBuilder → Prop
  | Table table, qb, qb' => qb' = { qb with table := table }
  | Select columns, qb, qb' => qb' = { qb with selectCols := columns }
  | Where .., qb, qb' | OrWhere .., qb, qb' | WhereIn .., qb, qb' | WhereBetween .., qb, qb'
  | WhereNull _, qb, qb' | WhereNotNull _, qb, qb' | OnlyTrashed, qb, qb' =>
      ∃ cond, qb' = { qb with whereConds := qb.whereConds ++ [cond] }
  | Join .., qb, qb' | LeftJoin .., qb, qb' | RightJoin .., qb, qb' =>
      ∃ join, qb' = { qb with joins := qb.joins ++ [join] }
  | OrderBy .., qb, qb' => ∃ item, qb' = { qb with orderBy := qb.orderBy ++ [item] }
  | GroupBy columns, qb, qb' => qb' = { qb with groupBy := qb.groupBy ++ columns }
  | Having .., qb, qb' => ∃ cond, qb' = { qb with having := qb.having ++ [cond] }
  | Limit count, qb, qb' => qb' = { qb with limitCount := count }
  | Offset count, qb, qb' => qb' = { qb with offsetCount := count }
  | Paginate .., qb, qb' =>
      ∃ limit offset, qb' = { qb with limitCount := limit, offsetCount := offset }
  | Union query, qb, qb' => qb' = { qb with unionQuery := some query, unionAll := false }
  | UnionAll query, qb, qb' => qb' = { qb with unionQuery := some query, unionAll := true }
  | WithTrashed, qb, qb' => qb' = { qb with includeTrashed := true }

theorem effect_documented (m : Mutator) (qb : QueryBuilder) : m.Documented qb (m.effect qb) := by
  cases m <;> first | rfl | exact ⟨_, rfl⟩ | exact ⟨_, _, rfl⟩

/-- Whether the validators a call applies accept its arguments: `none` when
`isValidIdentifier` panics first. -/
def accepts : Mutator → Option Bool
  | Table table => isValidIdentifier table
  | Select columns => (firstRejected selectable columns).map Option.isNone
  | Where column operator _ | OrWhere column operator _ =>
      (isValidIdentifier column).map (· && isValidOperator operator)
  | WhereIn column _ | WhereBetween column _ _ | WhereNull column | WhereNotNull column =>
      isValidIdentifier column
  | Join table joinOn | LeftJoin table joinOn | RightJoin table joinOn =>
      (isValidIdentifier table).map (· && isValidJoinCondition joinOn)
  | OrderBy column direction =>
      (isValidIdentifier column).map (· && validOrderDirection.matchString
        (Strings.toUpper (if direction = "" then "ASC" else direction)))
  | GroupBy columns => (firstRejected isValidIdentifier columns).map Option.isNone
  | Having column operator _ =>
      (isValidIdentifier column).map fun valid =>
        (valid || isValidSelectExpression column) && isValidOperator operator
  | OnlyTrashed => isValidIdentifier "deleted_at"
  | Limit _ | Offset _ | Paginate .. | Union _ | UnionAll _ | WithTrashed => some true

theorem accepts_eq_check (m : Mutator) : m.accepts = m.check.map Option.isNone := by
  cases m <;>
    simp only [accepts, check, apply, Option.map_map, QueryBuilder.Table, QueryBuilder.Select,
      QueryBuilder.Where, QueryBuilder.OrWhere, whereWith, QueryBuilder.WhereIn,
      QueryBuilder.WhereBetween, QueryBuilder.WhereNull, QueryBuilder.WhereNotNull, whereColumn,
      QueryBuilder.Join, QueryBuilder.LeftJoin, QueryBuilder.RightJoin, joinWith,
      QueryBuilder.OrderBy, QueryBuilder.GroupBy, QueryBuilder.Having, QueryBuilder.OnlyTrashed,
      Option.map_some'] <;>
    first
    | rfl
    | refine Option.map_congr fun o _ => ?_
      cases o <;> simp only [Function.comp_apply] <;> (repeat' split) <;> simp_all
    | refine Option.map_id'.symm.trans (Option.map_congr fun o _ => ?_)
      cases o <;> simp only [Function.comp_apply] <;> (repeat' split) <;> simp_all

/-- A call whose validators panic panics before writing anything; one they reject writes
`err` and nothing else; one they accept makes exactly its documented update and leaves
`err` alone. -/
theorem apply_all_or_nothing (m : Mutator) (qb : QueryBuilder) :
    (m.accepts = none → m.apply qb = none) ∧
      (m.accepts = some false → ∃ e, m.apply qb = some { qb with err := some e }) ∧
      (m.accepts = some true →
        ∃ qb', m.apply qb = some qb' ∧ m.Documented qb qb' ∧ qb'.err = qb.err) := by
  rw [accepts_eq_check, apply_eq]
  rcases m.check with _ | _ | e
  · exact ⟨fun _ => rfl, Option.noConfusion, Option.noConfusion⟩
  · exact ⟨Option.noConfusion, fun h => absurd (Option.some_inj.mp h) Bool.noConfusion,
      fun _ => ⟨_, rfl, effect_documented m qb, effect_err m qb⟩⟩
  · exact ⟨Option.noConfusion, fun _ => ⟨e, rfl⟩,
      fun h => absurd (Option.some_inj.mp h) Bool.noConfusion⟩

def Validated : Mutator → Prop
  | Where _ operator _ | OrWhere _ operator _ | Having _ operator _ => isValidOperator operator
  | Join _ joinOn | LeftJoin _ joinOn | RightJoin _ joinOn => isValidJoinCondition joinOn
  | OrderBy _ direction =>
      validOrderDirection.matchString
        (Strings.toUpper (if direction = "" then "ASC" else direction))
  | _ => True

theorem second_of_pass {x : Option Bool} {first : Bool → Bool} {second : Bool}
    {failName failSecond pass : QueryBuilder} (hname : failName.err ≠ none)
    (hsecond : failSecond.err ≠ none)
    (h : (x.map fun valid =>
      if first valid then failName else if !second then failSecond else pass).map err =
        some none) : second = true := by
  obtain ⟨valid, -, hvalid⟩ := Option.map_eq_some'.mp (Option.map_map .. ▸ h)
  simp only [Function.comp_apply] at hvalid
  split_ifs at hvalid with hfirst hfail
  · exact absurd hvalid hname
  · exact absurd hvalid hsecond
  · simpa using hfail

theorem validated_of_check {m : Mutator} (h : m.check = some none) : m.Validated := by
  cases m <;> simp only [Validated]
  case Where | OrWhere | Having | Join | LeftJoin | RightJoin | OrderBy =>
    exact second_of_pass (by simp) (by simp) h

@[simp] theorem run_nil (qb : QueryBuilder) : run qb [] = some qb := rfl

@[simp] theorem run_cons (qb : QueryBuilder) (m : Mutator) (chain : List Mutator) :
    run qb (m :: chain) = (m.apply qb).bind fun qb => run qb chain := rfl

theorem run_invariant {P : QueryBuilder → Prop} {allowed : Mutator → Prop}
    (hcall : ∀ m qb qb', allowed m → P qb → m.apply qb = some qb' → P qb') :
    ∀ {chain : List Mutator} {qb qb' : QueryBuilder},
      (∀ m ∈ chain, allowed m) → P qb → run qb chain = some qb' → P qb'
  | [], _, _, _, hP, h => by cases h; exact hP
  | m :: _, qb, _, hchain, hP, h => by
      rw [run_cons] at h
      obtain ⟨qb₁, h₁, h⟩ := Option.bind_eq_some.mp h
      exact run_invariant hcall (fun m' hm' => hchain m' (.tail _ hm'))
        (hcall m qb qb₁ (hchain m (.head _)) hP h₁) h

/-- The error a chain leaves behind: each failing call overwrites the one before it. -/
def recorded (chain : List Mutator) (err : Option Error) : Option Error :=
  chain.foldl (fun err m => (m.check.getD none).or err) err

theorem run_err {chain : List Mutator} :
    ∀ {qb qb' : QueryBuilder}, run qb chain = some qb' → qb'.err = recorded chain qb.err := by
  induction chain with
  | nil => intro qb qb' h; cases h; rfl
  | cons m chain ih =>
      intro qb qb' h
      rw [run_cons, apply_eq] at h
      rcases hcheck : m.check with _ | o
      · simp [hcheck] at h
      · simp only [hcheck, Option.map_some', Option.some_bind] at h
        simp [ih h, recorded, hcheck]

end Mutator

end TjoQuery
