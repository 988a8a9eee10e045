import TjoQuery.Mutator

namespace TjoQuery

/-! Which fields of the builder each call writes.  A call that passes its validation
replaces or extends the fields it is about, each from that field's old value alone, so
calls that write different fields commute, and so do scopes made of such calls. -/

open QueryBuilder

/-- The fields `ToSQL` reads, with `unionQuery` and `unionAll` as one, and the soft-delete
flag. -/
inductive Field
  | table | selectCols | whereConds | joins | orderBy | groupBy | having | limitCount
  | offsetCount | union | includeTrashed
  deriving DecidableEq, Repr

inductive Write
  | table (f : String → String)
  | selectCols (f : List String → List String)
  | whereConds (f : List WhereCondition → List WhereCondition)
  | joins (f : List JoinClause → List JoinClause)
  | orderBy (f : List String → List String)
  | groupBy (f : List String → List String)
  | having (f : List WhereCondition → List WhereCondition)
  | limitCount (f : BitVec 64 → BitVec 64)
  | offsetCount (f : BitVec 64 → BitVec 64)
  | union (query : Option Nat) (all : Bool)
  | includeTrashed (b : Bool)

namespace Write

def field : Write → Field
  | table _ => .table
  | selectCols _ => .selectCols
  | whereConds _ => .whereConds
  | joins _ => .joins
  | orderBy _ => .orderBy
  | groupBy _ => .groupBy
  | having _ => .having
  | limitCount _ => .limitCount
  | offsetCount _ => .offsetCount
  | union .. => .union
  | includeTrashed _ => .includeTrashed

def apply : Write → QueryBuilder → QueryBuilder
  | table f, qb => { qb with table := f qb.table }
  | selectCols f, qb => { qb with selectCols := f qb.selectCols }
  | whereConds f, qb => { qb with whereConds := f qb.whereConds }
  | joins f, qb => { qb with joins := f qb.joins }
  | orderBy f, qb => { qb with orderBy := f qb.orderBy }
  | groupBy f, qb => { qb with groupBy := f qb.groupBy }
  | having f, qb => { qb with having := f qb.having }
  | limitCount f, qb => { qb with limitCount := f qb.limitCount }
  | offsetCount f, qb => { qb with offsetCount := f qb.offsetCount }
  | union query all, qb => { qb with unionQuery := query, unionAll := all }
  | includeTrashed b, qb => { qb with includeTrashed := b }

theorem apply_comm {u v : Write} (h : u.field ≠ v.field) (qb : QueryBuilder) :
    u.apply (v.apply qb) = v.apply (u.apply qb) := by
  cases u <;> cases v <;> first | rfl | exact absurd rfl h

theorem apply_foldr_comm {u : Write} {vs : List Write} (h : ∀ v ∈ vs, u.field ≠ v.field)
    (qb : QueryBuilder) : u.apply (vs.foldr apply qb) = vs.foldr apply (u.apply qb) := by
  induction vs with
  | nil => rfl
  | cons v vs ih =>
      rw [List.foldr_cons, List.foldr_cons, apply_comm (h v (.head _)),
        ih fun v' hv' => h v' (.tail _ hv')]

theorem foldr_comm {us vs : List Write} (h : ∀ u ∈ us, ∀ v ∈ vs, u.field ≠ v.field)
    (qb : QueryBuilder) :
    us.foldr apply (vs.foldr apply qb) = vs.foldr apply (us.foldr apply qb) := by
  induction us with
  | nil => rfl
  | cons u us ih =>
      rw [List.foldr_cons, List.foldr_cons, ih fun u' hu' => h u' (.tail _ hu'),
        apply_foldr_comm (h u (.head _))]

end Write

namespace Mutator

def writes : Mutator → List Write
  | Table table => [.table fun _ => table]
  | Select columns => [.selectCols fun _ => columns]
  | Where column operator value => [.whereConds (· ++ [⟨column, operator, value, "AND", []⟩])]
  | OrWhere column operator value => [.whereConds (· ++ [⟨column, operator, value, "OR", []⟩])]
  | WhereIn column values =>
      [.whereConds (· ++ [⟨column, "IN", .str (inClause values.length), "AND", values⟩])]
  | WhereBetween column start stop =>
      [.whereConds (· ++ [⟨column, "BETWEEN", .str "? AND ?", "AND", [start, stop]⟩])]
  | WhereNull column => [.whereConds (· ++ [⟨column, "IS NULL", .str "", "AND", []⟩])]
  | WhereNotNull column => [.whereConds (· ++ [⟨column, "IS NOT NULL", .str "", "AND", []⟩])]
  | Join table joinOn => [.joins (· ++ [⟨"INNER", table, joinOn⟩])]
  | LeftJoin table joinOn => [.joins (· ++ [⟨"LEFT", table, joinOn⟩])]
  | RightJoin table joinOn => [.joins (· ++ [⟨"RIGHT", table, joinOn⟩])]
  | OrderBy column direction =>
      [.orderBy (· ++
        [column ++ " " ++ Strings.toUpper (if direction = "" then "ASC" else direction)])]
  | GroupBy columns => [.groupBy (· ++ columns)]
  | Having column operator value => [.having (· ++ [⟨column, operator, value, "AND", []⟩])]
  | Limit count => [.limitCount fun _ => count]
  | Offset count => [.offsetCount fun _ => count]
  | Paginate page perPage =>
      let page := if page.slt 1 then 1 else page
      let perPage := if perPage.slt 1 then 15 else perPage
      [.limitCount fun _ => perPage, .offsetCount fun _ => (page - 1) * perPage]
  | Union query => [.union (some query) false]
  | UnionAll query => [.union (some query) true]
  | WithTrashed => [.includeTrashed true]
  | OnlyTrashed => [.whereConds (· ++ [⟨"deleted_at", "IS NOT NULL", .str "", "AND", []⟩])]

theorem effect_eq_writes (m : Mutator) (qb : QueryBuilder) :
    m.effect qb = m.writes.foldr Write.apply qb := by
  cases m <;> rfl

/-- Two calls write no field in common. -/
def Disjoint (m₁ m₂ : Mutator) : Prop :=
  ∀ u ∈ m₁.writes, ∀ v ∈ m₂.writes, u.field ≠ v.field

instance (m₁ m₂ : Mutator) : Decidable (m₁.Disjoint m₂) :=
  inferInstanceAs (Decidable (∀ u ∈ m₁.writes, ∀ v ∈ m₂.writes, u.field ≠ v.field))

theorem effect_comm {m₁ m₂ : Mutator} (h : m₁.Disjoint m₂) (qb : QueryBuilder) :
    m₁.effect (m₂.effect qb) = m₂.effect (m₁.effect qb) := by
  simp only [effect_eq_writes]
  exact Write.foldr_comm h qb

def effects (chain : List Mutator) (qb : QueryBuilder) : QueryBuilder :=
  chain.foldl (fun qb m => m.effect qb) qb

@[simp] theorem effects_cons (m : Mutator) (chain : List Mutator) (qb : QueryBuilder) :
    effects (m :: chain) qb = effects chain (m.effect qb) := rfl

@[simp] theorem effects_append (c₁ c₂ : List Mutator) (qb : QueryBuilder) :
    effects (c₁ ++ c₂) qb = effects c₂ (effects c₁ qb) := List.foldl_append ..

theorem run_of_pass {chain : List Mutator} (hpass : ∀ m ∈ chain, m.check = some none)
    (qb : QueryBuilder) : run qb chain = some (effects chain qb) := by
  induction chain generalizing qb with
  | nil => rfl
  | cons m chain ih =>
      rw [run_cons, apply_eq, hpass m (.head _), Option.map_some', Option.some_bind,
        ih fun m' hm' => hpass m' (.tail _ hm')]
      rfl

theorem effect_effects_comm {m : Mutator} {chain : List Mutator}
    (h : ∀ m' ∈ chain, m.Disjoint m') (qb : QueryBuilder) :
    m.effect (effects chain qb) = effects chain (m.effect qb) := by
  induction chain generalizing qb with
  | nil => rfl
  | cons m' chain ih =>
      rw [effects_cons, effects_cons, ih fun m'' hm'' => h m'' (.tail _ hm''),
        effect_comm (h m' (.head _))]

theorem effects_append_comm {c₁ c₂ : List Mutator}
    (h : ∀ m₁ ∈ c₁, ∀ m₂ ∈ c₂, m₁.Disjoint m₂)
    (qb : QueryBuilder) : effects (c₁ ++ c₂) qb = effects (c₂ ++ c₁) qb := by
  induction c₁ generalizing qb with
  | nil => simp
  | cons m c₁ ih =>
      rw [List.cons_append, effects_cons, ih fun m₁ hm₁ => h m₁ (.tail _ hm₁),
        effects_append, effects_append, effects_cons, ← effect_effects_comm (h m (.head _))]

end Mutator

/-! The predefined scopes, as the calls they make. -/

def Active : List Mutator := [.Where "active" "=" (.bool true)]

def Recent : List Mutator := [.OrderBy "created_at" "DESC"]

def Oldest : List Mutator := [.OrderBy "created_at" "ASC"]

def Published : List Mutator := [.Where "published" "=" (.bool true), .WhereNotNull "published_at"]

def Draft : List Mutator := [.Where "published" "=" (.bool false)]

/-- Two scopes that only make calls passing their validation, on disjoint fields, give the
same builder in either order, hence the same `ToSQL` result; two single calls are the
scopes `[m₁]` and `[m₂]`. -/
theorem Scope_comm (qb : QueryBuilder) {c₁ c₂ : List Mutator}
    (hpass : ∀ m ∈ c₁ ++ c₂, m.check = some none)
    (hdisjoint : ∀ m₁ ∈ c₁, ∀ m₂ ∈ c₂, m₁.Disjoint m₂) :
    qb.Scope [(Mutator.run · c₁), (Mutator.run · c₂)] =
      qb.Scope [(Mutator.run · c₂), (Mutator.run · c₁)] := by
  have hpass₁ : ∀ m ∈ c₁, m.check = some none :=
    fun m hm => hpass m (List.mem_append_left _ hm)
  have hpass₂ : ∀ m ∈ c₂, m.check = some none :=
    fun m hm => hpass m (List.mem_append_right _ hm)
  simp only [Scope, List.foldlM_cons, List.foldlM_nil, Mutator.run_of_pass hpass₁,
    Mutator.run_of_pass hpass₂, Option.bind_eq_bind, Option.some_bind]
  rw [← Mutator.effects_append, ← Mutator.effects_append, Mutator.effects_append_comm hdisjoint]

theorem Scope_comm_active_recent :
    (∀ m ∈ Active ++ Recent, m.check = some none) ∧
      (∀ m₁ ∈ Active, ∀ m₂ ∈ Recent, m₁.Disjoint m₂) ∧
      (NewQueryBuilder none).Scope [(Mutator.run · Active), (Mutator.run · Recent)] =
        (NewQueryBuilder none).Scope [(Mutator.run · Recent), (Mutator.run · Active)] :=
  ⟨by decide, by decide, Scope_comm (NewQueryBuilder none) (by decide) (by decide)⟩

end TjoQuery
