import TjoQuery.Assemble
import Mathlib.Logic.Relation

namespace TjoQuery

/-! Builders as a Go program holds them: states in a heap, addressed by pointers.  A
program using the public API allocates builders (`NewQueryBuilder`, and the
`newQueryBuilderWithDB` behind `HasMany`, `BelongsTo` and `Transaction`) and calls
mutators on them.  `Union` and `UnionAll` store the address of any allocated builder,
with no check, so the union pointers of a reachable heap can form cycles. -/

structure Heap where
  cells : List QueryBuilder

namespace Heap

def get (heap : Heap) (p : Nat) : QueryBuilder := heap.cells.getD p (NewQueryBuilder none)

def alloc (heap : Heap) (qb : QueryBuilder) : Heap := ⟨heap.cells ++ [qb]⟩

def write (heap : Heap) (p : Nat) (qb : QueryBuilder) : Heap := ⟨heap.cells.set p qb⟩

theorem get_alloc (heap : Heap) (qb : QueryBuilder) (p : Nat) :
    (heap.alloc qb).get p =
      if p < heap.cells.length then heap.get p
      else if p = heap.cells.length then qb else NewQueryBuilder none := by
  simp only [get, alloc, List.getD_eq_getElem?_getD, List.getElem?_append]
  split_ifs with hlt heq
  · rfl
  · subst heq; simp
  · rw [List.getElem?_eq_none (by simp; omega)]; rfl

theorem get_write (heap : Heap) (p q : Nat) (qb : QueryBuilder) (hp : p < heap.cells.length) :
    (heap.write p qb).get q = if p = q then qb else heap.get q := by
  simp only [get, write, List.getD_eq_getElem?_getD, List.getElem?_set]
  split_ifs <;> simp_all

end Heap

def Mutator.pointer : Mutator → Option Nat
  | .Union query | .UnionAll query => some query
  | _ => none

/-- One step of a program, among the calls `allowed` permits: allocate a fresh builder, or
call a mutator on an allocated one, passing only allocated addresses. -/
inductive Step (allowed : Mutator → Prop) : Heap → Heap → Prop
  | alloc (heap : Heap) (db : Handle) (rawDB : Option Nat) :
      Step allowed heap (heap.alloc (newQueryBuilderWithDB db rawDB))
  | call (heap : Heap) (p : Nat) (m : Mutator) (qb : QueryBuilder) :
      allowed m → p < heap.cells.length → (∀ q ∈ m.pointer, q < heap.cells.length) →
      m.apply (heap.get p) = some qb → Step allowed heap (heap.write p qb)

/-- The heaps a program reaches from an empty one, calling only `allowed` mutators. -/
def Reachable (allowed : Mutator → Prop) (heap : Heap) : Prop :=
  Relation.ReflTransGen (Step allowed) ⟨[]⟩ heap

theorem Reachable.forall_get {allowed : Mutator → Prop} {P : QueryBuilder → Prop}
    (hfresh : ∀ db rawDB, P (newQueryBuilderWithDB db rawDB))
    (hcall : ∀ m qb qb', allowed m → P qb → m.apply qb = some qb' → P qb')
    {heap : Heap} (hreach : Reachable allowed heap) (p : Nat) : P (heap.get p) := by
  induction hreach generalizing p with
  | refl => exact hfresh _ _
  | tail _ step ih =>
      cases step with
      | alloc db rawDB =>
          rw [Heap.get_alloc]
          split_ifs
          · exact ih p
          · exact hfresh db rawDB
          · exact hfresh _ _
      | call q m qb hm hq _ happly =>
          rw [Heap.get_write _ q p qb hq]
          split_ifs with hqp
          · exact hcall m _ qb hm (ih q) happly
          · exact ih p

open QueryBuilder

/-- Following `unionQuery` from `qb`, `ToSQL` comes to a builder where it stops: one with
an error, without a table, or without a union. -/
inductive UnionEnds (heap : Nat → QueryBuilder) : QueryBuilder → Prop
  | stop (qb : QueryBuilder) :
      qb.err ≠ none ∨ qb.table = "" ∨ qb.unionQuery = none → UnionEnds heap qb
  | next (qb : QueryBuilder) (child : Nat) :
      qb.err = none → qb.table ≠ "" → qb.unionQuery = some child →
      UnionEnds heap (heap child) →
      UnionEnds heap qb

theorem ToSQL_succ_of_union {heap : Nat → QueryBuilder} {fuel : Nat} {qb : QueryBuilder}
    {child : Nat} (herr : qb.err = none) (htable : qb.table ≠ "")
    (hunion : qb.unionQuery = some child) :
    ToSQL heap (fuel + 1) qb = (ToSQL heap fuel (heap child)).map qb.withUnion := by
  simp [ToSQL, herr, htable, hunion]

theorem ToSQL_succ_isSome_of_stop {heap : Nat → QueryBuilder} {fuel : Nat} {qb : QueryBuilder}
    (h : qb.err ≠ none ∨ qb.table = "" ∨ qb.unionQuery = none) :
    (ToSQL heap (fuel + 1) qb).isSome := by
  rcases h with h | h | h
  · obtain ⟨e, he⟩ := Option.ne_none_iff_exists'.mp h
    simp [ToSQL, he]
  · cases herr : qb.err <;> simp [ToSQL, herr, h]
  · cases herr : qb.err <;> simp only [ToSQL, herr, h] <;> (try split_ifs) <;> rfl

/-- `ToSQL` returns, for some fuel, exactly when the union chain from the builder ends. -/
theorem ToSQL_terminates_iff (heap : Nat → QueryBuilder) (qb : QueryBuilder) :
    (∃ fuel, (ToSQL heap fuel qb).isSome) ↔ UnionEnds heap qb := by
  constructor
  · rintro ⟨fuel, h⟩
    induction fuel generalizing qb with
    | zero => simp [ToSQL] at h
    | succ fuel ih =>
        by_cases hstop : qb.err ≠ none ∨ qb.table = "" ∨ qb.unionQuery = none
        · exact .stop qb hstop
        · simp only [not_or, not_not, ne_eq] at hstop
          obtain ⟨herr, htable, hunion⟩ := hstop
          obtain ⟨child, hchild⟩ := Option.ne_none_iff_exists'.mp hunion
          rw [ToSQL_succ_of_union herr htable hchild, Option.isSome_map'] at h
          exact .next qb child herr htable hchild (ih _ h)
  · intro hends
    induction hends with
    | stop qb h => exact ⟨1, ToSQL_succ_isSome_of_stop h⟩
    | next qb child herr htable hunion _ ih =>
        obtain ⟨fuel, h⟩ := ih
        refine ⟨fuel + 1, ?_⟩
        rw [ToSQL_succ_of_union herr htable hunion, Option.isSome_map']
        exact h

/-- `qb := NewQueryBuilder(nil); qb.Table("users"); qb.Union(qb)`: one builder whose union
pointer is its own address. -/
def selfUnion : Heap := ⟨[{ NewQueryBuilder none with table := "users", unionQuery := some 0 }]⟩

theorem selfUnion_reachable : Reachable (fun _ => True) selfUnion := by
  have hnew : Step (fun _ => True) ⟨[]⟩ ⟨[NewQueryBuilder none]⟩ :=
    Step.alloc _ (.pool none) none
  have htable : Step (fun _ => True) ⟨[NewQueryBuilder none]⟩
      ⟨[{ NewQueryBuilder none with table := "users" }]⟩ :=
    Step.call _ 0 (.Table "users") _ trivial (by decide) (by simp [Mutator.pointer]) (by decide)
  have hunion : Step (fun _ => True) ⟨[{ NewQueryBuilder none with table := "users" }]⟩
      selfUnion :=
    Step.call _ 0 (.Union 0) _ trivial (by decide) (by simp [Mutator.pointer]) rfl
  exact .tail (.tail (.tail .refl hnew) htable) hunion

/-- `qb.Union(qb)` on a builder with a table is reachable, and `ToSQL` on it never
returns. -/
theorem self_union_diverges :
    Reachable (fun _ => True) selfUnion ∧
      ∀ fuel, ToSQL selfUnion.get fuel (selfUnion.get 0) = none := by
  refine ⟨selfUnion_reachable, fun fuel => ?_⟩
  induction fuel with
  | zero => rfl
  | succ fuel ih => rw [ToSQL_succ_of_union rfl (by decide) rfl, ih, Option.map_none']

end TjoQuery
