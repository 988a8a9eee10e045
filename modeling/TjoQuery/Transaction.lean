import TjoQuery.Heap
import TjoQuery.Terminal

namespace TjoQuery

/-! What a transaction callback does with the builders it can reach, as a script.  The
child `Transaction` hands the callback is register 0; each builder derived with `HasMany`
or `BelongsTo` takes the next register, and the registers are also the heap `Union`
points into.  A nested `Transaction` runs a script of its own on its own child.  Every
builder so reached keeps the child's handle and its `rawDB`, and `rawDB` is the pool. -/

open QueryBuilder

inductive Script
  | done (err : Option Error)
  | call (r : Nat) (m : Mutator) (next : Script)
  | hasMany (r : Nat) (relatedTable foreignKey : String) (id : Value) (next : Script)
  | belongsTo (r : Nat) (relatedTable foreignKey : String) (fkValue : Value) (next : Script)
  | terminal (r : Nat) (op : Terminal) (next : op.Answer → Script)
  | transaction (r : Nat) (body : Script) (next : Option Error → Script)

namespace Script

/-- The script on the registers `regs`: a register that holds no builder, or a `Union`
to one, is a nil pointer and panics.  `fuel` bounds `ToSQL` and the chunk loops. -/
def run (fuel : Nat) : Heap → Script → Prog (Option Error)
  | _, done err => .pure err
  | regs, call r m next =>
      match regs.cells[r]? with
      | none => .abort
      | some qb =>
          if m.pointer.all (· < regs.cells.length) then
            match m.apply qb with
            | none => .abort
            | some qb => next.run fuel (regs.write r qb)
          else .abort
  | regs, hasMany r relatedTable foreignKey id next =>
      match regs.cells[r]?.bind (·.HasMany relatedTable foreignKey id) with
      | none => .abort
      | some qb => next.run fuel (regs.alloc qb)
  | regs, belongsTo r relatedTable foreignKey fkValue next =>
      match regs.cells[r]?.bind (·.BelongsTo relatedTable foreignKey fkValue) with
      | none => .abort
      | some qb => next.run fuel (regs.alloc qb)
  | regs, terminal r op next =>
      match regs.cells[r]? with
      | none => .abort
      | some qb =>
          (op.exec regs.get fuel qb).2.bind fun a =>
            (next a).run fuel (regs.write r (op.exec regs.get fuel qb).1)
  | regs, transaction r body next =>
      match regs.cells[r]? with
      | none => .abort
      | some qb =>
          (qb.Transaction fun child => body.run fuel ⟨[child]⟩).bind fun err =>
            (next err).run fuel regs

/-- The script calls `Transaction` nowhere. -/
def OpensNoTransaction : Script → Prop
  | done _ => True
  | call _ _ next | hasMany _ _ _ _ next | belongsTo _ _ _ _ next => next.OpensNoTransaction
  | terminal _ _ next => ∀ a, (next a).OpensNoTransaction
  | transaction .. => False

end Script

/-! ## Handles are inherited -/

def QueryBuilder.handles (qb : QueryBuilder) : Handle × Option Nat := (qb.db, qb.rawDB)

theorem Mutator.apply_handles {m : Mutator} {qb qb' : QueryBuilder} (h : m.apply qb = some qb') :
    qb'.handles = qb.handles := by
  rcases apply_cases h with ⟨e, rfl⟩ | rfl
  · rfl
  · cases m <;> rfl

theorem handles_of_table_where {qb qb' : QueryBuilder} {table column : String} {value : Value}
    (h : ((newQueryBuilderWithDB qb.db qb.rawDB).Table table).bind (·.Where column "=" value) =
      some qb') : qb'.handles = qb.handles := by
  obtain ⟨qb₁, h₁, h₂⟩ := Option.bind_eq_some.mp h
  exact (@Mutator.apply_handles (.Where column "=" value) _ _ h₂).trans
    (@Mutator.apply_handles (.Table table) (newQueryBuilderWithDB qb.db qb.rawDB) _ h₁)

theorem HasMany_handles {qb qb' : QueryBuilder} {relatedTable foreignKey : String} {id : Value}
    (h : qb.HasMany relatedTable foreignKey id = some qb') : qb'.handles = qb.handles :=
  handles_of_table_where h

theorem BelongsTo_handles {qb qb' : QueryBuilder} {relatedTable foreignKey : String}
    {fkValue : Value} (h : qb.BelongsTo relatedTable foreignKey fkValue = some qb') :
    qb'.handles = qb.handles :=
  handles_of_table_where h

theorem Terminal.exec_handles (heap : Nat → QueryBuilder) (fuel : Nat) (t : Terminal)
    (qb : QueryBuilder) : (t.exec heap fuel qb).1.handles = qb.handles := by
  cases t
  case Count | Exists =>
    simp only [exec, QueryBuilder.Exists, QueryBuilder.Count]
    split <;> rfl
  all_goals rfl

/-! ## Every call goes to the builder's handle -/

section Handles

variable {heap : Nat → QueryBuilder} {fuel : Nat}

theorem send_every {db : Handle} {c : Call} (hc : c.handle = some db) :
    (Prog.call c Prog.pure).Every (Call.On db) :=
  ⟨by simp [Call.On, hc], fun _ => trivial⟩

theorem withSQL_every {β : Type} {P : Call → Prop} {qb : QueryBuilder}
    {k : Statement → Prog (Except Error β)} (hk : ∀ st, (k st).Every P) :
    (withSQL heap fuel qb k).Every P := by
  unfold withSQL
  split
  exacts [trivial, trivial, hk _]

theorem Get_every (qb : QueryBuilder) : (qb.Get heap fuel).Every (Call.On qb.db) :=
  withSQL_every fun _ => send_every rfl

theorem chunkStep_every {db : Handle} {page : QueryBuilder} {next : Prog (Option Error)}
    (hpage : page.db = db) (hnext : next.Every (Call.On db)) :
    (chunkStep heap fuel page next).Every (Call.On db) := by
  have hget := hpage ▸ @Get_every heap fuel page
  refine hget.bind fun
    | .error _ => trivial
    | .ok [] => trivial
    | .ok (_ :: _) => hget.bind fun
      | .error _ => trivial
      | .ok rows => ⟨by simp [Call.On, Call.handle], fun more => ?_⟩
  cases more
  · trivial
  · exact hnext

theorem chunkFrom_every (qb : QueryBuilder) (size : BitVec 64) (rounds : Nat)
    (offset : BitVec 64) : (chunkFrom heap fuel qb size rounds offset).Every (Call.On qb.db) := by
  induction rounds generalizing offset with
  | zero => trivial
  | succ rounds ih => exact chunkStep_every rfl (ih _)

theorem chunkByIDFrom_every (qb : QueryBuilder) (size : BitVec 64) (column : String)
    (rounds : Nat) : (chunkByIDFrom heap fuel qb size column rounds).Every (Call.On qb.db) := by
  induction rounds with
  | zero => trivial
  | succ rounds ih => exact chunkStep_every rfl ih

theorem Terminal.exec_every (t : Terminal) (qb : QueryBuilder) :
    (t.exec heap fuel qb).2.Every (Call.On qb.db) := by
  cases t
  case Get => exact Get_every qb
  case Exists =>
    simp only [exec, QueryBuilder.Exists, QueryBuilder.Count]
    split <;>
      first | trivial | exact Prog.Every.bind (send_every rfl) fun a => by cases a <;> trivial
  case Chunk size =>
    simp only [exec, QueryBuilder.Chunk]
    split
    · trivial
    · exact chunkFrom_every qb size fuel 0
  case ChunkByID size column =>
    simp only [exec, QueryBuilder.ChunkByID]
    split
    · trivial
    · split <;> first | trivial | exact chunkByIDFrom_every qb size column fuel
  all_goals
    simp only [exec, QueryBuilder.First, QueryBuilder.Count, QueryBuilder.Insert,
      QueryBuilder.Update, QueryBuilder.SoftDelete, QueryBuilder.Restore, QueryBuilder.Delete,
      QueryBuilder.ForceDelete, QueryBuilder.Raw, QueryBuilder.RawExec]
    (try split) <;> first | trivial | exact send_every rfl

end Handles

/-! ## Transactions -/

def Heap.OnHandle (handles : Handle × Option Nat) (regs : Heap) : Prop :=
  ∀ qb ∈ regs.cells, qb.handles = handles

theorem Heap.OnHandle.write {handles : Handle × Option Nat} {regs : Heap} {qb : QueryBuilder}
    (h : regs.OnHandle handles) (hqb : qb.handles = handles) (r : Nat) :
    (regs.write r qb).OnHandle handles := fun qb' hqb' =>
  (List.mem_or_eq_of_mem_set hqb').elim (h qb') fun heq => heq ▸ hqb

theorem Heap.OnHandle.alloc {handles : Handle × Option Nat} {regs : Heap} {qb : QueryBuilder}
    (h : regs.OnHandle handles) (hqb : qb.handles = handles) :
    (regs.alloc qb).OnHandle handles := fun qb' hqb' =>
  (List.mem_append.mp hqb').elim (h qb') fun hmem => (List.mem_singleton.mp hmem) ▸ hqb

theorem Heap.OnHandle.read {handles : Handle × Option Nat} {regs : Heap} {r : Nat}
    {qb : QueryBuilder} (h : regs.OnHandle handles) (hqb : regs.cells[r]? = some qb) :
    qb.handles = handles :=
  h qb (List.getElem?_mem hqb)

theorem Heap.OnHandle.alloc_of_bind {handles : Handle × Option Nat} {regs : Heap} {r : Nat}
    {derive : QueryBuilder → Option QueryBuilder} {qb' : QueryBuilder}
    (h : regs.OnHandle handles)
    (hderive : ∀ {qb qb'}, derive qb = some qb' → qb'.handles = qb.handles)
    (hqb' : regs.cells[r]?.bind derive = some qb') : (regs.alloc qb').OnHandle handles := by
  obtain ⟨qb, hqb, hd⟩ := Option.bind_eq_some.mp hqb'
  exact h.alloc ((hderive hd).trans (h.read hqb))

theorem Script.run_every {handles : Handle × Option Nat} (fuel : Nat) (s : Script)
    (hs : s.OpensNoTransaction) (regs : Heap) (hregs : regs.OnHandle handles) :
    (s.run fuel regs).Every (Call.On handles.1) := by
  induction s generalizing regs with
  | done err => trivial
  | call r m next ih =>
      simp only [run]
      split
      · trivial
      next qb hqb =>
        split
        · split
          · trivial
          next qb' happly =>
            exact ih hs _ (hregs.write ((Mutator.apply_handles happly).trans (hregs.read hqb)) r)
        · trivial
  | hasMany r relatedTable foreignKey id next ih =>
      simp only [run]
      split
      · trivial
      next qb' hqb' => exact ih hs _ (hregs.alloc_of_bind HasMany_handles hqb')
  | belongsTo r relatedTable foreignKey fkValue next ih =>
      simp only [run]
      split
      · trivial
      next qb' hqb' => exact ih hs _ (hregs.alloc_of_bind BelongsTo_handles hqb')
  | terminal r op next ih =>
      simp only [run]
      split
      · trivial
      next qb hqb =>
        have hold := hregs.read hqb
        have hdb : qb.db = handles.1 := congrArg Prod.fst hold
        exact (hdb ▸ Terminal.exec_every op qb).bind fun a =>
          ih a (hs a) _ (hregs.write ((Terminal.exec_handles _ _ op qb).trans hold) r)
  | transaction => exact hs.elim

theorem Transaction_isolated {qb : QueryBuilder} {db : Nat} (hdb : qb.rawDB = some db)
    {body : Script} (hbody : body.OpensNoTransaction) (fuel : Nat) :
    ∃ k, qb.Transaction (fun child => body.run fuel ⟨[child]⟩) = .call (.begin db) k ∧
      ∀ tx, (k (.ok tx)).Every (Call.On (.tx tx)) := by
  rw [QueryBuilder.Transaction, hdb]
  refine ⟨_, rfl, fun tx => ?_⟩
  have hchild : Heap.OnHandle (.tx tx, some db) ⟨[newQueryBuilderWithDB (.tx tx) (some db)]⟩ :=
    fun _ h => (List.mem_singleton.mp h) ▸ rfl
  refine (body.run_every fuel hbody _ hchild).bind fun err => ?_
  cases err <;> simp only [Prog.every_call] <;>
    refine ⟨by simp [Call.On, Call.handle], fun answer => ?_⟩ <;> cases answer <;> trivial

/-- A callback that calls `Transaction` on its child: the child keeps the pool as `rawDB`,
so once `Begin` answers with a transaction, the next call begins a second one on the pool. -/
theorem nested_transaction_begins_on_pool {qb : QueryBuilder} {db : Nat}
    (hdb : qb.rawDB = some db) (body : Script) (next : Option Error → Script) (fuel : Nat) :
    ∃ k, qb.Transaction (fun child => (Script.transaction 0 body next).run fuel ⟨[child]⟩) =
        .call (.begin db) k ∧ ∀ tx, ∃ k', k (.ok tx) = .call (.begin db) k' := by
  rw [QueryBuilder.Transaction, hdb]
  exact ⟨_, rfl, fun _ => ⟨_, rfl⟩⟩

theorem nested_transaction_begins_on_pool_fresh :
    (NewQueryBuilder (some 0)).rawDB = some 0 ∧
      ∃ k, (NewQueryBuilder (some 0)).Transaction
          (fun child => (Script.transaction 0 (.done none) .done).run 1 ⟨[child]⟩) =
          .call (.begin 0) k ∧ ∀ tx, ∃ k', k (.ok tx) = .call (.begin 0) k' :=
  ⟨rfl, nested_transaction_begins_on_pool rfl (.done none) .done 1⟩

end TjoQuery
