import TjoQuery.Chunking
import TjoQuery.Transaction

namespace TjoQuery

/-! How `Transaction` ends the transaction it opens.  Once `Begin` answers with a
transaction, the callback's calls go out, and then one `Rollback` or one `Commit`: on every
path that returns, whatever the database and the chunk callbacks answer, exactly one call
ends the transaction, and it is the last call made.  A path that panics inside the
callback returns nothing and leaves the transaction open.  This needs the callback to open
no transaction of its own: the nested one would begin on the pool, and the port may hand
it the same transaction number. -/

open QueryBuilder

/-- `Commit` or `Rollback` of the transaction `tx`. -/
def Call.Ends (tx : Nat) : Call → Bool
  | .commit t | .rollback t => t == tx
  | _ => false

def Call.Data : Call → Prop
  | .query .. | .queryRow .. | .exec .. | .callback _ => True
  | .begin _ | .commit _ | .rollback _ => False

theorem Call.ends_of_data {c : Call} (hc : c.Data) (tx : Nat) : c.Ends tx = false := by
  cases c <;> first | rfl | exact hc.elim

namespace Prog

variable {α β : Type}

def Returns : Prog α → Prop
  | pure _ => True
  | abort | call _ _ => False

/-- Along every path, the call that ends `tx` is followed by the return: a path that
returns has made exactly one such call, its last, and a path that stops has made none. -/
def EndsOnce (tx : Nat) : Prog α → Prop
  | pure _ => False
  | abort => True
  | call c k => ∀ a, if c.Ends tx then (k a).Returns else (k a).EndsOnce tx

/-- What a run has done to `tx`: when it returned, exactly one of its calls ended `tx`, the
last one; when it stopped, none did. -/
def EndedOnce (tx : Nat) : Option α → List Call → Prop
  | some _, calls => ∃ pre c, calls = pre ++ [c] ∧ c.Ends tx = true ∧ ∀ c' ∈ pre, c'.Ends tx = false
  | none, calls => ∀ c ∈ calls, c.Ends tx = false

theorem EndedOnce.cons {tx : Nat} {r : Option α} {calls : List Call} {c : Call}
    (hc : c.Ends tx = false) (h : EndedOnce tx r calls) : EndedOnce tx r (c :: calls) := by
  cases r with
  | some _ =>
      obtain ⟨pre, c', rfl, hend, hpre⟩ := h
      exact ⟨c :: pre, c', rfl, hend, by simpa [hc] using hpre⟩
  | none => simpa [EndedOnce, hc] using h

theorem EndsOnce.run {tx : Nat} {p : Prog α} (hp : p.EndsOnce tx)
    (answer : List Call → (c : Call) → c.Answer) (trace : List Call) :
    ∃ calls, (p.run answer trace).2 = trace ++ calls ∧
      EndedOnce tx (p.run answer trace).1 calls := by
  induction p generalizing trace with
  | pure a => exact hp.elim
  | abort => exact ⟨[], by simp, fun _ h => nomatch h⟩
  | call c k ih =>
      have hk := hp (answer trace c)
      rw [run_call]
      by_cases hc : c.Ends tx = true
      · rw [if_pos hc] at hk
        cases hq : k (answer trace c) with
        | pure x => exact ⟨[c], by simp, [], c, rfl, hc, fun _ h => nomatch h⟩
        | abort | call _ _ => rw [hq] at hk; exact hk.elim
      · rw [if_neg hc] at hk
        obtain ⟨calls, htrace, hended⟩ := ih _ hk (trace ++ [c])
        exact ⟨c :: calls, by simp [htrace], hended.cons (by simpa using hc)⟩

theorem EndsOnce.bind {tx : Nat} {p : Prog α} {f : α → Prog β} (hp : p.Every Call.Data)
    (hf : ∀ a, (f a).EndsOnce tx) : (p.bind f).EndsOnce tx := by
  induction p with
  | pure a => exact hf a
  | abort => trivial
  | call c k ih =>
      intro a
      simp only [Call.ends_of_data hp.1 tx, Bool.false_eq_true, if_false]
      exact ih a (hp.2 a)

end Prog

/-! ## A builder's operations open and end no transaction -/

section Data

variable {heap : Nat → QueryBuilder} {fuel : Nat}

theorem send_data {c : Call} (hc : c.Data) : (Prog.call c Prog.pure).Every Call.Data :=
  ⟨hc, fun _ => trivial⟩

theorem Get_data (qb : QueryBuilder) : (qb.Get heap fuel).Every Call.Data :=
  withSQL_every fun _ => send_data trivial

theorem chunkStep_data {page : QueryBuilder} {next : Prog (Option Error)}
    (hnext : next.Every Call.Data) : (chunkStep heap fuel page next).Every Call.Data := by
  have hget := @Get_data heap fuel page
  refine hget.bind fun
    | .error _ => trivial
    | .ok [] => trivial
    | .ok (_ :: _) => hget.bind fun
      | .error _ => trivial
      | .ok rows => ⟨trivial, fun more => ?_⟩
  cases more
  · trivial
  · exact hnext

theorem chunkFrom_data (qb : QueryBuilder) (size : BitVec 64) (rounds : Nat)
    (offset : BitVec 64) : (chunkFrom heap fuel qb size rounds offset).Every Call.Data := by
  induction rounds generalizing offset with
  | zero => trivial
  | succ rounds ih => exact chunkStep_data (ih _)

theorem chunkByIDFrom_data (qb : QueryBuilder) (size : BitVec 64) (column : String)
    (rounds : Nat) : (chunkByIDFrom heap fuel qb size column rounds).Every Call.Data := by
  induction rounds with
  | zero => trivial
  | succ rounds ih => exact chunkStep_data ih

theorem Terminal.exec_data (t : Terminal) (qb : QueryBuilder) :
    (t.exec heap fuel qb).2.Every Call.Data := by
  cases t
  case Get => exact Get_data qb
  case Exists =>
    simp only [Terminal.exec, QueryBuilder.Exists, QueryBuilder.Count]
    split <;>
      first | trivial | exact Prog.Every.bind (send_data trivial) fun a => by cases a <;> trivial
  case Chunk size =>
    simp only [Terminal.exec, QueryBuilder.Chunk]
    split
    · trivial
    · exact chunkFrom_data qb size fuel 0
  case ChunkByID size column =>
    simp only [Terminal.exec, QueryBuilder.ChunkByID]
    split
    · trivial
    · split
      · trivial
      · trivial
      · exact chunkByIDFrom_data qb size column fuel
  all_goals
    simp only [Terminal.exec, QueryBuilder.First, QueryBuilder.Count, QueryBuilder.Insert,
      QueryBuilder.Update, QueryBuilder.SoftDelete, QueryBuilder.Restore, QueryBuilder.Delete,
      QueryBuilder.ForceDelete, QueryBuilder.Raw, QueryBuilder.RawExec]
    (try split) <;> first | trivial | exact send_data trivial

end Data

theorem Script.run_data (fuel : Nat) (s : Script) (hs : s.OpensNoTransaction) (regs : Heap) :
    (s.run fuel regs).Every Call.Data := by
  induction s generalizing regs with
  | done err => trivial
  | call r m next ih =>
      simp only [Script.run]
      split
      · trivial
      · split
        · split
          · trivial
          · exact ih hs _
        · trivial
  | hasMany r relatedTable foreignKey id next ih
  | belongsTo r relatedTable foreignKey fkValue next ih =>
      simp only [Script.run]
      split
      · trivial
      · exact ih hs _
  | terminal r op next ih =>
      simp only [Script.run]
      split
      · trivial
      · exact (Terminal.exec_data op _).bind fun a => ih a (hs a) _
  | transaction => exact hs.elim

theorem Transaction_endsOnce {qb : QueryBuilder} {db : Nat} (hdb : qb.rawDB = some db)
    {body : Script} (hbody : body.OpensNoTransaction) (fuel : Nat) :
    ∃ k, qb.Transaction (fun child => body.run fuel ⟨[child]⟩) = .call (.begin db) k ∧
      ∀ tx, (k (.ok tx)).EndsOnce tx := by
  rw [QueryBuilder.Transaction, hdb]
  refine ⟨_, rfl, fun tx => ?_⟩
  refine Prog.EndsOnce.bind (body.run_data fuel hbody _) fun err => ?_
  cases err <;> intro answer <;> simp [Call.Ends] <;> cases answer <;> trivial

/-- `Transaction` on a pool sends `Begin` first.  Once `Begin` answers with a transaction
`tx`, whatever the callback (opening no transaction of its own) does and whatever the port
answers, a run that returns has sent exactly one `Commit` or `Rollback` of `tx`, as its
last call, and a run that stops (a panic in the callback) has sent neither. -/
theorem Transaction_ends_once {qb : QueryBuilder} {db : Nat} (hdb : qb.rawDB = some db)
    {body : Script} (hbody : body.OpensNoTransaction) (fuel : Nat)
    (answer : List Call → (c : Call) → c.Answer) {tx : Nat}
    (hbegin : answer [] (.begin db) = .ok tx) :
    ∃ calls, ((qb.Transaction fun child => body.run fuel ⟨[child]⟩).run answer []).2 =
        .begin db :: calls ∧
      Prog.EndedOnce tx ((qb.Transaction fun child => body.run fuel ⟨[child]⟩).run answer []).1
        calls := by
  obtain ⟨k, hk, hends⟩ := Transaction_endsOnce hdb hbody fuel
  rw [hk, Prog.run_call, hbegin]
  exact (hends tx).run answer [.begin db]

theorem Transaction_ends_once_get :
    (NewQueryBuilder (some 0)).rawDB = some 0 ∧
      (Script.terminal 0 .Get fun _ => .done none).OpensNoTransaction ∧
      keyPort [] 1 [] (.begin 0) = .ok 0 ∧
      ∃ calls, (((NewQueryBuilder (some 0)).Transaction fun child =>
          (Script.terminal 0 .Get fun _ => .done none).run 1 ⟨[child]⟩).run (keyPort [] 1) []).2 =
          .begin 0 :: calls ∧
        Prog.EndedOnce 0 (((NewQueryBuilder (some 0)).Transaction fun child =>
          (Script.terminal 0 .Get fun _ => .done none).run 1 ⟨[child]⟩).run (keyPort [] 1) []).1
          calls :=
  have hbody : (Script.terminal 0 .Get fun _ => .done none).OpensNoTransaction := by
    simp [Script.OpensNoTransaction]
  ⟨rfl, hbody, rfl, Transaction_ends_once rfl hbody 1 (keyPort [] 1) rfl⟩

end TjoQuery
