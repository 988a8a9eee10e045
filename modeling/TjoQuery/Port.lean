import TjoQuery.Model

namespace TjoQuery

/-! The execution port: the `DB` interface a builder holds (`Query`, `QueryRow`, `Exec`),
`Begin` on a pool and `Commit`/`Rollback` on a transaction.  An operation that talks to
the port is a program tree: each node is one call, with a branch for every answer the
port may give.  `Chunk`'s callback is a call of the same kind, answered by the caller's
code.  `rows.Next` and `rows.Close` act on the answer itself and are not calls here. -/

/-- The rows a query answers with, in the order `rows.Next()` walks them. -/
def Rows := List Row

inductive Call
  | query (db : Handle) (st : Statement)
  | queryRow (db : Handle) (st : Statement)
  | exec (db : Handle) (st : Statement)
  | begin (db : Nat)
  | commit (tx : Nat)
  | rollback (tx : Nat)
  | callback (rows : Rows)

/-- What each call is answered with: `QueryRow` as `Scan` into an `int64` reads the row,
`Exec` with the rows affected, `Begin` with the transaction it opened. -/
@[reducible] def Call.Answer : Call → Type
  | .query .. => Except Error Rows
  | .queryRow .. => Except Error (BitVec 64)
  | .exec .. => Except Error Nat
  | .begin _ => Except Error Nat
  | .commit _ | .rollback _ => Option Error
  | .callback _ => Bool

/-- The handle a call is sent to; a callback is sent to none. -/
def Call.handle : Call → Option Handle
  | .query db _ | .queryRow db _ | .exec db _ => some db
  | .begin db => some (.pool (some db))
  | .commit tx | .rollback tx => some (.tx tx)
  | .callback _ => none

def Call.On (db : Handle) (c : Call) : Prop := ∀ h ∈ c.handle, h = db

inductive Prog (α : Type)
  | pure (a : α)
  /-- The operation does not return: it panicked, or a loop of the model ran out of fuel. -/
  | abort
  | call (c : Call) (k : c.Answer → Prog α)

namespace Prog

variable {α β : Type}

def bind : Prog α → (α → Prog β) → Prog β
  | pure a, f => f a
  | abort, _ => abort
  | call c k, f => call c fun a => (k a).bind f

/-- Every call the program can make, whatever the answers, satisfies `P`. -/
def Every (P : Call → Prop) : Prog α → Prop
  | pure _ | abort => True
  | call c k => P c ∧ ∀ a, (k a).Every P

/-- For some answers, the program makes a call that satisfies `P`. -/
def Any (P : Call → Prop) : Prog α → Prop
  | pure _ | abort => False
  | call c k => P c ∨ ∃ a, (k a).Any P

@[simp] theorem pure_bind (a : α) (f : α → Prog β) : (pure a).bind f = f a := rfl

@[simp] theorem abort_bind (f : α → Prog β) : (abort : Prog α).bind f = abort := rfl

@[simp] theorem call_bind (c : Call) (k : c.Answer → Prog α) (f : α → Prog β) :
    (call c k).bind f = call c fun a => (k a).bind f := rfl

@[simp] theorem every_pure (P : Call → Prop) (a : α) : (pure a).Every P := trivial

@[simp] theorem every_abort (P : Call → Prop) : (abort : Prog α).Every P := trivial

@[simp] theorem every_call (P : Call → Prop) (c : Call) (k : c.Answer → Prog α) :
    (call c k).Every P ↔ P c ∧ ∀ a, (k a).Every P := Iff.rfl

@[simp] theorem any_call (P : Call → Prop) (c : Call) (k : c.Answer → Prog α) :
    (call c k).Any P ↔ P c ∨ ∃ a, (k a).Any P := Iff.rfl

theorem Every.bind {P : Call → Prop} {p : Prog α} {f : α → Prog β} (hp : p.Every P)
    (hf : ∀ a, (f a).Every P) : (p.bind f).Every P := by
  induction p with
  | pure a => exact hf a
  | abort => trivial
  | call c k ih => exact ⟨hp.1, fun a => ih a (hp.2 a)⟩

/-- The program run against a port that answers each call from the calls made before it
(so that a callback that counts its calls is a port like any other): what the program
returns, `none` if it does not, and every call it made, in order. -/
def run (answer : List Call → (c : Call) → c.Answer) :
    Prog α → List Call → Option α × List Call
  | pure a, trace => (some a, trace)
  | abort, trace => (none, trace)
  | call c k, trace => (k (answer trace c)).run answer (trace ++ [c])

section Run

variable {answer : List Call → (c : Call) → c.Answer} {trace : List Call}

@[simp] theorem run_pure (a : α) : (pure a).run answer trace = (some a, trace) := rfl

@[simp] theorem run_abort : (abort : Prog α).run answer trace = (none, trace) := rfl

@[simp] theorem run_call (c : Call) (k : c.Answer → Prog α) :
    (call c k).run answer trace = (k (answer trace c)).run answer (trace ++ [c]) := rfl

theorem run_bind (p : Prog α) (f : α → Prog β) :
    (p.bind f).run answer trace =
      match p.run answer trace with
      | (some a, trace') => (f a).run answer trace'
      | (none, trace') => (none, trace') := by
  induction p generalizing trace with
  | pure a => rfl
  | abort => rfl
  | call c k ih => exact ih _

end Run

end Prog

end TjoQuery
