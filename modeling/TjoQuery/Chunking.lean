import Mathlib.Data.ENat.Lattice
import Mathlib.Order.CompletePartialOrder
import Mathlib.Tactic.IntervalCases
import TjoQuery.Terminal

namespace TjoQuery

/-! `Chunk` and `ChunkByID` run against a port (`Prog.run`).  The port is described by
what it answers the statements the loops send, whatever was sent before, and by what the
callback answers, from the number of callbacks made before it.  The loops get `rounds`
pages of fuel; a run that uses it up has not returned. -/

open Statement QueryBuilder

def Call.isCallback : Call → Bool
  | .callback _ => true
  | _ => false

def callbacks (trace : List Call) : Nat := trace.countP Call.isCallback

/-- The calls of `k` pages that had rows: each page's statement sent twice, then its rows
handed to the callback. -/
def chunkTrace (db : Handle) (stmt : Nat → Statement) (rows : Nat → Rows) (k : Nat) :
    List Call :=
  (List.range k).flatMap fun i => [.query db (stmt i), .query db (stmt i), .callback (rows i)]

@[simp] theorem chunkTrace_zero (db : Handle) (stmt : Nat → Statement) (rows : Nat → Rows) :
    chunkTrace db stmt rows 0 = [] := rfl

theorem chunkTrace_succ (db : Handle) (stmt : Nat → Statement) (rows : Nat → Rows) (k : Nat) :
    chunkTrace db stmt rows (k + 1) = chunkTrace db stmt rows k ++
      [.query db (stmt k), .query db (stmt k), .callback (rows k)] := by
  simp [chunkTrace, List.range_succ]

theorem chunkTrace_succ_left (db : Handle) (stmt : Nat → Statement) (rows : Nat → Rows)
    (k : Nat) :
    chunkTrace db stmt rows (k + 1) =
      [.query db (stmt 0), .query db (stmt 0), .callback (rows 0)] ++
      chunkTrace db (fun i => stmt (i + 1)) (fun i => rows (i + 1)) k := by
  simp [chunkTrace, List.range_succ_eq_map, List.flatMap_map]

@[simp] theorem callbacks_nil : callbacks [] = 0 := rfl

@[simp] theorem callbacks_query_cons (db : Handle) (st : Statement) (trace : List Call) :
    callbacks (.query db st :: trace) = callbacks trace := rfl

@[simp] theorem callbacks_append (t₁ t₂ : List Call) :
    callbacks (t₁ ++ t₂) = callbacks t₁ + callbacks t₂ :=
  List.countP_append ..

theorem callbacks_chunkTrace (db : Handle) (stmt : Nat → Statement) (rows : Nat → Rows)
    (k : Nat) : callbacks (chunkTrace db stmt rows k) = k := by
  induction k with
  | zero => rfl
  | succ k ih =>
      simp only [callbacks, chunkTrace_succ, List.countP_append] at ih ⊢
      rw [ih]
      rfl

/-! ## One page -/

section Step

variable {heap : Nat → QueryBuilder} {fuel : Nat} {answer : List Call → (c : Call) → c.Answer}
  {page : QueryBuilder} {st : Statement} {next : Prog (Option Error)} {trace : List Call}

theorem Get_of_ToSQL (hsql : ToSQL heap fuel page = some (.ok st)) :
    page.Get heap fuel = .call (.query page.db st) .pure := by
  simp [Get, withSQL, hsql]

theorem run_chunkStep_nil {db : Handle} (hdb : page.db = db)
    (hsql : ToSQL heap fuel page = some (.ok st)) (hrows : answer trace (.query db st) = .ok []) :
    (chunkStep heap fuel page next).run answer trace = (some none, trace ++ [.query db st]) := by
  subst hdb
  simp [chunkStep, Get_of_ToSQL hsql, Prog.run_bind, hrows]

theorem run_chunkStep_cons {db : Handle} {rows : Rows} (hdb : page.db = db)
    (hsql : ToSQL heap fuel page = some (.ok st))
    (hrows : ∀ t, answer t (.query db st) = .ok rows)
    (hne : rows ≠ []) :
    (chunkStep heap fuel page next).run answer trace =
      if answer (trace ++ [.query db st, .query db st]) (.callback rows) then
        next.run answer (trace ++ [.query db st, .query db st, .callback rows])
      else (some none, trace ++ [.query db st, .query db st, .callback rows]) := by
  subst hdb
  obtain ⟨r, rs, rfl⟩ := List.exists_cons_of_ne_nil hne
  simp only [chunkStep, Get_of_ToSQL hsql, Prog.call_bind, Prog.pure_bind, Prog.run_call, hrows,
    List.append_assoc, List.singleton_append]
  split <;> rfl

end Step

/-! ## Offset chunking -/

section Offset

variable {heap : Nat → QueryBuilder} {fuel : Nat} {qb : QueryBuilder} {size : BitVec 64}

theorem ToSQL_chunkPage (htable : qb.table ≠ "") (offset : BitVec 64) :
    ToSQL heap (fuel + 1) (chunkPage qb size offset) =
      some (.ok (chunkPage qb size offset).assemble) := by
  simp [ToSQL, chunkPage, htable]

theorem chunk_offset_succ (k : Nat) :
    BitVec.ofNat 64 (k * size.toNat) + size = BitVec.ofNat 64 ((k + 1) * size.toNat) := by
  apply BitVec.eq_of_toNat_eq
  simp only [BitVec.toNat_add, BitVec.toNat_ofNat, Nat.add_mul, Nat.one_mul, Nat.mod_add_mod]

/-- The rows of page `i` of size `n`: `R[i*n, min(i*n + n, len(R)))`. -/
def slice (R : Rows) (n i : Nat) : Rows := (R.drop (i * n)).take n

theorem slice_eq_nil_iff {R : Rows} {n i : Nat} (hn : 0 < n) :
    slice R n i = [] ↔ R.length ≤ i * n := by
  rw [slice, List.take_eq_nil_iff]
  simp [List.drop_eq_nil_iff, Nat.pos_iff_ne_zero.mp hn]

/-- `ceil(total / n)`: the pages of size `n` that have rows. -/
def pageCount (total n : Nat) : Nat := (total + n - 1) / n

theorem lt_pageCount_iff {total n i : Nat} (hn : 0 < n) :
    i < pageCount total n ↔ i * n < total := by
  rw [pageCount, Nat.lt_iff_add_one_le, Nat.le_div_iff_mul_le hn, Nat.add_mul]
  omega

theorem le_pageCount_mul {total n : Nat} (hn : 0 < n) : total ≤ pageCount total n * n := by
  have hdiv := Nat.div_add_mod (total + n - 1) n
  have hmod := Nat.mod_lt (total + n - 1) hn
  rw [pageCount, Nat.mul_comm]
  omega

/-- The statement of page `i` of `Chunk(size)`. -/
def chunkStatement (qb : QueryBuilder) (size : BitVec 64) (i : Nat) : Statement :=
  (chunkPage qb size (.ofNat 64 (i * size.toNat))).assemble

theorem chunkPage_db (offset : BitVec 64) : (chunkPage qb size offset).db = qb.db := rfl

theorem ToSQL_chunkStatement (htable : qb.table ≠ "") (i : Nat) :
    ToSQL heap (fuel + 1) (chunkPage qb size (.ofNat 64 (i * size.toNat))) =
      some (.ok (chunkStatement qb size i)) :=
  ToSQL_chunkPage htable _

variable {R : Rows} {answer : List Call → (c : Call) → c.Answer} {j : ℕ∞}

theorem answer_chunkStatement (hn : 0 < size.toNat) (hrange : R.length + size.toNat < 2 ^ 63)
    (hquery : ∀ o : BitVec 64, o.toNat < R.length + size.toNat → ∀ t,
      answer t (.query qb.db (chunkPage qb size o).assemble) =
        .ok ((R.drop o.toNat).take size.toNat))
    {k : Nat} (hk : k ≤ pageCount R.length size.toNat) (t : List Call) :
    answer t (.query qb.db (chunkStatement qb size k)) = .ok (slice R size.toNat k) := by
  have hmul : k * size.toNat < R.length + size.toNat := by
    have := Nat.mul_le_mul_right size.toNat hk
    have := Nat.div_mul_le_self (R.length + size.toNat - 1) size.toNat
    rw [pageCount] at *
    omega
  have htoNat : (BitVec.ofNat 64 (k * size.toNat)).toNat = k * size.toNat := by
    rw [BitVec.toNat_ofNat]; exact Nat.mod_eq_of_lt (by omega)
  rw [chunkStatement, hquery _ (by rw [htoNat]; exact hmul), htoNat]
  rfl

theorem run_chunkFrom (htable : qb.table ≠ "") (hn : 0 < size.toNat)
    (hrange : R.length + size.toNat < 2 ^ 63)
    (hquery : ∀ o : BitVec 64, o.toNat < R.length + size.toNat → ∀ t,
      answer t (.query qb.db (chunkPage qb size o).assemble) =
        .ok ((R.drop o.toNat).take size.toNat))
    (hcallback : ∀ t rows,
      answer t (.callback rows) = decide (((callbacks t + 1 : ℕ) : ℕ∞) < j))
    {c : Nat} (hc : (c : ℕ∞) = min j (pageCount R.length size.toNat)) :
    ∀ d k rounds, k + d = c → (d = 0 → (pageCount R.length size.toNat : ℕ∞) < j) →
      d < rounds →
      (chunkFrom heap (fuel + 1) qb size rounds (.ofNat 64 (k * size.toNat))).run answer
          (chunkTrace qb.db (chunkStatement qb size) (slice R size.toNat) k) =
        (some none, chunkTrace qb.db (chunkStatement qb size) (slice R size.toNat) c ++
          if (pageCount R.length size.toNat : ℕ∞) < j then
            [.query qb.db (chunkStatement qb size (pageCount R.length size.toNat))]
          else []) := by
  have hcpages : c ≤ pageCount R.length size.toNat := by
    exact_mod_cast hc ▸ min_le_right j _
  intro d
  induction d with
  | zero =>
      intro k rounds hk hlast hrounds
      obtain ⟨r, rfl⟩ : ∃ r, rounds = r + 1 := ⟨rounds - 1, by omega⟩
      have hpages := hlast rfl
      have hcp : c = pageCount R.length size.toNat := by
        exact_mod_cast hc.trans (min_eq_right hpages.le)
      rw [show k = c by omega]
      have hnil : slice R size.toNat c = [] :=
        (slice_eq_nil_iff hn).mpr (hcp ▸ le_pageCount_mul hn)
      rw [chunkFrom, run_chunkStep_nil (chunkPage_db _) (ToSQL_chunkStatement htable _)
        ((answer_chunkStatement hn hrange hquery hcpages _).trans (congrArg _ hnil)), if_pos hpages,
        hcp]
  | succ d ih =>
      intro k rounds hk hlast hrounds
      obtain ⟨r, rfl⟩ : ∃ r, rounds = r + 1 := ⟨rounds - 1, by omega⟩
      have hkpages : k < pageCount R.length size.toNat := by omega
      have hne : slice R size.toNat k ≠ [] := fun hnil =>
        absurd ((slice_eq_nil_iff hn).mp hnil) (not_le.mpr ((lt_pageCount_iff hn).mp hkpages))
      rw [chunkFrom, run_chunkStep_cons (chunkPage_db _) (ToSQL_chunkStatement htable _)
        (answer_chunkStatement hn hrange hquery hkpages.le) hne, hcallback, chunk_offset_succ,
        ← chunkTrace_succ qb.db (chunkStatement qb size) (slice R size.toNat) k]
      simp only [callbacks_append, callbacks_chunkTrace, callbacks_query_cons, callbacks_nil,
        Nat.add_zero, decide_eq_true_eq]
      by_cases hmore : ((k + 1 : ℕ) : ℕ∞) < j
      · rw [if_pos hmore]
        refine ih (k + 1) r (by omega) (fun hd => ?_) (by omega)
        rw [show k + 1 = c by omega, hc] at hmore
        exact (min_lt_iff.mp hmore).resolve_left (lt_irrefl j)
      · have hkc : k + 1 = c := by
          by_contra hkc
          exact hmore (lt_of_lt_of_le (by exact_mod_cast (show k + 1 < c by omega))
            (hc ▸ min_le_left j _))
        have hlast : ¬ (pageCount R.length size.toNat : ℕ∞) < j := fun hpages =>
          hmore (by rw [hkc, hc, min_eq_right hpages.le]; exact hpages)
        rw [if_neg hmore, if_neg hlast, List.append_nil, hkc]

theorem toNat_pos_of_not_sle (hsize : ¬ size.sle 0 = true) : 0 < size.toNat := by
  rw [Nat.pos_iff_ne_zero]
  intro h
  exact hsize (by rw [BitVec.eq_of_toNat_eq (h.trans (BitVec.toNat_ofNat 0 64).symm)]; decide)

/-- `Chunk(size, fn)` on a builder with a table, against a port that answers the page at
each offset `o` with `R[o, o + n)` and a callback that answers `true` on its first `j - 1`
calls and `false` on its `j`-th: it returns `nil` after `c = min(j, ceil(len(R) / n))`
callbacks, the `i`-th given `R[i*n, (i+1)*n)` after its page was sent twice, and then
sends only the first empty page, and that only when the callback never said `false`. -/
theorem Chunk_visits_rows_once (htable : qb.table ≠ "") (hsize : ¬ size.sle 0 = true)
    (hrange : R.length + size.toNat < 2 ^ 63)
    (hquery : ∀ o : BitVec 64, o.toNat < R.length + size.toNat → ∀ t,
      answer t (.query qb.db (chunkPage qb size o).assemble) =
        .ok ((R.drop o.toNat).take size.toNat))
    (hj : 0 < j)
    (hcallback : ∀ t rows,
      answer t (.callback rows) = decide (((callbacks t + 1 : ℕ) : ℕ∞) < j))
    {rounds : Nat} (hrounds : pageCount R.length size.toNat < rounds) :
    ∃ c : ℕ, (c : ℕ∞) = min j (pageCount R.length size.toNat) ∧
      (qb.Chunk heap (fuel + 1) size rounds).run answer [] =
        (some none, chunkTrace qb.db (chunkStatement qb size) (slice R size.toNat) c ++
          if (pageCount R.length size.toNat : ℕ∞) < j then
            [.query qb.db (chunkStatement qb size (pageCount R.length size.toNat))]
          else []) := by
  have hmin : min j (pageCount R.length size.toNat : ℕ∞) ≠ ⊤ :=
    ne_top_of_le_ne_top (ENat.coe_ne_top _) (min_le_right _ _)
  refine ⟨(min j (pageCount R.length size.toNat : ℕ∞)).toNat, ENat.coe_toNat hmin, ?_⟩
  have hc := ENat.coe_toNat hmin
  have hcpages : (min j (pageCount R.length size.toNat : ℕ∞)).toNat ≤
      pageCount R.length size.toNat := by
    exact_mod_cast hc ▸ min_le_right j _
  have hfirst := @run_chunkFrom heap fuel qb size R answer j htable (toNat_pos_of_not_sle hsize)
    hrange hquery hcallback _ hc _ 0 rounds (Nat.zero_add _) (fun hzero => ?_) (by omega)
  · rw [Chunk, if_neg hsize]
    simpa using hfirst
  · have hnone : min j (pageCount R.length size.toNat : ℕ∞) = 0 := by rw [← hc, hzero]; rfl
    rcases le_total j (pageCount R.length size.toNat : ℕ∞) with h | h
    · exact absurd (min_eq_left h ▸ hnone) hj.ne'
    · exact (min_eq_right h ▸ hnone) ▸ hj

end Offset

def pagedPort (R : Rows) (qb : QueryBuilder) (size : BitVec 64) (j : ℕ∞) (offsets : List Nat) :
    List Call → (c : Call) → c.Answer
  | _, .query _ st =>
      .ok ((R.drop
        ((offsets.find? fun o => (chunkPage qb size (.ofNat 64 o)).assemble = st).getD 0)).take
          size.toNat)
  | t, .callback _ => decide (((callbacks t + 1 : ℕ) : ℕ∞) < j)
  | _, .queryRow .. | _, .exec .. | _, .begin _ => .ok 0
  | _, .commit _ | _, .rollback _ => none

def usersTable : QueryBuilder := { NewQueryBuilder (some 0) with table := "users" }

def threeRows : Rows := [fun _ => some (.int 1), fun _ => some (.int 2), fun _ => some (.int 3)]

theorem Chunk_visits_rows_once_three :
    usersTable.table ≠ "" ∧ ¬ (2 : BitVec 64).sle 0 = true ∧
      threeRows.length + 2 < 2 ^ 63 ∧
      ∃ c : ℕ, (c : ℕ∞) = min (⊤ : ℕ∞) (pageCount threeRows.length 2) ∧
        (usersTable.Chunk (fun _ => usersTable) 1 2 3).run
            (pagedPort threeRows usersTable 2 (⊤ : ℕ∞) (List.range 5)) [] =
          (some none,
            chunkTrace usersTable.db (chunkStatement usersTable 2) (slice threeRows 2) c ++
            if (pageCount threeRows.length 2 : ℕ∞) < (⊤ : ℕ∞) then
              [.query usersTable.db (chunkStatement usersTable 2 (pageCount threeRows.length 2))]
            else []) := by
  refine ⟨by decide, by decide, by decide,
    @Chunk_visits_rows_once (fun _ => usersTable) 0 usersTable 2 threeRows
      (pagedPort threeRows usersTable 2 ⊤ (List.range 5)) ⊤ (by decide) (by decide) (by decide)
      (fun o ho t => ?_) (by simp) (fun _ _ => rfl) 3 (by decide)⟩
  obtain ⟨k, hk, rfl⟩ : ∃ k < 5, o = BitVec.ofNat 64 k :=
    ⟨o.toNat, ho, by simp [BitVec.setWidth_eq]⟩
  interval_cases k <;> rfl

/-- Without a table no page is assembled: over no rows at all, `Chunk` returns `ToSQL`'s
error before any query or callback. -/
theorem Chunk_untabled_fails :
    ((NewQueryBuilder (some 0)).Chunk (fun _ => usersTable) 1 2 1).run
        (pagedPort [] usersTable 2 ⊤ []) [] =
      (some (some (.text "table name is required")), []) := rfl

/-! ## What a page keeps of the builder

`chunkPage` and `idPage` name the fields they copy; the union child and its kind are not
among them. -/

section Pages

variable {heap : Nat → QueryBuilder} {fuel : Nat} {qb : QueryBuilder} {size : BitVec 64}

/-- The builder `qb` restricted to the page after `lastID`: every field kept, with the
condition `column > lastID` appended and the order, limit and offset of a page. -/
def idRestricted (qb : QueryBuilder) (size : BitVec 64) (column : String) (lastID : Value) :
    QueryBuilder :=
  { qb with whereConds := qb.whereConds ++ [⟨column, ">", lastID, "AND", []⟩],
            orderBy := [column ++ " ASC"], limitCount := size, offsetCount := 0 }

theorem chunkPage_assemble (offset : BitVec 64) :
    (chunkPage qb size offset).assemble =
      { qb with limitCount := size, offsetCount := offset }.assemble := rfl

theorem idPage_assemble (column : String) (lastID : Value) :
    (idPage qb size column lastID).assemble = (idRestricted qb size column lastID).assemble := rfl

theorem assemble_ne_withUnion (st union : Statement) (kind : String) :
    st ≠ st ++ lit (" " ++ kind ++ " ") ++ union := by
  intro heq
  have hlength := congrArg (fun st : Statement => st.text.length) heq
  simp only [append_text, lit_text, String.length_append] at hlength
  have hspace : " ".length = 1 := rfl
  omega

theorem restricted_ne_page {restricted : QueryBuilder} {st : Statement} {child : Nat}
    (hunion : restricted.unionQuery = some child)
    (hsql : ToSQL heap (fuel + 1) restricted = some (.ok st)) : restricted.assemble ≠ st := by
  obtain ⟨-, -, hnone | ⟨_, union, -, -, rfl⟩⟩ := ToSQL_eq_ok hsql
  · simp [hunion] at hnone
  · exact assemble_ne_withUnion _ _ _

/-- The pages of `Chunk` and `ChunkByID` lose the builder's union: for every builder with a
union child, `Chunk` sends its first page's statement, and whenever the builder restricted
to a page assembles, the page's statement differs from it. -/
theorem chunk_pages_drop_union {child : Nat} (hunion : qb.unionQuery = some child)
    (htable : qb.table ≠ "") (hsize : ¬ size.sle 0 = true) (rounds : Nat) :
    (∃ k, qb.Chunk heap (fuel + 1) size (rounds + 1) =
        .call (.query qb.db (chunkPage qb size 0).assemble) k) ∧
      (∀ offset st, ToSQL heap (fuel + 1) { qb with limitCount := size, offsetCount := offset } =
          some (.ok st) → (chunkPage qb size offset).assemble ≠ st) ∧
      (∀ column lastID st, ToSQL heap (fuel + 1) (idRestricted qb size column lastID) =
          some (.ok st) → (idPage qb size column lastID).assemble ≠ st) := by
  refine ⟨?_, fun offset st hsql => ?_, fun column lastID st hsql => ?_⟩
  · simp only [Chunk, if_neg hsize, chunkFrom, chunkStep, Get_of_ToSQL (ToSQL_chunkPage htable 0),
      Prog.call_bind, chunkPage_db]
    exact ⟨_, rfl⟩
  · rw [chunkPage_assemble]
    exact restricted_ne_page hunion hsql
  · rw [idPage_assemble]
    exact restricted_ne_page hunion hsql


def unionUsers : QueryBuilder := { usersTable with unionQuery := some 1 }

def adminsHeap : Nat → QueryBuilder :=
  fun _ => { NewQueryBuilder (some 0) with table := "admins" }

theorem chunk_pages_drop_union_users :
    unionUsers.unionQuery = some 1 ∧ unionUsers.table ≠ "" ∧
      ¬ (10 : BitVec 64).sle 0 = true ∧
      (chunkPage unionUsers 10 0).assemble = lit "SELECT * FROM users LIMIT 10" ∧
      ToSQL adminsHeap 2 { unionUsers with limitCount := 10, offsetCount := 0 } =
        some (.ok (lit "SELECT * FROM users LIMIT 10 UNION SELECT * FROM admins")) ∧
      (∃ k, unionUsers.Chunk adminsHeap 2 10 1 =
          .call (.query unionUsers.db (chunkPage unionUsers 10 0).assemble) k) ∧
      (∀ offset st,
        ToSQL adminsHeap 2 { unionUsers with limitCount := 10, offsetCount := offset } =
          some (.ok st) → (chunkPage unionUsers 10 offset).assemble ≠ st) ∧
      (∀ column lastID st, ToSQL adminsHeap 2 (idRestricted unionUsers 10 column lastID) =
          some (.ok st) → (idPage unionUsers 10 column lastID).assemble ≠ st) :=
  ⟨rfl, by decide, by decide, by decide, by decide,
    @chunk_pages_drop_union adminsHeap 1 unionUsers 10 1 rfl (by decide) (by decide) 0⟩

end Pages

/-! ## Chunking by key

`ChunkByID` asks each time for the rows after `lastID`, and `lastID` stays `0`: its port
is asked for one page only. -/

/-- A table as the page query of `ChunkByID` reads it: the rows with their integer key in
the chunking column.  The page after `lastID` is the first `n` rows with a greater key, in
ascending key order. -/
def keyPage (T : List (Int × Row)) (n : Nat) (lastID : Int) : Rows :=
  (((T.filter fun r => lastID < r.1).mergeSort fun a b => a.1 ≤ b.1).take n).map Prod.snd

theorem keyPage_eq_nil_iff {T : List (Int × Row)} {n : Nat} {lastID : Int} (hn : 0 < n) :
    keyPage T n lastID = [] ↔ (T.filter fun r => lastID < r.1).length = 0 := by
  rw [keyPage, List.map_eq_nil_iff, List.take_eq_nil_iff, ← List.length_eq_zero,
    List.length_mergeSort]
  omega

section Keys

variable {heap : Nat → QueryBuilder} {fuel : Nat} {qb : QueryBuilder} {size : BitVec 64}
  {column : String} {answer : List Call → (c : Call) → c.Answer}

theorem ToSQL_idPage (htable : qb.table ≠ "") (lastID : Value) :
    ToSQL heap (fuel + 1) (idPage qb size column lastID) =
      some (.ok (idPage qb size column lastID).assemble) := by
  simp [ToSQL, idPage, htable]

theorem idPage_db (lastID : Value) : (idPage qb size column lastID).db = qb.db := rfl

theorem run_chunkByIDFrom {rows : Rows} (htable : qb.table ≠ "")
    (hquery : ∀ t, answer t (.query qb.db (idPage qb size column (.int 0)).assemble) = .ok rows)
    (hne : rows ≠ []) (hcallback : ∀ t rows, answer t (.callback rows) = true)
    (rounds : Nat) (trace : List Call) :
    (chunkByIDFrom heap (fuel + 1) qb size column rounds).run answer trace =
      (none, trace ++ chunkTrace qb.db (fun _ => (idPage qb size column (.int 0)).assemble)
        (fun _ => rows) rounds) := by
  induction rounds generalizing trace with
  | zero => simp [chunkByIDFrom]
  | succ rounds ih =>
      rw [chunkByIDFrom, run_chunkStep_cons (idPage_db _) (ToSQL_idPage htable _) hquery hne,
        hcallback, if_pos rfl, ih, chunkTrace_succ_left]
      simp

/-- `ChunkByID` over a keyed table, with a callback that always answers `true`: with no row
of positive key it returns `nil` after one query; otherwise it hands the first page, the
first `n` rows by key, to the callback in every round, and has not returned after any
number of rounds. -/
theorem ChunkByID_repeats_first_page {T : List (Int × Row)} (htable : qb.table ≠ "")
    (hsize : ¬ size.sle 0 = true) (hcolumn : isValidIdentifier column = some true)
    (hquery : ∀ t, answer t (.query qb.db (idPage qb size column (.int 0)).assemble) =
      .ok (keyPage T size.toNat 0))
    (hcallback : ∀ t rows, answer t (.callback rows) = true) (rounds : Nat) :
    ((T.filter fun r => 0 < r.1).length = 0 →
      (qb.ChunkByID heap (fuel + 1) size column (rounds + 1)).run answer [] =
        (some none, [.query qb.db (idPage qb size column (.int 0)).assemble])) ∧
    (0 < (T.filter fun r => 0 < r.1).length →
      (qb.ChunkByID heap (fuel + 1) size column rounds).run answer [] =
        (none, chunkTrace qb.db (fun _ => (idPage qb size column (.int 0)).assemble)
          (fun _ => keyPage T size.toNat 0) rounds)) := by
  have hn := toNat_pos_of_not_sle hsize
  refine ⟨fun hnone => ?_, fun hsome => ?_⟩
  · rw [ChunkByID, if_neg hsize, hcolumn, chunkByIDFrom]
    exact run_chunkStep_nil (idPage_db _) (ToSQL_idPage htable _)
      ((hquery []).trans (congrArg _ ((keyPage_eq_nil_iff hn).mpr hnone)))
  · rw [ChunkByID, if_neg hsize, hcolumn]
    exact run_chunkByIDFrom htable hquery (fun hnil => by
      rw [keyPage_eq_nil_iff hn] at hnil; omega) hcallback rounds []

def keyPort (T : List (Int × Row)) (n : Nat) : List Call → (c : Call) → c.Answer
  | _, .query _ st =>
      match st.params.getLast? with
      | some (.int lastID) => .ok (keyPage T n lastID)
      | _ => .ok []
  | _, .callback _ => true
  | _, .queryRow .. | _, .exec .. | _, .begin _ => .ok 0
  | _, .commit _ | _, .rollback _ => none

def twoKeys : List (Int × Row) := [(1, fun _ => some (.int 1)), (2, fun _ => some (.int 2))]

theorem ChunkByID_repeats_first_page_two_keys :
    usersTable.table ≠ "" ∧ ¬ (1 : BitVec 64).sle 0 = true ∧
      isValidIdentifier "id" = some true ∧
      ((twoKeys.filter fun r => 0 < r.1).length = 0 →
        (usersTable.ChunkByID (fun _ => usersTable) 1 1 "id" 4).run (keyPort twoKeys 1) [] =
          (some none, [.query usersTable.db (idPage usersTable 1 "id" (.int 0)).assemble])) ∧
      (0 < (twoKeys.filter fun r => 0 < r.1).length →
        (usersTable.ChunkByID (fun _ => usersTable) 1 1 "id" 3).run (keyPort twoKeys 1) [] =
          (none, chunkTrace usersTable.db (fun _ => (idPage usersTable 1 "id" (.int 0)).assemble)
            (fun _ => keyPage twoKeys (1 : BitVec 64).toNat 0) 3)) :=
  ⟨by decide, by decide, by decide,
    @ChunkByID_repeats_first_page (fun _ => usersTable) 0 usersTable 1 "id" (keyPort twoKeys 1)
      twoKeys (by decide) (by decide) (by decide) (fun _ => rfl) (fun _ _ => rfl) 3⟩

end Keys

end TjoQuery
