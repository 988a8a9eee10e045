import TjoQuery.Execute

namespace TjoQuery

/-! The operations that end a chain, as data, and what a recorded error does to them.
Every operation that reads `err` reads it first, through `ToSQL` or the same check
(`precheck`); `First`, `Raw`, `RawExec`, `Chunk` and `ChunkByID` never read it, and
`Chunk`/`ChunkByID` build their page builders without it. -/

open Statement QueryBuilder

inductive Terminal
  | Get
  | First
  | Count
  | Exists
  | Insert (data : List (String × Value))
  | Update (data : List (String × Value))
  | Delete
  | SoftDelete
  | Restore
  | ForceDelete
  | Raw (st : Statement)
  | RawExec (st : Statement)
  | Chunk (size : BitVec 64)
  | ChunkByID (size : BitVec 64) (column : String)

namespace Terminal

@[reducible] def Answer : Terminal → Type
  | Get | Raw _ => Except Error Rows
  | First | Count => Except Error (BitVec 64)
  | Exists => Except Error Bool
  | Insert _ | Update _ | Delete | SoftDelete | Restore | ForceDelete | RawExec _ =>
      Except Error Nat
  | Chunk _ | ChunkByID _ _ => Option Error

/-- The operation on a builder: the builder as it leaves it, and its program.  The loops
of `Chunk` and `ChunkByID` get as many rounds as `ToSQL` gets fuel. -/
def exec (heap : Nat → QueryBuilder) (fuel : Nat) : (t : Terminal) → QueryBuilder →
    QueryBuilder × Prog t.Answer
  | Get, qb => (qb, qb.Get heap fuel)
  | First, qb => qb.First heap fuel
  | Count, qb => qb.Count heap fuel
  | Exists, qb => qb.Exists heap fuel
  | Insert data, qb => (qb, qb.Insert data)
  | Update data, qb => (qb, qb.Update data)
  | Delete, qb => (qb, qb.Delete)
  | SoftDelete, qb => (qb, qb.SoftDelete)
  | Restore, qb => (qb, qb.Restore)
  | ForceDelete, qb => (qb, qb.ForceDelete)
  | Raw st, qb => (qb, qb.Raw st)
  | RawExec st, qb => (qb, qb.RawExec st)
  | Chunk size, qb => (qb, qb.Chunk heap fuel size fuel)
  | ChunkByID size column, qb => (qb, qb.ChunkByID heap fuel size column fuel)

def errorOfExcept {β : Type} : Except Error β → Option Error
  | .error e => some e
  | .ok _ => none

def errorOf : (t : Terminal) → t.Answer → Option Error
  | Get, r | Raw _, r => errorOfExcept r
  | First, r | Count, r => errorOfExcept r
  | Exists, r => errorOfExcept r
  | Insert _, r | Update _, r | Delete, r | SoftDelete, r | Restore, r | ForceDelete, r
  | RawExec _, r => errorOfExcept r
  | Chunk _, err | ChunkByID _ _, err => err

/-- The operations that look at `err` before anything else. -/
def checksErr : Terminal → Bool
  | First | Raw _ | RawExec _ | Chunk _ | ChunkByID _ _ => false
  | _ => true

end Terminal

namespace QueryBuilder

variable {heap : Nat → QueryBuilder} {fuel : Nat} {qb : QueryBuilder} {e : Error}

theorem ToSQL_of_err (h : qb.err = some e) : ToSQL heap (fuel + 1) qb = some (.error e) := by
  simp [ToSQL, h]

theorem precheck_of_err (h : qb.err = some e) : qb.precheck = some e := by
  simp [precheck, h]

theorem Get_of_err (h : qb.err = some e) : qb.Get heap (fuel + 1) = .pure (.error e) := by
  simp [Get, withSQL, ToSQL_of_err h]

theorem Count_of_err (h : qb.err = some e) :
    qb.Count heap (fuel + 1) = ({ qb with selectCols := ["COUNT(*)"] }, .pure (.error e)) := by
  simp [Count, ToSQL_of_err (show { qb with selectCols := ["COUNT(*)"] }.err = some e from h)]

theorem Insert_of_err (h : qb.err = some e) (data : List (String × Value)) :
    qb.Insert data = .pure (.error e) := by
  simp [Insert, precheck_of_err h]

theorem Update_of_err (h : qb.err = some e) (data : List (String × Value)) :
    qb.Update data = .pure (.error e) := by
  simp [Update, precheck_of_err h]

theorem Delete_of_err (h : qb.err = some e) : qb.Delete = .pure (.error e) := by
  simp [Delete, precheck_of_err h]

end QueryBuilder

theorem Terminal.exec_of_err {t : Terminal} (ht : t.checksErr = true) {qb : QueryBuilder}
    {e : Error} (h : qb.err = some e) (heap : Nat → QueryBuilder) (fuel : Nat) :
    ∃ a, (t.exec heap (fuel + 1) qb).2 = .pure a ∧ t.errorOf a = some e := by
  cases t <;> simp only [checksErr, Bool.false_eq_true] at ht
  case Get => exact ⟨_, Get_of_err h, rfl⟩
  case Count => exact ⟨.error e, by simp [exec, Count_of_err h], rfl⟩
  case Exists => exact ⟨.error e, by simp [exec, QueryBuilder.Exists, Count_of_err h], rfl⟩
  case Insert data => exact ⟨_, Insert_of_err h data, rfl⟩
  case Update data | SoftDelete | Restore => exact ⟨_, Update_of_err h _, rfl⟩
  case Delete | ForceDelete => exact ⟨_, Delete_of_err h, rfl⟩

/-! ## The last error wins -/

theorem Mutator.recorded_of_last_failure {pre post : List Mutator} {m : Mutator} {e : Error}
    (hfail : m.check = some (some e)) (hpass : ∀ m' ∈ post, m'.check = some none)
    (err : Option Error) : recorded (pre ++ m :: post) err = some e := by
  have hkeep : ∀ acc, post.foldl (fun err m => (m.check.getD none).or err) acc = acc := by
    induction post with
    | nil => exact fun _ => rfl
    | cons m' post ih =>
        simp only [List.mem_cons, forall_eq_or_imp] at hpass
        simpa [hpass.1] using ih hpass.2
  simp [recorded, List.foldl_append, hfail, hkeep]

theorem QueryBuilder.returns_of_err {qb : QueryBuilder} {e : Error} (h : qb.err = some e)
    (heap : Nat → QueryBuilder) (fuel : Nat) (data : List (String × Value)) :
    ToSQL heap (fuel + 1) qb = some (.error e) ∧ qb.Get heap (fuel + 1) = .pure (.error e) ∧
      (qb.Count heap (fuel + 1)).2 = .pure (.error e) ∧ qb.Insert data = .pure (.error e) ∧
      qb.Update data = .pure (.error e) ∧ qb.Delete = .pure (.error e) :=
  ⟨ToSQL_of_err h, Get_of_err h, by rw [Count_of_err h], Insert_of_err h data,
    Update_of_err h data, Delete_of_err h⟩

theorem terminal_returns_last_error {qb qb' : QueryBuilder} {pre post : List Mutator}
    {m : Mutator} {e : Error} (hfail : m.check = some (some e))
    (hpass : ∀ m' ∈ post, m'.check = some none)
    (hrun : Mutator.run qb (pre ++ m :: post) = some qb')
    (heap : Nat → QueryBuilder) (fuel : Nat) (data : List (String × Value)) :
    ToSQL heap (fuel + 1) qb' = some (.error e) ∧ qb'.Get heap (fuel + 1) = .pure (.error e) ∧
      (qb'.Count heap (fuel + 1)).2 = .pure (.error e) ∧ qb'.Insert data = .pure (.error e) ∧
      qb'.Update data = .pure (.error e) ∧ qb'.Delete = .pure (.error e) :=
  QueryBuilder.returns_of_err
    (by rw [Mutator.run_err hrun, Mutator.recorded_of_last_failure hfail hpass]) heap fuel data

theorem terminal_returns_last_error_tables :
    (Mutator.Table "bad;2").check = some (some (.quoted "invalid table name: %q" "bad;2")) ∧
      (∀ m' ∈ [Mutator.Where "id" "=" (.int 1)], m'.check = some none) ∧
      ∃ qb', Mutator.run (NewQueryBuilder none)
          ([.Table "bad;1"] ++ .Table "bad;2" :: [.Where "id" "=" (.int 1)]) = some qb' ∧
        ToSQL (fun _ => qb') 1 qb' = some (.error (.quoted "invalid table name: %q" "bad;2")) :=
  ⟨by decide, by decide, _, rfl,
    (@terminal_returns_last_error (NewQueryBuilder none) _ [.Table "bad;1"]
      [.Where "id" "=" (.int 1)] (.Table "bad;2") _ (by decide) (by decide) rfl _ 0 []).1⟩

/-- Two failing calls: the error `ToSQL` returns is the second one's, not the first's. -/
theorem later_failure_overwrites_error :
    (Mutator.Table "bad;1").check = some (some (.quoted "invalid table name: %q" "bad;1")) ∧
      (Mutator.run (NewQueryBuilder none) [.Table "bad;1", .Table "bad;2"]).bind
          (ToSQL (fun _ => NewQueryBuilder none) 1) =
        some (.error (.quoted "invalid table name: %q" "bad;2")) := by
  decide

/-- The errors the failing calls of a chain record, in order. -/
def Mutator.failures (chain : List Mutator) : List Error :=
  chain.filterMap fun m => m.check.getD none

theorem Mutator.recorded_eq_getLast (chain : List Mutator) (err : Option Error) :
    recorded chain err = (failures chain).getLast?.or err := by
  induction chain generalizing err with
  | nil => rfl
  | cons m chain ih =>
      rw [recorded, List.foldl_cons, ← recorded, ih]
      simp only [failures, List.filterMap_cons]
      cases m.check.getD none with
      | none => rfl
      | some e =>
          generalize chain.filterMap (fun m => m.check.getD none) = l
          cases hl : l.getLast? <;> simp [List.getLast?_cons, hl]

/-- Whatever calls fail before it, the last failing call's error is what `ToSQL`, `Get`,
`Count`, `Insert`, `Update` and `Delete` return. -/
theorem terminal_returns_last_failure {qb qb' : QueryBuilder} {chain : List Mutator}
    {e : Error} (hrun : Mutator.run qb chain = some qb')
    (hlast : (Mutator.failures chain).getLast? = some e)
    (heap : Nat → QueryBuilder) (fuel : Nat) (data : List (String × Value)) :
    ToSQL heap (fuel + 1) qb' = some (.error e) ∧ qb'.Get heap (fuel + 1) = .pure (.error e) ∧
      (qb'.Count heap (fuel + 1)).2 = .pure (.error e) ∧ qb'.Insert data = .pure (.error e) ∧
      qb'.Update data = .pure (.error e) ∧ qb'.Delete = .pure (.error e) :=
  QueryBuilder.returns_of_err
    (by rw [Mutator.run_err hrun, Mutator.recorded_eq_getLast, hlast]; rfl) heap fuel data

theorem terminal_returns_last_failure_tables :
    Mutator.run (NewQueryBuilder none) [.Table "bad;1", .Table "bad;2"] =
        some { NewQueryBuilder none with err := some (.quoted "invalid table name: %q" "bad;2") } ∧
      (Mutator.failures [.Table "bad;1", .Table "bad;2"]).getLast? =
        some (.quoted "invalid table name: %q" "bad;2") ∧
      ToSQL (fun _ => NewQueryBuilder none) 1
          { NewQueryBuilder none with err := some (.quoted "invalid table name: %q" "bad;2") } =
        some (.error (.quoted "invalid table name: %q" "bad;2")) :=
  ⟨by decide, by decide,
    (@terminal_returns_last_failure (NewQueryBuilder none)
      { NewQueryBuilder none with err := some (.quoted "invalid table name: %q" "bad;2") }
      [.Table "bad;1", .Table "bad;2"] _ (by decide) (by decide) _ 0 []).1⟩

/-! ## Chunking ignores the error -/

namespace QueryBuilder

variable {heap : Nat → QueryBuilder} {fuel : Nat}

theorem chunkStep_any_query {page : QueryBuilder} {db : Handle} {st : Statement}
    {next : Prog (Option Error)} (hdb : page.db = db)
    (hsql : ToSQL heap fuel page = some (.ok st)) :
    (chunkStep heap fuel page next).Any (· = .query db st) := by
  simp [chunkStep, Get, withSQL, hsql, hdb]

theorem chunkStep_any_callback {page : QueryBuilder} {st : Statement}
    {next : Prog (Option Error)} (hsql : ToSQL heap fuel page = some (.ok st)) :
    (chunkStep heap fuel page next).Any fun c => ∃ rows, c = .callback rows := by
  simp only [chunkStep, Get, withSQL, hsql, Prog.call_bind, Prog.pure_bind, Prog.any_call]
  exact .inr ⟨.ok [fun _ => none], .inr ⟨.ok [], .inl ⟨[], rfl⟩⟩⟩

end QueryBuilder

/-- `NewQueryBuilder(db).Table("users").Where("bad;", "=", 1)` holds an error, yet
`Chunk(10, fn)` and `ChunkByID(10, "id", fn)` query the pool and hand rows to `fn`. -/
theorem chunk_runs_despite_error :
    ∃ qb, Mutator.run (NewQueryBuilder (some 0)) [.Table "users", .Where "bad;" "=" (.int 1)] =
        some qb ∧ qb.err = some (.quoted "invalid column name in WHERE: %q" "bad;") ∧
      (qb.Chunk (fun _ => qb) 1 10 1).Any
        (· = .query (.pool (some 0)) (lit "SELECT * FROM users LIMIT 10")) ∧
      (qb.Chunk (fun _ => qb) 1 10 1).Any (fun c => ∃ rows, c = .callback rows) ∧
      (qb.ChunkByID (fun _ => qb) 1 10 "id" 1).Any (· = .query (.pool (some 0))
        ⟨"SELECT * FROM users WHERE id > ? ORDER BY id ASC LIMIT 10", [.int 0]⟩) ∧
      (qb.ChunkByID (fun _ => qb) 1 10 "id" 1).Any (fun c => ∃ rows, c = .callback rows) := by
  refine ⟨_, rfl, rfl, ?_, ?_, ?_, ?_⟩ <;>
    simp only [Chunk, ChunkByID, chunkFrom, chunkByIDFrom,
      if_neg (by decide : ¬ (10 : BitVec 64).sle 0),
      show isValidIdentifier "id" = some true by decide]
  · exact chunkStep_any_query rfl (by decide)
  · exact @chunkStep_any_callback _ _ _ (lit "SELECT * FROM users LIMIT 10") _ (by decide)
  · exact chunkStep_any_query rfl (by decide)
  · exact @chunkStep_any_callback _ _ _
      ⟨"SELECT * FROM users WHERE id > ? ORDER BY id ASC LIMIT 10", [.int 0]⟩ _ (by decide)

/-! ## What `Count` leaves behind -/

/-- When the count statement does not assemble, `Count` returns before it restores the
select list: the builder keeps `COUNT(*)`. -/
theorem Count_keeps_count_select {qb : QueryBuilder} (h : qb.err ≠ none ∨ qb.table = "")
    (heap : Nat → QueryBuilder) (fuel : Nat) :
    (qb.Count heap (fuel + 1)).1 = { qb with selectCols := ["COUNT(*)"] } := by
  cases herr : qb.err with
  | some e => simp [QueryBuilder.Count_of_err herr, herr]
  | none =>
      have htable : qb.table = "" := h.resolve_left (by simp [herr])
      simp [QueryBuilder.Count, ToSQL, herr, htable]

theorem Count_keeps_count_select_untabled :
    ((NewQueryBuilder (some 0)).err ≠ none ∨ (NewQueryBuilder (some 0)).table = "") ∧
      ((NewQueryBuilder (some 0)).Count (fun _ => NewQueryBuilder none) 1).1 =
        { NewQueryBuilder (some 0) with selectCols := ["COUNT(*)"] } ∧
      ({ NewQueryBuilder (some 0) with selectCols := ["COUNT(*)"] }.Table "users").map
          (fun qb : QueryBuilder => qb.Get (fun _ => NewQueryBuilder none) 1) =
        some (.call (.query (.pool (some 0)) (lit "SELECT COUNT(*) FROM users")) .pure) :=
  ⟨.inr rfl, Count_keeps_count_select (.inr rfl) _ 0, rfl⟩

/-! ## Names that panic -/

/-- One backtick, or one double quote, passes both quote tests of `isValidIdentifier`,
whose slice `s[1 : len(s)-1]` is then `s[1:0]` and panics; so does every call that
validates such a name. -/
theorem lone_quote_panics (qb : QueryBuilder) (db : Option Nat) (heap : Nat → QueryBuilder)
    (fuel rounds : Nat) : ∀ q ∈ ["`", "\""],
    isValidIdentifier q = none ∧
      (∀ m ∈ [Mutator.Table q, .Where q "=" .null, .OrWhere q "=" .null, .WhereIn q [],
        .WhereBetween q .null .null, .WhereNull q, .WhereNotNull q, .Join q "a.id = b.id",
        .LeftJoin q "a.id = b.id", .RightJoin q "a.id = b.id", .OrderBy q "ASC",
        .GroupBy [q], .Having q "=" .null], m.apply qb = none) ∧
      (NewModel q).Query db = none ∧ qb.ChunkByID heap fuel 10 q rounds = .abort := by
  intro q hq
  simp only [List.mem_cons, List.mem_singleton, List.not_mem_nil, or_false] at hq
  have hpanic : isValidIdentifier q = none := by rcases hq with rfl | rfl <;> decide
  refine ⟨hpanic, fun m hm => ?_, by simp [Model.Query, NewModel, hpanic], ?_⟩
  · rw [Mutator.apply_eq, Option.map_eq_none']
    revert m
    rcases hq with rfl | rfl <;> decide
  · simp [ChunkByID, if_neg (by decide : ¬ (10 : BitVec 64).sle 0 = true), hpanic]

theorem lone_quote_panics_backtick :
    "`" ∈ ["`", "\""] ∧ isValidIdentifier "`" = none ∧
      (∀ m ∈ [Mutator.Table "`", .Where "`" "=" .null, .OrWhere "`" "=" .null, .WhereIn "`" [],
        .WhereBetween "`" .null .null, .WhereNull "`", .WhereNotNull "`", .Join "`" "a.id = b.id",
        .LeftJoin "`" "a.id = b.id", .RightJoin "`" "a.id = b.id", .OrderBy "`" "ASC",
        .GroupBy ["`"], .Having "`" "=" .null], m.apply (NewQueryBuilder none) = none) ∧
      (NewModel "`").Query none = none ∧
      (NewQueryBuilder none).ChunkByID (fun _ => NewQueryBuilder none) 1 10 "`" 1 = .abort :=
  ⟨by decide,
    lone_quote_panics (NewQueryBuilder none) none (fun _ => NewQueryBuilder none) 1 1 "`"
      (by decide)⟩

end TjoQuery
