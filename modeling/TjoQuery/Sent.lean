import TjoQuery.Placeholders
import TjoQuery.Transaction

namespace TjoQuery

/-! Every statement an operation sends: `ToSQL`'s for the reads and for the pages of
`Chunk` and `ChunkByID`, the ones `Insert`, `Update` and `Delete` write themselves, and the
caller's for `Raw` and `RawExec`.  On a heap built by clean calls, each has as many `?` as
parameters, whatever the port answers, once the keys of `Insert` and `Update` and the
column of `ChunkByID` carry no `?` of their own: `isValidIdentifier` lets a quoted
identifier such as `` `a?b` `` through. -/

open Statement QueryBuilder

/-- The statement a call sends has as many `?` as parameters; a call without one passes. -/
def Call.Aligned : Call → Prop
  | .query _ st | .queryRow _ st | .exec _ st => st.Aligned
  | .begin _ | .commit _ | .rollback _ | .callback _ => True

/-- What an operation takes from its caller into a statement carries no `?` of its own:
the keys of `Insert` and `Update` and the column of `ChunkByID`; the statements of `Raw`
and `RawExec` are aligned already. -/
def Terminal.Clean : Terminal → Prop
  | .Insert data | .Update data => ∀ key ∈ data.map Prod.fst, Unmarked key
  | .ChunkByID _ column => Unmarked column
  | .Raw st | .RawExec st => st.Aligned
  | _ => True

theorem count_eq_zero_of_unmarked {s : String} (h : Unmarked s) : s.data.count '?' = 0 :=
  List.count_eq_zero_of_not_mem h

theorem count_join_marks {sep : String} (hsep : Unmarked sep) :
    ∀ {items : List String}, (∀ item ∈ items, item.data.count '?' = 1) →
      (Strings.join items sep).data.count '?' = items.length
  | [], _ => rfl
  | [item], h => h item (List.mem_singleton_self item)
  | item :: next :: rest, h => by
      simp only [Strings.join, String.data_append, List.count_append, count_eq_zero_of_unmarked hsep,
        h item (List.mem_cons_self _ _),
        count_join_marks hsep fun i hi => h i (List.mem_cons_of_mem _ hi), List.length_cons]
      omega

theorem whereClause_aligned {conds : List WhereCondition} (h : ∀ cond ∈ conds, cond.Safe) :
    (whereClause conds).Aligned := by
  unfold whereClause
  split
  · exact aligned_lit (by decide)
  · exact (aligned_lit (by decide)).append (renderConditions_aligned
      (fun cond hc => (h cond hc).render_aligned) fun cond hc => (h cond hc).logic)

theorem send_aligned {c : Call} (hc : c.Aligned) : (Prog.call c Prog.pure).Every Call.Aligned :=
  ⟨hc, fun _ => trivial⟩

/-! ## The statements `Insert`, `Update` and `Delete` write -/

section Writes

variable {qb : QueryBuilder} (hqb : qb.PlaceholderSafe) {data : List (String × Value)}
  (hkeys : ∀ key ∈ data.map Prod.fst, Unmarked key)
include hqb

include hkeys in
theorem Insert_aligned : (qb.Insert data).Every Call.Aligned := by
  unfold QueryBuilder.Insert
  split
  case h_4 =>
    have hcomma : Unmarked ", " := by decide
    have hmarks : ∀ item ∈ data.map fun _ => "?", item.data.count '?' = 1 := by
      simp only [List.mem_map]
      rintro _ ⟨_, _, rfl⟩
      rfl
    refine send_aligned ?_
    simp only [Call.Aligned, Aligned, String.data_append, List.count_append, List.length_map,
      count_eq_zero_of_unmarked hqb.table,
      count_eq_zero_of_unmarked (unmarked_join hcomma hkeys), count_join_marks hcomma hmarks]
    simp
  all_goals trivial

include hkeys in
theorem Update_aligned : (qb.Update data).Every Call.Aligned := by
  unfold QueryBuilder.Update
  split
  case h_4 =>
    refine send_aligned (Statement.Aligned.append ?_ (whereClause_aligned hqb.whereConds))
    have hentry : ∀ item ∈ data.map fun entry => entry.1 ++ " = ?", item.data.count '?' = 1 := by
      simp only [List.mem_map]
      rintro _ ⟨entry, he, rfl⟩
      simp [List.count_append,
        count_eq_zero_of_unmarked (hkeys _ (List.mem_map_of_mem Prod.fst he))]
    simp only [Aligned, String.data_append, List.count_append, List.length_map,
      count_eq_zero_of_unmarked hqb.table, count_join_marks (by decide : Unmarked ", ") hentry]
    simp
  all_goals trivial

theorem Delete_aligned : qb.Delete.Every Call.Aligned := by
  unfold QueryBuilder.Delete
  split
  · trivial
  · exact send_aligned ((aligned_lit (by simp [hqb.table]; decide)).append
      (whereClause_aligned hqb.whereConds))

end Writes

/-! ## The statements `ToSQL` assembles -/

namespace QueryBuilder.PlaceholderSafe

variable {qb : QueryBuilder} (hqb : qb.PlaceholderSafe)
include hqb

/-! The builders `First`, `Count` and `Chunk` assemble keep `qb`'s fragments. -/

theorem limit (count : BitVec 64) : (qb.Limit count).PlaceholderSafe :=
  ⟨hqb.table, hqb.selectCols, hqb.joins, hqb.whereConds, hqb.orderBy, hqb.groupBy, hqb.having⟩

theorem counting : ({ qb with selectCols := ["COUNT(*)"] } : QueryBuilder).PlaceholderSafe :=
  ⟨hqb.table, by simp; decide, hqb.joins, hqb.whereConds, hqb.orderBy, hqb.groupBy, hqb.having⟩

theorem chunkPage (size offset : BitVec 64) : (chunkPage qb size offset).PlaceholderSafe :=
  ⟨hqb.table, hqb.selectCols, hqb.joins, hqb.whereConds, hqb.orderBy, hqb.groupBy, hqb.having⟩

end QueryBuilder.PlaceholderSafe

section Reads

variable {heap : Nat → QueryBuilder} (hheap : ∀ p, (heap p).PlaceholderSafe) {fuel : Nat}
  {qb : QueryBuilder} (hqb : qb.PlaceholderSafe)
include hheap hqb

theorem withSQL_aligned {β : Type} {k : Statement → Prog (Except Error β)}
    (hk : ∀ st, st.Aligned → (k st).Every Call.Aligned) :
    (withSQL heap fuel qb k).Every Call.Aligned := by
  unfold withSQL
  split
  · trivial
  · trivial
  · exact hk _ (ToSQL_aligned hheap hqb ‹_›)

theorem Get_aligned : (qb.Get heap fuel).Every Call.Aligned :=
  withSQL_aligned hheap hqb fun _ hst => send_aligned hst

theorem First_aligned : (qb.First heap fuel).2.Every Call.Aligned := by
  simp only [QueryBuilder.First]
  split
  · trivial
  · exact send_aligned (aligned_lit (by decide))
  · exact send_aligned (ToSQL_aligned hheap (hqb.limit 1) ‹_›)

theorem Count_aligned : (qb.Count heap fuel).2.Every Call.Aligned := by
  simp only [QueryBuilder.Count]
  split
  · trivial
  · trivial
  · exact send_aligned (ToSQL_aligned hheap hqb.counting ‹_›)

theorem Exists_aligned : (qb.Exists heap fuel).2.Every Call.Aligned :=
  (Count_aligned hheap hqb).bind fun
    | .error _ => trivial
    | .ok _ => trivial

omit hqb in
theorem chunkStep_aligned {page : QueryBuilder} {next : Prog (Option Error)}
    (hpage : page.PlaceholderSafe) (hnext : next.Every Call.Aligned) :
    (chunkStep heap fuel page next).Every Call.Aligned := by
  have hget : (page.Get heap fuel).Every Call.Aligned := Get_aligned hheap hpage
  refine hget.bind fun
    | .error _ => trivial
    | .ok [] => trivial
    | .ok (_ :: _) => hget.bind fun
      | .error _ => trivial
      | .ok rows => ⟨trivial, fun more => ?_⟩
  cases more
  · trivial
  · exact hnext

theorem chunkFrom_aligned (size : BitVec 64) (rounds : Nat) (offset : BitVec 64) :
    (chunkFrom heap fuel qb size rounds offset).Every Call.Aligned := by
  induction rounds generalizing offset with
  | zero => trivial
  | succ rounds ih => exact chunkStep_aligned hheap (hqb.chunkPage size offset) (ih _)

theorem chunkByIDFrom_aligned (size : BitVec 64) {column : String} (hcol : Unmarked column)
    (rounds : Nat) : (chunkByIDFrom heap fuel qb size column rounds).Every Call.Aligned := by
  have hpage : (idPage qb size column (.int 0)).PlaceholderSafe := by
    refine ⟨hqb.table, hqb.selectCols, hqb.joins, ?_, ?_, hqb.groupBy, hqb.having⟩
    · simp only [idPage, List.mem_append, List.mem_singleton]
      rintro cond (hc | rfl)
      · exact hqb.whereConds cond hc
      · exact ⟨hcol, show Unmarked ">" by decide, show Unmarked "AND" by decide,
          fun h => absurd h (show ¬(">" = "IN" ∨ ">" = "BETWEEN") by decide)⟩
    · simp only [idPage, List.mem_singleton]
      rintro _ rfl
      simp [hcol]
      decide
  induction rounds with
  | zero => trivial
  | succ rounds ih => exact chunkStep_aligned hheap hpage ih

theorem Terminal.exec_aligned_of_safe {t : Terminal} (ht : t.Clean) :
    (t.exec heap fuel qb).2.Every Call.Aligned := by
  cases t with
  | Get => exact Get_aligned hheap hqb
  | First => exact First_aligned hheap hqb
  | Count => exact Count_aligned hheap hqb
  | Exists => exact Exists_aligned hheap hqb
  | Insert data => exact Insert_aligned hqb ht
  | Update data => exact Update_aligned hqb ht
  | Delete | ForceDelete => exact Delete_aligned hqb
  | SoftDelete | Restore => exact Update_aligned hqb (by simp; decide)
  | Raw st | RawExec st => exact send_aligned ht
  | Chunk size =>
      simp only [Terminal.exec, QueryBuilder.Chunk]
      split
      · trivial
      · exact chunkFrom_aligned hheap hqb size fuel 0
  | ChunkByID size column =>
      simp only [Terminal.exec, QueryBuilder.ChunkByID]
      split
      · trivial
      · split
        · trivial
        · trivial
        · exact chunkByIDFrom_aligned hheap hqb size ht fuel

end Reads

/-- On a heap built by calls that pass no `?` in a verbatim fragment and no `IN` or
`BETWEEN` to `Where` or `OrWhere`, every statement any operation sends, at any depth of its
program and whatever the port answers, has as many `?` as parameters, once the operation's
own keys and column carry none. -/
theorem Terminal.exec_aligned {heap : Heap} (hreach : Reachable Mutator.Clean heap)
    (p fuel : Nat) {t : Terminal} (ht : t.Clean) :
    (t.exec heap.get fuel (heap.get p)).2.Every Call.Aligned := by
  have hsafe : ∀ q, (heap.get q).PlaceholderSafe :=
    Reachable.forall_get (fun db rawDB => fresh_placeholderSafe db rawDB)
      (fun _ _ _ hm hqb happly => Mutator.apply_placeholderSafe hm hqb happly) hreach
  exact Terminal.exec_aligned_of_safe hsafe (hsafe p) ht

theorem Terminal.exec_aligned_update :
    Reachable Mutator.Clean usersById ∧ (Terminal.Update [("name", .str "x")]).Clean ∧
      ((Terminal.Update [("name", .str "x")]).exec usersById.get 1 (usersById.get 0)).2.Every
        Call.Aligned :=
  ⟨usersById_reachable, by simp [Terminal.Clean]; decide,
    Terminal.exec_aligned usersById_reachable 0 1 (by simp [Terminal.Clean]; decide)⟩

/-! ## Whole scripts

A transaction callback, or any program over builders, as a `Script`: it calls mutators on
its registers, derives builders with `HasMany` and `BelongsTo`, runs operations and
nested transactions.  When it passes no `?` of its own, every statement it sends is
aligned, over every run and every answer of the port. -/

/-- What the script passes into its builders and statements carries no `?` of its own;
`BelongsTo` reads no foreign key. -/
def Script.Clean : Script → Prop
  | .done _ => True
  | .call _ m next => m.Clean ∧ next.Clean
  | .hasMany _ relatedTable foreignKey _ next =>
      Unmarked relatedTable ∧ Unmarked foreignKey ∧ next.Clean
  | .belongsTo _ relatedTable _ _ next => Unmarked relatedTable ∧ next.Clean
  | .terminal _ op next => op.Clean ∧ ∀ a, (next a).Clean
  | .transaction _ body next => body.Clean ∧ ∀ err, (next err).Clean

def Heap.All (P : QueryBuilder → Prop) (regs : Heap) : Prop := ∀ qb ∈ regs.cells, P qb

section Registers

variable {P : QueryBuilder → Prop} {regs : Heap} {qb : QueryBuilder}

theorem Heap.All.write (h : regs.All P) (hqb : P qb) (r : Nat) : (regs.write r qb).All P :=
  fun qb' hqb' => (List.mem_or_eq_of_mem_set hqb').elim (h qb') fun heq => heq ▸ hqb

theorem Heap.All.alloc (h : regs.All P) (hqb : P qb) : (regs.alloc qb).All P := fun qb' hqb' =>
  (List.mem_append.mp hqb').elim (h qb') fun hmem => (List.mem_singleton.mp hmem) ▸ hqb

theorem Heap.All.read (h : regs.All P) {r : Nat} (hqb : regs.cells[r]? = some qb) : P qb :=
  h qb (List.getElem?_mem hqb)

theorem Heap.All.get_placeholderSafe (h : regs.All QueryBuilder.PlaceholderSafe) (p : Nat) :
    (regs.get p).PlaceholderSafe := by
  unfold Heap.get
  rw [List.getD_eq_getElem?_getD]
  cases hp : regs.cells[p]? with
  | none => exact fresh_placeholderSafe _ _
  | some qb => exact h.read hp

end Registers

theorem HasMany_placeholderSafe {qb qb' : QueryBuilder} {relatedTable foreignKey : String}
    {id : Value} (htable : Unmarked relatedTable) (hfk : Unmarked foreignKey)
    (h : qb.HasMany relatedTable foreignKey id = some qb') : qb'.PlaceholderSafe := by
  obtain ⟨child, htab, hwhere⟩ := Option.bind_eq_some.mp h
  exact @Mutator.apply_placeholderSafe (.Where foreignKey "=" id) child qb'
    ⟨hfk, by decide, by decide⟩
    (@Mutator.apply_placeholderSafe (.Table relatedTable) _ child htable
      (fresh_placeholderSafe _ _) htab) hwhere

theorem BelongsTo_placeholderSafe {qb qb' : QueryBuilder} {relatedTable foreignKey : String}
    {fkValue : Value} (htable : Unmarked relatedTable)
    (h : qb.BelongsTo relatedTable foreignKey fkValue = some qb') : qb'.PlaceholderSafe := by
  obtain ⟨child, htab, hwhere⟩ := Option.bind_eq_some.mp h
  exact @Mutator.apply_placeholderSafe (.Where "id" "=" fkValue) child qb'
    ⟨by decide, by decide, by decide⟩
    (@Mutator.apply_placeholderSafe (.Table relatedTable) _ child htable
      (fresh_placeholderSafe _ _) htab) hwhere

theorem Terminal.exec_placeholderSafe {heap : Nat → QueryBuilder} {fuel : Nat} (t : Terminal)
    {qb : QueryBuilder} (hqb : qb.PlaceholderSafe) : (t.exec heap fuel qb).1.PlaceholderSafe := by
  cases t
  case First => exact hqb.limit 1
  case Count | Exists =>
    simp only [Terminal.exec, QueryBuilder.Exists, QueryBuilder.Count]
    split <;> first | exact hqb | exact hqb.counting
  all_goals exact hqb

theorem Transaction_aligned {qb : QueryBuilder} {fn : QueryBuilder → Prog (Option Error)}
    (hfn : ∀ tx, (fn (newQueryBuilderWithDB (.tx tx) qb.rawDB)).Every Call.Aligned) :
    (qb.Transaction fn).Every Call.Aligned := by
  unfold QueryBuilder.Transaction
  split
  · trivial
  · refine ⟨trivial, fun
      | .error _ => trivial
      | .ok tx => (hfn tx).bind fun err => ?_⟩
    cases err <;> exact ⟨trivial, fun answer => by cases answer <;> trivial⟩

theorem Script.run_aligned_of_safe (fuel : Nat) (s : Script) (hs : s.Clean) (regs : Heap)
    (hregs : regs.All QueryBuilder.PlaceholderSafe) : (s.run fuel regs).Every Call.Aligned := by
  induction s generalizing regs with
  | done err => trivial
  | call r m next ih =>
      simp only [Script.run]
      split
      · trivial
      next qb hqb =>
        split
        · split
          · trivial
          next qb' happly =>
            exact ih hs.2 _ (hregs.write (Mutator.apply_placeholderSafe hs.1 (hregs.read hqb) happly) r)
        · trivial
  | hasMany r relatedTable foreignKey id next ih =>
      simp only [Script.run]
      split
      · trivial
      next qb' hqb' =>
        obtain ⟨_, -, hd⟩ := Option.bind_eq_some.mp hqb'
        exact ih hs.2.2 _ (hregs.alloc (HasMany_placeholderSafe hs.1 hs.2.1 hd))
  | belongsTo r relatedTable foreignKey fkValue next ih =>
      simp only [Script.run]
      split
      · trivial
      next qb' hqb' =>
        obtain ⟨_, -, hd⟩ := Option.bind_eq_some.mp hqb'
        exact ih hs.2 _ (hregs.alloc (BelongsTo_placeholderSafe hs.1 hd))
  | terminal r op next ih =>
      simp only [Script.run]
      split
      · trivial
      next qb hqb =>
        have hsafe := hregs.read hqb
        exact (Terminal.exec_aligned_of_safe hregs.get_placeholderSafe hsafe hs.1).bind fun a =>
          ih a (hs.2 a) _ (hregs.write (Terminal.exec_placeholderSafe op hsafe) r)
  | transaction r body next ihbody ih =>
      simp only [Script.run]
      split
      · trivial
      next qb hqb =>
        refine (Transaction_aligned fun tx => ihbody hs.1 _ ?_).bind fun err => ih err (hs.2 err) _ hregs
        exact fun child hchild => (List.mem_singleton.mp hchild) ▸ fresh_placeholderSafe _ _

/-- On a heap built by clean calls, every statement a clean script sends, through its
derived builders, its operations and its nested transactions, on every run and whatever
the port answers, has as many `?` as parameters. -/
theorem Script.run_aligned {heap : Heap} (hreach : Reachable Mutator.Clean heap) (fuel : Nat)
    {s : Script} (hs : s.Clean) : (s.run fuel heap).Every Call.Aligned := by
  have hsafe : ∀ q, (heap.get q).PlaceholderSafe :=
    Reachable.forall_get (fun db rawDB => fresh_placeholderSafe db rawDB)
      (fun _ _ _ hm hqb happly => Mutator.apply_placeholderSafe hm hqb happly) hreach
  refine s.run_aligned_of_safe fuel hs heap fun qb hqb => ?_
  obtain ⟨i, hi⟩ := List.mem_iff_getElem?.mp hqb
  simpa [Heap.get, List.getD_eq_getElem?_getD, hi] using hsafe i

def renameAndCount : Script :=
  .transaction 0
    (.call 0 (.Table "users") (.terminal 0 (.Update [("name", .str "x")]) fun _ =>
      .terminal 0 .Count fun _ => .done none))
    .done

theorem Script.run_aligned_rename :
    Reachable Mutator.Clean usersById ∧ renameAndCount.Clean ∧
      (renameAndCount.run 1 usersById).Every Call.Aligned :=
  have hclean : renameAndCount.Clean := by
    simp [renameAndCount, Script.Clean, Mutator.Clean, Terminal.Clean]
    decide
  ⟨usersById_reachable, hclean, Script.run_aligned usersById_reachable 1 hclean⟩

end TjoQuery
