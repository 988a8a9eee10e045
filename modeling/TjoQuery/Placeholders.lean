import TjoQuery.Heap

namespace TjoQuery

open Statement QueryBuilder

/-! Placeholders against parameters.  A statement is aligned when its text carries as many
`?` as it has parameters; appending keeps that, so `ToSQL` is aligned as soon as every
fragment it writes is.  Two kinds of fragment break it: a caller's fragment copied
verbatim with a `?` in it (a quoted identifier, an aggregate argument), and the value of
a `Where` or `OrWhere` whose operator is `IN` or `BETWEEN`, written with `%s` and bound
to no parameter. -/

/-- A string with no `?`. -/
def Unmarked (s : String) : Prop := '?' ∉ s.data

instance (s : String) : Decidable (Unmarked s) := inferInstanceAs (Decidable ('?' ∉ s.data))

/-- A statement whose text has one `?` for each of its parameters. -/
def Statement.Aligned (st : Statement) : Prop := st.text.data.count '?' = st.params.length

@[simp] theorem unmarked_append (a b : String) :
    Unmarked (a ++ b) ↔ Unmarked a ∧ Unmarked b := by
  simp [Unmarked, not_or]

private theorem ite_ne_of {p : Prop} [Decidable p] {a b x : Char} (ha : a ≠ x) (hb : b ≠ x) :
    (if p then a else b) ≠ x := by
  split <;> assumption

theorem digitChar_ne_mark (n : Nat) : Nat.digitChar n ≠ '?' := by
  unfold Nat.digitChar
  repeat' apply ite_ne_of (by decide)
  decide

theorem not_mem_toDigitsCore (f : Nat) :
    ∀ (n : Nat) (acc : List Char), '?' ∉ acc → '?' ∉ Nat.toDigitsCore 10 f n acc := by
  induction f with
  | zero => intro n acc h; exact h
  | succ f ih =>
      intro n acc h
      have hd : '?' ∉ Nat.digitChar (n % 10) :: acc := by
        simp [h, (digitChar_ne_mark _).symm]
      show '?' ∉ if n / 10 = 0 then Nat.digitChar (n % 10) :: acc
        else Nat.toDigitsCore 10 f (n / 10) (Nat.digitChar (n % 10) :: acc)
      split_ifs
      · exact hd
      · exact ih _ _ hd

theorem unmarked_toString (i : Int) : Unmarked (toString i) := by
  cases i with
  | ofNat n => exact not_mem_toDigitsCore _ _ _ (by simp)
  | negSucc n =>
      show Unmarked ("-" ++ toString (n + 1))
      exact (unmarked_append _ _).mpr ⟨by decide, not_mem_toDigitsCore _ _ _ (by simp)⟩

theorem unmarked_join {sep : String} (hsep : Unmarked sep) :
    ∀ {items : List String}, (∀ item ∈ items, Unmarked item) →
      Unmarked (Strings.join items sep)
  | [], _ => by simp [Strings.join, Unmarked]
  | [item], h => h item (by simp)
  | item :: next :: rest, h => by
      simp only [Strings.join, unmarked_append]
      exact ⟨⟨h item (by simp), hsep⟩, unmarked_join hsep fun i hi => h i (by simp_all)⟩

theorem count_inClause (n : Nat) : (inClause n).data.count '?' = n := by
  have hjoin : ∀ k, (Strings.join (List.replicate k "?") ", ").data.count '?' = k := by
    intro k
    induction k with
    | zero => rfl
    | succ k ih =>
        cases k with
        | zero => rfl
        | succ k =>
            simp only [List.replicate_succ, Strings.join, String.data_append,
              List.count_append] at ih ⊢
            simp [ih]
            omega
  simp [inClause, List.count_append, hjoin]

theorem Statement.Aligned.append {a b : Statement} (ha : a.Aligned) (hb : b.Aligned) :
    (a ++ b).Aligned := by
  unfold Aligned at *
  simp only [append_text, append_params, String.data_append, List.count_append,
    List.length_append, ha, hb]

theorem aligned_lit {s : String} (h : Unmarked s) : (lit s).Aligned :=
  List.count_eq_zero_of_not_mem h

theorem aligned_concat :
    ∀ {parts : List Statement}, (∀ st ∈ parts, st.Aligned) → (concat parts).Aligned
  | [], _ => aligned_lit (by decide)
  | st :: parts, h => (h st (by simp)).append (aligned_concat fun s hs => h s (by simp [hs]))

/-- A condition whose own fragments carry no `?`, and whose stored value text, for `IN`
and `BETWEEN`, carries one `?` for each stored parameter. -/
structure WhereCondition.Safe (cond : WhereCondition) : Prop where
  column : Unmarked cond.column
  operator : Unmarked cond.operator
  logic : Unmarked cond.logic
  value : cond.operator = "IN" ∨ cond.operator = "BETWEEN" →
    cond.value.formatS.data.count '?' = cond.params.length

theorem WhereCondition.Safe.render_aligned {cond : WhereCondition} (h : cond.Safe) :
    cond.render.Aligned := by
  have hcol := h.column
  have hop := h.operator
  have hcounts :=
    And.intro (List.count_eq_zero_of_not_mem hcol) (List.count_eq_zero_of_not_mem hop)
  unfold WhereCondition.render
  split
  · exact aligned_lit (by simp_all [Unmarked])
  · exact aligned_lit (by simp_all [Unmarked])
  · simp [Aligned, hcounts, h.value (.inl ‹_›)]
  · simp [Aligned, hcounts, h.value (.inr ‹_›)]
  · simp [Aligned, hcounts]

theorem renderConditions_aligned {render : WhereCondition → Statement}
    {conds : List WhereCondition} (hrender : ∀ cond ∈ conds, (render cond).Aligned)
    (hlogic : ∀ cond ∈ conds, Unmarked cond.logic) :
    (renderConditions render conds).Aligned := by
  cases conds with
  | nil => exact aligned_lit (by decide)
  | cons cond rest =>
      refine (hrender cond (by simp)).append (aligned_concat ?_)
      simp only [List.mem_map]
      rintro _ ⟨c, hc, rfl⟩
      exact (aligned_lit (by simp [hlogic c (by simp [hc])]; decide)).append
        (hrender c (by simp [hc]))

/-- A builder none of whose fragments carries a `?` of its own. -/
structure QueryBuilder.PlaceholderSafe (qb : QueryBuilder) : Prop where
  table : Unmarked qb.table
  selectCols : ∀ col ∈ qb.selectCols, Unmarked col
  joins : ∀ join ∈ qb.joins,
    Unmarked join.joinType ∧ Unmarked join.table ∧ Unmarked join.onText
  whereConds : ∀ cond ∈ qb.whereConds, cond.Safe
  orderBy : ∀ item ∈ qb.orderBy, Unmarked item
  groupBy : ∀ col ∈ qb.groupBy, Unmarked col
  having : ∀ cond ∈ qb.having,
    Unmarked cond.column ∧ Unmarked cond.operator ∧ Unmarked cond.logic

structure Statement.Plain (st : Statement) : Prop where
  text : Unmarked st.text
  params : st.params = []

theorem Statement.Plain.aligned {st : Statement} (h : st.Plain) : st.Aligned := by
  rw [Aligned, List.count_eq_zero_of_not_mem h.text, h.params]
  rfl

theorem plain_lit {s : String} (h : Unmarked s) : (lit s).Plain := ⟨h, rfl⟩

theorem Statement.Plain.append {a b : Statement} (ha : a.Plain) (hb : b.Plain) :
    (a ++ b).Plain :=
  ⟨(unmarked_append _ _).mpr ⟨ha.text, hb.text⟩, by simp [ha.params, hb.params]⟩

theorem plain_concat :
    ∀ {parts : List Statement}, (∀ st ∈ parts, st.Plain) → (concat parts).Plain
  | [], _ => plain_lit (by decide)
  | st :: parts, h => (h st (by simp)).append (plain_concat fun s hs => h s (by simp [hs]))

theorem plain_ite_lit {c : Prop} [Decidable c] {a b : String} (ha : Unmarked a)
    (hb : Unmarked b) : (if c then lit a else lit b).Plain := by
  split
  exacts [plain_lit ha, plain_lit hb]

private theorem aligned_ite_lit {c : Prop} [Decidable c] {t : Statement} (ht : t.Aligned) :
    (if c then lit "" else t).Aligned := by
  split
  exacts [aligned_lit (by decide), ht]

def QueryBuilder.selectFrom (qb : QueryBuilder) : Statement :=
  lit "SELECT " ++ lit (if qb.selectCols.isEmpty then "*" else Strings.join qb.selectCols ", ") ++
  lit (" FROM " ++ qb.table) ++
  concat (qb.joins.map fun join =>
    lit (" " ++ join.joinType ++ " JOIN " ++ join.table ++ " ON " ++ join.onText))

def havingClause (having : List WhereCondition) : Statement :=
  if having.isEmpty then lit ""
  else lit " HAVING " ++ renderConditions WhereCondition.renderHaving having

theorem unmarked_comma : Unmarked ", " := by decide

theorem QueryBuilder.PlaceholderSafe.selectFrom_plain {qb : QueryBuilder}
    (h : qb.PlaceholderSafe) : qb.selectFrom.Plain := by
  refine (((plain_lit (by decide)).append (plain_lit ?_)).append (plain_lit ?_)).append
    (plain_concat ?_)
  · split
    exacts [by decide, unmarked_join unmarked_comma h.selectCols]
  · simp [h.table]
    decide
  · simp only [List.mem_map]
    rintro _ ⟨join, hjoin, rfl⟩
    obtain ⟨htype, htable, hon⟩ := h.joins join hjoin
    exact plain_lit (by simp [htype, htable, hon]; decide)

theorem QueryBuilder.PlaceholderSafe.whereClause_aligned {qb : QueryBuilder}
    (h : qb.PlaceholderSafe) : (whereClause qb.whereConds).Aligned :=
  aligned_ite_lit ((aligned_lit (by decide)).append
    (renderConditions_aligned (fun cond hc => (h.whereConds cond hc).render_aligned)
      fun cond hc => (h.whereConds cond hc).logic))

theorem WhereCondition.renderHaving_aligned {cond : WhereCondition} (hcol : Unmarked cond.column)
    (hop : Unmarked cond.operator) : cond.renderHaving.Aligned := by
  simp only [renderHaving, Aligned, String.data_append, List.count_append,
    List.count_eq_zero_of_not_mem hcol, List.count_eq_zero_of_not_mem hop]
  simp

theorem QueryBuilder.PlaceholderSafe.havingClause_aligned {qb : QueryBuilder}
    (h : qb.PlaceholderSafe) : (havingClause qb.having).Aligned :=
  aligned_ite_lit ((aligned_lit (by decide)).append
    (renderConditions_aligned
      (fun cond hc => WhereCondition.renderHaving_aligned (h.having cond hc).1 (h.having cond hc).2.1)
      fun cond hc => (h.having cond hc).2.2))

theorem QueryBuilder.PlaceholderSafe.groupBy_plain {qb : QueryBuilder} (h : qb.PlaceholderSafe) :
    (if qb.groupBy.isEmpty then lit "" else lit (" GROUP BY " ++ Strings.join qb.groupBy ", ")).Plain :=
  plain_ite_lit (by decide) (by simp [unmarked_join unmarked_comma h.groupBy]; decide)

theorem QueryBuilder.PlaceholderSafe.assemble_aligned {qb : QueryBuilder}
    (h : qb.PlaceholderSafe) : qb.assemble.Aligned := by
  have hnumber : ∀ (s : String) (i : Int), Unmarked s → Unmarked (s ++ toString i) :=
    fun s i hs => (unmarked_append _ _).mpr ⟨hs, unmarked_toString i⟩
  unfold assemble
  refine .append (.append (.append (.append (.append (.append
    h.selectFrom_plain.aligned h.whereClause_aligned) h.groupBy_plain.aligned)
    h.havingClause_aligned) ?orders) ?limit) ?offset
  case orders =>
    exact (plain_ite_lit (by decide)
      (by simp [unmarked_join unmarked_comma h.orderBy]; decide)).aligned
  case limit => exact (plain_ite_lit (hnumber _ _ (by decide)) (by decide)).aligned
  case offset => exact (plain_ite_lit (hnumber _ _ (by decide)) (by decide)).aligned

theorem unmarked_of_inert {s : String} (h : Inert s) : Unmarked s := h.1 '?' (by simp)

theorem unmarked_of_isValidOperator {op : String} (h : isValidOperator op = true) :
    Unmarked op := by
  intro hq
  have hall : ∀ o ∈ validOps, Unmarked o := by decide
  exact hall _ (List.elem_iff.mp h) (List.mem_map.mpr ⟨'?', hq, by decide⟩)

/-- A call that passes no `?` in a fragment `ToSQL` copies verbatim, and no `IN` or
`BETWEEN` operator to `Where` or `OrWhere`. -/
def Mutator.Clean : Mutator → Prop
  | .Table table => Unmarked table
  | .Select columns | .GroupBy columns => ∀ col ∈ columns, Unmarked col
  | .Where column operator _ | .OrWhere column operator _ =>
      Unmarked column ∧ operator ≠ "IN" ∧ operator ≠ "BETWEEN"
  | .WhereIn column _ | .WhereBetween column _ _ | .WhereNull column | .WhereNotNull column
  | .OrderBy column _ | .Having column _ _ => Unmarked column
  | .Join table _ | .LeftJoin table _ | .RightJoin table _ => Unmarked table
  | _ => True

private theorem forall_mem_append_singleton {α : Type} {P : α → Prop} {l : List α} {x : α}
    (hl : ∀ y ∈ l, P y) (hx : P x) : ∀ y ∈ l ++ [x], P y := by
  simpa [or_imp, forall_and] using ⟨hl, hx⟩

theorem Mutator.effect_placeholderSafe {m : Mutator} {qb : QueryBuilder} (hm : m.Clean)
    (hvalid : m.Validated) (h : qb.PlaceholderSafe) : (m.effect qb).PlaceholderSafe := by
  have hnone : ∀ op, op ≠ "IN" → op ≠ "BETWEEN" → ∀ (cond : WhereCondition),
      cond.operator = op → cond.operator = "IN" ∨ cond.operator = "BETWEEN" →
        cond.value.formatS.data.count '?' = cond.params.length := by
    rintro op hin hbetween cond rfl (h | h) <;> contradiction
  cases m with
  | Table table => exact { h with table := hm }
  | Select columns => exact { h with selectCols := hm }
  | Where column operator value | OrWhere column operator value =>
      obtain ⟨hcol, hin, hbetween⟩ := hm
      exact { h with whereConds := (forall_mem_append_singleton h.whereConds
        ⟨hcol, unmarked_of_isValidOperator hvalid, by dsimp only; decide,
          hnone operator hin hbetween _ rfl⟩) }
  | WhereIn column values =>
      exact { h with whereConds := (forall_mem_append_singleton h.whereConds
        ⟨hm, by dsimp only; decide, by dsimp only; decide, fun _ => count_inClause _⟩) }
  | WhereBetween column start stop =>
      exact { h with whereConds := (forall_mem_append_singleton h.whereConds
        ⟨hm, by dsimp only; decide, by dsimp only; decide, fun _ => rfl⟩) }
  | WhereNull column | WhereNotNull column =>
      exact { h with whereConds := (forall_mem_append_singleton h.whereConds
        ⟨hm, by dsimp only; decide, by dsimp only; decide,
          hnone _ (by dsimp only; decide) (by dsimp only; decide) _ rfl⟩) }
  | OnlyTrashed =>
      exact { h with whereConds := (forall_mem_append_singleton h.whereConds
        ⟨by dsimp only; decide, by dsimp only; decide, by dsimp only; decide,
          hnone _ (by decide) (by decide) _ rfl⟩) }
  | Join table joinOn | LeftJoin table joinOn | RightJoin table joinOn =>
      exact { h with joins := (forall_mem_append_singleton h.joins
        ⟨by dsimp only; decide, hm,
          unmarked_of_inert (inert_of_avoids joinPattern_avoids hvalid)⟩) }
  | OrderBy column direction =>
      have hdir : validOrderDirection.avoids unsafeChars = true := by decide
      exact { h with orderBy := (forall_mem_append_singleton h.orderBy
        ((unmarked_append _ _).mpr ⟨(unmarked_append _ _).mpr ⟨hm, by decide⟩,
          unmarked_of_inert (inert_of_avoids hdir hvalid)⟩)) }
  | GroupBy columns =>
      exact { h with
        groupBy := fun col hcol => (List.mem_append.mp hcol).elim (h.groupBy col) (hm col) }
  | Having column operator value =>
      exact { h with having := (forall_mem_append_singleton h.having
        ⟨hm, unmarked_of_isValidOperator hvalid, by dsimp only; decide⟩) }
  | Limit _ | Offset _ | Paginate _ _ | Union _ | UnionAll _ | WithTrashed => exact { h with }

theorem Mutator.apply_placeholderSafe {m : Mutator} {qb qb' : QueryBuilder} (hm : m.Clean)
    (h : qb.PlaceholderSafe) (happly : m.apply qb = some qb') : qb'.PlaceholderSafe := by
  rw [Mutator.apply_eq] at happly
  obtain ⟨o, hcheck, rfl⟩ := Option.map_eq_some'.mp happly
  cases o with
  | some e => exact { h with }
  | none => exact Mutator.effect_placeholderSafe hm (Mutator.validated_of_check hcheck) h

theorem fresh_placeholderSafe (db : Handle) (rawDB : Option Nat) :
    (newQueryBuilderWithDB db rawDB).PlaceholderSafe where
  table := by dsimp only [newQueryBuilderWithDB]; decide
  selectCols := by simp [newQueryBuilderWithDB]
  joins := by simp [newQueryBuilderWithDB]
  whereConds := by simp [newQueryBuilderWithDB]
  orderBy := by simp [newQueryBuilderWithDB]
  groupBy := by simp [newQueryBuilderWithDB]
  having := by simp [newQueryBuilderWithDB]

theorem ToSQL_aligned {heap : Nat → QueryBuilder} (hheap : ∀ p, (heap p).PlaceholderSafe) :
    ∀ {fuel : Nat} {qb : QueryBuilder} {st : Statement}, qb.PlaceholderSafe →
      ToSQL heap fuel qb = some (.ok st) → st.Aligned := by
  intro fuel
  induction fuel with
  | zero => intro qb st _ h; cases h
  | succ fuel ih =>
      intro qb st hqb h
      obtain ⟨-, -, ⟨-, rfl⟩ | ⟨child, union, -, hchild, rfl⟩⟩ := ToSQL_eq_ok h
      · exact hqb.assemble_aligned
      · refine (hqb.assemble_aligned.append (aligned_lit ?_)).append (ih (hheap child) hchild)
        simp only [unionType, unmarked_append]
        split <;> decide

theorem concat_params (parts : List Statement) :
    (concat parts).params = (parts.map Statement.params).flatten := by
  induction parts with
  | nil => rfl
  | cons st parts ih => simp [ih]

theorem renderConditions_params (render : WhereCondition → Statement)
    (conds : List WhereCondition) :
    (renderConditions render conds).params = conds.flatMap fun cond => (render cond).params := by
  cases conds with
  | nil => rfl
  | cons cond rest => simp [renderConditions, concat_params, List.flatMap_def, Function.comp_def]

/-- The parameters of the WHERE conditions, then of the HAVING conditions, each in
insertion order. -/
def QueryBuilder.clauseParams (qb : QueryBuilder) : List Value :=
  qb.whereConds.flatMap (fun cond => cond.render.params) ++ qb.having.map WhereCondition.value

theorem whereClause_params (conds : List WhereCondition) :
    (whereClause conds).params = conds.flatMap fun cond => cond.render.params := by
  cases conds with
  | nil => rfl
  | cons cond rest => simp [whereClause, renderConditions_params]

theorem havingClause_params (having : List WhereCondition) :
    (if having.isEmpty then lit ""
      else lit " HAVING " ++ renderConditions WhereCondition.renderHaving having).params =
      having.map WhereCondition.value := by
  cases having with
  | nil => rfl
  | cons cond rest =>
      rw [List.map_eq_flatMap]
      simp [renderConditions_params, WhereCondition.renderHaving]

private theorem params_ite_lit {c : Prop} [Decidable c] (a b : String) :
    (if c then lit a else lit b).params = [] := by
  split <;> rfl

theorem assemble_params (qb : QueryBuilder) : qb.assemble.params = qb.clauseParams := by
  simp only [assemble, append_params, lit_params, concat_params, List.map_map, whereClause_params,
    havingClause_params, params_ite_lit]
  simp [clauseParams, Function.comp_def]

/-! ## Placeholders in place -/

/-- `frag` is written into `st` right after the parameters `before`, at a point where the
text before it holds one `?` for each of them: reading `st` left to right, the `?` of
`frag` are the placeholders numbered from `before.length` on, and `frag`'s parameters are
the ones `st.params` holds from that index on. -/
def Statement.PlacedAt (st frag : Statement) (before : List Value) : Prop :=
  ∃ pre post : Statement, pre.Aligned ∧ pre.params = before ∧ st = pre ++ frag ++ post

namespace Statement.PlacedAt

variable {st frag : Statement} {before : List Value}

theorem self (frag : Statement) : frag.PlacedAt frag [] :=
  ⟨lit "", lit "", aligned_lit (by decide), rfl, by apply Statement.ext <;> simp⟩

theorem append_right (h : st.PlacedAt frag before) (b : Statement) :
    (st ++ b).PlacedAt frag before := by
  obtain ⟨pre, post, hpre, hbefore, rfl⟩ := h
  exact ⟨pre, post ++ b, hpre, hbefore, by simp only [append_assoc]⟩

theorem append_left (h : st.PlacedAt frag before) {a : Statement} (ha : a.Aligned) :
    (a ++ st).PlacedAt frag (a.params ++ before) := by
  obtain ⟨pre, post, hpre, rfl, rfl⟩ := h
  exact ⟨a ++ pre, post, ha.append hpre, rfl, by simp only [append_assoc]⟩

theorem append_plain (h : st.PlacedAt frag before) {a : Statement} (ha : a.Plain) :
    (a ++ st).PlacedAt frag before := by
  simpa [ha.params] using h.append_left ha.aligned

theorem trans {mid : Statement} {before' : List Value} (h : st.PlacedAt mid before)
    (h' : mid.PlacedAt frag before') : st.PlacedAt frag (before ++ before') := by
  obtain ⟨pre, post, hpre, rfl, rfl⟩ := h
  obtain ⟨pre', post', hpre', rfl, rfl⟩ := h'
  exact ⟨pre ++ pre', post' ++ post, hpre.append hpre', by simp, by simp only [append_assoc]⟩

end Statement.PlacedAt

theorem concat_placedAt : ∀ {parts : List Statement}, (∀ st ∈ parts, st.Aligned) →
    ∀ {i : Nat} (hi : i < parts.length),
      (concat parts).PlacedAt parts[i] ((parts.take i).flatMap Statement.params)
  | st :: _, _, 0, _ => (PlacedAt.self st).append_right _
  | st :: _, h, i + 1, hi => by
      simpa using (concat_placedAt (fun s hs => h s (.tail _ hs))
        (Nat.lt_of_succ_lt_succ hi)).append_left (h st (.head _))

theorem renderConditions_placedAt {render : WhereCondition → Statement}
    {conds : List WhereCondition} (hrender : ∀ cond ∈ conds, (render cond).Aligned)
    (hlogic : ∀ cond ∈ conds, Unmarked cond.logic) {i : Nat} (hi : i < conds.length) :
    (renderConditions render conds).PlacedAt (render conds[i])
      ((conds.take i).flatMap fun cond => (render cond).params) := by
  cases conds with
  | nil => cases hi
  | cons cond rest =>
      cases i with
      | zero => exact (PlacedAt.self _).append_right _
      | succ i =>
          have hi' : i < rest.length := Nat.lt_of_succ_lt_succ hi
          have hparts : ∀ st ∈ rest.map (fun c => lit (" " ++ c.logic ++ " ") ++ render c),
              st.Aligned := by
            simp only [List.mem_map]
            rintro _ ⟨c, hc, rfl⟩
            exact (aligned_lit (by simp [hlogic c (.tail _ hc)]; decide)).append
              (hrender c (.tail _ hc))
          have hinner : (lit (" " ++ rest[i].logic ++ " ") ++ render rest[i]).PlacedAt
              (render rest[i]) [] :=
            (PlacedAt.self _).append_plain
              (plain_lit (by simp [hlogic _ (.tail _ (List.getElem_mem hi'))]; decide))
          have h := ((concat_placedAt hparts (by simpa using hi')).trans
            (by simpa using hinner)).append_left (hrender cond (.head _))
          simpa [renderConditions, ← List.map_take, List.flatMap_map] using h

theorem whereClause_placedAt {conds : List WhereCondition} (hsafe : ∀ cond ∈ conds, cond.Safe)
    {i : Nat} (hi : i < conds.length) :
    (whereClause conds).PlacedAt conds[i].render
      ((conds.take i).flatMap fun cond => cond.render.params) := by
  have hne : conds.isEmpty = false := by cases conds; cases hi; rfl
  simpa [whereClause, hne] using (renderConditions_placedAt
    (fun c hc => (hsafe c hc).render_aligned) (fun c hc => (hsafe c hc).logic) hi).append_plain
      (plain_lit (by decide : Unmarked " WHERE "))

theorem QueryBuilder.PlaceholderSafe.havingClause_placedAt {qb : QueryBuilder}
    (h : qb.PlaceholderSafe) {j : Nat} (hj : j < qb.having.length) :
    (havingClause qb.having).PlacedAt qb.having[j].renderHaving
      ((qb.having.take j).map WhereCondition.value) := by
  have hne : qb.having.isEmpty = false := by
    cases hh : qb.having
    · simp [hh] at hj
    · rfl
  simpa [havingClause, hne, List.map_eq_flatMap, WhereCondition.renderHaving] using
    (renderConditions_placedAt
      (fun c hc => WhereCondition.renderHaving_aligned (h.having c hc).1 (h.having c hc).2.1)
      (fun c hc => (h.having c hc).2.2) hj).append_plain
      (plain_lit (by decide : Unmarked " HAVING "))

theorem QueryBuilder.PlaceholderSafe.assemble_placedAt_where {qb : QueryBuilder}
    (h : qb.PlaceholderSafe) {i : Nat} (hi : i < qb.whereConds.length) :
    qb.assemble.PlacedAt qb.whereConds[i].render
      ((qb.whereConds.take i).flatMap fun cond => cond.render.params) :=
  .append_right (.append_right (.append_right (.append_right (.append_right
    ((whereClause_placedAt h.whereConds hi).append_plain h.selectFrom_plain) _) _) _) _) _

theorem QueryBuilder.PlaceholderSafe.assemble_placedAt_having {qb : QueryBuilder}
    (h : qb.PlaceholderSafe) {j : Nat} (hj : j < qb.having.length) :
    qb.assemble.PlacedAt qb.having[j].renderHaving
      (qb.whereConds.flatMap (fun cond => cond.render.params) ++
        (qb.having.take j).map WhereCondition.value) := by
  have hprefix := h.selectFrom_plain.aligned.append h.whereClause_aligned |>.append
    h.groupBy_plain.aligned
  have hplaced := (h.havingClause_placedAt hj).append_left hprefix
  simp only [append_params, h.selectFrom_plain.params, h.groupBy_plain.params, whereClause_params,
    List.nil_append, List.append_nil] at hplaced
  exact .append_right (.append_right (.append_right hplaced _) _) _

/-- On a heap built by calls that pass no `?` in a verbatim fragment and no `IN` or
`BETWEEN` operator to `Where` or `OrWhere`, the `?` of `ToSQL`'s text are exactly its
parameters, in order: each WHERE condition's placeholders come right after the
parameters of the conditions before it, each HAVING condition's after all the WHERE
parameters and the HAVING ones before it, and the union child's after all of these. -/
theorem ToSQL_placeholders {heap : Heap} (hreach : Reachable Mutator.Clean heap) (p fuel : Nat)
    {st : Statement} (h : ToSQL heap.get fuel (heap.get p) = some (.ok st)) :
    st.text.data.count '?' = st.params.length ∧
      ∃ rest, st.params = (heap.get p).clauseParams ++ rest ∧
        (∀ i (hi : i < (heap.get p).whereConds.length),
          (heap.get p).whereConds[i].render.Aligned ∧
          st.PlacedAt (heap.get p).whereConds[i].render
            (((heap.get p).whereConds.take i).flatMap fun cond => cond.render.params)) ∧
        (∀ j (hj : j < (heap.get p).having.length),
          st.PlacedAt (heap.get p).having[j].renderHaving
            ((heap.get p).whereConds.flatMap (fun cond => cond.render.params) ++
              ((heap.get p).having.take j).map WhereCondition.value)) ∧
        ((heap.get p).unionQuery = none ∧ rest = [] ∨
          ∃ child fuel' union, (heap.get p).unionQuery = some child ∧
            ToSQL heap.get fuel' (heap.get child) = some (.ok union) ∧ rest = union.params ∧
            st.PlacedAt union (heap.get p).clauseParams) := by
  have hsafe : ∀ q, (heap.get q).PlaceholderSafe :=
    Reachable.forall_get (fun db rawDB => fresh_placeholderSafe db rawDB)
      (fun _ _ _ hm hqb happly => Mutator.apply_placeholderSafe hm hqb happly) hreach
  have hwhere := fun i hi => (hsafe p).assemble_placedAt_where (i := i) hi
  have hhaving := fun j hj => (hsafe p).assemble_placedAt_having (j := j) hj
  have hrender := fun i (hi : i < (heap.get p).whereConds.length) =>
    ((hsafe p).whereConds _ (List.getElem_mem hi)).render_aligned
  refine ⟨ToSQL_aligned hsafe (hsafe p) h, ?_⟩
  cases fuel with
  | zero => cases h
  | succ fuel' => ?_
  obtain ⟨-, -, ⟨hnone, rfl⟩ | ⟨child, union, hchild, hunion, rfl⟩⟩ := ToSQL_eq_ok h
  · exact ⟨[], by simp [assemble_params], fun i hi => ⟨hrender i hi, hwhere i hi⟩, hhaving,
      .inl ⟨hnone, rfl⟩⟩
  · refine ⟨union.params, by simp [assemble_params],
      fun i hi => ⟨hrender i hi, ((hwhere i hi).append_right _).append_right _⟩,
      fun j hj => ((hhaving j hj).append_right _).append_right _,
      .inr ⟨child, fuel', union, hchild, hunion, rfl, ?_⟩⟩
    refine ⟨(heap.get p).assemble ++ lit (" " ++ (heap.get p).unionType ++ " "), lit "",
      (hsafe p).assemble_aligned.append (aligned_lit ?_), by simp [assemble_params], by simp⟩
    simp only [unionType, unmarked_append]
    split <;> decide

/-- `qb := NewQueryBuilder(nil); qb.Table("users").Where("id", "=", 1)` -/
def usersById : Heap :=
  ⟨[{ NewQueryBuilder none with
      table := "users", whereConds := [⟨"id", "=", .int 1, "AND", []⟩] }]⟩

theorem usersById_reachable : Reachable Mutator.Clean usersById := by
  have hnew : Step Mutator.Clean ⟨[]⟩ ⟨[NewQueryBuilder none]⟩ :=
    Step.alloc _ (.pool none) none
  have htable : Step Mutator.Clean ⟨[NewQueryBuilder none]⟩
      ⟨[{ NewQueryBuilder none with table := "users" }]⟩ :=
    Step.call _ 0 (.Table "users") _ (by decide : Unmarked "users") (by decide)
      (by simp [Mutator.pointer]) (by decide)
  have hwhere : Step Mutator.Clean ⟨[{ NewQueryBuilder none with table := "users" }]⟩
      usersById :=
    Step.call _ 0 (.Where "id" "=" (.int 1)) _
      (⟨by decide, by decide, by decide⟩ : Unmarked "id" ∧ "=" ≠ "IN" ∧ "=" ≠ "BETWEEN")
      (by decide) (by simp [Mutator.pointer]) (by decide)
  exact .tail (.tail (.tail .refl hnew) htable) hwhere

theorem ToSQL_placeholders_fresh :
    ToSQL usersById.get 1 (usersById.get 0) =
        some (.ok ⟨"SELECT * FROM users WHERE id = ?", [.int 1]⟩) ∧
      "SELECT * FROM users WHERE id = ?".data.count '?' = [Value.int 1].length :=
  ⟨by decide, (@ToSQL_placeholders _ usersById_reachable 0 1
    ⟨"SELECT * FROM users WHERE id = ?", [.int 1]⟩ (by decide)).1⟩

/-- `qb := NewQueryBuilder(nil); qb.Table("`a?b`")`: a quoted identifier may hold a `?`. -/
def quotedMarkTable : Heap := ⟨[{ NewQueryBuilder none with table := "`a?b`" }]⟩

theorem quoted_identifier_adds_placeholder :
    Reachable (fun _ => True) quotedMarkTable ∧
      ToSQL quotedMarkTable.get 1 (quotedMarkTable.get 0) =
        some (.ok ⟨"SELECT * FROM `a?b`", []⟩) ∧
      "SELECT * FROM `a?b`".data.count '?' ≠ ([] : List Value).length := by
  have hnew : Step (fun _ => True) ⟨[]⟩ ⟨[NewQueryBuilder none]⟩ :=
    Step.alloc _ (.pool none) none
  have htable : Step (fun _ => True) ⟨[NewQueryBuilder none]⟩ quotedMarkTable :=
    Step.call _ 0 (.Table "`a?b`") _ trivial (by decide) (by simp [Mutator.pointer]) (by decide)
  exact ⟨.tail (.tail .refl hnew) htable, by decide, by decide⟩

/-- `Where("id", "IN", v)` writes `v` into the text with `%s`: two builders that differ only
in `v` assemble different text. -/
theorem where_in_value_in_text :
    (Mutator.run (NewQueryBuilder none) [.Table "users", .Where "id" "IN" (.str "(1)")]).bind
        (ToSQL (fun _ => NewQueryBuilder none) 1) =
      some (.ok ⟨"SELECT * FROM users WHERE id IN (1)", []⟩) ∧
    (Mutator.run (NewQueryBuilder none) [.Table "users", .Where "id" "IN" (.str "(2)")]).bind
        (ToSQL (fun _ => NewQueryBuilder none) 1) =
      some (.ok ⟨"SELECT * FROM users WHERE id IN (2)", []⟩) := by
  decide

/-- The aggregate pattern's `[^)]+` admits a whole statement between its parentheses:
`Select` records no error and `ToSQL` copies it into the text. -/
theorem select_expression_admits_statement :
    isValidSelectExpression "COUNT(1; DROP TABLE users; SELECT 1)" = true ∧
      ¬ Inert "COUNT(1; DROP TABLE users; SELECT 1)" ∧
      (Mutator.run (NewQueryBuilder none)
          [.Table "users", .Select ["COUNT(1; DROP TABLE users; SELECT 1)"]]).bind
          (ToSQL (fun _ => NewQueryBuilder none) 1) =
        some (.ok (lit "SELECT COUNT(1; DROP TABLE users; SELECT 1) FROM users")) :=
  ⟨by decide, fun h => h.1 ';' (by simp) (by decide), by decide⟩

end TjoQuery
