import TjoQuery.Mutator
import TjoQuery.Assemble

namespace TjoQuery

/-! How `ToSQL` writes two kinds of values that the builder takes from its caller:
operators, which `isValidOperator` compares after `strings.ToUpper` but the `switch` of
`ToSQL` compares as written; and the offset of `Paginate`, a product of Go `int`s that
`ToSQL` prints only when it is positive. -/

open Statement QueryBuilder

/-! ## Operators -/

/-- `isValidOperator` accepts `is null` as it accepts `IS NULL`, but only the upper-case
spelling reaches the null-test branch of `ToSQL`: the lower-case one is written with a
placeholder and binds the value. -/
theorem lowercase_null_test_binds_value :
    isValidOperator "is null" = true ∧ Strings.toUpper "is null" = "IS NULL" ∧
      (Mutator.run (NewQueryBuilder none)
          [.Table "users", .Where "deleted_at" "is null" .null]).bind
          (ToSQL (fun _ => NewQueryBuilder none) 1) =
        some (.ok ⟨"SELECT * FROM users WHERE deleted_at is null ?", [.null]⟩) ∧
      (Mutator.run (NewQueryBuilder none)
          [.Table "users", .Where "deleted_at" "IS NULL" .null]).bind
          (ToSQL (fun _ => NewQueryBuilder none) 1) =
        some (.ok (lit "SELECT * FROM users WHERE deleted_at IS NULL")) := by
  decide

/-! ## Pagination -/

theorem bmod_of_lt_two_pow {x : Int} (h₀ : 0 ≤ x) (h : x < 2 ^ 63) :
    x.bmod (2 ^ 64) = x := by
  rw [Int.bmod_pos x _ (by rw [Int.emod_eq_of_lt h₀ (by omega)]; omega)]
  exact Int.emod_eq_of_lt h₀ (by omega)

/-- `Paginate(page, perPage)`: the limit is `perPage`, or 15 below 1, and the offset
`(max(page, 1) - 1) * limit` as Go's `int` computes it, reduced into the signed 64-bit
range; below `2^63` it is the integer itself, and `ToSQL` writes `OFFSET` exactly when it
is positive. -/
theorem Paginate_offset (qb : QueryBuilder) (page perPage : BitVec 64) :
    let limit : BitVec 64 := if perPage.slt 1 then 15 else perPage
    let offset : Int := (max page.toInt 1 - 1) * limit.toInt
    (qb.Paginate page perPage).limitCount = limit ∧ 1 ≤ limit.toInt ∧ 0 ≤ offset ∧
      (qb.Paginate page perPage).offsetCount = BitVec.ofInt 64 offset ∧
      (offset < 2 ^ 63 → (qb.Paginate page perPage).offsetCount.toInt = offset ∧
        ((0 : BitVec 64).slt (qb.Paginate page perPage).offsetCount = true ↔ 0 < offset)) := by
  intro limit offset
  have hone : (1 : BitVec 64).toInt = 1 := by decide
  have hlimit : 1 ≤ limit.toInt := by
    simp only [limit]
    split
    · decide
    · next h => simp only [BitVec.slt, hone, decide_eq_true_eq] at h; omega
  have hpage : (if page.slt 1 then 1 else page : BitVec 64).toInt = max page.toInt 1 := by
    split <;> next h => simp only [BitVec.slt, hone, decide_eq_true_eq] at h; omega
  have hoffset : 0 ≤ offset := Int.mul_nonneg (by omega) (by omega)
  have heq : (qb.Paginate page perPage).offsetCount = BitVec.ofInt 64 offset := by
    apply BitVec.eq_of_toInt_eq
    simp only [Paginate, Limit, Offset, BitVec.toInt_mul, BitVec.toInt_sub, BitVec.toInt_ofInt,
      Int.bmod_mul_bmod, hpage, hone]
  refine ⟨rfl, hlimit, hoffset, heq, fun hlt => ?_⟩
  have htoInt : (qb.Paginate page perPage).offsetCount.toInt = offset := by
    rw [heq, BitVec.toInt_ofInt, bmod_of_lt_two_pow hoffset hlt]
  simp [BitVec.slt, htoInt]

/-- `Paginate(2^62 + 1, 4)` asks for offset `2^64`, which wraps to 0: `ToSQL` writes no
`OFFSET` and the query returns the first page. -/
theorem Paginate_offset_wraps :
    (max (BitVec.ofNat 64 (2 ^ 62 + 1)).toInt 1 - 1) * (4 : BitVec 64).toInt = 2 ^ 64 ∧
      (Mutator.run (NewQueryBuilder none)
          [.Table "users", .Paginate (.ofNat 64 (2 ^ 62 + 1)) 4]).bind
          (ToSQL (fun _ => NewQueryBuilder none) 1) =
        some (.ok (lit "SELECT * FROM users LIMIT 4")) := by
  decide

end TjoQuery
