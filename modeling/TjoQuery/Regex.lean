import Mathlib.Computability.Language

namespace TjoQuery

open scoped Computability

/-! The fragment of Go's `regexp` syntax the validators of `query_builder.go` use:
bracket classes, literals, concatenation, alternation, `*`, `+` and `?`.  Every pattern
there is anchored `^...$` without the `m` flag, so `MatchString` is membership of the
whole string in the pattern's language.  Matching runs Brzozowski derivatives. -/

/-- A bracket expression such as `[a-zA-Z_]` or `[^)]`: its ranges, and whether it is
negated.  Go compiles with `ClassNL`, so a negated class also matches a newline. -/
structure CharClass where
  ranges : List (Char × Char)
  negated : Bool

def CharClass.contains (cls : CharClass) (x : Char) : Bool :=
  cls.ranges.any (fun range => range.1 ≤ x && x ≤ range.2) != cls.negated

inductive Regex
  | empty
  | epsilon
  | cls (cls : CharClass)
  | seq (left right : Regex)
  | alt (left right : Regex)
  | star (inner : Regex)

namespace Regex

def lit (x : Char) : Regex := cls ⟨[(x, x)], false⟩

def str (s : String) : Regex := s.data.foldr (fun x r => seq (lit x) r) epsilon

def seqs : List Regex → Regex
  | [] => epsilon
  | [r] => r
  | r :: rs => seq r (seqs rs)

def alts : List Regex → Regex
  | [] => empty
  | [r] => r
  | r :: rs => alt r (alts rs)

def plus (r : Regex) : Regex := seq r (star r)

def opt (r : Regex) : Regex := alt r epsilon

def lang : Regex → Language Char
  | empty => 0
  | epsilon => 1
  | cls c => {w | ∃ x, w = [x] ∧ c.contains x = true}
  | seq left right => left.lang * right.lang
  | alt left right => left.lang + right.lang
  | star inner => inner.lang∗

@[simp] theorem lang_empty : empty.lang = 0 := rfl
@[simp] theorem lang_epsilon : epsilon.lang = 1 := rfl
@[simp] theorem lang_seq (l r : Regex) : (seq l r).lang = l.lang * r.lang := rfl
@[simp] theorem lang_alt (l r : Regex) : (alt l r).lang = l.lang + r.lang := rfl
@[simp] theorem lang_star (r : Regex) : (star r).lang = r.lang∗ := rfl

@[simp] theorem mem_lang_cls (c : CharClass) (w : List Char) :
    w ∈ (cls c).lang ↔ ∃ x, w = [x] ∧ c.contains x = true := Iff.rfl

@[simp] theorem mem_sup (a b : Language Char) (w : List Char) :
    w ∈ a ⊔ b ↔ w ∈ a ∨ w ∈ b := Iff.rfl

def nullable : Regex → Bool
  | empty => false
  | epsilon => true
  | cls _ => false
  | seq left right => left.nullable && right.nullable
  | alt left right => left.nullable || right.nullable
  | star _ => true

def mkSeq : Regex → Regex → Regex
  | empty, _ => empty
  | epsilon, r => r
  | l, r => seq l r

def mkAlt : Regex → Regex → Regex
  | empty, r => r
  | l, empty => l
  | l, r => alt l r

def deriv (x : Char) : Regex → Regex
  | empty => empty
  | epsilon => empty
  | cls c => if c.contains x then epsilon else empty
  | seq left right =>
      if left.nullable then mkAlt (mkSeq (left.deriv x) right) (right.deriv x)
      else mkSeq (left.deriv x) right
  | alt left right => mkAlt (left.deriv x) (right.deriv x)
  | star inner => mkSeq (inner.deriv x) (star inner)

def accepts : Regex → List Char → Bool
  | r, [] => r.nullable
  | r, x :: xs => (r.deriv x).accepts xs

/-- `regexp.MustCompile(pattern).MatchString(s)` for an anchored pattern. -/
def matchString (r : Regex) (s : String) : Bool := r.accepts s.data

@[simp] theorem lang_mkSeq (l r : Regex) : (mkSeq l r).lang = l.lang * r.lang := by
  cases l <;> simp [mkSeq]

@[simp] theorem lang_mkAlt (l r : Regex) : (mkAlt l r).lang = l.lang + r.lang := by
  cases l
  case empty => simp [mkAlt]
  all_goals cases r <;> first | rfl | simp [mkAlt]

theorem nil_mem_mul {a b : Language Char} : [] ∈ a * b ↔ [] ∈ a ∧ [] ∈ b := by
  simp only [Language.mem_mul, List.append_eq_nil]
  constructor
  · rintro ⟨_, ha, _, hb, rfl, rfl⟩
    exact ⟨ha, hb⟩
  · rintro ⟨ha, hb⟩
    exact ⟨[], ha, [], hb, rfl, rfl⟩

theorem nullable_iff (r : Regex) : r.nullable = true ↔ [] ∈ r.lang := by
  induction r with
  | empty => simp [nullable]
  | epsilon => simp [nullable]
  | cls c => simp [nullable]
  | seq left right hl hr => simp [nullable, nil_mem_mul, hl, hr]
  | alt left right hl hr => simp [nullable, hl, hr]
  | star inner => simp [nullable, Language.nil_mem_kstar]

theorem cons_mem_mul {a b : Language Char} {x : Char} {w : List Char} :
    x :: w ∈ a * b ↔
      (∃ u v, w = u ++ v ∧ x :: u ∈ a ∧ v ∈ b) ∨ ([] ∈ a ∧ x :: w ∈ b) := by
  rw [Language.mem_mul]
  constructor
  · rintro ⟨u, hu, v, hv, huv⟩
    cases u with
    | nil => exact .inr ⟨hu, by simpa using huv ▸ hv⟩
    | cons y u =>
        obtain ⟨rfl, rfl⟩ := List.cons.inj huv
        exact .inl ⟨u, v, rfl, hu, hv⟩
  · rintro (⟨u, v, rfl, hu, hv⟩ | ⟨hu, hv⟩)
    · exact ⟨x :: u, hu, v, hv, rfl⟩
    · exact ⟨[], hu, x :: w, hv, rfl⟩

theorem cons_mem_kstar {a : Language Char} {x : Char} {w : List Char} :
    x :: w ∈ a∗ ↔ ∃ u v, w = u ++ v ∧ x :: u ∈ a ∧ v ∈ a∗ := by
  constructor
  · rw [Language.mem_kstar_iff_exists_nonempty]
    rintro ⟨chunks, hw, good⟩
    cases chunks with
    | nil => simp at hw
    | cons first rest =>
        obtain ⟨hfirst, hne⟩ := good first (by simp)
        cases first with
        | nil => exact absurd rfl hne
        | cons y u =>
            simp only [List.flatten_cons, List.cons_append, List.cons.injEq] at hw
            obtain ⟨rfl, rfl⟩ := hw
            exact ⟨u, rest.flatten, rfl, hfirst,
              Language.join_mem_kstar fun v hv => (good v (by simp [hv])).1⟩
  · rintro ⟨u, v, rfl, hu, hv⟩
    obtain ⟨chunks, rfl, good⟩ := Language.mem_kstar.mp hv
    refine Language.mem_kstar.mpr ⟨(x :: u) :: chunks, rfl, ?_⟩
    intro y hy
    rcases List.mem_cons.mp hy with rfl | hy
    · exact hu
    · exact good y hy

theorem mem_lang_deriv (x : Char) (r : Regex) (w : List Char) :
    w ∈ (r.deriv x).lang ↔ x :: w ∈ r.lang := by
  induction r generalizing w with
  | empty => simp [deriv]
  | epsilon => simp [deriv]
  | cls c =>
      by_cases hx : c.contains x
      · simp only [deriv, hx, if_true, lang_epsilon, mem_lang_cls, List.cons.injEq]
        exact ⟨fun h => ⟨x, ⟨rfl, h⟩, hx⟩, fun ⟨_, ⟨_, h⟩, _⟩ => h⟩
      · simp [deriv, hx]
  | seq left right hl hr =>
      have hmul : w ∈ (left.deriv x).lang * right.lang ↔
          ∃ u v, w = u ++ v ∧ x :: u ∈ left.lang ∧ v ∈ right.lang := by
        simp only [Language.mem_mul, hl]
        exact ⟨fun ⟨u, hu, v, hv, h⟩ => ⟨u, v, h.symm, hu, hv⟩,
          fun ⟨u, v, h, hu, hv⟩ => ⟨u, hu, v, hv, h.symm⟩⟩
      by_cases hn : left.nullable
      · simp [deriv, hn, hmul, hr, cons_mem_mul, (nullable_iff left).mp hn]
      · have : [] ∉ left.lang := fun h => hn ((nullable_iff left).mpr h)
        simp [deriv, hn, hmul, cons_mem_mul, this]
  | alt left right hl hr => simp [deriv, hl, hr]
  | star inner ih =>
      simp only [deriv, lang_mkSeq, lang_star, Language.mem_mul, ih, cons_mem_kstar]
      exact ⟨fun ⟨u, hu, v, hv, h⟩ => ⟨u, v, h.symm, hu, hv⟩,
        fun ⟨u, v, h, hu, hv⟩ => ⟨u, hu, v, hv, h.symm⟩⟩

theorem accepts_iff (r : Regex) (w : List Char) : r.accepts w = true ↔ w ∈ r.lang := by
  induction w generalizing r with
  | nil => exact nullable_iff r
  | cons x w ih => rw [accepts, ih, mem_lang_deriv]

/-! Which characters a pattern can consume: `avoids bad r` checks every class of `r`
against the characters of `bad`, so it is decided on the pattern alone. -/

def avoids (bad : List Char) : Regex → Bool
  | empty => true
  | epsilon => true
  | cls c => bad.all fun b => !c.contains b
  | seq left right => left.avoids bad && right.avoids bad
  | alt left right => left.avoids bad && right.avoids bad
  | star inner => inner.avoids bad

theorem not_mem_of_avoids {bad : List Char} {b : Char} (hb : b ∈ bad) :
    ∀ {r : Regex} {w : List Char}, r.avoids bad = true → w ∈ r.lang → b ∉ w
  | empty, _, _, hw => absurd hw (by simp)
  | epsilon, _, _, hw => by simp_all
  | cls c, _, hr, hw => by
      obtain ⟨x, rfl, hx⟩ := hw
      simp only [avoids, List.all_eq_true, Bool.not_eq_true'] at hr
      simp only [List.mem_singleton]
      rintro rfl
      simp [hr b hb] at hx
  | seq left right, _, hr, hw => by
      simp only [avoids, Bool.and_eq_true] at hr
      obtain ⟨u, hu, v, hv, rfl⟩ := Language.mem_mul.mp hw
      simpa using ⟨not_mem_of_avoids hb hr.1 hu, not_mem_of_avoids hb hr.2 hv⟩
  | alt left right, _, hr, hw => by
      simp only [avoids, Bool.and_eq_true] at hr
      rcases (Language.mem_add _ _ _).mp hw with hw | hw
      · exact not_mem_of_avoids hb hr.1 hw
      · exact not_mem_of_avoids hb hr.2 hw
  | star inner, _, hr, hw => by
      have hr : inner.avoids bad = true := hr
      obtain ⟨chunks, rfl, good⟩ := Language.mem_kstar.mp hw
      simpa using fun chunk hchunk => not_mem_of_avoids hb hr (good chunk hchunk)

end Regex

end TjoQuery
