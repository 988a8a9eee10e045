import TjoQuery.Regex

namespace TjoQuery

open Regex

/-! The identifier, operator, select-expression and join-condition validators of
`query_builder.go`, over the patterns it compiles.  `isValidIdentifier` slices
`s[1 : len(s)-1]` after checking only a first and a last quote, so on the one-character
strings made of a quote it panics: it returns `Option Bool`, `none` standing for the
panic. -/

/-- `[a-zA-Z_]` -/
def identStart : Regex := .cls ⟨[('a', 'z'), ('A', 'Z'), ('_', '_')], false⟩

/-- `[a-zA-Z0-9_]` -/
def identChar : Regex := .cls ⟨[('a', 'z'), ('A', 'Z'), ('0', '9'), ('_', '_')], false⟩

/-- `[a-zA-Z_][a-zA-Z0-9_]*` -/
def identWord : Regex := .seq identStart (.star identChar)

/-- `\s`, which Go reads as `[\t\n\f\r ]`. -/
def space : Regex :=
  .cls ⟨[('\t', '\t'), ('\n', '\n'), ('\x0c', '\x0c'), ('\r', '\r'), (' ', ' ')], false⟩

/-- `^[a-zA-Z_][a-zA-Z0-9_]*(\.[a-zA-Z_][a-zA-Z0-9_]*)?$` -/
def validIdentifier : Regex := .seq identWord (.opt (.seq (.lit '.') identWord))

/-- `^(ASC|DESC)$` -/
def validOrderDirection : Regex := alts [str "ASC", str "DESC"]

/-- `^(COUNT|SUM|AVG|MIN|MAX|GROUP_CONCAT)\s*\([^)]+\)(\s+AS\s+[a-zA-Z_][a-zA-Z0-9_]*)?$` -/
def aggregateFuncs : Regex :=
  seqs [alts [str "COUNT", str "SUM", str "AVG", str "MIN", str "MAX", str "GROUP_CONCAT"],
    .star space, .lit '(', .plus (.cls ⟨[(')', ')')], true⟩), .lit ')',
    .opt (seqs [.plus space, str "AS", .plus space, identWord])]

/-- `^[a-zA-Z_][a-zA-Z0-9_]*(\.[a-zA-Z_][a-zA-Z0-9_]*)?\s+AS\s+[a-zA-Z_][a-zA-Z0-9_]*$` -/
def aliasPattern : Regex :=
  seqs [identWord, .opt (.seq (.lit '.') identWord), .plus space, str "AS", .plus space,
    identWord]

/-- `[a-zA-Z_][a-zA-Z0-9_]*\.[a-zA-Z_][a-zA-Z0-9_]*\s*=\s*` followed by the same
qualified name: one comparison of `joinPattern`. -/
def joinComparison : Regex :=
  let qualified := seqs [identWord, .lit '.', identWord]
  seqs [qualified, .star space, .lit '=', .star space, qualified]

/-- `joinPattern`: a comparison, then `(\s+(AND|OR)\s+` comparison `)*`. -/
def joinPattern : Regex :=
  .seq joinComparison
    (.star (seqs [.plus space, alts [str "AND", str "OR"], .plus space, joinComparison]))

/-- `unicode.ToUpper` as far as this file can observe it: the ASCII letters, and the two
runes whose upper case is ASCII (`ı` to `I`, `ſ` to `S`).  Any other rune has a
non-ASCII upper case, and no pattern or whitelist here tells two non-ASCII runes apart. -/
def toUpperRune (c : Char) : Char :=
  if c = 'ı' then 'I' else if c = 'ſ' then 'S' else c.toUpper

/-! The functions of Go's `strings` package that the builder calls. -/

namespace Strings

def toUpper (s : String) : String := ⟨s.data.map toUpperRune⟩

def hasPrefix (s pre : String) : Bool := pre.data.isPrefixOf s.data

def hasSuffix (s suf : String) : Bool := suf.data.isSuffixOf s.data

def containsAny (s chars : String) : Bool := s.data.any fun c => chars.data.contains c

def join (items : List String) (sep : String) : String :=
  match items with
  | [] => ""
  | [item] => item
  | item :: rest => item ++ sep ++ join rest sep

end Strings

/-! The functions of Go's `strconv` package that `config.Load` and redigo's `redis.Bool`
call. -/

namespace Strconv

def ParseBool (str : String) : Option Bool :=
  if str ∈ ["1", "t", "T", "TRUE", "true", "True"] then some true
  else if str ∈ ["0", "f", "F", "FALSE", "false", "False"] then some false
  else none

/-- `strconv.Atoi` for a 64-bit `int`: an optional sign, then decimal digits, the value
within range. -/
def Atoi (s : String) : Option Int :=
  let (neg, digits) : Bool × List Char :=
    match s.data with
    | '-' :: rest => (true, rest)
    | '+' :: rest => (false, rest)
    | rest => (false, rest)
  if digits = [] ∨ !digits.all Char.isDigit then none
  else
    let n : Int := digits.foldl (fun n d => 10 * n + (d.toNat - '0'.toNat : Nat)) 0
    let v := if neg then -n else n
    if -2 ^ 63 ≤ v ∧ v < 2 ^ 63 then some v else none

end Strconv

open Strings

/-- `s[1 : len(s)-1]`, defined when the first and the last rune are one byte each, as the
quotes checked before it are; `none` when `len(s) < 2`, where Go panics. -/
def innerOfQuoted (s : String) : Option String :=
  if s.length < 2 then none else some ⟨(s.data.drop 1).dropLast⟩

def isValidIdentifier (s : String) : Option Bool :=
  if (hasPrefix s "`" && hasSuffix s "`") || (hasPrefix s "\"" && hasSuffix s "\"") then
    (innerOfQuoted s).map fun inner => 0 < inner.length && !containsAny inner "`\""
  else some (validIdentifier.matchString s)

def validOps : List String :=
  ["=", "!=", "<>", "<", ">", "<=", ">=", "LIKE", "NOT LIKE", "IN", "NOT IN", "BETWEEN",
    "IS NULL", "IS NOT NULL", "REGEXP"]

def isValidOperator (op : String) : Bool := validOps.contains (toUpper op)

def isValidSelectExpression (s : String) : Bool :=
  aggregateFuncs.matchString (toUpper s) || aliasPattern.matchString s

def isValidJoinCondition (joinOn : String) : Bool := joinPattern.matchString joinOn

theorem isValidIdentifier_ne_empty {s : String} (h : isValidIdentifier s = some true) :
    s ≠ "" := by
  rintro rfl
  exact absurd h (by decide)

/-! Which of these can let a fragment end the statement, open a comment or a string, or
add a placeholder once it is copied into the SQL text without quoting. -/

/-- Free of `;`, quotes, backticks, `?`, backslashes and of the openers `--` and `/*`. -/
def Inert (s : String) : Prop :=
  (∀ c ∈ [';', '\'', '"', '\x60', '?', '\\'], c ∉ s.data) ∧
    ¬ ['-', '-'] <:+: s.data ∧ ¬ ['/', '*'] <:+: s.data

def unsafeChars : List Char := [';', '\'', '"', '\x60', '?', '\\', '-', '/']

theorem inert_of_avoids {r : Regex} (hr : r.avoids unsafeChars = true) {s : String}
    (hs : r.matchString s = true) : Inert s := by
  have hlang := (accepts_iff r s.data).mp hs
  have hnot : ∀ c ∈ unsafeChars, c ∉ s.data := fun c hc => not_mem_of_avoids hc hr hlang
  refine ⟨fun c hc => hnot c (List.mem_append_left ['-', '/'] hc), ?_, ?_⟩
  · exact fun h => hnot '-' (by simp [unsafeChars]) (h.subset (by simp))
  · exact fun h => hnot '/' (by simp [unsafeChars]) (h.subset (by simp))

theorem validIdentifier_avoids : validIdentifier.avoids unsafeChars = true := by decide

theorem aliasPattern_avoids : aliasPattern.avoids unsafeChars = true := by decide

theorem joinPattern_avoids : joinPattern.avoids unsafeChars = true := by decide

/-- The bare-identifier pattern, the column-`AS`-alias pattern and the join pattern admit
no fragment that could end the statement, open a comment or a string, or add a
placeholder. -/
theorem unquoted_fragments_inert (s : String) :
    (validIdentifier.matchString s = true → Inert s) ∧
      (aliasPattern.matchString s = true → Inert s) ∧
      (isValidJoinCondition s = true → Inert s) :=
  ⟨inert_of_avoids validIdentifier_avoids, inert_of_avoids aliasPattern_avoids,
    inert_of_avoids joinPattern_avoids⟩

end TjoQuery
