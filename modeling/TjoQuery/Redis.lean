import Mathlib.Data.List.AList

namespace TjoQuery

/-! The part of a Redis 7 server that `RedisCache` talks to: a keyspace of string values,
some of them with an expiry time, the commands `EXISTS`, `GET`, `SET`, `SETEX`, `DEL` and
`KEYS`, and the glob matcher `stringmatchlen` that `KEYS` runs.  Keys and patterns are
read as their characters: the matcher compares bytes, and a range compares them as signed
`char`s, which agree with the characters on ASCII.  A key past its expiry time is never
seen again, whether or not the server has removed it yet; the commands of one cache
operation read one clock time. -/

namespace Redis

/-- `keyIsExpired` is `now > when`: a key is live up to its expiry time, if it has one. -/
def Unexpired (now : Nat) : Option Nat → Bool
  | none => true
  | some t => now ≤ t

structure Item where
  value : String
  expireAt : Option Nat
  deriving DecidableEq, Repr

def Item.Live (now : Nat) (item : Item) : Bool := Unexpired now item.expireAt

abbrev Keyspace := AList fun _ : String => Item

/-- The key as the commands see it at `now`: absent once expired. -/
def Keyspace.lookupLive (now : Nat) (ks : Keyspace) (key : String) : Option Item :=
  (ks.lookup key).filter (Item.Live now)

/-! ## `stringmatchlen` -/

mutual

/-- `stringmatchlen` with `nocase` off.  The loop `while (patternLen && stringLen)` reads
one pattern item a round; once the string is used up, only `*`s may be left of the
pattern.  A `*` is tried against every non-empty rest of the string (its
`skipLongerMatches` shortcut only stops that search early). -/
def stringmatch : List Char → List Char → Bool
  | [], s => s.isEmpty
  | _ :: _, [] => false
  | '*' :: '*' :: p, s => stringmatch ('*' :: p) s
  | ['*'], _ => true
  | '*' :: p, s => s.tails.any fun t => !t.isEmpty && stringmatch p t
  | '?' :: p, _ :: s => if s.isEmpty then p.all (· == '*') else stringmatch p s
  | '[' :: '^' :: p, c :: s => classMatch true c s p false
  | '[' :: p, c :: s => classMatch false c s p false
  | '\\' :: d :: p, c :: s => d == c && if s.isEmpty then p.all (· == '*') else stringmatch p s
  | a :: p, c :: s => a == c && if s.isEmpty then p.all (· == '*') else stringmatch p s

/-- The `[...]` case, `^` read: an escaped character, the closing `]`, the end of the
pattern (a class without `]` ends there), a range `a-b` in either order, or one character;
then the round ends on `c` and the rest `s` of the string. -/
def classMatch (negate : Bool) (c : Char) (s : List Char) : List Char → Bool → Bool
  | '\\' :: d :: rest, m => classMatch negate c s rest (m || d == c)
  | ']' :: rest, m =>
      (m != negate) && if s.isEmpty then rest.all (· == '*') else stringmatch rest s
  | [], m => (m != negate) && s.isEmpty
  | a :: '-' :: b :: rest, m =>
      classMatch negate c s rest (m || if a ≤ b then a ≤ c && c ≤ b else b ≤ c && c ≤ a)
  | a :: rest, m => classMatch negate c s rest (m || a == c)

end

def afterChar (p s : List Char) : Bool := if s.isEmpty then p.all (· == '*') else stringmatch p s

/-- `KEYS`: the pattern `*` alone takes every key without the matcher.  A call on the empty
key skips the loop, and matches when only `*`s are left of the pattern. -/
def keyMatches (pattern key : String) : Bool :=
  pattern == "*" || afterChar pattern.data key.data

def Keyspace.keysMatching (now : Nat) (ks : Keyspace) (pattern : String) : List String :=
  ks.entries.filterMap fun e => if e.2.Live now && keyMatches pattern e.1 then some e.1 else none

/-! ## Commands -/

inductive Command
  | EXISTS (key : String)
  | GET (key : String)
  | SET (key value : String)
  | SETEX (key : String) (seconds : BitVec 64) (value : String)
  | DEL (key : String)
  | KEYS (pattern : String)

inductive Reply
  | ok
  | int (n : Int)
  | bulk (s : String)
  | nil
  | array (items : List String)
  | error (msg : String)
  deriving DecidableEq, Repr

def llongMax : Int := 9223372036854775807

/-- The expiry `SETEX` sets (`getExpireMillisecondsOrReply`): the seconds must be positive
and at most `LLONG_MAX / 1000`, and the time in milliseconds they reach from `now` must not
pass `LLONG_MAX`. -/
def setexExpiry (now : Nat) (seconds : BitVec 64) : Option Nat :=
  if seconds.toInt ≤ 0 ∨ seconds.toInt > llongMax / 1000 then none
  else if (now + seconds.toNat * 1000 : Int) > llongMax then none
  else some (now + seconds.toNat * 1000)

/-- One command at time `now`: the reply and the keyspace after it. -/
def exec (now : Nat) (ks : Keyspace) : Command → Reply × Keyspace
  | .EXISTS key => (.int (if (ks.lookupLive now key).isSome then 1 else 0), ks)
  | .GET key =>
      (match ks.lookupLive now key with
        | some item => .bulk item.value
        | none => .nil, ks)
  | .SET key value => (.ok, ks.insert key ⟨value, none⟩)
  | .SETEX key seconds value =>
      match setexExpiry now seconds with
      | none => (.error "ERR invalid expire time in 'setex' command", ks)
      | some t => (.ok, ks.insert key ⟨value, some t⟩)
  | .DEL key => (.int (if (ks.lookupLive now key).isSome then 1 else 0), ks.erase key)
  | .KEYS pattern => (.array (ks.keysMatching now pattern), ks)

/-! ## The keyspace under the commands -/

section Keyspace

variable {now : Nat} {ks : Keyspace} {key key' : String}

@[simp] theorem lookupLive_insert_self (item : Item) :
    Keyspace.lookupLive now (ks.insert key item) key = if item.Live now then some item else none :=
  by simp [Keyspace.lookupLive, AList.lookup_insert, Option.filter_some]

end Keyspace

/-! ## What the matcher does with a literal prefix -/

/-- A pattern whose every character `stringmatchlen` reads as itself. -/
def Literal (pattern : List Char) : Prop := ∀ a ∈ pattern, a ≠ '*' ∧ a ≠ '?' ∧ a ≠ '[' ∧ a ≠ '\\'

instance (pattern : List Char) : Decidable (Literal pattern) :=
  inferInstanceAs (Decidable (∀ a ∈ pattern, _))

end Redis

end TjoQuery
