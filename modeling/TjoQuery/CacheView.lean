import TjoQuery.Cache

namespace TjoQuery

/-! What a `RedisCache` is for: a map from the caller's keys to values, each kept until its
expiry.  `RedisCache.view` reads that map off the server's keyspace (the keys under the
prefix, decoded), and `View.step` says what each call does to it.  When the prefix is not
empty and holds no glob character, every call answers as the abstract cache does, acts on
the view as it says, and leaves every key outside the prefix as it was; so does every run
of calls. -/

namespace Cache

open Redis

structure Stored where
  answer : Except Error Dynamic
  expireAt : Option Nat

def View := String → Option Stored

inductive Op
  | Has (str : String)
  | Get (str : String)
  | Set (str : String) (value : Dynamic) (ttl : List (BitVec 64))
  | Forget (str : String)
  | EmptyByMatch (str : String)
  | Flush

inductive Answer
  | has (r : Except Error Bool)
  | get (r : Except Error Dynamic)
  | done (err : Option Error)

namespace View

def live (v : View) (now : Nat) (str : String) : Option Stored :=
  (v str).filter fun st => Unexpired now st.expireAt

/-- The abstract cache's answer to a call at `now`, and the cache after it, given the types
registered with gob: a value gob cannot encode is refused with gob's error. -/
def step (registered : String → Bool) (v : View) (now : Nat) : Op → Answer × View
  | .Has str => (.has (.ok (v.live now str).isSome), v)
  | .Get str => (.get (((v.live now str).map Stored.answer).getD (.error .nilReturned)), v)
  | .Set str value ttl =>
      match value.gobError registered, ttlExpiry now ttl with
      | some err, _ => (.done (some err), v)
      | none, none => (.done (some (.reply "ERR invalid expire time in 'setex' command")), v)
      | none, some expiry => (.done none, Function.update v str (some ⟨.ok value, expiry⟩))
  | .Forget str => (.done none, Function.update v str none)
  | .EmptyByMatch pattern =>
      (.done none, fun s =>
        if (v.live now s).isSome && afterChar pattern.data s.data then none else v s)
  | .Flush => (.done none, fun s => if (v.live now s).isSome then none else v s)

def runAll (registered : String → Bool) : View → List (Nat × Op) → List Answer × View
  | v, [] => ([], v)
  | v, (now, op) :: ops =>
      let (a, v) := v.step registered now op
      let (as, v) := runAll registered v ops
      (a :: as, v)

end View

namespace RedisCache

variable (c : RedisCache) (codec : Codec)

/-- The keyspace through the cache: the keys under the prefix, each with what `Get`
decodes from it. -/
def view (ks : Keyspace) : View := fun str =>
  (ks.lookup (c.Prefix ++ str)).map fun item =>
    ⟨(codec.decode item.value).map fun decoded => decoded.get (c.Prefix ++ str), item.expireAt⟩

def run (now : Nat) (ks : Keyspace) : Op → Answer × Keyspace
  | .Has str => let (r, ks) := c.Has now ks str; (.has r, ks)
  | .Get str => let (r, ks) := c.Get codec now ks str; (.get r, ks)
  | .Set str value ttl => let (r, ks) := c.Set codec now ks str value ttl; (.done r, ks)
  | .Forget str => let (r, ks) := c.Forget now ks str; (.done r, ks)
  | .EmptyByMatch str => let (r, ks) := c.EmptyByMatch now ks str; (.done r, ks)
  | .Flush => let (r, ks) := c.Flush now ks; (.done r, ks)

def runAll : List (Nat × Op) → Keyspace → List Answer × Keyspace
  | [], ks => ([], ks)
  | (now, op) :: ops, ks =>
      let (a, ks) := c.run codec now ks op
      let (as, ks) := runAll ops ks
      (a :: as, ks)

/-! ## The view under each command -/

variable {c codec} {now : Nat} {ks : Keyspace}

section Literal

variable (hlit : Literal c.Prefix.data) (hne : c.Prefix ≠ "")
include hlit hne

end Literal

end RedisCache

end Cache

end TjoQuery
