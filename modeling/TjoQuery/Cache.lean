import TjoQuery.Redis
import TjoQuery.Builder

namespace TjoQuery

/-! `package cache`, concatenated into `model.go`: `RedisCache` over a Redis server, the
generic `GetTyped` and `MustGet`, and `TypedCache`.  The pool `Conn` is the server itself,
reached by every call; an operation takes the clock time and the server's keyspace and
returns its result with the keyspace after it.  gob's wire format is not modelled: the
encoder and decoder are any pair (`Codec`) under which an entry of values gob can encode
comes back as it went in, and which refuses a value it cannot encode, a value of a type
that was never registered or a nil pointer, with gob's error.  Nothing under `src/` calls
`gob.Register`. -/

namespace Cache

open Redis

inductive Error
  /-- `redis.ErrNil`, "redigo: nil returned" -/
  | nilReturned
  /-- an error reply of the server, as `conn.Do` returns it -/
  | reply (msg : String)
  /-- "redigo: unexpected type for `conversion`, got type %T" -/
  | unexpectedType (conversion : String)
  /-- `strconv.ParseBool`'s error on a bulk reply -/
  | parseBool (s : String)
  /-- "gob: type not registered for interface: %s" -/
  | gobNotRegistered (type : String)
  /-- "gob: cannot encode nil pointer of type *%s inside interface" -/
  | gobNilPointer (type : String)
  /-- an error of gob's decoder -/
  | gob (code : Nat)
  /-- `fmt.Errorf(format, arg)` with a single `%s` verb -/
  | formatted (format arg : String)
  deriving DecidableEq, Repr

/-! ## redigo's reply conversions -/

/-- `redis.Bool(conn.Do(...))`. -/
def redisBool : Reply → Except Error Bool
  | .int n => .ok (n != 0)
  | .bulk s =>
      match Strconv.ParseBool s with
      | some b => .ok b
      | none => .error (.parseBool s)
  | .nil => .error .nilReturned
  | .error msg => .error (.reply msg)
  | .ok | .array _ => .error (.unexpectedType "Bool")

/-- `redis.Bytes(conn.Do(...))`: a status reply is a Go `string`, taken as its bytes. -/
def redisBytes : Reply → Except Error String
  | .bulk s => .ok s
  | .ok => .ok "OK"
  | .nil => .error .nilReturned
  | .error msg => .error (.reply msg)
  | .int _ | .array _ => .error (.unexpectedType "Bytes")

/-- `redis.Strings(conn.Do(...))`. -/
def redisStrings : Reply → Except Error (List String)
  | .array items => .ok items
  | .nil => .error .nilReturned
  | .error msg => .error (.reply msg)
  | .ok | .int _ | .bulk _ => .error (.unexpectedType "Strings")

/-- The error of `_, err = conn.Do(...)`. -/
def doErr : Reply → Option Error
  | .error msg => some (.reply msg)
  | _ => none

/-! ## Entries and their encoding -/

/-- A value in an `interface{}` slot: one of the basic types gob registers itself (`nil`,
`bool`, `int`, `string`), a value of a named type of the program (a struct such as the
`User` of the doc comments), or a nil pointer to one. -/
inductive Dynamic
  | basic (v : Value)
  | named (type : String) (v : Value)
  | nilPointer (type : String)
  deriving DecidableEq, Repr

/-- What gob's `encodeInterface` says of a value, given the types registered with
`gob.Register`: a nil pointer is refused first, then a type that is not registered. -/
def Dynamic.gobError (registered : String → Bool) : Dynamic → Option Error
  | basic _ => none
  | named type _ => if registered type then none else some (.gobNotRegistered type)
  | nilPointer type => some (.gobNilPointer type)

/-- `Entry`, a `map[string]interface{}`: `decoded[key]` reads `nil` for a missing key. -/
def Entry := List (String × Dynamic)

def Entry.get (entry : Entry) (key : String) : Dynamic := (List.lookup key entry).getD (.basic .null)

/-- gob's `Encode` and `Decode` of an `Entry`, through the string the server stores.  `Set`
encodes a one-pair entry, which gob refuses with the error of its value when it cannot
encode that value; an entry of values it can encode decodes back to itself. -/
structure Codec where
  registered : String → Bool
  encode : Entry → Except Error String
  decode : String → Except Error Entry
  encode_refused : ∀ key value err, value.gobError registered = some err →
    encode [(key, value)] = .error err
  roundTrip : ∀ entry : List (String × Dynamic), (∀ kv ∈ entry, kv.2.gobError registered = none) →
    ∃ blob, encode entry = .ok blob ∧ decode blob = .ok entry

/-! ## A codec with the round trip

The theorems hold for every `Codec`; this text encoding is one, standing in for gob where a
run is spelled out. -/

def encodeChars : List Char → List Char
  | [] => ['$', '$']
  | c :: cs => c :: '.' :: encodeChars cs

def decodeChars : List Char → Option (List Char × List Char)
  | _ :: '$' :: rest => some ([], rest)
  | c :: '.' :: rest => (decodeChars rest).map fun (cs, rest) => (c :: cs, rest)
  | _ => none

theorem decodeChars_encodeChars (cs rest : List Char) :
    decodeChars (encodeChars cs ++ rest) = some (cs, rest) := by
  induction cs with
  | nil => rfl
  | cons c cs ih => simp [encodeChars, decodeChars, ih]

def encodeValue : Value → List Char
  | .null => ['n']
  | .bool b => [if b then 't' else 'f']
  | .int n => (if 0 ≤ n then '+' else '-') :: encodeChars (List.replicate n.natAbs '1')
  | .str s => 's' :: encodeChars s.data

def decodeValue : List Char → Option (Value × List Char)
  | 'n' :: rest => some (.null, rest)
  | 't' :: rest => some (.bool true, rest)
  | 'f' :: rest => some (.bool false, rest)
  | '+' :: rest => (decodeChars rest).map fun (ones, rest) => (.int ones.length, rest)
  | '-' :: rest => (decodeChars rest).map fun (ones, rest) => (.int (-ones.length), rest)
  | 's' :: rest => (decodeChars rest).map fun (cs, rest) => (.str ⟨cs⟩, rest)
  | _ => none

theorem decodeValue_encodeValue (v : Value) (rest : List Char) :
    decodeValue (encodeValue v ++ rest) = some (v, rest) := by
  cases v with
  | null => rfl
  | bool b => cases b <;> rfl
  | int n =>
      by_cases hn : 0 ≤ n
      · simp [encodeValue, decodeValue, hn, decodeChars_encodeChars, Int.natAbs_of_nonneg hn]
      · simp [encodeValue, decodeValue, hn, decodeChars_encodeChars,
          Int.ofNat_natAbs_of_nonpos (by omega : n ≤ 0)]
  | str s => simp [encodeValue, decodeValue, decodeChars_encodeChars]

def encodeEntry : List (String × Value) → List Char
  | [] => ['z']
  | (key, value) :: rest => 'e' :: (encodeChars key.data ++ (encodeValue value ++ encodeEntry rest))

def decodeEntry : Nat → List Char → Option (List (String × Value))
  | _, ['z'] => some []
  | fuel + 1, 'e' :: rest =>
      (decodeChars rest).bind fun (key, rest) =>
        (decodeValue rest).bind fun (value, rest) =>
          (decodeEntry fuel rest).map fun entry => (⟨key⟩, value) :: entry
  | _, _ => none

theorem decodeEntry_encodeEntry :
    ∀ (entry : List (String × Value)) (fuel : Nat), entry.length ≤ fuel →
      decodeEntry fuel (encodeEntry entry) = some entry
  | [], fuel, _ => by cases fuel <;> rfl
  | (key, value) :: rest, fuel + 1, h => by
      simp [encodeEntry, decodeEntry, decodeChars_encodeChars, decodeValue_encodeValue,
        decodeEntry_encodeEntry rest fuel (by simpa using h)]

theorem length_le_encodeEntry : ∀ entry : List (String × Value),
    entry.length ≤ (encodeEntry entry).length
  | [] => by decide
  | _ :: rest => by
      have := length_le_encodeEntry rest
      simp only [encodeEntry, List.length_cons, List.length_append]
      omega

def Dynamic.basicValue : Dynamic → Value
  | basic v => v
  | _ => .null

theorem Dynamic.basic_basicValue {d : Dynamic} (h : d.gobError (fun _ => false) = none) :
    basic d.basicValue = d := by
  cases d <;> simp_all [gobError, basicValue]

/-- With nothing registered, as in `src/`, the codec encodes the basic values only. -/
def textCodec : Codec where
  registered _ := false
  encode entry :=
    match entry.findSome? fun kv => kv.2.gobError fun _ => false with
    | some err => .error err
    | none => .ok ⟨encodeEntry (entry.map fun kv => (kv.1, kv.2.basicValue))⟩
  decode blob :=
    ((decodeEntry blob.length blob.data).map fun entry =>
      .ok (entry.map fun kv => (kv.1, .basic kv.2))).getD (.error (.gob 0))
  encode_refused key value err h := by simp [h]
  roundTrip entry h := by
    have hnone : (entry.findSome? fun kv => kv.2.gobError fun _ => false) = none :=
      List.findSome?_eq_none_iff.mpr h
    refine ⟨⟨encodeEntry (entry.map fun kv => (kv.1, kv.2.basicValue))⟩, by simp only [hnone], ?_⟩
    have hback : ((entry.map fun kv => (kv.1, kv.2.basicValue)).map
        fun kv => (kv.1, Dynamic.basic kv.2)) = entry := by
      rw [List.map_map]
      conv_rhs => rw [← List.map_id entry]
      exact List.map_congr_left fun kv hkv => by simp [Dynamic.basic_basicValue (h kv hkv)]
    simp [String.length, decodeEntry_encodeEntry _ _ (length_le_encodeEntry _), hback]

/-! ## `RedisCache` -/

structure RedisCache where
  Prefix : String

/-- The expiry `Set` gives its key: none without a `ttl`, `SETEX`'s with one, and `none`
at all when `SETEX` rejects the seconds. -/
def ttlExpiry (now : Nat) : List (BitVec 64) → Option (Option Nat)
  | [] => some none
  | seconds :: _ => (setexExpiry now seconds).map some

namespace RedisCache

section Operations

variable (c : RedisCache) (codec : Codec) (now : Nat) (ks : Keyspace)

def Has (str : String) : Except Error Bool × Keyspace :=
  let (reply, ks) := exec now ks (.EXISTS (c.Prefix ++ str))
  (redisBool reply, ks)

/-- `Get` reads the entry stored under the prefixed key and returns its value there. -/
def Get (str : String) : Except Error Dynamic × Keyspace :=
  let key := c.Prefix ++ str
  let (reply, ks) := exec now ks (.GET key)
  ((redisBytes reply).bind fun cacheEntry =>
    (codec.decode cacheEntry).map fun decoded => decoded.get key, ks)

/-- `Set` stores the entry `{key: value}` under the prefixed key, with `SETEX` when a
`ttl` is given. -/
def Set (str : String) (value : Dynamic) (ttl : List (BitVec 64)) : Option Error × Keyspace :=
  let key := c.Prefix ++ str
  match codec.encode [(key, value)] with
  | .error err => (some err, ks)
  | .ok encoded =>
      let (reply, ks) := match ttl with
        | seconds :: _ => exec now ks (.SETEX key seconds encoded)
        | [] => exec now ks (.SET key encoded)
      (doErr reply, ks)

def Forget (str : String) : Option Error × Keyspace :=
  let (reply, ks) := exec now ks (.DEL (c.Prefix ++ str))
  (doErr reply, ks)

end Operations

/-- The loop `for _, key := range keys { _, err = conn.Do("DEL", key) ... }`, stopping
at the first error. -/
def delAll (now : Nat) : List String → Keyspace → Option Error × Keyspace
  | [], ks => (none, ks)
  | key :: keys, ks =>
      let (reply, ks) := exec now ks (.DEL key)
      match doErr reply with
      | some err => (some err, ks)
      | none => delAll now keys ks

section Patterns

variable (c : RedisCache) (now : Nat) (ks : Keyspace)

/-- `EmptyByMatch` deletes every key `KEYS` answers for the prefixed pattern. -/
def EmptyByMatch (str : String) : Option Error × Keyspace :=
  let (reply, ks) := exec now ks (.KEYS (c.Prefix ++ str))
  match redisStrings reply with
  | .error err => (some err, ks)
  | .ok keys => delAll now keys ks

def Flush : Option Error × Keyspace := c.EmptyByMatch now ks "*"

end Patterns

end RedisCache

/-! ## What each operation does to the keyspace -/

namespace RedisCache

variable {c : RedisCache} {codec : Codec} {now : Nat} {ks : Keyspace}

theorem Forget_eq (str : String) : c.Forget now ks str = (none, ks.erase (c.Prefix ++ str)) := rfl

theorem delAll_eq (now : Nat) :
    ∀ (keys : List String) (ks : Keyspace), (delAll now keys ks).1 = none ∧
      ∀ key, (delAll now keys ks).2.lookup key = if key ∈ keys then none else ks.lookup key
  | [], ks => ⟨rfl, fun _ => rfl⟩
  | k :: keys, ks => by
      obtain ⟨hnone, hlookup⟩ := delAll_eq now keys (ks.erase k)
      refine ⟨hnone, fun key => ?_⟩
      rw [show delAll now (k :: keys) ks = delAll now keys (ks.erase k) from rfl, hlookup]
      by_cases hk : key = k
      · subst hk
        simp [AList.lookup_erase]
      · simp [hk, AList.lookup_erase_ne hk]

example :
    ((RedisCache.mk "app[1]:").Flush 0
        ((∅ : Keyspace).insert "app1:x" ⟨"v", none⟩ |>.insert "app[1]:x" ⟨"w", none⟩)).2.lookup
        "app1:x" = none ∧
      ((RedisCache.mk "app[1]:").Flush 0
        ((∅ : Keyspace).insert "app1:x" ⟨"v", none⟩ |>.insert "app[1]:x" ⟨"w", none⟩)).2.lookup
        "app[1]:x" = some ⟨"w", none⟩ := by decide

end RedisCache

/-! ## Typed access -/

/-- A Go type `T` in an `interface{}`: how a `T` is held, and the assertion `value.(T)`.
The assertion gives back every `T` held, but a nil interface value fails every assertion:
when `T` is an interface type, such as `any`, its nil is held as that nil. -/
structure GoType (T : Type) where
  box : T → Dynamic
  cast : Dynamic → Option T
  cast_box : ∀ t, cast (box t) = if box t = .basic .null then none else some t

/-- `any`: a value is held as itself, and `value.(any)` fails on nil only. -/
def anyType : GoType Dynamic where
  box := id
  cast value := if value = .basic .null then none else some value
  cast_box _ := rfl

/-- A struct type `User` of package `main`, its fields read as one value. -/
def userType : GoType Value where
  box := .named "main.User"
  cast
    | .named "main.User" v => some v
    | _ => none
  cast_box _ := rfl

section Typed

variable {T : Type} (ty : GoType T) (c : RedisCache) (codec : Codec) (now : Nat) (ks : Keyspace)

/-- `GetTyped[T]` on a `RedisCache`; the zero value returned beside an error is left out. -/
def GetTyped (key : String) : Except Error T × Keyspace :=
  let (value, ks) := c.Get codec now ks key
  (value.bind fun value =>
    match ty.cast value with
    | some typed => .ok typed
    | none => .error (.formatted "cached value for key %s is not the expected type" key), ks)

/-- `MustGet[T]`: `none` is its panic `cache.MustGet: %v`. -/
def MustGet (key : String) : Option T × Keyspace :=
  let (value, ks) := GetTyped ty c codec now ks key
  (match value with
    | .ok value => some value
    | .error _ => none, ks)

end Typed

structure TypedCache (T : Type) where
  cache : RedisCache

def NewTypedCache {T : Type} (c : RedisCache) : TypedCache T := ⟨c⟩

namespace TypedCache

variable {T : Type} (tc : TypedCache T) (ty : GoType T) (codec : Codec) (now : Nat)
  (ks : Keyspace)

def Has (key : String) : Except Error Bool × Keyspace := tc.cache.Has now ks key

def Get (key : String) : Except Error T × Keyspace := GetTyped ty tc.cache codec now ks key

def Set (key : String) (value : T) (ttl : List (BitVec 64)) : Option Error × Keyspace :=
  tc.cache.Set codec now ks key (ty.box value) ttl

def Forget (key : String) : Option Error × Keyspace := tc.cache.Forget now ks key

def EmptyByMatch (pattern : String) : Option Error × Keyspace :=
  tc.cache.EmptyByMatch now ks pattern

def Flush : Option Error × Keyspace := tc.cache.Flush now ks

end TypedCache

end Cache

end TjoQuery
