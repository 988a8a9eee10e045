import TjoQuery.Net

namespace TjoQuery

/-! `getClientIP`, `getClientIPWithTrustedProxies` and `isPrivateIP` of
`security/utils.go`.  A request is read through its `RemoteAddr` and its headers' `Get`.
Behind a trusted proxy the function takes the client from `X-Forwarded-For` or `X-Real-IP`
when `isPrivateIP` rejects the value; but the single-value paths test the value as it
came and return it trimmed, and `isPrivateIP` rejects every string `ParseIP` cannot read,
so a private address padded with white space, and any text that is no address, gets
through. -/

namespace Strings

/-- `unicode.IsSpace`: in Latin-1 `'\t'`, `'\n'`, `'\v'`, `'\f'`, `'\r'`, `' '`, U+0085
and U+00A0; above it the `White_Space` table. -/
def isSpace (c : Char) : Bool :=
  if c.toNat ≤ 0xFF then c.toNat ∈ [0x09, 0x0A, 0x0B, 0x0C, 0x0D, 0x20, 0x85, 0xA0]
  else c.toNat = 0x1680 ∨ (0x2000 ≤ c.toNat ∧ c.toNat ≤ 0x200A) ∨ c.toNat = 0x2028 ∨
    c.toNat = 0x2029 ∨ c.toNat = 0x202F ∨ c.toNat = 0x205F ∨ c.toNat = 0x3000

/-- `strings.TrimSpace`: the string without the white space at either end. -/
def trimSpace (s : String) : String :=
  ⟨((s.data.dropWhile isSpace).reverse.dropWhile isSpace).reverse⟩

/-- `strings.Index(s, sep)` for a separator of one character: its first position, `none`
for `-1`. -/
def index (s : String) (sep : Char) : Option Nat := s.data.findIdx? (· = sep)

/-- `strings.LastIndex(s, sep)` for a separator of one character. -/
def lastIndex (s : String) (sep : Char) : Option Nat :=
  (s.data.reverse.findIdx? (· = sep)).map (s.length - 1 - ·)

theorem dropWhile_of_forall_false {p : Char → Bool} :
    ∀ {l : List Char}, (∀ c ∈ l, p c = false) → l.dropWhile p = l
  | [], _ => rfl
  | c :: _, h => by simp [List.dropWhile_cons, h c (List.mem_cons_self _ _)]

theorem trimSpace_of_forall {s : String} (h : ∀ c ∈ s.data, isSpace c = false) :
    trimSpace s = s := by
  have hrev : ∀ c ∈ s.data.reverse, isSpace c = false := fun c hc => h c (List.mem_reverse.mp hc)
  simp only [trimSpace, dropWhile_of_forall_false h, dropWhile_of_forall_false hrev,
    List.reverse_reverse]

theorem isSpace_of_addressChar {c : Char} (h : Net.addressChar c) : isSpace c = false := by
  have hc := Net.addressChar_toNat h
  unfold isSpace
  split_ifs <;> simp <;> omega

end Strings

namespace Security

open Net Strings

/-- The parts of an `*http.Request` the functions read. -/
structure Request where
  RemoteAddr : String
  /-- `r.Header.Get(key)`: the first value stored under the key's canonical form, `""`
  when there is none. -/
  Header : String → String

/-- `getClientIP`: `RemoteAddr` up to its last `:`. -/
def getClientIP (r : Request) : String :=
  match lastIndex r.RemoteAddr ':' with
  | some idx => ⟨r.RemoteAddr.data.take idx⟩
  | none => r.RemoteAddr

/-- The blocks `isPrivateIP` tests, in its order. -/
def privateRanges : List String :=
  ["10.0.0.0/8", "172.16.0.0/12", "192.168.0.0/16", "127.0.0.0/8", "::1/128", "fc00::/7"]

/-- `isPrivateIP`: a string `ParseIP` reads, inside one of `privateRanges`; a range
`ParseCIDR` rejects is skipped. -/
def isPrivateIP (ipStr : String) : Bool :=
  match ParseIP ipStr with
  | none => false
  | some ip => privateRanges.any fun cidr =>
      match ParseCIDR cidr with
      | none => false
      | some block => block.Contains ip

def getClientIPWithTrustedProxies (r : Request) (trustedProxies : List String) : String :=
  if trustedProxies.length = 0 then getClientIP r
  else
    let immediateIP := getClientIP r
    if immediateIP ∉ trustedProxies then immediateIP
    else
      let xff := r.Header "X-Forwarded-For"
      let fromXFF : Option String :=
        if xff ≠ "" then
          match index xff ',' with
          | some idx =>
              let ip := trimSpace ⟨xff.data.take idx⟩
              if ip ≠ "" ∧ isPrivateIP ip = false then some ip else none
          | none => if xff ≠ "" ∧ isPrivateIP xff = false then some (trimSpace xff) else none
        else none
      match fromXFF with
      | some ip => ip
      | none =>
          let xri := r.Header "X-Real-IP"
          if xri ≠ "" ∧ isPrivateIP xri = false then trimSpace xri else immediateIP

/-! ## What `isPrivateIP` accepts

The six blocks, read as bytes: an IPv4 address (which `ParseIP` returns in its IPv4-mapped
form, so `IP.To4` gives it back to the IPv4 blocks) in `10/8`, `172.16/12`, `192.168/16` or
`127/8`; the IPv6 loopback; a unique local address of `fc00::/7`. -/

/-- The addresses of `privateRanges`, as 16 bytes. -/
def PrivateAddress (ip : IP) : Prop :=
  (∃ a b c d : UInt8, ip = v4InV6Prefix ++ [a, b, c, d] ∧
    (a = 10 ∨ (a = 172 ∧ 16 ≤ b.toNat ∧ b.toNat < 32) ∨ (a = 192 ∧ b = 168) ∨ a = 127)) ∨
  ip = List.replicate 15 0 ++ [1] ∨
  (∃ a rest, ip = a :: rest ∧ rest.length = 15 ∧ (a = 0xfc ∨ a = 0xfd))

set_option maxRecDepth 4000 in
theorem land_240_eq_16 : ∀ n < 256, (n &&& 240 = 16 ↔ 16 ≤ n ∧ n < 32) := by decide

set_option maxRecDepth 4000 in
theorem land_254_eq_252 : ∀ n < 256, (n &&& 254 = 252 ↔ n = 252 ∨ n = 253) := by decide

theorem and_255_eq (a b : UInt8) : a &&& 255 = b &&& 255 ↔ b = a := by
  have h255 : ∀ x : UInt8, x &&& 255 = x := fun x => UInt8.toNat.inj (by
    rw [UInt8.and_toNat, show (255 : UInt8).toNat = 2 ^ 8 - 1 from rfl,
      Nat.and_pow_two_sub_one_eq_mod, Nat.mod_eq_of_lt x.toNat_lt_size])
  rw [h255, h255, eq_comm]

theorem and_0_eq (a b : UInt8) : a &&& 0 = b &&& 0 ↔ True :=
  iff_true_intro (UInt8.toNat.inj (by simp [UInt8.and_toNat]))

theorem and_240_eq (b : UInt8) :
    (16 : UInt8) &&& 240 = b &&& 240 ↔ 16 ≤ b.toNat ∧ b.toNat < 32 := by
  rw [← land_240_eq_16 _ b.toNat_lt_size, eq_comm]
  constructor
  · intro h; simpa [UInt8.and_toNat] using congrArg UInt8.toNat h
  · intro h; exact UInt8.toNat.inj (by simpa [UInt8.and_toNat] using h)

theorem and_254_eq (b : UInt8) : (252 : UInt8) &&& 254 = b &&& 254 ↔ b = 252 ∨ b = 253 := by
  have hiff := land_254_eq_252 _ b.toNat_lt_size
  constructor
  · intro h
    have := congrArg UInt8.toNat h.symm
    simp only [UInt8.and_toNat] at this
    rcases hiff.mp (by simpa using this) with h1 | h1
    · exact .inl (UInt8.toNat.inj (by simpa using h1))
    · exact .inr (UInt8.toNat.inj (by simpa using h1))
  · rintro (rfl | rfl) <;> decide

theorem eq_of_length_sixteen {ip : IP} (h : ip.length = 16) :
    ∃ b0 b1 b2 b3 b4 b5 b6 b7 b8 b9 b10 b11 b12 b13 b14 b15,
      ip = [b0, b1, b2, b3, b4, b5, b6, b7, b8, b9, b10, b11, b12, b13, b14, b15] := by
  match ip, h with
  | [b0, b1, b2, b3, b4, b5, b6, b7, b8, b9, b10, b11, b12, b13, b14, b15], _ =>
      exact ⟨b0, b1, b2, b3, b4, b5, b6, b7, b8, b9, b10, b11, b12, b13, b14, b15, rfl⟩

theorem privateRanges_contains (ip : IP) (hlen : ip.length = 16) :
    (privateRanges.any fun cidr => match ParseCIDR cidr with
      | none => false
      | some block => block.Contains ip) = true ↔ PrivateAddress ip := by
  have h1 : ParseCIDR "10.0.0.0/8" = some ⟨[10, 0, 0, 0], [255, 0, 0, 0]⟩ := by decide
  have h2 : ParseCIDR "172.16.0.0/12" = some ⟨[172, 16, 0, 0], [255, 240, 0, 0]⟩ := by decide
  have h3 : ParseCIDR "192.168.0.0/16" = some ⟨[192, 168, 0, 0], [255, 255, 0, 0]⟩ := by decide
  have h4 : ParseCIDR "127.0.0.0/8" = some ⟨[127, 0, 0, 0], [255, 0, 0, 0]⟩ := by decide
  have h5 : ParseCIDR "::1/128" = some ⟨List.replicate 15 0 ++ [1], List.replicate 16 255⟩ := by
    decide
  have h6 : ParseCIDR "fc00::/7" =
      some ⟨0xfc :: List.replicate 15 0, 0xfe :: List.replicate 15 0⟩ := by decide
  simp only [privateRanges, List.any_cons, List.any_nil, h1, h2, h3, h4, h5, h6, Bool.or_false]
  obtain ⟨b0, b1, b2, b3, b4, b5, b6, b7, b8, b9, b10, b11, b12, b13, b14, b15, rfl⟩ :=
    eq_of_length_sixteen hlen
  by_cases hmapped : (b0 = 0 ∧ b1 = 0 ∧ b2 = 0 ∧ b3 = 0 ∧ b4 = 0 ∧ b5 = 0 ∧ b6 = 0 ∧ b7 = 0 ∧
      b8 = 0 ∧ b9 = 0) ∧ b10 = 255 ∧ b11 = 255
  · simp [IPNet.Contains, networkNumberAndMask, IP.To4, bytesMatch, hmapped, and_255_eq, and_0_eq,
      and_240_eq, and_254_eq, PrivateAddress, v4InV6Prefix, and_assoc]
  · simp [IPNet.Contains, networkNumberAndMask, IP.To4, bytesMatch, hmapped, and_255_eq, and_0_eq,
      and_240_eq, and_254_eq, PrivateAddress, v4InV6Prefix, and_assoc]
    intro e0 e1 e2 e3 e4 e5 e6 e7 e8 e9 e10 e11
    exact absurd ⟨⟨e0, e1, e2, e3, e4, e5, e6, e7, e8, e9⟩, e10, e11⟩ hmapped

/-- `isPrivateIP` accepts exactly the strings `ParseIP` reads to a `PrivateAddress`. -/
theorem isPrivateIP_iff (s : String) :
    isPrivateIP s = true ↔ ∃ ip, ParseIP s = some ip ∧ PrivateAddress ip := by
  cases h : ParseIP s with
  | none => simp [isPrivateIP, h]
  | some ip =>
      simp only [isPrivateIP, h, Option.some.injEq, exists_eq_left']
      exact privateRanges_contains ip (ParseIP_length h)

/-! ## The headers behind a trusted proxy -/

theorem isPrivateIP_of_ParseIP_none {s : String} (h : ParseIP s = none) :
    isPrivateIP s = false := by
  simp [isPrivateIP, h]

theorem ParseIP_space_append (s : String) : ParseIP (" " ++ s) = none := by
  cases h : ParseIP (" " ++ s) with
  | none => rfl
  | some ip =>
      have hspace := ParseIP_chars h ' ' (by simp)
      exact absurd hspace (by decide)

theorem space_append_of_isPrivateIP {s : String} (hs : isPrivateIP s = true) :
    " " ++ s ≠ "" ∧ index (" " ++ s) ',' = none ∧ isPrivateIP (" " ++ s) = false ∧
      trimSpace (" " ++ s) = s := by
  obtain ⟨ip, hip⟩ : ∃ ip, ParseIP s = some ip := by
    cases h : ParseIP s with
    | none => simp [isPrivateIP, h] at hs
    | some ip => exact ⟨ip, rfl⟩
  have hchars := ParseIP_chars hip
  refine ⟨fun h => by simpa using congrArg String.data h, ?_,
    isPrivateIP_of_ParseIP_none (ParseIP_space_append s), ?_⟩
  · refine List.findIdx?_eq_none_iff.mpr fun c hc => ?_
    simp only [String.data_append, List.mem_append] at hc
    rcases hc with hc | hc
    · simp at hc; simp [hc]
    · have := Net.addressChar_toNat (hchars c hc)
      simp only [decide_eq_false_iff_not]
      rintro rfl
      simp at this
  · have hdrop : (" " ++ s).data.dropWhile isSpace = s.data.dropWhile isSpace := by
      simp [List.dropWhile_cons, show isSpace ' ' = true by decide]
    calc trimSpace (" " ++ s) = trimSpace s := by simp only [trimSpace, hdrop]
      _ = s := trimSpace_of_forall fun c hc => isSpace_of_addressChar (hchars c hc)

/-- Without a trusted proxy in front, the headers are never read.  Behind one,
`isPrivateIP` is asked about a header's value as it came and the value is returned
trimmed: every address `isPrivateIP` accepts comes back after one space, from
`X-Forwarded-For` or, when that header is absent, from `X-Real-IP`; and a single
`X-Forwarded-For` value that `ParseIP` cannot read comes back trimmed. -/
theorem getClientIPWithTrustedProxies_headers (r : Request) (trustedProxies : List String) :
    ((trustedProxies = [] ∨ getClientIP r ∉ trustedProxies) →
      getClientIPWithTrustedProxies r trustedProxies = getClientIP r) ∧
    (getClientIP r ∈ trustedProxies →
      (∀ s, isPrivateIP s = true → r.Header "X-Forwarded-For" = " " ++ s →
        getClientIPWithTrustedProxies r trustedProxies = s) ∧
      (∀ s, isPrivateIP s = true → r.Header "X-Forwarded-For" = "" →
        r.Header "X-Real-IP" = " " ++ s → getClientIPWithTrustedProxies r trustedProxies = s) ∧
      (r.Header "X-Forwarded-For" ≠ "" → ',' ∉ (r.Header "X-Forwarded-For").data →
        ParseIP (r.Header "X-Forwarded-For") = none →
        getClientIPWithTrustedProxies r trustedProxies =
          trimSpace (r.Header "X-Forwarded-For"))) := by
  refine ⟨fun h => ?_, fun hmem => ?_⟩
  · rcases h with rfl | h
    · simp [getClientIPWithTrustedProxies]
    · simp [getClientIPWithTrustedProxies, h]
  have hlen : trustedProxies.length ≠ 0 := by simpa using List.ne_nil_of_mem hmem
  refine ⟨fun s hs hxff => ?_, fun s hs hxff hxri => ?_, fun hne hcomma hparse => ?_⟩
  · obtain ⟨hne, hidx, hpriv, htrim⟩ := space_append_of_isPrivateIP hs
    simp only [getClientIPWithTrustedProxies, hlen, hmem, hxff, hne, hidx, hpriv, htrim]
    simp [hne]
  · obtain ⟨hne, -, hpriv, htrim⟩ := space_append_of_isPrivateIP hs
    simp only [getClientIPWithTrustedProxies, hlen, hmem, hxff, hxri, hne, hpriv, htrim]
    simp [hne]
  · have hidx : index (r.Header "X-Forwarded-For") ',' = none :=
      List.findIdx?_eq_none_iff.mpr fun c hc => by
        simp only [decide_eq_false_iff_not]
        rintro rfl
        exact hcomma hc
    simp only [getClientIPWithTrustedProxies, hlen, hmem, hne, hidx,
      isPrivateIP_of_ParseIP_none hparse]
    simp [hne]

theorem getClientIPWithTrustedProxies_padded_loopback :
    getClientIP ⟨"10.1.1.1:1234", fun key => if key = "X-Forwarded-For" then " 127.0.0.1" else ""⟩ ∈
        ["10.1.1.1"] ∧ isPrivateIP "127.0.0.1" = true ∧
      getClientIPWithTrustedProxies
        ⟨"10.1.1.1:1234", fun key => if key = "X-Forwarded-For" then " 127.0.0.1" else ""⟩
        ["10.1.1.1"] = "127.0.0.1" :=
  ⟨by decide, by decide,
    ((getClientIPWithTrustedProxies_headers _ _).2 (by decide)).1 "127.0.0.1" (by decide)
      (by decide)⟩

end Security

end TjoQuery
