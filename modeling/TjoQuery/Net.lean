import Mathlib.Data.List.Basic

namespace TjoQuery

/-! The parts of Go's `net` and `net/netip` that `isPrivateIP` calls: `net.ParseIP`, which
parses with `netip.ParseAddr` and refuses a zone, `net.ParseCIDR`, `net.CIDRMask`,
`IP.Mask`, `IP.To4` and `IPNet.Contains`.  A string is read as its characters: the parsers
compare bytes with ASCII characters only, and no byte of a character of more than one
byte is ASCII, so such a character fails where its first byte fails.  Parse errors are
not modelled: the callers here test only for `nil`. -/

namespace Net

/-- `net.IP` and `net.IPMask`: byte slices, `nil` being the empty one. -/
abbrev IP := List UInt8

abbrev IPMask := List UInt8

def decimalValue (c : Char) : Option Nat :=
  if '0'.toNat ≤ c.toNat ∧ c.toNat ≤ '9'.toNat then some (c.toNat - '0'.toNat) else none

def hexValue (c : Char) : Option Nat :=
  if '0'.toNat ≤ c.toNat ∧ c.toNat ≤ '9'.toNat then some (c.toNat - '0'.toNat)
  else if 'a'.toNat ≤ c.toNat ∧ c.toNat ≤ 'f'.toNat then some (c.toNat - 'a'.toNat + 10)
  else if 'A'.toNat ≤ c.toNat ∧ c.toNat ≤ 'F'.toNat then some (c.toNat - 'A'.toNat + 10)
  else none

/-- `copy(ip[i:], bytes)`. -/
def setBytes (ip : IP) (i : Nat) (bytes : List UInt8) : IP :=
  ip.take i ++ bytes ++ ip.drop (i + bytes.length)

/-- `ip[i] = byte(acc >> 8); ip[i+1] = byte(acc)`: a field of `parseIPv6`. -/
def writeField (ip : IP) (i acc : Nat) : IP :=
  setBytes ip i [UInt8.ofNat (acc / 256), UInt8.ofNat acc]

def v4InV6Prefix : IP := [0, 0, 0, 0, 0, 0, 0, 0, 0, 0, 0xff, 0xff]

/-! ## `netip.ParseAddr` -/

/-- The loop of `parseIPv4Fields` over the characters left, after the character `prev`
(`none` at the start), with the octet `val` of `digLen` digits being read and the fields
written so far: a leading zero, an octet above 255, an empty field, a fifth field or any
other character fails, and so do fewer than four fields. -/
def parseIPv4Fields : List Char → Option Char → Nat → Nat → List UInt8 → Option (List UInt8)
  | [], _, val, _, fields =>
      if fields.length < 3 then none else some (fields ++ [UInt8.ofNat val])
  | c :: rest, prev, val, digLen, fields =>
      match decimalValue c with
      | some d =>
          if digLen = 1 ∧ val = 0 then none
          else if val * 10 + d > 255 then none
          else parseIPv4Fields rest (some c) (val * 10 + d) (digLen + 1) fields
      | none =>
          if c = '.' then
            if prev = none ∨ rest = [] ∨ prev = some '.' then none
            else if fields.length = 3 then none
            else parseIPv4Fields rest (some c) 0 0 (fields ++ [UInt8.ofNat val])
          else none

def parseIPv4 (s : List Char) : Option (List UInt8) := parseIPv4Fields s none 0 0 []

def hexField : List Char → Nat → Nat → Option (Nat × Nat × List Char)
  | [], acc, off => some (acc, off, [])
  | c :: rest, acc, off =>
      match hexValue c with
      | none => some (acc, off, c :: rest)
      | some d =>
          if off > 3 then none
          else if acc * 16 + d > 0xFFFF then none
          else hexField rest (acc * 16 + d) (off + 1)

/-- The loop `for i < 16` of `parseIPv6` with `n` pairs of bytes left, at `i = 16 - 2 * n`,
over the bytes written so far, the position of `::` and the characters left; at its exit,
the bytes, `i`, the position of `::` and the characters left there.  A field followed by
`.` starts the embedded IPv4 address, which must end the string. -/
def parseIPv6Fields : Nat → IP → Option Nat → List Char →
    Option (IP × Nat × Option Nat × List Char)
  | 0, ip, ellipsis, s => some (ip, 16, ellipsis, s)
  | n + 1, ip, ellipsis, s =>
      match hexField s 0 0 with
      | none => none
      | some (acc, off, after) =>
          if off = 0 then none
          else if after.head? = some '.' then
            if ellipsis = none ∧ 16 - 2 * (n + 1) ≠ 12 then none
            else if 16 - 2 * (n + 1) + 4 > 16 then none
            else match parseIPv4 s with
              | none => none
              | some fields =>
                  some (setBytes ip (16 - 2 * (n + 1)) fields, 16 - 2 * (n + 1) + 4, ellipsis, [])
          else
            let ip := writeField ip (16 - 2 * (n + 1)) acc
            match after with
            | [] => some (ip, 16 - 2 * n, ellipsis, [])
            | c :: rest =>
                if c ≠ ':' then none
                else match rest with
                  | [] => none
                  | c' :: rest' =>
                      if c' = ':' then
                        if ellipsis ≠ none then none
                        else if rest' = [] then some (ip, 16 - 2 * n, some (16 - 2 * n), [])
                        else parseIPv6Fields n ip (some (16 - 2 * n)) rest'
                      else parseIPv6Fields n ip ellipsis (c' :: rest')

/-- The zone after the first `%`, `s[i+1:]` for `i` its index, and the address before it;
no `%` leaves the string whole, and a `%` with nothing after it fails. -/
def splitZone (input : List Char) : Option (List Char × Option (List Char)) :=
  match input.dropWhile (· ≠ '%') with
  | [] => some (input, none)
  | [_] => none
  | _ :: zone => some (input.takeWhile (· ≠ '%'), some zone)

/-- What the `::` stands for once the loop has filled `i` bytes: the bytes after it move to
the end, and the gap is cleared. -/
def expandEllipsis (ip : IP) (i ellipsis : Nat) : IP :=
  ip.take ellipsis ++ List.replicate (16 - i) 0 ++ (ip.take i).drop ellipsis

/-- `parseIPv6` once the zone is split off: the 16 bytes.  Every successful return of
`parseIPv6` carries the zone split off first. -/
def parseIPv6Bytes (s : List Char) : Option IP :=
  let (ellipsis, s) := if s.take 2 = [':', ':'] then (some 0, s.drop 2) else (none, s)
  if ellipsis = some 0 ∧ s = [] then some (List.replicate 16 0)
  else (parseIPv6Fields 8 (List.replicate 16 0) ellipsis s).bind fun (ip, i, ellipsis, s) =>
    if s ≠ [] then none
    else if i < 16 then ellipsis.map (expandEllipsis ip i)
    else if ellipsis ≠ none then none
    else some ip

def parseIPv6 (input : List Char) : Option (IP × Option (List Char)) :=
  (splitZone input).bind fun (s, zone) => (parseIPv6Bytes s).map (·, zone)

/-- `netip.Addr` as its callers here read it: `As16()`, `Is4()` and the zone. -/
structure Addr where
  as16 : IP
  is4 : Bool
  zone : Option (List Char)
  deriving DecidableEq

/-- `netip.ParseAddr`: the first `.`, `:` or `%` decides how the string is read. -/
def ParseAddr (s : List Char) : Option Addr :=
  match s.find? (fun c => c = '.' ∨ c = ':' ∨ c = '%') with
  | some '.' => (parseIPv4 s).map fun fields => ⟨v4InV6Prefix ++ fields, true, none⟩
  | some ':' => (parseIPv6 s).map fun (ip, zone) => ⟨ip, false, zone⟩
  | _ => none

/-- `net.ParseIP`: `netip.ParseAddr`, refusing a zone, as 16 bytes. -/
def ParseIP (s : String) : Option IP :=
  match ParseAddr s.data with
  | some addr => if addr.zone = none then some addr.as16 else none
  | none => none

/-! ## Networks -/

/-- `net.IPNet`. -/
structure IPNet where
  IP : IP
  Mask : IPMask
  deriving DecidableEq

/-- `dtoi` from the start of `s`, with `n` read from `i` digits so far: the number, the
digits read, and whether there was at least one digit and the number stayed below
`big = 0xFFFFFF`. -/
def dtoi : List Char → Nat → Nat → Nat × Nat × Bool
  | [], n, i => (n, i, i ≠ 0)
  | c :: rest, n, i =>
      match decimalValue c with
      | none => (n, i, i ≠ 0)
      | some d =>
          if n * 10 + d ≥ 0xFFFFFF then (0xFFFFFF, i, false) else dtoi rest (n * 10 + d) (i + 1)

/-- The bytes of `net.CIDRMask` from `n` ones left. -/
def maskBytes : Nat → Nat → IPMask
  | 0, _ => []
  | l + 1, n => if n ≥ 8 then 0xff :: maskBytes l (n - 8)
      else (~~~((0xff : UInt8) >>> UInt8.ofNat n)) :: maskBytes l 0

/-- `net.CIDRMask(ones, bits)`. -/
def CIDRMask (ones bits : Nat) : IPMask :=
  if bits ≠ 32 ∧ bits ≠ 128 then []
  else if ones > bits then []
  else maskBytes (bits / 8) ones

def IP.To4 (ip : IP) : Option IP :=
  if ip.length = 4 then some ip
  else if ip.length = 16 ∧ (ip.take 10).all (· = 0) ∧ ip[10]? = some 0xff ∧ ip[11]? = some 0xff
    then some (ip.drop 12)
  else none

/-- `IP.Mask`: an IPv4 address in 16 bytes against a 4-byte mask, or the reverse, is
first brought to 4 bytes; different lengths give `nil`. -/
def IP.Mask (ip : IP) (mask : IPMask) : IP :=
  let mask :=
    if mask.length = 16 ∧ ip.length = 4 ∧ (mask.take 12).all (· = 0xff) then mask.drop 12
    else mask
  let ip := if mask.length = 4 ∧ ip.length = 16 ∧ ip.take 12 = v4InV6Prefix then ip.drop 12
    else ip
  if ip.length ≠ mask.length then [] else List.zipWith (· &&& ·) ip mask

/-- `networkNumberAndMask`: the network's address in 4 bytes for IPv4, and its mask cut to
the same length; `nil`s when they do not fit. -/
def networkNumberAndMask (n : IPNet) : IP × IPMask :=
  match (match IP.To4 n.IP with
    | some ip => some ip
    | none => if n.IP.length ≠ 16 then none else some n.IP) with
  | none => ([], [])
  | some ip =>
      if n.Mask.length = 4 then (if ip.length ≠ 4 then ([], []) else (ip, n.Mask))
      else if n.Mask.length = 16 then (ip, if ip.length = 4 then n.Mask.drop 12 else n.Mask)
      else ([], [])

/-- The loop `for i := 0; i < l; i++ { if nn[i]&m[i] != ip[i]&m[i] { return false } }`,
over `nn`, `m` and `ip` together; `m` is as long as `nn` (`networkNumberAndMask`). -/
def bytesMatch : IP → IPMask → IP → Bool
  | a :: nn, b :: m, c :: ip => a &&& b = c &&& b && bytesMatch nn m ip
  | _, _, _ => true

def IPNet.Contains (n : IPNet) (ip : Net.IP) : Bool :=
  let (nn, m) := networkNumberAndMask n
  let ip := (IP.To4 ip).getD ip
  ip.length = nn.length && bytesMatch nn m ip

/-- `net.ParseCIDR`, the network it returns: the address before the first `/`, then a
prefix length in decimal that fits the address. -/
def ParseCIDR (s : String) : Option IPNet :=
  match s.data.span (· ≠ '/') with
  | (_, []) => none
  | (addr, _ :: mask) =>
      match ParseAddr addr with
      | none => none
      | some ipAddr =>
          if ipAddr.zone ≠ none then none
          else
            let bits := if ipAddr.is4 then 32 else 128
            let (n, i, ok) := dtoi mask 0 0
            if !ok ∨ i ≠ mask.length ∨ n > bits then none
            else some ⟨IP.Mask ipAddr.as16 (CIDRMask n bits), CIDRMask n bits⟩

/-! ## What `ParseIP` accepts -/

def addressChar (c : Char) : Prop := (hexValue c).isSome ∨ c = '.' ∨ c = ':'

instance (c : Char) : Decidable (addressChar c) :=
  inferInstanceAs (Decidable ((hexValue c).isSome ∨ c = '.' ∨ c = ':'))

theorem addressChar_of_decimalValue {c : Char} (h : (decimalValue c).isSome) : addressChar c := by
  unfold decimalValue at h
  split_ifs at h with hc
  · exact .inl (by rw [hexValue, if_pos hc]; rfl)
  · cases h

theorem addressChar_toNat {c : Char} (h : addressChar c) :
    (48 ≤ c.toNat ∧ c.toNat ≤ 58) ∨ (65 ≤ c.toNat ∧ c.toNat ≤ 70) ∨
      (97 ≤ c.toNat ∧ c.toNat ≤ 102) ∨ c.toNat = 46 := by
  rcases h with h | rfl | rfl
  · unfold hexValue at h
    split_ifs at h <;> simp at * <;> omega
  · decide
  · decide

theorem parseIPv4Fields_chars : ∀ {s : List Char} {prev : Option Char} {val digLen : Nat}
    {fields out : List UInt8}, parseIPv4Fields s prev val digLen fields = some out →
      ∀ c ∈ s, addressChar c
  | [], _, _, _, _, _ => by simp
  | c :: rest, prev, val, digLen, fields, out => by
      intro h
      unfold parseIPv4Fields at h
      cases hd : decimalValue c with
      | some d =>
          simp only [hd] at h
          split_ifs at h
          exact List.forall_mem_cons.mpr
            ⟨addressChar_of_decimalValue (by simp [hd]), parseIPv4Fields_chars h⟩
      | none =>
          simp only [hd] at h
          split_ifs at h with hdot
          exact List.forall_mem_cons.mpr ⟨.inr (.inl hdot), parseIPv4Fields_chars h⟩

theorem hexField_chars : ∀ {s : List Char} {acc off acc' off' : Nat} {after : List Char},
    hexField s acc off = some (acc', off', after) →
      ∃ pre, s = pre ++ after ∧ ∀ c ∈ pre, (hexValue c).isSome
  | [], _, _, _, _, _, h => by
      simp only [hexField, Option.some.injEq, Prod.mk.injEq] at h
      exact ⟨[], by simp [h.2.2], by simp⟩
  | c :: rest, acc, off, acc', off', after, h => by
      unfold hexField at h
      cases hc : hexValue c with
      | none =>
          simp only [hc, Option.some.injEq, Prod.mk.injEq] at h
          exact ⟨[], by simp [h.2.2], by simp⟩
      | some d =>
          simp only [hc] at h
          split_ifs at h
          obtain ⟨pre, rfl, hpre⟩ := hexField_chars h
          exact ⟨c :: pre, rfl, List.forall_mem_cons.mpr ⟨by simp [hc], hpre⟩⟩

theorem parseIPv6Fields_succ {n : Nat} {ip : IP} {ellipsis : Option Nat} {s : List Char}
    {r : IP × Nat × Option Nat × List Char} (h : parseIPv6Fields (n + 1) ip ellipsis s = some r) :
    ∃ acc off after, hexField s 0 0 = some (acc, off, after) ∧
      ((∃ fields, (ellipsis ≠ none ∨ 16 - 2 * (n + 1) = 12) ∧ 16 - 2 * (n + 1) + 4 ≤ 16 ∧
          parseIPv4 s = some fields ∧
          r = (setBytes ip (16 - 2 * (n + 1)) fields, 16 - 2 * (n + 1) + 4, ellipsis, [])) ∨
        (after = [] ∧ r = (writeField ip (16 - 2 * (n + 1)) acc, 16 - 2 * n, ellipsis, [])) ∨
        (after = [':', ':'] ∧ ellipsis = none ∧
          r = (writeField ip (16 - 2 * (n + 1)) acc, 16 - 2 * n, some (16 - 2 * n), [])) ∨
        (∃ rest, after = ':' :: ':' :: rest ∧ ellipsis = none ∧
          parseIPv6Fields n (writeField ip (16 - 2 * (n + 1)) acc) (some (16 - 2 * n)) rest =
            some r) ∨
        (∃ c rest, after = ':' :: c :: rest ∧ c ≠ ':' ∧
          parseIPv6Fields n (writeField ip (16 - 2 * (n + 1)) acc) ellipsis (c :: rest) =
            some r)) := by
  unfold parseIPv6Fields at h
  cases hx : hexField s 0 0 with
  | none => simp [hx] at h
  | some field =>
      obtain ⟨acc, off, after⟩ := field
      refine ⟨acc, off, after, rfl, ?_⟩
      simp only [hx] at h
      split at h
      · cases h
      split at h
      · split at h
        · cases h
        split at h
        · cases h
        cases hv4 : parseIPv4 s with
        | none => simp [hv4] at h
        | some fields =>
            simp only [hv4, Option.some.injEq] at h
            exact .inl ⟨fields, by tauto, by omega, rfl, h.symm⟩
      cases after with
      | nil => exact .inr (.inl ⟨rfl, (Option.some.inj h).symm⟩)
      | cons c rest =>
          by_cases hc : c = ':'
          swap
          · simp [hc] at h
          subst hc
          cases rest with
          | nil => simp at h
          | cons c' rest' =>
              simp only [ne_eq, not_true_eq_false, if_false] at h
              by_cases hc' : c' = ':'
              · subst hc'
                by_cases hell : ellipsis = none
                swap
                · simp [hell] at h
                by_cases hrest : rest' = []
                · subst hrest
                  simp only [hell, if_true, ne_eq, not_true_eq_false, if_false,
                    Option.some.injEq] at h
                  exact .inr (.inr (.inl ⟨rfl, hell, h.symm⟩))
                · simp only [hell, hrest, if_true, ne_eq, not_true_eq_false, if_false] at h
                  exact .inr (.inr (.inr (.inl ⟨rest', rfl, hell, h⟩)))
              · simp only [hc', if_false] at h
                exact .inr (.inr (.inr (.inr ⟨c', rest', rfl, hc', h⟩)))

theorem parseIPv6Fields_chars : ∀ {n : Nat} {ip : IP} {ellipsis : Option Nat} {s : List Char}
    {ip' : IP} {i : Nat} {ellipsis' : Option Nat} {left : List Char},
    parseIPv6Fields n ip ellipsis s = some (ip', i, ellipsis', left) →
      ∃ pre, s = pre ++ left ∧ ∀ c ∈ pre, addressChar c
  | 0, _, _, _, _, _, _, _, h => by
      simp only [parseIPv6Fields, Option.some.injEq, Prod.mk.injEq] at h
      exact ⟨[], by simp [h.2.2.2], by simp⟩
  | n + 1, ip, ellipsis, s, ip', i, ellipsis', left, h => by
      obtain ⟨acc, off, after, hx, hcases⟩ := parseIPv6Fields_succ h
      obtain ⟨digits, rfl, hdigits⟩ := hexField_chars hx
      have hhex : ∀ c ∈ digits, addressChar c := fun c hc => .inl (hdigits c hc)
      have hcolon : addressChar ':' := by decide
      rcases hcases with ⟨fields, -, -, hv4, hr⟩ | ⟨rfl, hr⟩ | ⟨rfl, -, hr⟩ |
          ⟨rest, rfl, -, hrun⟩ | ⟨c, rest, rfl, -, hrun⟩
      · cases hr
        exact ⟨digits ++ after, by simp, parseIPv4Fields_chars hv4⟩
      · cases hr
        exact ⟨digits, by simp, hhex⟩
      · cases hr
        exact ⟨digits ++ [':', ':'], by simp, List.forall_mem_append.mpr
          ⟨hhex, by simp [hcolon]⟩⟩
      · obtain ⟨pre, rfl, hpre⟩ := parseIPv6Fields_chars hrun
        exact ⟨digits ++ ':' :: ':' :: pre, by simp, List.forall_mem_append.mpr
          ⟨hhex, List.forall_mem_cons.mpr ⟨hcolon, List.forall_mem_cons.mpr ⟨hcolon, hpre⟩⟩⟩⟩
      · obtain ⟨pre, hsplit, hpre⟩ := parseIPv6Fields_chars hrun
        exact ⟨digits ++ ':' :: pre, by simp [hsplit],
          List.forall_mem_append.mpr ⟨hhex, List.forall_mem_cons.mpr ⟨hcolon, hpre⟩⟩⟩

theorem splitZone_no_zone {input s : List Char} (h : splitZone input = some (s, none)) :
    s = input := by
  unfold splitZone at h
  split at h
  · exact (Prod.mk.inj (Option.some.inj h)).1.symm
  · cases h
  · cases h

theorem parseIPv6Bytes_chars {s : List Char} {ip : IP} (h : parseIPv6Bytes s = some ip) :
    ∀ c ∈ s, addressChar c := by
  have hloop : ∀ {e : Option Nat} {s' : List Char},
      ((parseIPv6Fields 8 (List.replicate 16 0) e s').bind fun (ip, i, ellipsis, s) =>
        if s ≠ [] then none
        else if i < 16 then ellipsis.map (expandEllipsis ip i)
        else if ellipsis ≠ none then none
        else some ip) = some ip → ∀ c ∈ s', addressChar c := by
    intro e s' h
    cases hf : parseIPv6Fields 8 (List.replicate 16 0) e s' with
    | none => rw [hf] at h; cases h
    | some r =>
        obtain ⟨ip', i, e', left⟩ := r
        obtain ⟨pre, rfl, hpre⟩ := parseIPv6Fields_chars hf
        cases left with
        | nil => simpa using hpre
        | cons c left => rw [hf] at h; simp at h
  unfold parseIPv6Bytes at h
  by_cases ht : s.take 2 = [':', ':']
  · have hs : s = [':', ':'] ++ s.drop 2 := by rw [← ht, List.take_append_drop]
    simp only [ht, if_true, true_and] at h
    rw [hs]
    refine List.forall_mem_append.mpr ⟨by simp [addressChar], ?_⟩
    split_ifs at h with hnil
    · simp [hnil]
    · exact hloop h
  · simp only [ht, if_false] at h
    exact hloop (by simpa using h)

theorem parseIPv6_eq_some {input : List Char} {ip : IP} {zone : Option (List Char)}
    (h : parseIPv6 input = some (ip, zone)) :
    ∃ s, splitZone input = some (s, zone) ∧ parseIPv6Bytes s = some ip := by
  obtain ⟨⟨s, zone'⟩, hz, hbytes⟩ := Option.bind_eq_some.mp h
  obtain ⟨ip', hip, heq⟩ := Option.map_eq_some'.mp hbytes
  obtain ⟨rfl, rfl⟩ := Prod.mk.inj heq
  exact ⟨s, hz, hip⟩

theorem ParseAddr_chars {s : List Char} {addr : Addr} (h : ParseAddr s = some addr)
    (hzone : addr.zone = none) : ∀ c ∈ s, addressChar c := by
  unfold ParseAddr at h
  split at h
  · obtain ⟨fields, hv4, -⟩ := Option.map_eq_some'.mp h
    exact parseIPv4Fields_chars hv4
  · obtain ⟨⟨ip, zone⟩, hv6, rfl⟩ := Option.map_eq_some'.mp h
    obtain ⟨s', hz, hbytes⟩ := parseIPv6_eq_some (show parseIPv6 s = some (ip, none) from hzone ▸ hv6)
    exact splitZone_no_zone hz ▸ parseIPv6Bytes_chars hbytes
  · cases h

/-- Every character of a string `ParseIP` accepts is a hex digit, `.` or `:`: no white
space, no comma, no zone. -/
theorem ParseIP_chars {s : String} {ip : IP} (h : ParseIP s = some ip) :
    ∀ c ∈ s.data, addressChar c := by
  unfold ParseIP at h
  cases hp : ParseAddr s.data with
  | none => simp [hp] at h
  | some addr =>
      by_cases hzone : addr.zone = none
      · exact ParseAddr_chars hp hzone
      · simp [hp, hzone] at h

/-! ## `ParseIP` returns 16 bytes -/

theorem length_setBytes {ip : IP} {i : Nat} {bytes : List UInt8}
    (h : i + bytes.length ≤ ip.length) : (setBytes ip i bytes).length = ip.length := by
  simp only [setBytes, List.length_append, List.length_take, List.length_drop]
  omega

theorem length_writeField {ip : IP} {i acc : Nat} (h : i + 2 ≤ ip.length) :
    (writeField ip i acc).length = ip.length :=
  length_setBytes h

theorem length_expandEllipsis {ip : IP} {i e : Nat} (hip : ip.length = 16) (he : e ≤ i)
    (hi : i ≤ 16) : (expandEllipsis ip i e).length = 16 := by
  simp only [expandEllipsis, List.length_append, List.length_take, List.length_replicate,
    List.length_drop, hip]
  omega

theorem parseIPv4Fields_length : ∀ {s : List Char} {prev : Option Char} {val digLen : Nat}
    {fields out : List UInt8}, fields.length ≤ 3 →
      parseIPv4Fields s prev val digLen fields = some out → out.length = 4
  | [], _, _, _, fields, out, hlen, h => by
      simp only [parseIPv4Fields] at h
      split_ifs at h with hlt
      cases h
      simp only [List.length_append, List.length_singleton]
      omega
  | c :: rest, prev, val, digLen, fields, out, hlen, h => by
      unfold parseIPv4Fields at h
      cases hd : decimalValue c with
      | some d =>
          simp only [hd] at h
          split_ifs at h
          exact parseIPv4Fields_length hlen h
      | none =>
          simp only [hd] at h
          split_ifs at h with hdot hbad h3
          have hlen' : (fields ++ [UInt8.ofNat val]).length ≤ 3 := by
            rw [List.length_append, List.length_singleton]
            omega
          exact parseIPv4Fields_length hlen' h

theorem parseIPv6Fields_length : ∀ {n : Nat} {ip : IP} {ellipsis : Option Nat} {s : List Char}
    {ip' : IP} {i : Nat} {ellipsis' : Option Nat} {left : List Char}, n ≤ 8 → ip.length = 16 →
      (∀ e ∈ ellipsis, e ≤ 16 - 2 * n) →
      parseIPv6Fields n ip ellipsis s = some (ip', i, ellipsis', left) →
      ip'.length = 16 ∧ i ≤ 16 ∧ ∀ e ∈ ellipsis', e ≤ i
  | 0, ip, ellipsis, s, _, _, _, _, _, hip, he, h => by
      simp only [parseIPv6Fields, Option.some.injEq, Prod.mk.injEq] at h
      obtain ⟨rfl, rfl, rfl, -⟩ := h
      exact ⟨hip, le_rfl, fun e hmem => by simpa using he e hmem⟩
  | n + 1, ip, ellipsis, s, _, _, _, _, hn, hip, he, h => by
      obtain ⟨acc, off, after, -, hcases⟩ := parseIPv6Fields_succ h
      have hfield : (writeField ip (16 - 2 * (n + 1)) acc).length = 16 := by
        rw [length_writeField (by rw [hip]; omega), hip]
      rcases hcases with ⟨fields, -, hroom, hv4, hr⟩ | ⟨-, hr⟩ | ⟨-, -, hr⟩ |
          ⟨rest, -, -, hrun⟩ | ⟨c, rest, -, -, hrun⟩
      · cases hr
        have h4 := parseIPv4Fields_length (by simp) hv4
        exact ⟨by rw [length_setBytes (by rw [h4, hip]; omega), hip], by omega,
          fun e hmem => by have := he e hmem; omega⟩
      · cases hr
        exact ⟨hfield, by omega, fun e hmem => by have := he e hmem; omega⟩
      · cases hr
        exact ⟨hfield, by omega, fun e hmem => by simp at hmem; omega⟩
      · exact parseIPv6Fields_length (by omega) hfield (fun e hmem => by simp at hmem; omega) hrun
      · exact parseIPv6Fields_length (by omega) hfield
          (fun e hmem => by have := he e hmem; omega) hrun

theorem parseIPv6Bytes_length {s : List Char} {ip : IP} (h : parseIPv6Bytes s = some ip) :
    ip.length = 16 := by
  have hloop : ∀ {e : Option Nat} {s' : List Char}, (∀ x ∈ e, x ≤ 0) →
      ((parseIPv6Fields 8 (List.replicate 16 0) e s').bind fun (ip, i, ellipsis, s) =>
        if s ≠ [] then none
        else if i < 16 then ellipsis.map (expandEllipsis ip i)
        else if ellipsis ≠ none then none
        else some ip) = some ip → ip.length = 16 := by
    intro e s' he h
    cases hf : parseIPv6Fields 8 (List.replicate 16 0) e s' with
    | none => rw [hf] at h; cases h
    | some r =>
        obtain ⟨ip', i, e', left⟩ := r
        obtain ⟨hlen, hi, he'⟩ :=
          parseIPv6Fields_length (by omega) (by simp) (fun x hx => by simpa using he x hx) hf
        rw [hf, Option.some_bind] at h
        dsimp only at h
        split_ifs at h
        · obtain ⟨x, hx, rfl⟩ := Option.map_eq_some'.mp h
          exact length_expandEllipsis hlen (he' x hx) hi
        · cases h
          exact hlen
  unfold parseIPv6Bytes at h
  by_cases ht : s.take 2 = [':', ':']
  · simp only [ht, if_true, true_and] at h
    split_ifs at h
    · cases h
      simp
    · exact hloop (by simp) h
  · simp only [ht, if_false] at h
    exact @hloop none s (by simp) (by simpa using h)

theorem ParseIP_length {s : String} {ip : IP} (h : ParseIP s = some ip) : ip.length = 16 := by
  unfold ParseIP at h
  cases hp : ParseAddr s.data with
  | none => simp [hp] at h
  | some addr =>
      simp only [hp] at h
      split_ifs at h
      cases h
      unfold ParseAddr at hp
      split at hp
      · obtain ⟨fields, hv4, rfl⟩ := Option.map_eq_some'.mp hp
        simp [v4InV6Prefix, parseIPv4Fields_length (by simp) hv4]
      · obtain ⟨⟨ip6, zone⟩, hv6, rfl⟩ := Option.map_eq_some'.mp hp
        obtain ⟨s', -, hbytes⟩ := parseIPv6_eq_some hv6
        exact parseIPv6Bytes_length hbytes
      · cases hp

theorem ParseIP_chars_mapped :
    ParseIP "::ffff:10.0.0.1" = some (v4InV6Prefix ++ [10, 0, 0, 1]) ∧
      ∀ c ∈ "::ffff:10.0.0.1".data, addressChar c :=
  ⟨by decide, @ParseIP_chars "::ffff:10.0.0.1" (v4InV6Prefix ++ [10, 0, 0, 1]) (by decide)⟩

end Net

end TjoQuery
