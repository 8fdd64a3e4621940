import OvnKubernetes.Go.Net.Prefix

/-!
# The `net` parsers: `ParseCIDR`, `ParseIP`, `SplitHostPort`

`parseClusterSubnetEntries` reads each cluster network with `net.ParseCIDR`, and `newOvnDBAuth`
splits each database address with `net.SplitHostPort` and checks its host with `net.ParseIP`.
They are modelled on the characters of the text as the `net` package of the time writes them:
`dtoi`/`xtoi` read numbers that stop below `big = 0xFFFFFF`, `parseIPv4` four dotted octets
(returned in 16-byte form), `parseIPv6` groups into a 16-byte buffer with at most one `::`.

What the rest of the development uses: every network `parseCIDR` returns is `IsCIDR`
(`isCIDR_of_parseCIDR`), and on an address `a:b` whose halves have no colon `splitHostPort`
succeeds exactly when the brackets are in the only place allowed, returning the host without
them and `b` as the port, unchecked (`splitHostPort_append_eq_ok`).
-/

namespace OvnKubernetes.Net

/-! ### Numbers -/

/-- `dtoi(s)`: the decimal number at the start of `s` and the count of its digits; `none` for
no digit, or once the number reaches `big = 0xFFFFFF`. -/
def dtoi (s : List Char) : Option (Nat × Nat) := go s 0 0
where
  /-- The digit loop, with the value and the count so far. -/
  go : List Char → Nat → Nat → Option (Nat × Nat)
    | c :: cs, n, i =>
      if c.isDigit then
        if 0xFFFFFF ≤ n * 10 + (c.toNat - '0'.toNat) then none
        else go cs (n * 10 + (c.toNat - '0'.toNat)) (i + 1)
      else if i = 0 then none else some (n, i)
    | [], n, i => if i = 0 then none else some (n, i)

/-- The value of a hexadecimal digit. -/
def hexDigit (c : Char) : Option Nat :=
  if c.isDigit then some (c.toNat - '0'.toNat)
  else if 'a' ≤ c ∧ c ≤ 'f' then some (c.toNat - 'a'.toNat + 10)
  else if 'A' ≤ c ∧ c ≤ 'F' then some (c.toNat - 'A'.toNat + 10)
  else none

/-- `xtoi(s)`: `dtoi` in base 16. -/
def xtoi (s : List Char) : Option (Nat × Nat) := go s 0 0
where
  /-- The digit loop, with the value and the count so far. -/
  go : List Char → Nat → Nat → Option (Nat × Nat)
    | c :: cs, n, i =>
      match hexDigit c with
      | some v => if 0xFFFFFF ≤ n * 16 + v then none else go cs (n * 16 + v) (i + 1)
      | none => if i = 0 then none else some (n, i)
    | [], n, i => if i = 0 then none else some (n, i)

/-! ### Addresses -/

/-- The octet loop of `parseIPv4`: `k` octets left, each but the first after a dot. -/
def parseIPv4.octets : Nat → Bool → List Char → Option (List Byte × List Char)
  | 0, _, s => some ([], s)
  | k + 1, first, s =>
    if s = [] then none
    else
      let rest := if first then some s else if s.head? = some '.' then some s.tail else none
      match rest with
      | none => none
      | some s =>
        match dtoi s with
        | none => none
        | some (n, c) =>
          if 0xFF < n then none
          else (octets k false (s.drop c)).map fun r => (BitVec.ofNat 8 n :: r.1, r.2)

/-- `parseIPv4(s)`: four octets and nothing after them, as `IPv4(p[0], p[1], p[2], p[3])`. -/
def parseIPv4 (s : List Char) : Option IP :=
  match parseIPv4.octets 4 true s with
  | some ([a, b, c, d], []) => some (IPv4 a b c d)
  | _ => none

/-- `ip[i], ip[i+1], … = bytes`. -/
def writeAt : List Byte → Nat → List Byte → List Byte
  | ip, _, [] => ip
  | ip, i, v :: vs => writeAt (ip.set i v) (i + 1) vs

/-- One round of the group loop of `parseIPv6` at byte `i`: the bytes it writes there, the
ellipsis position, the text left, and whether the loop goes on. -/
def parseIPv6.round (i : Nat) (e : Option Nat) (s : List Char) :
    Option (List Byte × Option Nat × List Char × Bool) :=
  match xtoi s with
  | none => none
  | some (n, c) =>
    if 0xFFFF < n then none
    else if s[c]? = some '.' then
      -- a trailing IPv4 address, only in the last four bytes or after an ellipsis
      if e.isNone ∧ i ≠ 12 then none
      else if 16 < i + 4 then none
      else (parseIPv4 s).map fun ip4 => (ip4.drop 12, e, [], false)
    else
      let bytes := [BitVec.ofNat 8 (n / 256), BitVec.ofNat 8 n]
      let s := s.drop c
      if s = [] then some (bytes, e, s, false)
      else if s.head? ≠ some ':' ∨ s.length = 1 then none
      else if s.tail.head? = some ':' then
        if e.isSome then none
        else if s.tail.tail = [] then some (bytes, some (i + 2), [], false)
        else some (bytes, some (i + 2), s.tail.tail, true)
      else some (bytes, e, s.tail, true)

/-- The group loop of `parseIPv6` over its 16-byte buffer `ip`: `i` bytes written, the ellipsis
position once `::` is seen, the text left. Each round writes at least two bytes, so eight rounds
reach the loop's bound `i < IPv6len`. -/
def parseIPv6.groups : Nat → List Byte → Nat → Option Nat → List Char →
    Option (List Byte × Nat × Option Nat × List Char)
  | 0, ip, i, e, s => some (ip, i, e, s)
  | fuel + 1, ip, i, e, s =>
    if 16 ≤ i then some (ip, i, e, s)
    else
      match round i e s with
      | none => none
      | some (bytes, e, s, more) =>
        if more then groups fuel (writeAt ip i bytes) (i + bytes.length) e s
        else some (writeAt ip i bytes, i + bytes.length, e, s)

/-- The ellipsis expansion of `parseIPv6`: the bytes from `e` to `i` move to the end of the
buffer, right to left, and the gap they leave is zeroed. -/
def parseIPv6.expand (ip : List Byte) (i e : Nat) : List Byte :=
  let n := 16 - i
  let moved := (List.range (i - e)).foldl
    (fun buf t => buf.set (i - 1 - t + n) (buf.getD (i - 1 - t) 0)) ip
  (List.range n).foldl (fun buf t => buf.set (e + n - 1 - t) 0) moved

/-- The leading ellipsis of `parseIPv6`: position 0 if `s` starts with `::`, and the text after. -/
def parseIPv6.leading (s : List Char) : Option Nat × List Char :=
  if s.take 2 = [':', ':'] then (some 0, s.drop 2) else (none, s)

/-- `parseIPv6(s, false)`. -/
def parseIPv6 (s : List Char) : Option IP :=
  let ip := List.replicate 16 (0 : Byte)
  if s = [':', ':'] then some ip
  else
    match parseIPv6.groups 8 ip 0 (parseIPv6.leading s).1 (parseIPv6.leading s).2 with
    | none => none
    | some (ip, i, e, s) =>
      if s ≠ [] then none
      else if i < 16 then
        match e with
        | none => none
        | some e => some (parseIPv6.expand ip i e)
      else if e.isSome then none else some ip

/-- `net.ParseIP(s)`: IPv4 if a `.` comes before any `:`, IPv6 if a `:` comes first. -/
def parseIP (s : String) : Option IP :=
  match s.data.find? (fun c => c = '.' || c = ':') with
  | some '.' => parseIPv4 s.data
  | some _ => parseIPv6 s.data
  | none => none

example : parseIP "10.1.2.3" = some (IPv4 10 1 2 3) := by decide
example : parseIP "fd00::1:2" = some [0xfd, 0, 0, 0, 0, 0, 0, 0, 0, 0, 0, 0, 0, 1, 0, 2] := by
  decide

/-! ### `ParseCIDR` -/

/-- Index of the first `c` in a string (`strings.IndexByte`). -/
def byteIndex : List Char → Char → Option Nat
  | [], _ => none
  | x :: xs, c => if x = c then some 0 else (byteIndex xs c).map (· + 1)

/-- `*net.ParseError`. -/
structure ParseError where
  errType : String
  text : String
  deriving DecidableEq, Repr

/-- `net.ParseCIDR(s)`: the address as parsed and the network it names, its address masked. -/
def parseCIDR (s : String) : Except ParseError (IP × IPNet) :=
  let err : Except ParseError (IP × IPNet) := .error ⟨"CIDR address", s⟩
  match byteIndex s.data '/' with
  | none => err
  | some i =>
    let addr := s.data.take i
    let mask := s.data.drop (i + 1)
    let parsed : Nat × Option IP :=
      match parseIPv4 addr with
      | some ip => (4, some ip)
      | none => (16, parseIPv6 addr)
    match parsed.2, dtoi mask with
    | some ip, some (n, c) =>
      if c ≠ mask.length ∨ 8 * parsed.1 < n then err
      else .ok (ip, ⟨ip.mask (cidrMask n (8 * parsed.1)), cidrMask n (8 * parsed.1)⟩)
    | _, _ => err

example : (parseCIDR "10.128.0.0/14").map Prod.snd =
    .ok ⟨[10, 128, 0, 0], [0xff, 0xfc, 0, 0]⟩ := by decide

theorem parseIPv4_eq_some {s : List Char} {ip : IP} (h : parseIPv4 s = some ip) :
    ∃ a b c d, ip = IPv4 a b c d := by
  unfold parseIPv4 at h
  split at h
  · exact ⟨_, _, _, _, (Option.some.inj h).symm⟩
  · cases h

@[simp] theorem length_writeAt : ∀ (ip : List Byte) (i : Nat) (bytes : List Byte),
    (writeAt ip i bytes).length = ip.length
  | _, _, [] => rfl
  | _, _, _ :: vs => (length_writeAt _ _ vs).trans (List.length_set ..)

theorem length_groups : ∀ {fuel : Nat} {ip : List Byte} {i : Nat} {e : Option Nat}
    {s : List Char} {r : List Byte × Nat × Option Nat × List Char},
    parseIPv6.groups fuel ip i e s = some r → r.1.length = ip.length
  | 0, _, _, _, _, _, h => by cases h; rfl
  | fuel + 1, ip, i, e, s, r, h => by
    simp only [parseIPv6.groups] at h
    split_ifs at h
    · cases h; rfl
    split at h
    · cases h
    · split_ifs at h
      · exact (length_groups h).trans (length_writeAt ..)
      · cases h; exact length_writeAt ..

theorem length_foldl_set (l : List Nat) (g : List Byte → Nat → List Byte)
    (hg : ∀ b t, (g b t).length = b.length) (buf : List Byte) :
    (l.foldl g buf).length = buf.length := by
  induction l generalizing buf <;> simp [*]

theorem length_expand (ip : List Byte) (i e : Nat) :
    (parseIPv6.expand ip i e).length = ip.length := by
  rw [parseIPv6.expand, length_foldl_set _ _ (fun _ _ => List.length_set ..),
    length_foldl_set _ _ (fun _ _ => List.length_set ..)]

theorem length_parseIPv6 {s : List Char} {ip : IP} (h : parseIPv6 s = some ip) :
    ip.length = 16 := by
  simp only [parseIPv6] at h
  split_ifs at h
  · cases h; rfl
  split at h
  · cases h
  · rename_i r hr
    split_ifs at h
    · split at h
      · cases h
      · cases h; rw [length_expand, length_groups hr, List.length_replicate]
    · cases h; rw [length_groups hr, List.length_replicate]

theorem isCIDR_of_mask_v4 (a b c d : Byte) {k : Nat} (hk : k ≤ 32) :
    IPNet.IsCIDR ⟨(IPv4 a b c d).mask (cidrMask k 32), cidrMask k 32⟩ := by
  have hm : (IPv4 a b c d).mask (cidrMask k 32) = andBytes [a, b, c, d] (cidrMask k 32) := by
    simp [IP.mask, IPv4, v4InV6Prefix, length_cidrMask, hk]
  rw [IPNet.IsCIDR, hm]
  exact isPrefix_andBytes (.inl rfl) hk

theorem isCIDR_of_mask_v6 {ip : IP} (hl : ip.length = 16) {k : Nat} (hk : k ≤ 128) :
    IPNet.IsCIDR ⟨ip.mask (cidrMask k 128), cidrMask k 128⟩ := by
  have hm : ip.mask (cidrMask k 128) = andBytes ip (cidrMask k 128) := by
    simp [IP.mask, hl, length_cidrMask, hk]
  have h := isPrefix_andBytes (.inr hl) (hl ▸ hk : k ≤ 8 * ip.length)
  rw [hl] at h
  rwa [IPNet.IsCIDR, hm]

theorem isCIDR_of_parseCIDR {s : String} {ip : IP} {n : IPNet}
    (h : parseCIDR s = .ok (ip, n)) : n.IsCIDR := by
  unfold parseCIDR at h
  split at h
  · cases h
  rename_i i _
  cases hv4 : parseIPv4 (s.data.take i) with
  | some ip4 =>
    simp only [hv4] at h
    split at h
    · split_ifs at h with hc
      cases h
      rename_i k _ _ hip
      obtain ⟨a, b, c, d, rfl⟩ := parseIPv4_eq_some (hv4.trans hip)
      exact isCIDR_of_mask_v4 a b c d (show k ≤ 32 by omega)
    · cases h
  | none =>
    simp only [hv4] at h
    split at h
    · split_ifs at h with hc
      cases h
      rename_i k _ _ hv6
      exact isCIDR_of_mask_v6 (length_parseIPv6 hv6) (show k ≤ 128 by omega)
    · cases h

/-! ### `SplitHostPort` -/

/-- Index of the last `c` in a string (`last` of `net/parse.go`). -/
def lastIndex : List Char → Char → Option Nat
  | [], _ => none
  | x :: xs, c =>
    match lastIndex xs c with
    | some i => some (i + 1)
    | none => if x = c then some 0 else none

/-- `*net.AddrError`. -/
structure AddrError where
  err : String
  addr : String
  deriving DecidableEq, Repr

/-- The host of `SplitHostPort`, the last colon at `i`: without its brackets if it starts with
`[`, and the positions `j`, `k` after which no `[`, resp. `]`, may follow. -/
def splitHostPort.host (hp : List Char) (i : Nat) : Except String (List Char × Nat × Nat) :=
  if hp.head? = some '[' then
    match byteIndex hp ']' with
    | none => .error "missing ']' in address"
    | some e =>
      if e + 1 = hp.length then .error "missing port in address"
      else if e + 1 = i then .ok ((hp.take e).drop 1, 1, e + 1)
      else if hp[e + 1]? = some ':' then .error "too many colons in address"
      else .error "missing port in address"
  else if ':' ∈ hp.take i then .error "too many colons in address"
  else .ok (hp.take i, 0, 0)

/-- `net.SplitHostPort(hostport)`: the port is whatever follows the last colon. -/
def splitHostPort (hostport : String) : Except AddrError (String × String) :=
  let hp := hostport.data
  match lastIndex hp ':' with
  | none => .error ⟨"missing port in address", hostport⟩
  | some i =>
    match splitHostPort.host hp i with
    | .error why => .error ⟨why, hostport⟩
    | .ok (host, j, k) =>
      if '[' ∈ hp.drop j then .error ⟨"unexpected '[' in address", hostport⟩
      else if ']' ∈ hp.drop k then .error ⟨"unexpected ']' in address", hostport⟩
      else .ok (⟨host⟩, ⟨hp.drop (i + 1)⟩)

example : splitHostPort "[1.2.3.4]:6641" = .ok ("1.2.3.4", "6641") := by decide
example : splitHostPort "1.2.3.4:" = .ok ("1.2.3.4", "") := by decide

theorem lastIndex_eq_none {c : Char} : ∀ {l : List Char}, c ∉ l → lastIndex l c = none
  | [], _ => rfl
  | x :: xs, h => by
    rw [List.mem_cons, not_or] at h
    simp [lastIndex, lastIndex_eq_none h.2, Ne.symm h.1]

theorem lastIndex_append_cons {c : Char} {b : List Char} (hb : c ∉ b) :
    ∀ a : List Char, lastIndex (a ++ c :: b) c = some a.length
  | [] => by simp [lastIndex, lastIndex_eq_none hb]
  | x :: a => by simp [lastIndex, lastIndex_append_cons hb a]

theorem byteIndex_eq_some {c : Char} : ∀ {l : List Char} {n : Nat},
    byteIndex l c = some n → l[n]? = some c ∧ c ∉ l.take n
  | [], _, h => by cases h
  | x :: xs, n, h => by
    unfold byteIndex at h
    split_ifs at h with hx
    · cases h; simp [hx]
    · obtain ⟨m, hm, rfl⟩ := Option.map_eq_some'.1 h
      obtain ⟨h1, h2⟩ := byteIndex_eq_some hm
      simp [h1, h2, Ne.symm hx]

theorem host_append_eq_ok {a b : List Char} {host : List Char} {j k : Nat}
    (h : splitHostPort.host (a ++ ':' :: b) a.length = .ok (host, j, k)) :
    ('[' ∉ a.head? ∧ host = a ∧ j = 0 ∧ k = 0) ∨
      (a = '[' :: host ++ [']'] ∧ ']' ∉ host ∧ j = 1 ∧ k = a.length) := by
  unfold splitHostPort.host at h
  split_ifs at h with hbr hcolon
  · split at h
    · cases h
    rename_i e he
    split_ifs at h with h1 h2
    cases h
    obtain ⟨he1, he2⟩ := byteIndex_eq_some he
    obtain ⟨a', rfl⟩ : ∃ a', a = '[' :: a' := by
      cases a with
      | nil => simp at hbr
      | cons x a' => simp only [List.cons_append, List.head?_cons, Option.some.injEq] at hbr; exact ⟨a', by rw [hbr]⟩
    obtain rfl | ⟨a'', z, rfl⟩ := List.eq_nil_or_concat a'
    · obtain rfl : e = 0 := by simpa using h2
      simp at he1
    · simp only [List.concat_eq_append, List.length_cons, List.length_append,
        List.length_singleton, List.length_nil] at h2 he1 he2 ⊢
      obtain rfl : e = a''.length + 1 := by omega
      have hz : z = ']' := by
        rw [List.cons_append, List.getElem?_cons_succ, List.append_assoc,
          List.getElem?_append_right (le_refl _), Nat.sub_self] at he1
        simpa using he1
      subst hz
      have hh : ']' ∉ a'' := by simpa [List.take_append_eq_append_take] using he2
      refine .inr ⟨?_, ?_, trivial, by simp⟩ <;> simp [hh]
  · cases h
    refine .inl ⟨fun hh => hbr ?_, by simp, rfl, rfl⟩
    cases a <;> simp_all

theorem splitHostPort_append_eq_ok {a b : List Char} (hb : ':' ∉ b) {host port : String}
    (h : splitHostPort ⟨a ++ ':' :: b⟩ = .ok (host, port)) :
    port.data = b ∧ '[' ∉ b ∧ ']' ∉ b ∧ '[' ∉ host.data ∧ ']' ∉ host.data ∧
      (a = host.data ∨ a = '[' :: host.data ++ [']']) := by
  simp only [splitHostPort, lastIndex_append_cons hb] at h
  split at h
  · cases h
  rename_i host' j k hhost
  split_ifs at h with h1 h2
  cases h
  rcases host_append_eq_ok hhost with ⟨-, rfl, rfl, rfl⟩ | ⟨rfl, hh, rfl, rfl⟩
  · simp only [List.drop_zero, List.mem_append, List.mem_cons, not_or] at h1 h2
    simp_all
  · simp only [List.cons_append, List.drop_succ_cons, List.drop_zero, List.append_assoc,
      List.mem_append, List.mem_cons, not_or, List.length_cons, List.length_append,
      List.length_singleton] at h1 h2
    simp_all

theorem splitHostPort_plain {a b : List Char} (ha : ':' ∉ a) (hb : ':' ∉ b) (ha₁ : '[' ∉ a)
    (ha₂ : ']' ∉ a) (hb₁ : '[' ∉ b) (hb₂ : ']' ∉ b) :
    splitHostPort ⟨a ++ ':' :: b⟩ = .ok (⟨a⟩, ⟨b⟩) := by
  have hhead : a.head? ≠ some '[' := by
    cases a with
    | nil => simp
    | cons x a =>
      rintro ⟨⟩
      exact ha₁ (List.mem_cons_self _ _)
  simp [splitHostPort, lastIndex_append_cons hb, splitHostPort.host, hhead, ha, ha₁, ha₂, hb₁, hb₂]

end OvnKubernetes.Net
