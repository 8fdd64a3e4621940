import OvnKubernetes.Go.Net.Parse
import Mathlib.Data.Nat.Digits

/-!
# Go's `String()` of `net.IP`, `net.IPMask` and `net.IPNet`

`CreateManagementPort` passes the router port's and the management port's addresses to the
node's commands as the `String()` of the addresses `util.NextIP` computes, the Windows
management port writes each route with the `String()` of the network's address and of its mask
as an address, and `runOvnKube` gives the cluster controller the `String()` of the parsed
`--service-cluster-ip-range`. They are modelled as the `net` package of the time computes them:

* `IP.string`: `"<nil>"` for no bytes; dotted decimal for an address `To4` finds (`dotted`);
  for 16 bytes, hexadecimal groups without leading zeros, the longest run of at least two zero
  groups (the first of equal ones) written `::`; `"?"` and the bytes in hexadecimal otherwise.
* `IPMask.string`: the bytes in hexadecimal; `IPNet.string`: the network number, `/`, and the
  prefix length, or the mask in hexadecimal if it is not a prefix.

`dtoi_toDigits` is the reading back of a decimal number, and `parseIP_string_of_to4` the round
trip of every IPv4 address: what `String()` prints, `ParseIP` parses to the same address.
`parseCIDR_string_of_to4` is the same for `ParseCIDR` of the address with a prefix length after
it, as `CreateManagementPort` builds the port address it hands to Windows, and
`parseCIDR_string_of_parseCIDR` for `String()` of an IPv4 network, as `runOvnKube` hands on the
service subnet.
-/

namespace OvnKubernetes.Net

/-! ### Printing -/

/-- `uitoa(v)`, and `ubtoa` for a byte: the decimal digits of `v`. -/
def uitoa (v : Nat) : List Char := Nat.toDigits 10 v

/-- `appendHex(dst, i)`: the lowercase hexadecimal digits of `i` without leading zeros, `0` for
zero. -/
def appendHex (i : Nat) : List Char := Nat.toDigits 16 i

/-- `hexString(b)`: two lowercase hexadecimal digits a byte. -/
def hexString (b : List Byte) : List Char :=
  b.flatMap fun x => [Nat.digitChar (x.toNat / 16), Nat.digitChar (x.toNat % 16)]

/-- The dotted form of a 4-byte address, `ubtoa` of each byte with `.` between them. -/
def dotted (p4 : List Byte) : List Char := ['.'].intercalate (p4.map fun b => uitoa b.toNat)

/-- The 16-bit group at byte `i`: `uint32(p[i])<<8 | uint32(p[i+1])`. -/
def group (p : IP) (i : Nat) : Nat := (p.getD i 0).toNat * 256 + (p.getD (i + 1) 0).toNat

/-- The inner loop of the zero-run search: the end of the run of zero groups from byte `j`. -/
def zeroRunEnd (p : IP) : Nat → Nat → Nat
  | 0, j => j
  | fuel + 1, j =>
    if j < 16 ∧ p.getD j 0 = 0 ∧ p.getD (j + 1) 0 = 0 then zeroRunEnd p fuel (j + 2) else j

/-- The outer loop of the zero-run search from byte `i`, with the longest run `(e0, e1)` found
so far (Go's `-1, -1` for none); a run found is skipped (`i = j`, then `i += 2`). -/
def longestZeroRun (p : IP) : Nat → Nat → Int × Int → Int × Int
  | 0, _, e => e
  | fuel + 1, i, (e0, e1) =>
    if i < 16 then
      let j := zeroRunEnd p 8 i
      if i < j ∧ e1 - e0 < (j : Int) - i then longestZeroRun p fuel (j + 2) (i, j)
      else longestZeroRun p fuel (i + 2) (e0, e1)
    else (e0, e1)

/-- The printing loop from byte `i`: `::` at `e0`, after which it goes on at `e1` (or stops at
the end), and a `:` before every other group but the first. -/
def v6Text (p : IP) (e0 e1 : Int) : Nat → Nat → List Char
  | 0, _ => []
  | fuel + 1, i =>
    if i < 16 then
      if (i : Int) = e0 then
        if 16 ≤ e1 then [':', ':']
        else ':' :: ':' :: appendHex (group p e1.toNat) ++ v6Text p e0 e1 fuel (e1.toNat + 2)
      else (if 0 < i then [':'] else []) ++ appendHex (group p i) ++ v6Text p e0 e1 fuel (i + 2)
    else []

/-- The run `String()` writes as `::`: the longest zero run, unless it is a single group. -/
def zeroRun (p : IP) : Int × Int :=
  let e := longestZeroRun p 8 0 (-1, -1)
  if e.2 - e.1 ≤ 2 then (-1, -1) else e

/-- `ip.String()`. -/
def IP.string (ip : IP) : String :=
  if ip.length = 0 then "<nil>"
  else
    match ip.to4 with
    | some p4 => ⟨dotted p4⟩
    | none =>
      if ip.length ≠ 16 then ⟨'?' :: hexString ip⟩
      else ⟨v6Text ip (zeroRun ip).1 (zeroRun ip).2 8 0⟩

/-- `m.String()`. -/
def IPMask.string (m : IPMask) : String :=
  if m.length = 0 then "<nil>" else ⟨hexString m⟩

/-- `n.String()`. -/
def IPNet.string (n : IPNet) : String :=
  let nm := networkNumberAndMask n
  if nm.1 = [] ∨ nm.2 = [] then "<nil>"
  else
    match simpleMaskLength nm.2 with
    | none => IP.string nm.1 ++ "/" ++ IPMask.string nm.2
    | some l => IP.string nm.1 ++ "/" ++ ⟨uitoa l⟩

example : IP.string (IPv4 10 244 0 1) = "10.244.0.1" := by decide
example : IP.string [0xfd, 0, 0, 0, 0, 0, 0, 0, 0, 0, 0, 0, 0, 1, 0, 2] = "fd00::1:2" := by decide
example : IP.string [0x20, 1, 0x0d, 0xb8, 0, 0, 0, 1, 0, 0, 0, 0, 0, 0, 0, 1] =
    "2001:db8:0:1::1" := by decide
example : IPNet.string ⟨[10, 96, 0, 0], [255, 240, 0, 0]⟩ = "10.96.0.0/12" := by decide

/-! ### Reading a decimal number back -/

theorem toDigitsCore_append (b : Nat) :
    ∀ (f n : Nat) (ds es : List Char),
      Nat.toDigitsCore b f n ds ++ es = Nat.toDigitsCore b f n (ds ++ es)
  | 0, _, _, _ => rfl
  | f + 1, n, ds, es => by
    simp only [Nat.toDigitsCore]
    split_ifs
    · rfl
    · exact toDigitsCore_append b f _ (_ :: ds) es

theorem digitChar_isDigit {m : Nat} (h : m < 10) :
    (Nat.digitChar m).isDigit = true ∧ (Nat.digitChar m).toNat - '0'.toNat = m := by
  revert m; decide

theorem dtoi_go_toDigitsCore :
    ∀ (f n : Nat) (ds : List Char), n < 10 ^ f → n < 0xFFFFFF →
      dtoi.go (Nat.toDigitsCore 10 f n ds) 0 0 = dtoi.go ds n (Nat.toDigitsCore 10 f n []).length
  | 0, n, ds, hf, _ => by
    obtain rfl : n = 0 := by simpa using hf
    rfl
  | f + 1, n, ds, hf, hn => by
    obtain ⟨hd, hv⟩ := digitChar_isDigit (Nat.mod_lt n (by decide : 10 > 0))
    have hsplit : n / 10 * 10 + n % 10 = n := Nat.div_add_mod' n 10
    simp only [Nat.toDigitsCore]
    split_ifs with h0
    · simp only [dtoi.go, hd, hv, if_true, List.length_singleton]
      rw [if_neg (by omega), show 0 * 10 + n % 10 = n by omega]
    · rw [dtoi_go_toDigitsCore f (n / 10) _ (by rw [pow_succ] at hf; omega) (by omega),
        Nat.toDigitsCore_lens_eq]
      simp only [dtoi.go, hd, hv, if_true]
      rw [if_neg (by omega), hsplit]

theorem toDigits_ne_nil (b n : Nat) : Nat.toDigits b n ≠ [] := by
  rw [Nat.toDigits, Nat.toDigitsCore]
  split_ifs
  · simp
  · rw [← List.length_pos, Nat.toDigitsCore_lens_eq]
    omega

theorem dtoi_toDigits {n : Nat} (hn : n < 0xFFFFFF) {rest : List Char}
    (hr : ∀ c ∈ rest.head?, c.isDigit = false) :
    dtoi (uitoa n ++ rest) = some (n, (uitoa n).length) := by
  have hlt : n < 10 ^ (n + 1) := Nat.lt_of_lt_of_le (Nat.lt_pow_self (by decide) n)
    (Nat.pow_le_pow_right (by decide) (Nat.le_succ n))
  have hne : (uitoa n).length ≠ 0 := by simpa using toDigits_ne_nil 10 n
  rw [dtoi, uitoa, Nat.toDigits, toDigitsCore_append, List.nil_append,
    dtoi_go_toDigitsCore _ _ _ hlt hn]
  cases rest with
  | nil => simpa [dtoi.go] using hne
  | cons c cs =>
    simp only [List.head?_cons, Option.mem_def, Option.some.injEq, forall_eq'] at hr
    simpa [dtoi.go, hr] using hne

theorem isDigit_of_mem_uitoa {n : Nat} {c : Char} (h : c ∈ uitoa n) : c.isDigit = true := by
  unfold uitoa Nat.toDigits at h
  suffices ∀ f n ds, (∀ d ∈ ds, d.isDigit = true) → ∀ d ∈ Nat.toDigitsCore 10 f n ds,
      d.isDigit = true from this _ _ [] (by simp) c h
  intro f
  induction f with
  | zero => exact fun _ _ h => h
  | succ f ih =>
    intro n ds hds d hd
    have hdig := (digitChar_isDigit (Nat.mod_lt n (by decide : 10 > 0))).1
    simp only [Nat.toDigitsCore] at hd
    split_ifs at hd
    · rcases List.mem_cons.1 hd with rfl | hd
      · exact hdig
      · exact hds d hd
    · exact ih _ _ (by simpa [hdig] using hds) d hd

/-! ### The IPv4 round trip -/

/-- The octets after the first, each after its dot. -/
def dottedTail (bs : List Byte) : List Char := bs.flatMap fun b => '.' :: uitoa b.toNat

theorem dotted_cons (a : Byte) (bs : List Byte) :
    dotted (a :: bs) = uitoa a.toNat ++ dottedTail bs := by
  induction bs generalizing a with
  | nil => simp [dotted, dottedTail, List.intercalate]
  | cons b bs ih =>
    have h := ih b
    simp only [dotted, List.map_cons, dottedTail, List.flatMap_cons] at h ⊢
    simp [List.intercalate] at h ⊢
    rw [h]

theorem byte_lt (b : Byte) : b.toNat < 0xFFFFFF := by have := b.isLt; omega

theorem octets_uitoa {k : Nat} {first : Bool} (b : Byte) (bs : List Byte)
    (h : parseIPv4.octets k false (dottedTail bs) = some (bs, [])) :
    parseIPv4.octets (k + 1) first
        ((if first then [] else ['.']) ++ uitoa b.toNat ++ dottedTail bs) =
      some (b :: bs, []) := by
  have hdt : ∀ c ∈ (dottedTail bs).head?, c.isDigit = false := by
    cases bs <;> simp [dottedTail]
  have hb : ¬ 0xFF < b.toNat := by have := b.isLt; omega
  have hne : uitoa b.toNat ≠ [] := toDigits_ne_nil 10 _
  rw [parseIPv4.octets, if_neg (by cases first <;> simp [hne])]
  cases first <;> simp [dtoi_toDigits (byte_lt b) hdt, hb, h]

theorem octets_dottedTail : ∀ bs : List Byte,
    parseIPv4.octets bs.length false (dottedTail bs) = some (bs, [])
  | [] => by simp [dottedTail, parseIPv4.octets]
  | b :: bs => by
    have h := @octets_uitoa _ false b bs (octets_dottedTail bs)
    simpa [dottedTail] using h

theorem string_of_to4 {ip : IP} {a b c d : Byte} (h : ip.to4 = some [a, b, c, d]) :
    ip.string = ⟨uitoa a.toNat ++ dottedTail [b, c, d]⟩ := by
  have hlen : ip.length ≠ 0 := by
    intro h0
    simp [IP.to4, h0] at h
  simp only [IP.string, if_neg hlen, h, dotted_cons]

theorem isDigit_or_dot_of_mem_dotted {b : Byte} {bs : List Byte} {x : Char}
    (h : x ∈ uitoa b.toNat ++ dottedTail bs) : x.isDigit = true ∨ x = '.' := by
  simp only [dottedTail, List.mem_append, List.mem_flatMap, List.mem_cons] at h
  rcases h with h | ⟨_, _, rfl | h⟩
  · exact .inl (isDigit_of_mem_uitoa h)
  · exact .inr rfl
  · exact .inl (isDigit_of_mem_uitoa h)

theorem parseIPv4_dotted (a b c d : Byte) :
    parseIPv4 (uitoa a.toNat ++ dottedTail [b, c, d]) = some (IPv4 a b c d) := by
  have hoct : parseIPv4.octets 4 true (uitoa a.toNat ++ dottedTail [b, c, d]) =
      some ([a, b, c, d], []) := by
    simpa using @octets_uitoa _ true a [b, c, d] (octets_dottedTail [b, c, d])
  simp only [parseIPv4, hoct]

/-- **`ParseIP` reads back the dotted form of every IPv4 address**, as `IPv4(a, b, c, d)`. -/
theorem parseIP_string_of_to4 {ip : IP} {a b c d : Byte} (h : ip.to4 = some [a, b, c, d]) :
    parseIP ip.string = some (IPv4 a b c d) := by
  have hfind : (uitoa a.toNat ++ dottedTail [b, c, d]).find? (fun c => c = '.' || c = ':') =
      some '.' := by
    rw [List.find?_append, List.find?_eq_none.2 fun x hx => by
      have hx' := isDigit_of_mem_uitoa hx
      have h₁ : x ≠ '.' := by rintro rfl; exact absurd hx' (by decide)
      have h₂ : x ≠ ':' := by rintro rfl; exact absurd hx' (by decide)
      simp [h₁, h₂]]
    simp [dottedTail]
  simp only [parseIP, string_of_to4 h, hfind, parseIPv4_dotted]

example : parseIP (IPv4 10 244 1 1).string = some (IPv4 10 244 1 1) := by decide

/-! ### `ParseCIDR` of a printed address -/

theorem byteIndex_append_cons {c : Char} {r : List Char} :
    ∀ {l : List Char}, c ∉ l → byteIndex (l ++ c :: r) c = some l.length
  | [], _ => by simp [byteIndex]
  | x :: xs, h => by
    rw [List.mem_cons, not_or] at h
    simp [byteIndex, Ne.symm h.1, byteIndex_append_cons h.2]

/-- **`ParseCIDR` reads back `fmt.Sprintf("%s/%d", ip.String(), n)` for an IPv4 address**: the
address as `IPv4(a, b, c, d)` and its network of prefix length `n`, or the error for a length
over 32. -/
theorem parseCIDR_string_of_to4 {ip : IP} {a b c d : Byte} (h : ip.to4 = some [a, b, c, d])
    {n : Nat} (hn : n < 0xFFFFFF) :
    parseCIDR (ip.string ++ "/" ++ toString n) =
      if n ≤ 32 then .ok (IPv4 a b c d, ⟨(IPv4 a b c d).mask (cidrMask n 32), cidrMask n 32⟩)
      else .error ⟨"CIDR address", ip.string ++ "/" ++ toString n⟩ := by
  have hs : (ip.string ++ "/" ++ toString n).data =
      (uitoa a.toNat ++ dottedTail [b, c, d]) ++ '/' :: uitoa n := by
    rw [string_of_to4 h]
    simp only [String.data_append, List.append_assoc, List.singleton_append]
    rfl
  have hslash : '/' ∉ uitoa a.toNat ++ dottedTail [b, c, d] := fun hm => by
    rcases isDigit_or_dot_of_mem_dotted hm with hd | hd <;> revert hd <;> decide
  have hmask := @dtoi_toDigits n hn [] (by simp)
  rw [List.append_nil] at hmask
  unfold parseCIDR
  simp only [hs, byteIndex_append_cons hslash, List.take_left', List.drop_append, List.drop_one,
    List.tail_cons, parseIPv4_dotted, hmask, ne_eq, not_true_eq_false, false_or]
  split_ifs <;> first | rfl | omega

theorem size_mask_of_parseCIDR {s : String} {ip : IP} {n : IPNet}
    (h : parseCIDR s = .ok (ip, n)) :
    (n.mask.length = 4 ∧ n.mask.size.1 ≤ 32) ∨ (n.mask.length = 16 ∧ n.mask.size.1 ≤ 128) := by
  obtain ⟨hl, k, hk, hm, -⟩ := isCIDR_of_parseCIDR h
  simp only [hm, size_cidrMask (by omega) hk, length_cidrMask (by omega) hk]
  omega

theorem parseCIDR_string_of_parseCIDR {s : String} {ip : IP} {n : IPNet}
    (h : parseCIDR s = .ok (ip, n)) (h4 : n.mask.length = 4) :
    parseCIDR n.string = .ok (v4InV6Prefix ++ n.ip, n) := by
  have hlen : n.ip.length = 4 := (isCIDR_of_parseCIDR h).length_mask ▸ h4
  obtain ⟨-, k, hk, hm, hand⟩ := isCIDR_of_parseCIDR h
  obtain ⟨nip, mask⟩ := n
  dsimp only at hlen hk hm hand ⊢
  obtain ⟨a, b, c, d, rfl⟩ : ∃ a b c d, nip = [a, b, c, d] := by
    match nip, hlen with
    | [a, b, c, d], _ => exact ⟨a, b, c, d, rfl⟩
  simp only [List.length_cons, List.length_nil, Nat.reduceAdd, Nat.reduceMul] at hk hm
  subst hm
  have hto4 : IP.to4 [a, b, c, d] = some [a, b, c, d] := by simp [IP.to4]
  have hne : cidrMask k 32 ≠ [] := by
    rw [← List.length_pos, length_cidrMask (.inl rfl) hk]
    decide
  have hstr : IPNet.string ⟨[a, b, c, d], cidrMask k 32⟩ =
      IP.string [a, b, c, d] ++ "/" ++ toString k := by
    simp [IPNet.string, networkNumberAndMask, networkNumberAndMask.withMask, hto4,
      length_cidrMask, hk, simpleMaskLength_cidrMask, hne]
    rfl
  have hmask : (IPv4 a b c d).mask (cidrMask k 32) = andBytes [a, b, c, d] (cidrMask k 32) := by
    simp [IP.mask, IPv4, v4InV6Prefix, length_cidrMask, hk]
  rw [hstr, parseCIDR_string_of_to4 hto4 (by omega), if_pos hk, hmask, hand]
  rfl

end OvnKubernetes.Net
