import OvnKubernetes.Go.Strings
import Mathlib.Data.List.Basic

/-!
# Go's `net.IP`, `net.IPMask` and `net.IPNet`

An IP is a byte slice: 4 bytes for IPv4, 16 for IPv6, and an IPv4 address may also be held in
16 bytes as `::ffff:a.b.c.d` (`v4InV6Prefix`). `To4`, `CIDRMask`, `Mask`, `IPMask.Size`,
`networkNumberAndMask` and `(*IPNet).Contains` are modelled as the `net` package of the Go
releases this code was built with computes them, the conversions between the two IPv4 forms
included: `Contains` compares an address in its 4-byte form whenever it has one, so a 16-byte
network whose address is `::ffff:…` behaves as an IPv4 network.

Bytes are `BitVec 8`; a slice is a list, and `nil` is `[]`. `andBytes` is the byte-wise `&`
that `Mask` and `Contains` compute; its small lemmas close this module.
-/

namespace OvnKubernetes.Net

/-- A Go `byte`. -/
abbrev Byte := BitVec 8

/-- `net.IP`. -/
abbrev IP := List Byte

/-- `net.IPMask`. -/
abbrev IPMask := List Byte

/-- `net.IPNet`: an address and a mask. -/
structure IPNet where
  ip : IP
  mask : IPMask
  deriving DecidableEq, Repr

/-- The first 12 bytes of an IPv4 address in 16-byte form. -/
def v4InV6Prefix : List Byte := [0, 0, 0, 0, 0, 0, 0, 0, 0, 0, 0xff, 0xff]

/-- `net.IPv4(a, b, c, d)`: the 16-byte form. -/
def IPv4 (a b c d : Byte) : IP := v4InV6Prefix ++ [a, b, c, d]

/-- `ip.To4()`. -/
def IP.to4 (ip : IP) : Option IP :=
  if ip.length = 4 then some ip
  else if ip.length = 16 ∧ ip.take 12 = v4InV6Prefix then some (ip.drop 12)
  else none

/-- The address `Contains` compares: the 4-byte form when `To4` finds one. -/
def IP.unmap (ip : IP) : IP := ip.to4.getD ip

/-- The byte-wise `x[i] & m[i]` of `Mask` and `Contains`. -/
def andBytes (x m : List Byte) : List Byte := List.zipWith (· &&& ·) x m

/-- One byte of `CIDRMask` with `n` one bits still to place: `0xff`, or `^byte(0xff >> n)`. -/
def maskByte (n : Nat) : Byte := if 8 ≤ n then 0xff else ~~~(0xff >>> n)

/-- The byte loop of `CIDRMask`: `l` bytes, `n` one bits left. -/
def maskBytes : Nat → Nat → List Byte
  | _, 0 => []
  | n, l + 1 => maskByte n :: maskBytes (n - 8) l

/-- `net.CIDRMask(ones, bits)`: `nil` unless `bits` is 32 or 128 and `ones ≤ bits`. -/
def cidrMask (ones bits : Nat) : IPMask :=
  if (bits = 32 ∨ bits = 128) ∧ ones ≤ bits then maskBytes ones (bits / 8) else []

/-- `ip.Mask(mask)`: an IPv4 address against a 16-byte mask that is `0xff` on its first 12
bytes, or a 16-byte IPv4 address against a 4-byte mask, is taken in its 4-byte form. -/
def IP.mask (ip : IP) (mask : IPMask) : IP :=
  let mask := if mask.length = 16 ∧ ip.length = 4 ∧ (mask.take 12).all (· == 0xff) then
    mask.drop 12 else mask
  let ip := if mask.length = 4 ∧ ip.length = 16 ∧ ip.take 12 = v4InV6Prefix then
    ip.drop 12 else ip
  if ip.length = mask.length then andBytes ip mask else []

/-- `networkNumberAndMask(n)`: the address in its 4-byte form when it has one, the mask cut to
the same width; `(nil, nil)` for a malformed network. -/
def networkNumberAndMask (n : IPNet) : IP × IPMask :=
  match n.ip.to4 with
  | some ip => withMask ip
  | none => if n.ip.length = 16 then withMask n.ip else ([], [])
where
  /-- The `switch len(m)` of `networkNumberAndMask`. -/
  withMask (ip : IP) : IP × IPMask :=
    if n.mask.length = 4 then (if ip.length = 4 then (ip, n.mask) else ([], []))
    else if n.mask.length = 16 then (if ip.length = 4 then (ip, n.mask.drop 12) else (ip, n.mask))
    else ([], [])

/-- `n.Contains(ip)`. -/
def IPNet.contains (n : IPNet) (ip : IP) : Bool :=
  let nm := networkNumberAndMask n
  ip.unmap.length == nm.1.length && andBytes nm.1 nm.2 == andBytes ip.unmap nm.2

/-- The bit loop of `simpleMaskLength` on one byte: leading ones, and what is left shifted out. -/
def leadingOnes : Nat → Byte → Nat × Byte
  | 0, v => (0, v)
  | fuel + 1, v =>
    if v &&& 0x80 ≠ 0 then ((leadingOnes fuel (v <<< 1)).1 + 1, (leadingOnes fuel (v <<< 1)).2)
    else (0, v)

/-- `simpleMaskLength(mask)`: the number of leading ones, `none` (Go's `-1`) if a one bit
follows a zero bit. -/
def simpleMaskLength : List Byte → Option Nat
  | [] => some 0
  | v :: rest =>
    if v = 0xff then (simpleMaskLength rest).map (· + 8)
    else if (leadingOnes 8 v).2 ≠ 0 ∨ rest.any (· != 0) then none
    else some (leadingOnes 8 v).1

/-- `m.Size()`: `(ones, bits)`, `(0, 0)` for a non-canonical mask. -/
def IPMask.size (m : IPMask) : Nat × Nat :=
  match simpleMaskLength m with
  | some ones => (ones, 8 * m.length)
  | none => (0, 0)

example : IPMask.size (cidrMask 20 32) = (20, 32) := by decide

@[simp] theorem to4_IPv4 (a b c d : Byte) : (IPv4 a b c d).to4 = some [a, b, c, d] := by
  simp [IP.to4, IPv4, v4InV6Prefix]

/-! ### Byte-wise `&` -/

@[simp] theorem ff_and (x : Byte) : 0xff &&& x = x := BitVec.allOnes_and

@[simp] theorem and_ff (x : Byte) : x &&& 0xff = x := BitVec.and_allOnes

@[simp] theorem andBytes_nil_left (m : List Byte) : andBytes [] m = [] := rfl

@[simp] theorem andBytes_nil_right (x : List Byte) : andBytes x [] = [] := by
  cases x <;> rfl

@[simp] theorem andBytes_cons_cons (a b : Byte) (x m : List Byte) :
    andBytes (a :: x) (b :: m) = (a &&& b) :: andBytes x m := rfl

@[simp] theorem length_andBytes (x m : List Byte) :
    (andBytes x m).length = min x.length m.length := List.length_zipWith _ _ _

@[simp] theorem andBytes_andBytes_self : ∀ x m : List Byte,
    andBytes (andBytes x m) m = andBytes x m
  | [], _ => rfl
  | _ :: _, [] => rfl
  | a :: x, b :: m => by simp [BitVec.and_assoc, andBytes_andBytes_self x m]

theorem andBytes_andBytes_of_le :
    ∀ {x mp mq : List Byte}, mp.length = mq.length → andBytes mp mq = mp →
      andBytes (andBytes x mq) mp = andBytes x mp
  | [], _, _, _, _ => rfl
  | _ :: _, [], [], _, _ => by simp
  | a :: x, p :: mp, q :: mq, hl, h => by
    simp only [andBytes_cons_cons, List.cons.injEq, List.length_cons, Nat.add_right_cancel_iff] at h hl ⊢
    refine ⟨?_, andBytes_andBytes_of_le hl h.2⟩
    rw [BitVec.and_assoc, BitVec.and_comm q, h.1]
  | _ :: _, [], _ :: _, hl, _ | _ :: _, _ :: _, [], hl, _ => by simp at hl

/-! ### CIDR masks -/

@[simp] theorem length_maskBytes (n l : Nat) : (maskBytes n l).length = l := by
  induction l generalizing n <;> simp [maskBytes, *]

theorem length_cidrMask {ones bits : Nat} (hb : bits = 32 ∨ bits = 128) (h : ones ≤ bits) :
    (cidrMask ones bits).length = bits / 8 := by
  simp [cidrMask, hb, h]

theorem maskByte_and_maskByte {n m : Nat} (h : n ≤ m) : maskByte n &&& maskByte m = maskByte n := by
  by_cases hm : 8 ≤ m
  · rw [show maskByte m = 0xff from if_pos hm, and_ff]
  · have key : ∀ a b : Fin 8, a ≤ b → maskByte a &&& maskByte b = maskByte a := by decide
    exact key ⟨n, by omega⟩ ⟨m, by omega⟩ h

theorem andBytes_maskBytes_of_le {n m : Nat} (h : n ≤ m) (l : Nat) :
    andBytes (maskBytes n l) (maskBytes m l) = maskBytes n l := by
  induction l generalizing n m with
  | zero => rfl
  | succ l ih => simp [maskBytes, maskByte_and_maskByte h, ih (Nat.sub_le_sub_right h 8)]

theorem maskByte_eq_ff {n : Nat} : maskByte n = 0xff ↔ 8 ≤ n := by
  by_cases h : 8 ≤ n
  · simp [maskByte, h]
  · have key : ∀ a : Fin 8, maskByte a ≠ 0xff := by decide
    simpa [h] using key ⟨n, by omega⟩

theorem maskBytes_add (n k l : Nat) :
    maskBytes n (k + l) = maskBytes n k ++ maskBytes (n - 8 * k) l := by
  induction k generalizing n with
  | zero => simp [maskBytes]
  | succ k ih =>
    simp only [Nat.succ_add, maskBytes, ih, List.cons_append]
    congr 3
    omega


theorem any_maskBytes_zero : ∀ l : Nat, (maskBytes 0 l).any (· != 0) = false
  | 0 => rfl
  | l + 1 => by simpa [maskBytes, maskByte] using any_maskBytes_zero l

theorem simpleMaskLength_maskBytes : ∀ {n l : Nat}, n ≤ 8 * l → simpleMaskLength (maskBytes n l) = some n
  | n, 0, h => by simp only [maskBytes, simpleMaskLength, Option.some.injEq]; omega
  | n, l + 1, h => by
    by_cases h8 : 8 ≤ n
    · rw [maskBytes, simpleMaskLength, if_pos (maskByte_eq_ff.2 h8),
        simpleMaskLength_maskBytes (by omega), Option.map_some']
      congr 1
      omega
    · have key : ∀ a : Fin 8, leadingOnes 8 (maskByte a) = ((a : Nat), 0) := by decide
      rw [maskBytes, simpleMaskLength, if_neg (mt maskByte_eq_ff.1 h8), key ⟨n, by omega⟩,
        show n - 8 = 0 by omega, any_maskBytes_zero]
      simp

theorem simpleMaskLength_cidrMask {ones bits : Nat} (hb : bits = 32 ∨ bits = 128)
    (h : ones ≤ bits) : simpleMaskLength (cidrMask ones bits) = some ones := by
  rw [cidrMask, if_pos ⟨hb, h⟩, simpleMaskLength_maskBytes (by omega)]

theorem size_cidrMask {ones bits : Nat} (hb : bits = 32 ∨ bits = 128) (h : ones ≤ bits) :
    (cidrMask ones bits).size = (ones, bits) := by
  rw [IPMask.size, simpleMaskLength_cidrMask hb h, length_cidrMask hb h]
  simp only [Prod.mk.injEq, true_and]
  omega

end OvnKubernetes.Net
