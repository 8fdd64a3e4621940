import OvnKubernetes.Go.Net.IP

/-!
# When two CIDR networks share an address

`ParseCIDR` returns networks of one shape, `IPNet.IsCIDR`: a 4- or 16-byte address that is its own
network number under a CIDR mask of its width (`IsPrefix`). For such a network
`networkNumberAndMask` is again a prefix, over the address's 4-byte form when it has one
(`networkNumberAndMask_of_isCIDR`): a 16-byte `::ffff:…` network is masked down to at least its
96 bits of `v4InV6Prefix`, and its last four bytes are an IPv4 prefix. `contains_iff` reads
`Contains` as "as long as the network number, and equal to it under the mask".

`exists_common_iff` is the fact the overlap check of `parseClusterSubnetEntries` relies on: two
prefixes share an address exactly when one contains the other's network number. Two CIDR masks
of one width are nested (`andBytes_cidrMask_of_le`), so an address in both prefixes is masked by
the shorter mask to the longer prefix's network number masked the same way.
-/

namespace OvnKubernetes.Net

/-- A network number `nn` of 4 or 16 bytes under a CIDR mask `m` of the same width, with every
host bit of `nn` clear. -/
def IsPrefix (nn m : List Byte) : Prop :=
  (nn.length = 4 ∨ nn.length = 16) ∧
    ∃ k ≤ 8 * nn.length, m = cidrMask k (8 * nn.length) ∧ andBytes nn m = nn

/-- A network as `ParseCIDR` returns it: its address is a prefix under its mask. -/
def IPNet.IsCIDR (n : IPNet) : Prop := IsPrefix n.ip n.mask

theorem andBytes_cidrMask_of_le {k₁ k₂ w : Nat} (hw : w = 32 ∨ w = 128) (h : k₁ ≤ k₂)
    (h₂ : k₂ ≤ w) : andBytes (cidrMask k₁ w) (cidrMask k₂ w) = cidrMask k₁ w := by
  simp only [cidrMask, if_pos (And.intro hw h₂), if_pos (And.intro hw (h.trans h₂))]
  exact andBytes_maskBytes_of_le h _

theorem isPrefix_andBytes {x : List Byte} {k : Nat} (hx : x.length = 4 ∨ x.length = 16)
    (hk : k ≤ 8 * x.length) : IsPrefix (andBytes x (cidrMask k (8 * x.length)))
      (cidrMask k (8 * x.length)) := by
  have hl : (cidrMask k (8 * x.length)).length = x.length := by
    rw [length_cidrMask (by omega) hk]; omega
  have hlen : (andBytes x (cidrMask k (8 * x.length))).length = x.length := by simp [hl]
  rw [IsPrefix, hlen]
  exact ⟨hx, k, hk, rfl, andBytes_andBytes_self _ _⟩

theorem IsPrefix.length_mask {nn m : List Byte} (h : IsPrefix nn m) : m.length = nn.length := by
  obtain ⟨hl, k, hk, rfl, -⟩ := h
  rw [length_cidrMask (by omega) hk]
  omega

theorem le_of_andBytes_v4InV6Prefix {ones : Nat}
    (h : andBytes v4InV6Prefix (maskBytes ones 12) = v4InV6Prefix) : 96 ≤ ones := by
  simp only [v4InV6Prefix, maskBytes, andBytes_cons_cons, andBytes_nil_left, List.cons.injEq,
    ff_and] at h
  have := maskByte_eq_ff.1 h.2.2.2.2.2.2.2.2.2.2.2.1
  omega

theorem networkNumberAndMask_of_isCIDR {n : IPNet} (h : n.IsCIDR) :
    (networkNumberAndMask n).1 = n.ip.unmap ∧
      IsPrefix (networkNumberAndMask n).1 (networkNumberAndMask n).2 := by
  have hml := IsPrefix.length_mask h
  obtain ⟨hlen, ones, hones, hm, hmask⟩ := h
  rcases hlen with h4 | h16
  · have hto4 : n.ip.to4 = some n.ip := by simp [IP.to4, h4]
    simp only [networkNumberAndMask, networkNumberAndMask.withMask, hto4, hml, h4, if_true,
      IP.unmap, Option.getD_some]
    exact ⟨trivial, Or.inl h4, ones, h4 ▸ hones, h4 ▸ hm, hmask⟩
  by_cases hv : n.ip.take 12 = v4InV6Prefix
  · -- `::ffff:a.b.c.d/ones`: an IPv4 prefix of `ones - 96` bits
    have hto4 : n.ip.to4 = some (n.ip.drop 12) := by simp [IP.to4, h16, hv]
    have hd : (n.ip.drop 12).length = 4 := by simp [h16]
    have hsplit : n.mask = maskBytes ones 12 ++ maskBytes (ones - 96) 4 := by
      rw [hm, h16, cidrMask, if_pos (by omega), show 8 * 16 / 8 = 12 + 4 from rfl, maskBytes_add]
    have hip : n.ip = v4InV6Prefix ++ n.ip.drop 12 := by rw [← hv, List.take_append_drop]
    have hparts := hmask
    rw [hip, hsplit, andBytes, List.zipWith_append _ _ _ _ _ (by simp [v4InV6Prefix])] at hparts
    obtain ⟨h12, h4⟩ := List.append_inj hparts (by simp [v4InV6Prefix])
    have h96 := le_of_andBytes_v4InV6Prefix h12
    simp only [networkNumberAndMask, networkNumberAndMask.withMask, hto4, hml, h16, hd,
      if_true, IP.unmap, Option.getD_some, show (16 : Nat) ≠ 4 by decide, if_false]
    refine ⟨trivial, Or.inl hd, ones - 96, by omega, ?_, ?_⟩
    · rw [hsplit, List.drop_left' (by simp), hd, cidrMask, if_pos (by omega)]
    · rw [hsplit, List.drop_left' (by simp)]
      exact h4
  · have hto4 : n.ip.to4 = none := by simp [IP.to4, h16, hv]
    simp only [networkNumberAndMask, networkNumberAndMask.withMask, hto4, hml, h16, if_true,
      IP.unmap, Option.getD_none, show (16 : Nat) ≠ 4 by decide, if_false]
    exact ⟨trivial, Or.inr h16, ones, h16 ▸ hones, h16 ▸ hm, hmask⟩

theorem contains_iff (n : IPNet) (a : IP) :
    n.contains a = true ↔ a.unmap.length = (networkNumberAndMask n).1.length ∧
      andBytes (networkNumberAndMask n).1 (networkNumberAndMask n).2 =
        andBytes a.unmap (networkNumberAndMask n).2 := by
  simp [IPNet.contains]

/-! ### Two prefixes -/

section TwoPrefixes

variable {p mp q mq : List Byte}

theorem mem_of_common_of_le (hp : IsPrefix p mp) (hq : IsPrefix q mq)
    (hle : andBytes mp mq = mp) {x : List Byte} (hxp : andBytes p mp = andBytes x mp)
    (hxq : andBytes q mq = andBytes x mq) (hl : p.length = q.length) :
    andBytes p mp = andBytes q mp := by
  have hlen : mp.length = mq.length := by rw [hp.length_mask, hq.length_mask, hl]
  calc andBytes p mp = andBytes x mp := hxp
    _ = andBytes (andBytes x mq) mp := (andBytes_andBytes_of_le hlen hle).symm
    _ = andBytes (andBytes q mq) mp := by rw [hxq]
    _ = andBytes q mp := by rw [hq.2.choose_spec.2.2]

theorem mask_nested (hp : IsPrefix p mp) (hq : IsPrefix q mq) (hl : p.length = q.length) :
    andBytes mp mq = mp ∨ andBytes mq mp = mq := by
  obtain ⟨hw, kp, hkp, rfl, -⟩ := hp
  obtain ⟨-, kq, hkq, rfl, -⟩ := hq
  have hw' : 8 * p.length = 32 ∨ 8 * p.length = 128 := by omega
  rw [← hl] at hkq ⊢
  rcases le_total kp kq with h | h
  · exact .inl (andBytes_cidrMask_of_le hw' h hkq)
  · exact .inr (andBytes_cidrMask_of_le hw' h hkp)

theorem IsPrefix.exists_common_iff (hp : IsPrefix p mp) (hq : IsPrefix q mq) :
    (∃ x : List Byte, x.length = p.length ∧ andBytes p mp = andBytes x mp ∧
        x.length = q.length ∧ andBytes q mq = andBytes x mq) ↔
      (q.length = p.length ∧ andBytes p mp = andBytes q mp) ∨
        (p.length = q.length ∧ andBytes q mq = andBytes p mq) := by
  constructor
  · rintro ⟨x, hxl, hxp, hxl', hxq⟩
    have hl : p.length = q.length := hxl.symm.trans hxl'
    rcases mask_nested hp hq hl with hle | hle
    · exact .inl ⟨hl.symm, mem_of_common_of_le hp hq hle hxp hxq hl⟩
    · exact .inr ⟨hl, mem_of_common_of_le hq hp hle hxq hxp hl.symm⟩
  · rintro (⟨hl, h⟩ | ⟨hl, h⟩)
    · exact ⟨q, hl, h, rfl, rfl⟩
    · exact ⟨p, rfl, rfl, hl, h⟩

end TwoPrefixes

theorem IPNet.contains_self {P : IPNet} (hP : P.IsCIDR) : P.contains P.ip = true := by
  simp [contains_iff, (networkNumberAndMask_of_isCIDR hP).1]

theorem IPNet.exists_common_iff {P Q : IPNet} (hP : P.IsCIDR) (hQ : Q.IsCIDR) :
    (∃ a, P.contains a = true ∧ Q.contains a = true) ↔
      P.contains Q.ip = true ∨ Q.contains P.ip = true := by
  constructor
  · rintro ⟨a, hPa, hQa⟩
    obtain ⟨hPn, hPp⟩ := networkNumberAndMask_of_isCIDR hP
    obtain ⟨hQn, hQp⟩ := networkNumberAndMask_of_isCIDR hQ
    rw [contains_iff] at hPa hQa
    have := (IsPrefix.exists_common_iff hPp hQp).1 ⟨a.unmap, hPa.1, hPa.2, hQa.1, hQa.2⟩
    rwa [contains_iff, contains_iff, ← hPn, ← hQn]
  · rintro (h | h)
    · exact ⟨Q.ip, h, IPNet.contains_self hQ⟩
    · exact ⟨P.ip, IPNet.contains_self hP, h⟩

end OvnKubernetes.Net
