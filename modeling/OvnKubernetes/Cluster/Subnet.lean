import OvnKubernetes.Go.Net.Parse

/-!
# Cluster subnets: `parseClusterSubnetEntries` and `cidrsOverlap`

`--cluster-subnet` is a comma-separated list of entries `ip/len` or `ip/len/hostlen`. Each round
of `parseClusterSubnetEntries` reads the host-subnet length (24 when it is left out), parses
`ip/len` with `net.ParseCIDR`, and rejects the entry if `cidrsOverlap` finds it overlapping an
entry already accepted.

`cidrsOverlap_eq_false_iff` makes the overlap check exact: by `IPNet.exists_common_iff`, a network
from `ParseCIDR` overlaps none of the accepted ones exactly when it shares no address with any.
From it, one round appends an entry exactly when the entry parses on its own and is disjoint from
the earlier ones (`parseClusterSubnetEntry_eq_ok_iff`), and by induction over the entries the
whole run succeeds exactly when every entry parses and the parsed networks are pairwise disjoint
(`foldlM_parseClusterSubnetEntry_eq_ok_iff`). Nothing in the loop looks at the host-subnet length
once it is read.

A `ClusterNetwork` is what `runOvnKube` stores in `ClusterIPNet`, with the invariants the parse
establishes as fields; `parseClusterNetwork` returns the same entries as
`parseClusterSubnetEntries` (`parseClusterNetwork_entries`), and in a `ClusterNetwork` every address
lies in at most one entry (`ClusterNetwork.entryOf_eq_some`).
-/

namespace OvnKubernetes.Cluster

open Net Strconv

/-- `ovncluster.CIDRNetworkEntry`: a cluster network and the prefix length of the host subnets
carved from it. -/
structure CIDRNetworkEntry where
  cidr : IPNet
  hostSubnetLength : UInt32
  deriving DecidableEq, Repr

/-- The errors of `parseClusterSubnetEntries`, one per `return nil, err` of the source. -/
inductive ClusterSubnetError
  /-- The error of `strconv.ParseUint` on the host-subnet length. -/
  | hostSubnetLength (e : NumError)
  /-- `"cluster-cidr not formatted properly"`. -/
  | notFormatted
  /-- The error of `net.ParseCIDR`. -/
  | cidr (e : ParseError)
  /-- `"CIDR %s overlaps with another cluster network CIDR"`. -/
  | overlaps (cidr : IPNet)
  deriving DecidableEq, Repr

/-- `cidrsOverlap(cidr, cidrList)`: some entry contains `cidr`'s address, or `cidr` contains
the entry's. -/
def cidrsOverlap (cidr : IPNet) (cidrList : List CIDRNetworkEntry) : Bool :=
  cidrList.any fun clusterEntry => cidr.contains clusterEntry.cidr.ip ||
    clusterEntry.cidr.contains cidr.ip

/-- The tail of one round: parse `ip/len`, check it against `parsed`, append it. -/
def addClusterEntry (parsed : List CIDRNetworkEntry) (ip len : String)
    (hostSubnetLength : UInt32) : Except ClusterSubnetError (List CIDRNetworkEntry) :=
  match parseCIDR (ip ++ "/" ++ len) with
  | .error e => .error (.cidr e)
  | .ok (_, cidr) =>
    if cidrsOverlap cidr parsed then .error (.overlaps cidr)
    else .ok (parsed ++ [⟨cidr, hostSubnetLength⟩])

/-- One round of the loop of `parseClusterSubnetEntries` on `clusterEntry`. -/
def parseClusterSubnetEntry (parsed : List CIDRNetworkEntry) (clusterEntry : String) :
    Except ClusterSubnetError (List CIDRNetworkEntry) :=
  match Strings.split clusterEntry '/' with
  | [ip, len, hostSubnetLength] =>
    match parseUint hostSubnetLength 32 with
    | .error e => .error (.hostSubnetLength e)
    | .ok n => addClusterEntry parsed ip len (UInt32.ofNat n)
  | [ip, len] => addClusterEntry parsed ip len 24
  | _ => .error .notFormatted

/-- `parseClusterSubnetEntries(clusterSubnetCmd)`. -/
def parseClusterSubnetEntries (clusterSubnetCmd : String) :
    Except ClusterSubnetError (List CIDRNetworkEntry) :=
  (Strings.split clusterSubnetCmd ',').foldlM parseClusterSubnetEntry []

example : parseClusterSubnetEntries "10.128.0.0/14/23,10.0.0.0/14" =
    .ok [⟨⟨[10, 128, 0, 0], [255, 252, 0, 0]⟩, 23⟩, ⟨⟨[10, 0, 0, 0], [255, 252, 0, 0]⟩, 24⟩] := by
  decide

/-! ### The entries on their own -/

/-- The network entry `ip/len` denotes with host-subnet length `hostSubnetLength`: the network
`ParseCIDR` reads, if it reads one. -/
def cidrEntryOf (ip len : String) (hostSubnetLength : UInt32) : Option CIDRNetworkEntry :=
  match parseCIDR (ip ++ "/" ++ len) with
  | .ok (_, cidr) => some ⟨cidr, hostSubnetLength⟩
  | .error _ => none

/-- The network entry `clusterEntry` denotes by itself: `ip/len` as `ParseCIDR` reads it, with
the host-subnet length `hostlen` as `ParseUint` reads it, or 24. -/
def clusterEntryOf (clusterEntry : String) : Option CIDRNetworkEntry :=
  match Strings.split clusterEntry '/' with
  | [ip, len, hostlen] =>
    match parseUint hostlen 32 with
    | .ok n => cidrEntryOf ip len (UInt32.ofNat n)
    | .error _ => none
  | [ip, len] => cidrEntryOf ip len 24
  | _ => none

/-- Two networks share no address. -/
def Disjoint (e f : CIDRNetworkEntry) : Prop :=
  ∀ a, ¬(e.cidr.contains a = true ∧ f.cidr.contains a = true)

theorem Disjoint.symm {e f : CIDRNetworkEntry} (h : Disjoint e f) : Disjoint f e :=
  fun a ha => h a ha.symm

theorem isCIDR_of_cidrEntryOf {ip len : String} {hsl : UInt32} {e : CIDRNetworkEntry}
    (h : cidrEntryOf ip len hsl = some e) : e.cidr.IsCIDR := by
  unfold cidrEntryOf at h
  split at h
  · cases h; exact isCIDR_of_parseCIDR ‹_›
  · cases h

theorem isCIDR_of_clusterEntryOf {s : String} {e : CIDRNetworkEntry}
    (h : clusterEntryOf s = some e) : e.cidr.IsCIDR := by
  unfold clusterEntryOf at h
  split at h
  · split at h
    · exact isCIDR_of_cidrEntryOf h
    · cases h
  · exact isCIDR_of_cidrEntryOf h
  · cases h

/-! ### The overlap check -/

theorem cidrsOverlap_eq_false_iff {cidr : IPNet} {L : List CIDRNetworkEntry}
    (hP : cidr.IsCIDR) (hL : ∀ e ∈ L, e.cidr.IsCIDR) (hsl : UInt32) :
    cidrsOverlap cidr L = false ↔ ∀ f ∈ L, Disjoint f ⟨cidr, hsl⟩ := by
  simp only [cidrsOverlap, List.any_eq_false, Bool.or_eq_true, Disjoint]
  refine forall₂_congr fun f hf => ?_
  rw [← IPNet.exists_common_iff hP (hL f hf), not_exists]
  exact forall_congr' fun a => not_congr and_comm

/-- **`cidrsOverlap` is exact on `ParseCIDR` networks**: it reports an overlap exactly when `cidr`
and some entry share an address. -/
theorem cidrsOverlap_iff {cidr : IPNet} {L : List CIDRNetworkEntry} (hP : cidr.IsCIDR)
    (hL : ∀ e ∈ L, e.cidr.IsCIDR) :
    cidrsOverlap cidr L = true ↔
      ∃ e ∈ L, ∃ a, cidr.contains a = true ∧ e.cidr.contains a = true := by
  simp only [cidrsOverlap, List.any_eq_true, Bool.or_eq_true]
  exact exists_congr fun e => and_congr_right fun he => (IPNet.exists_common_iff hP (hL e he)).symm

theorem cidrsOverlap_iff_nested :
    cidrsOverlap ⟨[10, 0, 0, 0], [255, 0, 0, 0]⟩ [⟨⟨[10, 1, 0, 0], [255, 255, 0, 0]⟩, 24⟩] = true ↔
      ∃ e ∈ [(⟨⟨[10, 1, 0, 0], [255, 255, 0, 0]⟩, 24⟩ : CIDRNetworkEntry)], ∃ a,
        IPNet.contains ⟨[10, 0, 0, 0], [255, 0, 0, 0]⟩ a = true ∧ e.cidr.contains a = true :=
  cidrsOverlap_iff
    (isCIDR_of_parseCIDR (by decide :
      parseCIDR "10.0.0.0/8" = .ok (IPv4 10 0 0 0, ⟨[10, 0, 0, 0], [255, 0, 0, 0]⟩)))
    (List.forall_mem_singleton.2 (isCIDR_of_parseCIDR (by decide :
      parseCIDR "10.1.0.0/16" = .ok (IPv4 10 1 0 0, ⟨[10, 1, 0, 0], [255, 255, 0, 0]⟩))))

theorem addClusterEntry_eq_ok_iff {parsed r : List CIDRNetworkEntry} {ip len : String}
    {hsl : UInt32} (hparsed : ∀ e ∈ parsed, e.cidr.IsCIDR) :
    addClusterEntry parsed ip len hsl = .ok r ↔
      ∃ e, cidrEntryOf ip len hsl = some e ∧ (∀ f ∈ parsed, Disjoint f e) ∧ r = parsed ++ [e] := by
  unfold addClusterEntry cidrEntryOf
  cases hc : parseCIDR (ip ++ "/" ++ len) with
  | error => simp
  | ok p =>
    obtain ⟨x, cidr⟩ := p
    have hiff := cidrsOverlap_eq_false_iff (isCIDR_of_parseCIDR hc) hparsed hsl
    cases ho : cidrsOverlap cidr parsed with
    | false =>
      simp [ho, eq_comm]
      exact fun _ => hiff.1 ho
    | true =>
      have hnd : ¬∀ f ∈ parsed, Disjoint f ⟨cidr, hsl⟩ := fun hd =>
        nomatch ho.symm.trans (hiff.2 hd)
      simp [ho, hnd]

theorem parseClusterSubnetEntry_eq_ok_iff {parsed r : List CIDRNetworkEntry}
    {clusterEntry : String} (hparsed : ∀ e ∈ parsed, e.cidr.IsCIDR) :
    parseClusterSubnetEntry parsed clusterEntry = .ok r ↔
      ∃ e, clusterEntryOf clusterEntry = some e ∧ (∀ f ∈ parsed, Disjoint f e) ∧
        r = parsed ++ [e] := by
  unfold parseClusterSubnetEntry clusterEntryOf
  generalize Strings.split clusterEntry '/' = parts
  match parts with
  | [ip, len, h] => cases hn : parseUint h 32 <;> simp [hn, addClusterEntry_eq_ok_iff hparsed]
  | [ip, len] => exact addClusterEntry_eq_ok_iff hparsed
  | [] | [_] | _ :: _ :: _ :: _ :: _ => simp

theorem foldlM_parseClusterSubnetEntry_eq_ok_iff :
    ∀ {xs : List String} {acc r : List CIDRNetworkEntry}, (∀ e ∈ acc, e.cidr.IsCIDR) →
      (xs.foldlM parseClusterSubnetEntry acc = .ok r ↔
        ∃ es, List.Forall₂ (fun x e => clusterEntryOf x = some e) xs es ∧
          (∀ f ∈ acc, ∀ e ∈ es, Disjoint f e) ∧ es.Pairwise Disjoint ∧ r = acc ++ es)
  | [], acc, r, _ => by
    simp only [List.foldlM_nil, List.forall₂_nil_left_iff, exists_eq_left, List.append_nil]
    simp [pure, Except.pure, eq_comm]
  | x :: xs, acc, r, hacc => by
    rw [List.foldlM_cons, Except.bind_eq_ok]
    simp only [parseClusterSubnetEntry_eq_ok_iff hacc]
    constructor
    · rintro ⟨_, ⟨e, he, hd, rfl⟩, hrun⟩
      have hacc' : ∀ f ∈ acc ++ [e], f.cidr.IsCIDR := by
        simpa [or_imp, forall_and] using ⟨hacc, isCIDR_of_clusterEntryOf he⟩
      obtain ⟨es, hes, hd', hp, rfl⟩ := (foldlM_parseClusterSubnetEntry_eq_ok_iff hacc').1 hrun
      refine ⟨e :: es, List.Forall₂.cons he hes, ?_, ?_, by simp⟩
      · simp only [List.mem_cons, forall_eq_or_imp]
        exact fun f hf => ⟨hd f hf, hd' f (by simp [hf])⟩
      · exact List.pairwise_cons.2 ⟨hd' e (by simp), hp⟩
    · rintro ⟨_ | ⟨e, es⟩, hall, hd, hp, rfl⟩
      · cases hall
      obtain ⟨he, hes⟩ := List.forall₂_cons.1 hall
      have hacc' : ∀ f ∈ acc ++ [e], f.cidr.IsCIDR := by
        simpa [or_imp, forall_and] using ⟨hacc, isCIDR_of_clusterEntryOf he⟩
      refine ⟨acc ++ [e], ⟨e, he, fun f hf => hd f hf e (by simp), rfl⟩,
        (foldlM_parseClusterSubnetEntry_eq_ok_iff hacc').2 ⟨es, hes, ?_, hp.of_cons, by simp⟩⟩
      simp only [List.mem_append, List.mem_singleton]
      rintro f (hf | rfl) g hg
      · exact hd f hf g (by simp [hg])
      · exact List.rel_of_pairwise_cons hp hg

/-- **`parseClusterSubnetEntries` succeeds exactly on lists of well-formed, pairwise disjoint
entries**, and returns the entries they denote, one for one and in order. -/
theorem parseClusterSubnetEntries_eq_ok_iff {clusterSubnetCmd : String}
    {r : List CIDRNetworkEntry} :
    parseClusterSubnetEntries clusterSubnetCmd = .ok r ↔
      List.Forall₂ (fun x e => clusterEntryOf x = some e) (Strings.split clusterSubnetCmd ',') r ∧
        r.Pairwise Disjoint := by
  rw [parseClusterSubnetEntries, foldlM_parseClusterSubnetEntry_eq_ok_iff (by simp)]
  simp

/-! ### Host-subnet lengths -/

theorem hostSubnetLength_of_cidrEntryOf {ip len : String} {hsl : UInt32} {e : CIDRNetworkEntry}
    (h : cidrEntryOf ip len hsl = some e) : e.hostSubnetLength = hsl := by
  unfold cidrEntryOf at h
  split at h <;> cases h
  rfl

theorem hostSubnetLength_of_clusterEntryOf {x : String} {e : CIDRNetworkEntry}
    (h : clusterEntryOf x = some e) :
    (∃ ip len, Strings.split x '/' = [ip, len] ∧ e.hostSubnetLength = 24) ∨
      ∃ ip len hostlen n, Strings.split x '/' = [ip, len, hostlen] ∧
        parseUint hostlen 32 = .ok n ∧ e.hostSubnetLength.toNat = n := by
  unfold clusterEntryOf at h
  generalize Strings.split x '/' = parts at h ⊢
  match parts, h with
  | [ip, len, hostlen], h =>
    cases hn : parseUint hostlen 32 with
    | error => simp [hn] at h
    | ok n =>
      simp only [hn] at h
      refine .inr ⟨ip, len, hostlen, n, rfl, hn, ?_⟩
      rw [hostSubnetLength_of_cidrEntryOf h]
      exact UInt32.toNat_ofNat_of_lt (lt_of_lt_of_eq (parseUint_lt hn) (by decide))
  | [ip, len], h => exact .inl ⟨ip, len, rfl, hostSubnetLength_of_cidrEntryOf h⟩

/-- **The host-subnet length of every accepted entry** is the entry's third field as `ParseUint`
reads it, or 24 for a two-field entry, whatever the entry's prefix length. -/
theorem parseClusterSubnetEntries_hostSubnetLength {clusterSubnetCmd : String}
    {r : List CIDRNetworkEntry} (h : parseClusterSubnetEntries clusterSubnetCmd = .ok r) :
    List.Forall₂ (fun x e =>
        (∃ ip len, Strings.split x '/' = [ip, len] ∧ e.hostSubnetLength = 24) ∨
        ∃ ip len hostlen n, Strings.split x '/' = [ip, len, hostlen] ∧
          parseUint hostlen 32 = .ok n ∧ e.hostSubnetLength.toNat = n)
      (Strings.split clusterSubnetCmd ',') r := by
  rw [parseClusterSubnetEntries] at h
  obtain ⟨es, hes, -, -, rfl⟩ := (foldlM_parseClusterSubnetEntry_eq_ok_iff (by simp)).1 h
  exact hes.imp fun _ _ => hostSubnetLength_of_clusterEntryOf

theorem parseClusterSubnetEntries_hostSubnetLength_two :
    parseClusterSubnetEntries "10.128.0.0/14/23,10.0.0.0/25" =
        .ok [⟨⟨[10, 128, 0, 0], [255, 252, 0, 0]⟩, 23⟩, ⟨⟨[10, 0, 0, 0], [255, 255, 255, 128]⟩, 24⟩] ∧
      List.Forall₂ (fun (x : String) (e : CIDRNetworkEntry) =>
          (∃ ip len, Strings.split x '/' = [ip, len] ∧ e.hostSubnetLength = 24) ∨
          ∃ ip len hostlen n, Strings.split x '/' = [ip, len, hostlen] ∧
            parseUint hostlen 32 = .ok n ∧ e.hostSubnetLength.toNat = n)
        (Strings.split "10.128.0.0/14/23,10.0.0.0/25" ',')
        [⟨⟨[10, 128, 0, 0], [255, 252, 0, 0]⟩, 23⟩, ⟨⟨[10, 0, 0, 0], [255, 255, 255, 128]⟩, 24⟩] :=
  have h : parseClusterSubnetEntries "10.128.0.0/14/23,10.0.0.0/25" =
      .ok [⟨⟨[10, 128, 0, 0], [255, 252, 0, 0]⟩, 23⟩,
        ⟨⟨[10, 0, 0, 0], [255, 255, 255, 128]⟩, 24⟩] := by
    decide
  ⟨h, parseClusterSubnetEntries_hostSubnetLength h⟩

/-- Nothing bounds the host-subnet length by the prefix length or the address width: a two-field
`/25` entry gets the default 24, and `ParseUint` lets a 40 through for an IPv4 network. -/
theorem parseClusterSubnetEntries_host_length_unchecked :
    parseClusterSubnetEntries "10.0.0.0/25" =
        .ok [⟨⟨[10, 0, 0, 0], [255, 255, 255, 128]⟩, 24⟩] ∧
      ¬(IPMask.size [255, 255, 255, 128]).1 + 1 ≤ (24 : UInt32).toNat ∧
    parseClusterSubnetEntries "10.0.0.0/8/40" = .ok [⟨⟨[10, 0, 0, 0], [255, 0, 0, 0]⟩, 40⟩] ∧
      ¬(40 : UInt32).toNat ≤ (IPMask.size [255, 0, 0, 0]).2 := by
  decide

/-! ### The cluster network -/

/-- The entries `runOvnKube` stores in `ClusterIPNet`, with what `parseClusterSubnetEntries`
establishes of them: there is one, every network is in `ParseCIDR` form, and no two share an
address. Nothing is established of the host-subnet lengths. -/
structure ClusterNetwork where
  entries : List CIDRNetworkEntry
  ne_nil : entries ≠ []
  isCIDR : ∀ e ∈ entries, e.cidr.IsCIDR
  pairwise_disjoint : entries.Pairwise Disjoint

theorem parseClusterSubnetEntries_invariants {clusterSubnetCmd : String}
    {r : List CIDRNetworkEntry} (h : parseClusterSubnetEntries clusterSubnetCmd = .ok r) :
    r ≠ [] ∧ (∀ e ∈ r, e.cidr.IsCIDR) ∧ r.Pairwise Disjoint := by
  rw [parseClusterSubnetEntries] at h
  obtain ⟨es, hes, -, hp, rfl⟩ := (foldlM_parseClusterSubnetEntry_eq_ok_iff (by simp)).1 h
  refine ⟨fun hnil => Strings.split_ne_nil clusterSubnetCmd ',' ?_,
    forall_mem_of_forall₂ hes fun _ _ _ => isCIDR_of_clusterEntryOf, by simpa using hp⟩
  simpa [hnil] using hes

/-- `parseClusterSubnetEntries` with its result as a `ClusterNetwork`. -/
def parseClusterNetwork (clusterSubnetCmd : String) : Except ClusterSubnetError ClusterNetwork :=
  match h : parseClusterSubnetEntries clusterSubnetCmd with
  | .error e => .error e
  | .ok r =>
    let hr := parseClusterSubnetEntries_invariants h
    .ok ⟨r, hr.1, hr.2.1, hr.2.2⟩

theorem parseClusterNetwork_entries (clusterSubnetCmd : String) :
    (parseClusterNetwork clusterSubnetCmd).map ClusterNetwork.entries =
      parseClusterSubnetEntries clusterSubnetCmd := by
  unfold parseClusterNetwork
  split <;> simp_all [Except.map]

/-- The entry whose network holds the address `a`, searched in order. -/
def ClusterNetwork.entryOf (n : ClusterNetwork) (a : IP) : Option CIDRNetworkEntry :=
  n.entries.find? fun e => e.cidr.contains a

theorem find?_contains_of_pairwise {a : IP} :
    ∀ {l : List CIDRNetworkEntry} {e : CIDRNetworkEntry}, l.Pairwise Disjoint → e ∈ l →
      e.cidr.contains a = true → l.find? (fun f => f.cidr.contains a) = some e
  | f :: l, e, hp, he, ha => by
    rw [List.pairwise_cons] at hp
    rcases List.mem_cons.1 he with rfl | he
    · simp [ha]
    · have hf : f.cidr.contains a = false := by
        simpa using fun hf => hp.1 e he a ⟨hf, ha⟩
      simp [hf, find?_contains_of_pairwise hp.2 he ha]

theorem ClusterNetwork.entryOf_eq_some (n : ClusterNetwork) {a : IP} {e : CIDRNetworkEntry}
    (he : e ∈ n.entries) (ha : e.cidr.contains a = true) : n.entryOf a = some e :=
  find?_contains_of_pairwise n.pairwise_disjoint he ha

end OvnKubernetes.Cluster
