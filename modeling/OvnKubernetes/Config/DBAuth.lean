import OvnKubernetes.Go.Net.Parse

/-!
# OVN database addresses: `newOvnDBAuth`, `GetURL` and `updateIP`

`newOvnDBAuth` reads a connection string such as `ssl:1.2.3.4:6641,ssl://1.2.3.5:6641`. It deletes
every `//`, splits the rest at commas, and for each entry checks that it has three colon fields,
that its scheme agrees with the one seen so far, that `SplitHostPort` accepts host and port, and
that the host is an IP; it rebuilds the entry as `scheme:host:port` in `OvnAddressForClient`. The
scheme the loop ends with then decides which keys must be given.

`ovnAddressStep_eq_ok` says once what a round can do: read its entry as an `OvnAddress`
(`ovnAddressOf`), step the scheme (`nextScheme`), append the rebuilt entry. By induction the whole
loop succeeds exactly when every entry reads and the schemes step through
(`foldlM_ovnAddressStep_eq_ok`). A rebuilt entry reads back as itself (`ovnAddressOf_text`) and
brings no comma and no `//`, so the address `newOvnDBAuth` returns is a fixed point of it
(`newOvnDBAuth_getURL`).

The scheme check uses `""` for "no scheme seen yet", so it cannot tell that marker from an entry
whose scheme is empty, and `updateIP` glues the new host to the port without a colon; the
theorems at the end of the module show both on concrete addresses.
-/

namespace OvnKubernetes.Config

open Net Strings

/-- `OvnDBScheme`: the transports `newOvnDBAuth` sets. -/
inductive OvnDBScheme
  | ssl
  | tcp
  | unix
  deriving DecidableEq, Repr

/-- The text of each `OvnDBScheme` constant. -/
def OvnDBScheme.text : OvnDBScheme → String
  | .ssl => "ssl"
  | .tcp => "tcp"
  | .unix => "unix"

/-- `OvnDBAuth`, without its `exec` handle. -/
structure OvnDBAuth where
  ovnAddressForClient : String
  privKey : String
  cert : String
  caCert : String
  scheme : OvnDBScheme
  ctlCmd : String
  externalID : String
  deriving DecidableEq, Repr

/-- The errors of `newOvnDBAuth`, one per `fmt.Errorf`, with the values they print. -/
inductive DBAuthError
  /-- `"certificate or key given; perhaps you mean to use the 'ssl' scheme?"` -/
  | keysWithoutSSL
  /-- `"Failed to parse OVN address %s"` -/
  | parseAddress (urlString : String)
  /-- `"Invalid protocols in OVN address %s"` -/
  | invalidProtocols (urlString : String)
  /-- `"failed to parse OVN DB host/port %q: %v"` -/
  | hostPort (hostPort : String) (err : AddrError)
  /-- `"OVN DB host %q must be an IP address, not a DNS name"` -/
  | notIP (hostPort : String)
  /-- `"must specify private key, certificate, and CA certificate for 'ssl' scheme"` -/
  | sslKeysMissing
  /-- `"unknown OVN DB scheme %q"` -/
  | unknownScheme (scheme : String)
  deriving DecidableEq, Repr

/-! ### The address loop -/

/-- The scheme check of a round on an entry with scheme `s`: with none seen yet (`""`) `s` is
taken, otherwise it must equal the one seen. -/
def nextScheme (scheme s : String) : Option String :=
  if scheme = "" then some s else if scheme ≠ s then none else some scheme

/-- `OvnAddressForClient` with one more entry: `"%s:%s:%s"` for the first, `"%s,%s:%s:%s"` after. -/
def appendAddress (ovnAddressForClient entry : String) : String :=
  if ovnAddressForClient = "" then entry else ovnAddressForClient ++ "," ++ entry

/-- One round of the loop of `newOvnDBAuth` on `ovnAddress`, from the scheme seen so far and
`auth.OvnAddressForClient`. -/
def ovnAddressStep (urlString : String) (st : String × String) (ovnAddress : String) :
    Except DBAuthError (String × String) :=
  match split ovnAddress ':' with
  | [s0, s1, s2] =>
    let hostPort := s1 ++ ":" ++ s2
    match nextScheme st.1 s0 with
    | none => .error (.invalidProtocols urlString)
    | some scheme =>
      match splitHostPort hostPort with
      | .error err => .error (.hostPort hostPort err)
      | .ok (host, port) =>
        if parseIP host = none then .error (.notIP hostPort)
        else .ok (scheme, appendAddress st.2 (scheme ++ ":" ++ host ++ ":" ++ port))
  | _ => .error (.parseAddress urlString)

/-- The `switch` that ends `newOvnDBAuth`, on the scheme and address the loop returned. -/
def newOvnDBAuth.finish (ctlCmd externalID privkey cert cacert : String)
    (r : String × String) : Except DBAuthError OvnDBAuth :=
  if r.1 = "ssl" then
    if privkey = "" ∨ cert = "" ∨ cacert = "" then .error .sslKeysMissing
    else .ok ⟨r.2, privkey, cert, cacert, .ssl, ctlCmd, externalID⟩
  else if r.1 = "tcp" then
    if privkey ≠ "" ∨ cert ≠ "" ∨ cacert ≠ "" then .error .keysWithoutSSL
    else .ok ⟨r.2, "", "", "", .tcp, ctlCmd, externalID⟩
  else .error (.unknownScheme r.1)

/-- `newOvnDBAuth(exec, ctlCmd, externalID, urlString, privkey, cert, cacert)`. -/
def newOvnDBAuth (ctlCmd externalID urlString privkey cert cacert : String) :
    Except DBAuthError OvnDBAuth :=
  if urlString = "" then
    if privkey ≠ "" ∨ cert ≠ "" ∨ cacert ≠ "" then .error .keysWithoutSSL
    else .ok ⟨"", "", "", "", .unix, ctlCmd, externalID⟩
  else
    let urlString := replaceDoubleSlashes urlString
    (split urlString ',').foldlM (ovnAddressStep urlString) ("", "") >>=
      newOvnDBAuth.finish ctlCmd externalID privkey cert cacert

example : newOvnDBAuth "ovn-nbctl" "ovn-nb" "ssl://1.2.3.4:6641,ssl:[1.2.3.5]:6641" "k" "c" "ca" =
    .ok ⟨"ssl:1.2.3.4:6641,ssl:1.2.3.5:6641", "k", "c", "ca", .ssl, "ovn-nbctl", "ovn-nb"⟩ := by
  decide

/-- `(*OvnDBAuth).GetURL()`. -/
def OvnDBAuth.getURL (a : OvnDBAuth) : String := a.ovnAddressForClient

/-- The error of `updateIP`: `"failed to parse OvnDBAuth a.OvnAddressForClient: %q"`. -/
structure UpdateIPError where
  ovnAddressForClient : String
  deriving DecidableEq, Repr

/-- `(*OvnDBAuth).updateIP(newIP)`: the address becomes `s[0] + ":" + newIP + s[2]`. -/
def OvnDBAuth.updateIP (a : OvnDBAuth) (newIP : String) : Except UpdateIPError OvnDBAuth :=
  if a.ovnAddressForClient ≠ "" then
    match split a.ovnAddressForClient ':' with
    | [s0, _, s2] => .ok { a with ovnAddressForClient := s0 ++ ":" ++ newIP ++ s2 }
    | _ => .error ⟨a.ovnAddressForClient⟩
  else .ok a

/-! ### What one round reads -/

/-- An entry `scheme:host:port` as a round reads it. -/
structure OvnAddress where
  scheme : String
  host : String
  port : String
  deriving DecidableEq, Repr

/-- The entry as a round rebuilds it. -/
def OvnAddress.text (a : OvnAddress) : String := a.scheme ++ ":" ++ a.host ++ ":" ++ a.port

/-- What a round reads from `ovnAddress` before it looks at the scheme so far: three colon fields,
the last two through `SplitHostPort`, the host an IP. -/
def ovnAddressOf (ovnAddress : String) : Option OvnAddress :=
  match split ovnAddress ':' with
  | [s0, s1, s2] =>
    match splitHostPort (s1 ++ ":" ++ s2) with
    | .ok (host, port) => if parseIP host = none then none else some ⟨s0, host, port⟩
    | .error _ => none
  | _ => none

@[simp] theorem text_data (a : OvnAddress) :
    a.text.data = a.scheme.data ++ ':' :: a.host.data ++ ':' :: a.port.data := by
  simp [OvnAddress.text]

theorem append_colon (x y : String) : x ++ ":" ++ y = ⟨x.data ++ ':' :: y.data⟩ := by
  simp [String.ext_iff]

theorem nextScheme_eq_some {scheme s r : String} :
    nextScheme scheme s = some r ↔ (scheme = "" ∨ scheme = s) ∧ r = s := by
  unfold nextScheme
  by_cases h : scheme = "" <;> by_cases h' : scheme = s <;> simp_all [eq_comm]

theorem ovnAddressOf_eq_some {x : String} {a : OvnAddress} (h : ovnAddressOf x = some a) :
    ∃ mid : String, split x ':' = [a.scheme, mid, a.port] ∧
      (mid = a.host ∨ mid.data = '[' :: a.host.data ++ [']']) ∧
      '[' ∉ a.host.data ∧ ']' ∉ a.host.data ∧ '[' ∉ a.port.data ∧ ']' ∉ a.port.data ∧
      parseIP a.host ≠ none := by
  unfold ovnAddressOf at h
  split at h
  · rename_i s0 s1 s2 hs
    split at h
    · rename_i host port hhp
      rw [append_colon] at hhp
      obtain ⟨hport, hb₁, hb₂, hh₁, hh₂, hmid⟩ :=
        splitHostPort_append_eq_ok (split_eq_three.1 hs).2.2.1 hhp
      split_ifs at h with hip
      cases h
      obtain rfl : port = s2 := String.ext hport
      exact ⟨s1, hs, hmid.imp String.ext id, hh₁, hh₂, hb₁, hb₂, hip⟩
    · cases h
  · cases h

theorem ovnAddressOf_parts {x : String} {a : OvnAddress} (h : ovnAddressOf x = some a) :
    ∃ mid : List Char, x.data = a.scheme.data ++ ':' :: mid ++ ':' :: a.port.data ∧
      ':' ∉ a.scheme.data ∧ ':' ∉ mid ∧ ':' ∉ a.port.data ∧ a.host.data <:+: mid ∧
      '[' ∉ a.host.data ∧ ']' ∉ a.host.data ∧ '[' ∉ a.port.data ∧ ']' ∉ a.port.data ∧
      parseIP a.host ≠ none := by
  obtain ⟨mid, hs, hmid, rest⟩ := ovnAddressOf_eq_some h
  obtain ⟨h0, h1, h2, hx⟩ := split_eq_three.1 hs
  refine ⟨mid.data, hx, h0, h1, h2, ?_, rest⟩
  rcases hmid with rfl | hmid
  · exact List.infix_refl _
  · exact ⟨['['], [']'], by rw [hmid]; simp⟩

theorem ovnAddressOf_text {x : String} {a : OvnAddress} (h : ovnAddressOf x = some a) :
    ovnAddressOf a.text = some a := by
  obtain ⟨mid, -, hs, hmid, hp, hhost, hh₁, hh₂, hp₁, hp₂, hip⟩ := ovnAddressOf_parts h
  have hh : ':' ∉ a.host.data := fun hc => hmid (hhost.subset hc)
  have hhp : splitHostPort (a.host ++ ":" ++ a.port) = .ok (a.host, a.port) := by
    rw [append_colon]
    exact splitHostPort_plain hh hp hh₁ hh₂ hp₁ hp₂
  simp [ovnAddressOf, split_eq_three.2 ⟨hs, hh, hp, text_data a⟩, hhp, hip]

theorem mem_text {x : String} {a : OvnAddress} (h : ovnAddressOf x = some a) {c : Char}
    (hc : c ∈ a.text.data) : c = ':' ∨ c ∈ x.data := by
  obtain ⟨mid, hx, -, -, -, hhost, -⟩ := ovnAddressOf_parts h
  rw [hx]
  simp only [text_data, List.mem_append, List.mem_cons] at hc ⊢
  rcases hc with (hc | hc | hc) | hc | hc
  · exact .inr (.inl (.inl hc))
  · exact .inl hc
  · exact .inr (.inl (.inr (.inr (hhost.subset hc))))
  · exact .inl hc
  · exact .inr (.inr (.inr hc))

theorem noDoubleSlash_text {x : String} {a : OvnAddress} (h : ovnAddressOf x = some a)
    (hx : NoDoubleSlash x.data) : NoDoubleSlash a.text.data := by
  obtain ⟨mid, hxd, -, -, -, hhost, -⟩ := ovnAddressOf_parts h
  rw [hxd] at hx
  have hc : ':' ≠ '/' := by decide
  rw [text_data, List.append_assoc, List.cons_append]
  refine noDoubleSlash_append_cons hc (hx.of_isInfix ⟨[], ':' :: mid ++ ':' :: a.port.data, by simp⟩)
    (noDoubleSlash_append_cons hc ?_ (hx.of_isInfix ⟨a.scheme.data ++ ':' :: mid ++ [':'], [], by simp⟩))
  exact hx.of_isInfix (hhost.trans ⟨a.scheme.data ++ [':'], ':' :: a.port.data, by simp⟩)

theorem text_ne_empty (a : OvnAddress) : a.text ≠ "" := fun h => by
  simpa using congrArg String.data h

/-! ### One round and the whole loop -/

theorem appendAddress_join (done : List OvnAddress) (a : OvnAddress) :
    appendAddress (join ',' (done.map OvnAddress.text)) a.text =
      join ',' ((done ++ [a]).map OvnAddress.text) := by
  cases done with
  | nil => simp [appendAddress]
  | cons d done =>
    have hne := @join_ne_empty ',' _ _ (List.mem_map_of_mem OvnAddress.text
      (List.mem_cons_self d done)) (text_ne_empty d)
    rw [appendAddress, if_neg hne, List.map_append, List.map_singleton,
      join_append_singleton (by simp)]

/-- **One round** appends the entry it reads, when the scheme steps through. -/
theorem ovnAddressStep_eq_ok {urlString ovnAddress : String} {st st' : String × String} :
    ovnAddressStep urlString st ovnAddress = .ok st' ↔
      ∃ a, ovnAddressOf ovnAddress = some a ∧ nextScheme st.1 a.scheme = some a.scheme ∧
        st' = (a.scheme, appendAddress st.2 a.text) := by
  unfold ovnAddressStep ovnAddressOf
  generalize split ovnAddress ':' = parts
  match parts with
  | [s0, s1, s2] =>
    simp only
    cases hhp : splitHostPort (s1 ++ ":" ++ s2) with
    | error => cases nextScheme st.1 s0 <;> simp [hhp]
    | ok hp =>
      obtain ⟨host, port⟩ := hp
      cases hn : nextScheme st.1 s0 with
      | none => by_cases hip : parseIP host = none <;> simp [hhp, hip, hn]
      | some r =>
        obtain ⟨-, rfl⟩ := nextScheme_eq_some.1 hn
        by_cases hip : parseIP host = none <;> simp [hhp, hip, hn, OvnAddress.text, eq_comm]
  | [] | [_] | [_, _] | _ :: _ :: _ :: _ :: _ => simp

/-- **The whole loop**, from the entries `done` already rebuilt: it succeeds exactly when every
entry reads and the schemes step through, and it appends the rebuilt entries in order. -/
theorem foldlM_ovnAddressStep_eq_ok {urlString : String} :
    ∀ {xs : List String} (done : List OvnAddress) {scheme scheme' addr : String},
      xs.foldlM (ovnAddressStep urlString) (scheme, join ',' (done.map OvnAddress.text)) =
          .ok (scheme', addr) ↔
        ∃ as, List.Forall₂ (fun x a => ovnAddressOf x = some a) xs as ∧
          (as.map OvnAddress.scheme).foldlM nextScheme scheme = some scheme' ∧
          addr = join ',' ((done ++ as).map OvnAddress.text)
  | [], done, scheme, scheme', addr => by
    simp [pure, Except.pure, eq_comm]
  | x :: xs, done, scheme, scheme', addr => by
    rw [List.foldlM_cons, Except.bind_eq_ok]
    constructor
    · rintro ⟨st, hst, hrun⟩
      obtain ⟨a, ha, hn, rfl⟩ := ovnAddressStep_eq_ok.1 hst
      rw [appendAddress_join] at hrun
      obtain ⟨as, has, hsch, rfl⟩ := (foldlM_ovnAddressStep_eq_ok _).1 hrun
      exact ⟨a :: as, .cons ha has, by simpa [List.foldlM_cons, hn] using hsch, by simp⟩
    · rintro ⟨_ | ⟨a, as⟩, hall, hsch, rfl⟩
      · cases hall
      obtain ⟨ha, has⟩ := List.forall₂_cons.1 hall
      simp only [List.map_cons, List.foldlM_cons] at hsch
      obtain ⟨r, hn, hsch⟩ := Option.bind_eq_some.1 hsch
      obtain ⟨-, rfl⟩ := nextScheme_eq_some.1 hn
      refine ⟨_, ovnAddressStep_eq_ok.2 ⟨a, ha, hn, rfl⟩, ?_⟩
      rw [appendAddress_join]
      exact (foldlM_ovnAddressStep_eq_ok _).2 ⟨as, has, hsch, by simp⟩

/-! ### `newOvnDBAuth` -/

theorem finish_eq_ok {ctlCmd externalID privkey cert cacert : String} {r : String × String}
    {a : OvnDBAuth} (h : newOvnDBAuth.finish ctlCmd externalID privkey cert cacert r = .ok a) :
    r = (a.scheme.text, a.ovnAddressForClient) := by
  obtain ⟨scheme, addr⟩ := r
  unfold newOvnDBAuth.finish at h
  split_ifs at h <;> cases h <;> simp_all [OvnDBScheme.text]

theorem finish_keys {ctlCmd externalID privkey cert cacert : String} {r : String × String}
    {a : OvnDBAuth} (h : newOvnDBAuth.finish ctlCmd externalID privkey cert cacert r = .ok a) :
    a.privKey = privkey ∧ a.cert = cert ∧ a.caCert = cacert := by
  unfold newOvnDBAuth.finish at h
  split_ifs at h <;> cases h <;> simp_all

theorem newOvnDBAuth_keys_eq {ctlCmd externalID urlString privkey cert cacert : String}
    {a : OvnDBAuth} (h : newOvnDBAuth ctlCmd externalID urlString privkey cert cacert = .ok a) :
    a.privKey = privkey ∧ a.cert = cert ∧ a.caCert = cacert := by
  unfold newOvnDBAuth at h
  split_ifs at h
  · cases h
    simp_all
  · exact finish_keys (Except.bind_eq_ok.1 h).choose_spec.2

theorem newOvnDBAuth_eq_ok {ctlCmd externalID urlString privkey cert cacert : String}
    {a : OvnDBAuth} (hu : urlString ≠ "")
    (h : newOvnDBAuth ctlCmd externalID urlString privkey cert cacert = .ok a) :
    ∃ as, List.Forall₂ (fun x a => ovnAddressOf x = some a)
        (split (replaceDoubleSlashes urlString) ',') as ∧
      (as.map OvnAddress.scheme).foldlM nextScheme "" = some a.scheme.text ∧
      a.ovnAddressForClient = join ',' (as.map OvnAddress.text) ∧
      newOvnDBAuth.finish ctlCmd externalID privkey cert cacert
        (a.scheme.text, a.ovnAddressForClient) = .ok a := by
  rw [newOvnDBAuth, if_neg hu, Except.bind_eq_ok] at h
  obtain ⟨r, hrun, hfin⟩ := h
  obtain rfl := finish_eq_ok hfin
  obtain ⟨as, has, hsch, haddr⟩ := (foldlM_ovnAddressStep_eq_ok []).1 hrun
  exact ⟨as, has, hsch, by simpa using haddr, hfin⟩

theorem newOvnDBAuth_keys {ctlCmd externalID urlString privkey cert cacert : String}
    {a : OvnDBAuth} (hu : urlString ≠ "")
    (h : newOvnDBAuth ctlCmd externalID urlString privkey cert cacert = .ok a)
    (privkey' cert' cacert' : String) :
    newOvnDBAuth ctlCmd externalID urlString privkey' cert' cacert' =
      newOvnDBAuth.finish ctlCmd externalID privkey' cert' cacert'
        (a.scheme.text, a.ovnAddressForClient) := by
  rw [newOvnDBAuth, if_neg hu] at h ⊢
  obtain ⟨r, hrun, hfin⟩ := Except.bind_eq_ok.1 h
  dsimp only
  rw [hrun, ← finish_eq_ok hfin]
  rfl

theorem clean_of_mem_split {urlString x : String}
    (hx : x ∈ split (replaceDoubleSlashes urlString) ',') :
    ',' ∉ x.data ∧ NoDoubleSlash x.data :=
  ⟨not_mem_of_mem_split hx,
    (noDoubleSlash_removeDoubleSlashes urlString.data).of_isInfix (infix_of_mem_split hx)⟩

theorem rebuilt_of_forall₂ {urlString : String} {as : List OvnAddress}
    (has : List.Forall₂ (fun x a => ovnAddressOf x = some a)
      (split (replaceDoubleSlashes urlString) ',') as) :
    ∀ a ∈ as, ovnAddressOf a.text = some a ∧ ',' ∉ a.text.data ∧ NoDoubleSlash a.text.data :=
  forall_mem_of_forall₂ has fun x hx a ha =>
    have hclean := clean_of_mem_split hx
    ⟨ovnAddressOf_text ha,
      fun hc => (mem_text ha hc).elim (fun h => absurd h (by decide)) hclean.1,
      noDoubleSlash_text ha hclean.2⟩

theorem rebuilt_address {urlString : String} {as : List OvnAddress}
    (has : List.Forall₂ (fun x a => ovnAddressOf x = some a)
      (split (replaceDoubleSlashes urlString) ',') as) :
    join ',' (as.map OvnAddress.text) ≠ "" ∧
      replaceDoubleSlashes (join ',' (as.map OvnAddress.text)) =
        join ',' (as.map OvnAddress.text) ∧
      split (join ',' (as.map OvnAddress.text)) ',' = as.map OvnAddress.text := by
  have hP := rebuilt_of_forall₂ has
  have hne : as ≠ [] := by
    rintro rfl
    exact split_ne_nil _ _ (List.forall₂_nil_right_iff.1 has)
  obtain ⟨a₀, ha₀⟩ := List.exists_mem_of_ne_nil as hne
  refine ⟨join_ne_empty (List.mem_map_of_mem _ ha₀) (text_ne_empty a₀), ?_,
    split_join (by simpa using hne) (by simpa using fun a ha => (hP a ha).2.1)⟩
  exact congrArg String.mk (removeDoubleSlashes_of_noDoubleSlash
    (noDoubleSlash_join (by decide) (by simpa using fun a ha => (hP a ha).2.2)))

/-- **The address `newOvnDBAuth` returns is a fixed point of it**: read again with the same keys,
it gives back the same `OvnDBAuth`. -/
theorem newOvnDBAuth_getURL {ctlCmd externalID urlString privkey cert cacert : String}
    {a : OvnDBAuth} (hu : urlString ≠ "")
    (h : newOvnDBAuth ctlCmd externalID urlString privkey cert cacert = .ok a) :
    newOvnDBAuth ctlCmd externalID a.getURL privkey cert cacert = .ok a := by
  obtain ⟨as, has, hsch, haddr, hfin⟩ := newOvnDBAuth_eq_ok hu h
  obtain ⟨hjoin, hclean, hsplit⟩ := rebuilt_address has
  rw [OvnDBAuth.getURL, haddr, newOvnDBAuth, if_neg hjoin]
  simp only [hclean, hsplit]
  refine Except.bind_eq_ok.2 ⟨_, (foldlM_ovnAddressStep_eq_ok []).2 ⟨as,
    List.forall₂_map_left_iff.2 (List.forall₂_same.2 fun a ha => (rebuilt_of_forall₂ has a ha).1),
    hsch, ?_⟩, hfin⟩
  simpa using haddr

/-! ### What `newOvnDBAuth` keeps of an address -/

/-- `y` is the entry `x` rewritten as `scheme:host:port`: the host is `x`'s middle field, or that
field without its brackets, and an IP. -/
def RewritesTo (x y : String) : Prop :=
  ∃ scheme mid host port : String, split x ':' = [scheme, mid, port] ∧
    (mid = host ∨ mid.data = '[' :: host.data ++ [']']) ∧ parseIP host ≠ none ∧
    y = scheme ++ ":" ++ host ++ ":" ++ port

theorem rewritesTo_text {x : String} {a : OvnAddress} (h : ovnAddressOf x = some a) :
    RewritesTo x a.text :=
  let ⟨mid, hs, hmid, _, _, _, _, hip⟩ := ovnAddressOf_eq_some h
  ⟨a.scheme, mid, a.host, a.port, hs, hmid, hip, rfl⟩

/-- **`newOvnDBAuth` rewrites entry by entry, and what it returns is a fixed point of it**: the
entries of `OvnAddressForClient` are those of the address after `//` is deleted, one for one and in
order, each as `scheme:host:port`; and `newOvnDBAuth` on `GetURL()` with the same keys returns the
same `OvnDBAuth`, scheme and address included. -/
theorem newOvnDBAuth_normalizes {ctlCmd externalID urlString privkey cert cacert : String}
    {a : OvnDBAuth} (hu : urlString ≠ "")
    (h : newOvnDBAuth ctlCmd externalID urlString privkey cert cacert = .ok a) :
    List.Forall₂ RewritesTo (split (replaceDoubleSlashes urlString) ',')
        (split a.ovnAddressForClient ',') ∧
      newOvnDBAuth ctlCmd externalID a.getURL privkey cert cacert = .ok a := by
  obtain ⟨as, has, -, haddr, -⟩ := newOvnDBAuth_eq_ok hu h
  rw [haddr, (rebuilt_address has).2.2]
  exact ⟨List.forall₂_map_right_iff.2 (has.imp fun _ _ => rewritesTo_text),
    newOvnDBAuth_getURL hu h⟩

theorem newOvnDBAuth_normalizes_url :
    "tcp://1.2.3.4:6641,tcp:[1.2.3.5]:6642" ≠ "" ∧
      newOvnDBAuth "ovn-nbctl" "ovn-nb" "tcp://1.2.3.4:6641,tcp:[1.2.3.5]:6642" "" "" "" =
        .ok ⟨"tcp:1.2.3.4:6641,tcp:1.2.3.5:6642", "", "", "", .tcp, "ovn-nbctl", "ovn-nb"⟩ ∧
      List.Forall₂ RewritesTo ["tcp:1.2.3.4:6641", "tcp:[1.2.3.5]:6642"]
        ["tcp:1.2.3.4:6641", "tcp:1.2.3.5:6642"] ∧
      newOvnDBAuth "ovn-nbctl" "ovn-nb" "tcp:1.2.3.4:6641,tcp:1.2.3.5:6642" "" "" "" =
        .ok ⟨"tcp:1.2.3.4:6641,tcp:1.2.3.5:6642", "", "", "", .tcp, "ovn-nbctl", "ovn-nb"⟩ :=
  have h : newOvnDBAuth "ovn-nbctl" "ovn-nb" "tcp://1.2.3.4:6641,tcp:[1.2.3.5]:6642" "" "" "" =
      .ok ⟨"tcp:1.2.3.4:6641,tcp:1.2.3.5:6642", "", "", "", .tcp, "ovn-nbctl", "ovn-nb"⟩ := by
    decide
  ⟨by decide, h, newOvnDBAuth_normalizes (by decide) h⟩

/-- **What `newOvnDBAuth` checks of a port**: every entry it returns is `scheme:host:port` with
`host` an IP, but the port is any text without a colon, a comma or a bracket. -/
theorem newOvnDBAuth_entries {ctlCmd externalID urlString privkey cert cacert : String}
    {a : OvnDBAuth} (hu : urlString ≠ "")
    (h : newOvnDBAuth ctlCmd externalID urlString privkey cert cacert = .ok a) :
    ∀ y ∈ split a.ovnAddressForClient ',', ∃ scheme host port : String,
      y = scheme ++ ":" ++ host ++ ":" ++ port ∧ parseIP host ≠ none ∧
        ':' ∉ port.data ∧ ',' ∉ port.data ∧ '[' ∉ port.data ∧ ']' ∉ port.data := by
  obtain ⟨as, has, -, haddr, -⟩ := newOvnDBAuth_eq_ok hu h
  rw [haddr, (rebuilt_address has).2.2]
  simp only [List.mem_map, forall_exists_index, and_imp, forall_apply_eq_imp_iff₂]
  refine forall_mem_of_forall₂ has fun x hx a ha => ?_
  obtain ⟨mid, hxd, -, -, hp, -, -, -, hp₁, hp₂, hip⟩ := ovnAddressOf_parts ha
  refine ⟨a.scheme, a.host, a.port, rfl, hip, hp, fun hc => (clean_of_mem_split hx).1 ?_, hp₁, hp₂⟩
  rw [hxd]
  simp [hc]

theorem newOvnDBAuth_entries_tcp :
    "tcp:1.2.3.4:6641" ≠ "" ∧
      newOvnDBAuth "ovn-nbctl" "ovn-nb" "tcp:1.2.3.4:6641" "" "" "" =
        .ok ⟨"tcp:1.2.3.4:6641", "", "", "", .tcp, "ovn-nbctl", "ovn-nb"⟩ ∧
      ∀ y ∈ split "tcp:1.2.3.4:6641" ',', ∃ scheme host port : String,
        y = scheme ++ ":" ++ host ++ ":" ++ port ∧ parseIP host ≠ none ∧
          ':' ∉ port.data ∧ ',' ∉ port.data ∧ '[' ∉ port.data ∧ ']' ∉ port.data :=
  have h : newOvnDBAuth "ovn-nbctl" "ovn-nb" "tcp:1.2.3.4:6641" "" "" "" =
      .ok ⟨"tcp:1.2.3.4:6641", "", "", "", .tcp, "ovn-nbctl", "ovn-nb"⟩ := by
    decide
  ⟨by decide, h, newOvnDBAuth_entries (by decide) h⟩

/-- Ports are not checked: an out-of-range and an empty port are both accepted. -/
theorem newOvnDBAuth_unchecked_port :
    newOvnDBAuth "ovn-nbctl" "ovn-nb" "tcp:1.2.3.4:99999" "" "" "" =
        .ok ⟨"tcp:1.2.3.4:99999", "", "", "", .tcp, "ovn-nbctl", "ovn-nb"⟩ ∧
      newOvnDBAuth "ovn-nbctl" "ovn-nb" "tcp:1.2.3.4:" "" "" "" =
        .ok ⟨"tcp:1.2.3.4:", "", "", "", .tcp, "ovn-nbctl", "ovn-nb"⟩ := by
  decide

/-! ### The scheme check -/

theorem foldlM_nextScheme_of_ne {sc : String} (hsc : sc ≠ "") :
    ∀ {ss : List String} {r : String},
      ss.foldlM nextScheme sc = some r ↔ (∀ s ∈ ss, s = sc) ∧ r = sc
  | [], r => by simp [eq_comm]
  | s :: ss, r => by
    by_cases h : sc = s
    · subst h
      simp [List.foldlM_cons, nextScheme, hsc, foldlM_nextScheme_of_ne hsc]
    · simp [List.foldlM_cons, nextScheme, hsc, h, Ne.symm h]

theorem foldlM_nextScheme_eq_some {r : String} (hr : r ≠ "") :
    ∀ {ss : List String}, ss.foldlM nextScheme "" = some r ↔
      ∃ k m, ss = List.replicate k "" ++ List.replicate (m + 1) r
  | [] => by simp [Ne.symm hr]
  | s :: ss => by
    simp only [List.foldlM_cons, nextScheme, if_true, Option.bind_eq_bind, Option.some_bind]
    by_cases hs : s = ""
    · subst hs
      rw [foldlM_nextScheme_eq_some hr]
      constructor
      · rintro ⟨k, m, rfl⟩
        exact ⟨k + 1, m, rfl⟩
      · rintro ⟨_ | k, m, h⟩
        · exact absurd (List.cons.inj h).1.symm hr
        · exact ⟨k, m, (List.cons.inj h).2⟩
    · rw [foldlM_nextScheme_of_ne hs]
      constructor
      · rintro ⟨hall, rfl⟩
        exact ⟨0, ss.length, congrArg (r :: ·) (List.eq_replicate_iff.2 ⟨rfl, hall⟩)⟩
      · rintro ⟨_ | k, m, h⟩
        · obtain ⟨rfl, rfl⟩ := List.cons.inj h
          exact ⟨fun x hx => List.eq_of_mem_replicate hx, rfl⟩
        · exact absurd (List.cons.inj h).1 hs

theorem map_eq_map_of_forall₂ {α β γ : Type} {f : α → γ} {g : β → γ} :
    ∀ {xs : List α} {ys : List β}, List.Forall₂ (fun x y => f x = g y) xs ys →
      xs.map f = ys.map g
  | _, _, .nil => rfl
  | _, _, .cons h hs => by simp [h, map_eq_map_of_forall₂ hs]

theorem text_ne_empty_scheme (s : OvnDBScheme) : s.text ≠ "" := by
  cases s <;> decide

/-- **The scheme check of `newOvnDBAuth`**: the first colon fields of the entries it accepts are
some empty ones followed by at least one copy of the scheme it returns. -/
theorem newOvnDBAuth_schemes {ctlCmd externalID urlString privkey cert cacert : String}
    {a : OvnDBAuth} (hu : urlString ≠ "")
    (h : newOvnDBAuth ctlCmd externalID urlString privkey cert cacert = .ok a) :
    ∃ k m, (split (replaceDoubleSlashes urlString) ',').map (fun x => (split x ':').headD "") =
      List.replicate k "" ++ List.replicate (m + 1) a.scheme.text := by
  obtain ⟨as, has, hsch, -⟩ := newOvnDBAuth_eq_ok hu h
  have hheads : List.Forall₂ (fun x a => (split x ':').headD "" = OvnAddress.scheme a)
      (split (replaceDoubleSlashes urlString) ',') as :=
    has.imp fun _ _ ha => by
      obtain ⟨mid, hs, -⟩ := ovnAddressOf_eq_some ha
      simp [hs]
  rw [map_eq_map_of_forall₂ hheads]
  exact (foldlM_nextScheme_eq_some (text_ne_empty_scheme a.scheme)).1 hsch

theorem newOvnDBAuth_schemes_leading_empty :
    ":1.2.3.4:6641,tcp:1.2.3.5:6641" ≠ "" ∧
      newOvnDBAuth "ovn-nbctl" "ovn-nb" ":1.2.3.4:6641,tcp:1.2.3.5:6641" "" "" "" =
        .ok ⟨":1.2.3.4:6641,tcp:1.2.3.5:6641", "", "", "", .tcp, "ovn-nbctl", "ovn-nb"⟩ ∧
      ∃ k m, (split (replaceDoubleSlashes ":1.2.3.4:6641,tcp:1.2.3.5:6641") ',').map
          (fun x => (split x ':').headD "") =
        List.replicate k "" ++ List.replicate (m + 1) OvnDBScheme.tcp.text :=
  have h : newOvnDBAuth "ovn-nbctl" "ovn-nb" ":1.2.3.4:6641,tcp:1.2.3.5:6641" "" "" "" =
      .ok ⟨":1.2.3.4:6641,tcp:1.2.3.5:6641", "", "", "", .tcp, "ovn-nbctl", "ovn-nb"⟩ := by
    decide
  ⟨by decide, h, newOvnDBAuth_schemes (by decide) h⟩

/-- An entry with no scheme ahead of the first one that has one passes the scheme check. -/
theorem newOvnDBAuth_empty_leading_scheme :
    newOvnDBAuth "ovn-nbctl" "ovn-nb" ":1.2.3.4:6641,tcp:1.2.3.5:6641" "" "" "" =
      .ok ⟨":1.2.3.4:6641,tcp:1.2.3.5:6641", "", "", "", .tcp, "ovn-nbctl", "ovn-nb"⟩ := by
  decide

/-- `updateIP` drops the colon before the port, so neither `newOvnDBAuth` nor a second
`updateIP` accepts what it leaves. -/
theorem updateIP_drops_port_colon :
    newOvnDBAuth "ovn-nbctl" "ovn-nb" "tcp:1.2.3.4:6641" "" "" "" =
        .ok ⟨"tcp:1.2.3.4:6641", "", "", "", .tcp, "ovn-nbctl", "ovn-nb"⟩ ∧
      OvnDBAuth.updateIP ⟨"tcp:1.2.3.4:6641", "", "", "", .tcp, "ovn-nbctl", "ovn-nb"⟩
          "10.0.0.1" =
        .ok ⟨"tcp:10.0.0.16641", "", "", "", .tcp, "ovn-nbctl", "ovn-nb"⟩ ∧
      newOvnDBAuth "ovn-nbctl" "ovn-nb" "tcp:10.0.0.16641" "" "" "" =
        .error (.parseAddress "tcp:10.0.0.16641") ∧
      OvnDBAuth.updateIP ⟨"tcp:10.0.0.16641", "", "", "", .tcp, "ovn-nbctl", "ovn-nb"⟩
          "10.0.0.2" =
        .error ⟨"tcp:10.0.0.16641"⟩ := by
  decide

end OvnKubernetes.Config
