import OvnKubernetes.Config.Init

/-!
# Running `ovs-vsctl` and `ovn-nbctl`: `SetDBAuth`

`rawExec` finds a command with `exec.LookPath`, runs it, and trims the white space around its
output; `runOVSVsctl` runs `ovs-vsctl --timeout=15` and also strips the quotes `ovs-vsctl` prints
around a string. `getOVSExternalID` and `setOVSExternalID` read and write one key of the
`external_ids` column of the `Open_vSwitch` table. `SetDBAuth` configures an OVN database client:
nothing for `unix`; for `ssl` it checks that the key and certificate files exist, lets
`ensureCACert` bootstrap a missing CA certificate and, for the southbound client, replaces the
SSL settings of `ovs-vsctl`; last it publishes the address in the client's external id (`ovn-nb`
or `ovn-remote`).

A `Machine` answers each command after the ones run before it, so every function here takes the
history of commands and returns its result with the history its own commands extend.
`setDBAuth_eq_ok` says exactly when `SetDBAuth` succeeds and which commands it has run then;
`setDBAuth_getOVSExternalID` reads the published address back, as `buildOvnAuth` does for the
northbound database at the next start, and `initConfigWithPath_restores_ovnNorth` follows that
start through: an `InitConfigWithPath` that takes the northbound address from the external ids
rebuilds the client `SetDBAuth` published.
-/

namespace OvnKubernetes.Config

open Strings

/-! ### Commands -/

/-- A process `rawExec` starts: the path `exec.LookPath` returned, and the arguments. -/
structure Command where
  path : String
  args : List String
  deriving DecidableEq, Repr

/-- The `kexec.Interface` and the file system, each answering after the commands run so far. -/
structure Machine where
  /-- `exec.LookPath(cmd)` -/
  lookPath : String → Except String String
  /-- `exec.Command(path, args...).CombinedOutput()`: the output, or the error -/
  run : List Command → Command → Except String String
  /-- `pathExists(path)` -/
  pathExists : List Command → String → Bool

/-- Go's `if err != nil { return ..., f(err) }` after a step that runs commands: the step's error,
wrapped by `f`, with the history it left, or the rest `k` from the step's value and history. -/
def onSuccess {ε ε' α β σ : Type} (x : Except ε α × σ) (f : ε → ε')
    (k : α → σ → Except ε' β × σ) : Except ε' β × σ :=
  match x with
  | (.error err, hist) => (.error (f err), hist)
  | (.ok v, hist) => k v hist

/-- `ovsVsctlCommand`. -/
def ovsVsctlCommand : String := "ovs-vsctl"

/-- `rawExec(exec, cmd, args...)` after the commands `hist`: the output without the white space
around it, or the error. -/
def rawExec (m : Machine) (cmd : String) (args : List String) (hist : List Command) :
    Except String String × List Command :=
  match m.lookPath cmd with
  | .error err => (.error err, hist)
  | .ok cmdPath =>
    match m.run hist ⟨cmdPath, args⟩ with
    | .error err => (.error err, hist ++ [⟨cmdPath, args⟩])
    | .ok out => (.ok (trimSpace out), hist ++ [⟨cmdPath, args⟩])

/-- `runOVSVsctl(exec, args...)`. -/
def runOVSVsctl (m : Machine) (args : List String) (hist : List Command) :
    Except String String × List Command :=
  onSuccess (rawExec m ovsVsctlCommand ("--timeout=15" :: args) hist) id fun out hist =>
    (.ok (trim (trimSpace out) "\""), hist)

/-- `getOVSExternalID(exec, name)`: `""` when `ovs-vsctl` fails. -/
def getOVSExternalID (m : Machine) (name : String) (hist : List Command) :
    String × List Command :=
  match runOVSVsctl m ["--if-exists", "get", "Open_vSwitch", ".", "external_ids:" ++ name] hist with
  | (.error _, hist) => ("", hist)
  | (.ok out, hist) => (out, hist)

/-- The error of `setOVSExternalID`, `"Error setting OVS external ID '%s=%s': %v\n  %q"`, where
the output is the `""` that `runOVSVsctl` returns with an error. -/
structure SetExternalIDError where
  key : String
  value : String
  err : String
  out : String
  deriving DecidableEq, Repr

/-- `setOVSExternalID(exec, key, value)`. -/
def setOVSExternalID (m : Machine) (key value : String) (hist : List Command) :
    Except SetExternalIDError Unit × List Command :=
  onSuccess (runOVSVsctl m ["set", "Open_vSwitch", ".", "external_ids:" ++ key ++ "=" ++ value]
    hist) (fun err => ⟨key, value, err, ""⟩) fun _ hist => (.ok (), hist)

/-! ### `SetDBAuth` -/

/-- The errors of `SetDBAuth`, one per `fmt.Errorf`, with the values they print. -/
inductive SetDBAuthError
  /-- `"private key file %s not found"` -/
  | privateKeyNotFound (path : String)
  /-- `"certificate file %s not found"` -/
  | certificateNotFound (path : String)
  /-- `"error deleting ovs-vsctl SSL configuration: %q (%v)"` -/
  | deleteSSL (out err : String)
  /-- `"error setting client southbound DB SSL options: %v\n  %q"` -/
  | setSSL (err out : String)
  /-- The error of `setOVSExternalID`, returned as it is. -/
  | externalID (err : SetExternalIDError)
  deriving DecidableEq, Repr

/-- `(*OvnDBAuth).ensureCACert()`: with no CA certificate file, one `ovn-nbctl` run that can
bootstrap it (for both databases, as the code's FIXME says). Its result is only logged, and the
function returns `nil`. -/
def OvnDBAuth.ensureCACert (a : OvnDBAuth) (m : Machine) (hist : List Command) :
    Except SetDBAuthError Unit × List Command :=
  if m.pathExists hist a.caCert then (.ok (), hist)
  else
    let args := ["--db=" ++ a.getURL, "--timeout=5"] ++
      (if a.scheme = .ssl then
        ["--private-key=" ++ a.privKey, "--certificate=" ++ a.cert,
          "--bootstrap-ca-cert=" ++ a.caCert]
      else []) ++ ["list", "nb_global"]
    (.ok (), (rawExec m "ovn-nbctl" args hist).2)

/-- The second `ssl` block of `SetDBAuth`: the CA certificate, and for the southbound client the
SSL settings of `ovs-vsctl`, which must come before its external id. -/
def OvnDBAuth.setDBAuth.ssl (a : OvnDBAuth) (m : Machine) (hist : List Command) :
    Except SetDBAuthError Unit × List Command :=
  onSuccess (a.ensureCACert m hist) id fun _ hist =>
    if a.ctlCmd = "ovn-sbctl" then
      onSuccess (runOVSVsctl m ["del-ssl"] hist) (.deleteSSL "") fun _ hist =>
        onSuccess (runOVSVsctl m ["set-ssl", a.privKey, a.cert, a.caCert] hist) (.setSSL · "")
          fun _ hist => (.ok (), hist)
    else (.ok (), hist)

/-- `(*OvnDBAuth).SetDBAuth()` after the commands `hist`. -/
def OvnDBAuth.setDBAuth (a : OvnDBAuth) (m : Machine) (hist : List Command) :
    Except SetDBAuthError Unit × List Command :=
  if a.scheme = .unix then (.ok (), hist)
  else if a.scheme = .ssl ∧ m.pathExists hist a.privKey = false then
    (.error (.privateKeyNotFound a.privKey), hist)
  else if a.scheme = .ssl ∧ m.pathExists hist a.cert = false then
    (.error (.certificateNotFound a.cert), hist)
  else
    onSuccess (if a.scheme = .ssl then OvnDBAuth.setDBAuth.ssl a m hist else (.ok (), hist)) id
      fun _ hist =>
        onSuccess (setOVSExternalID m a.externalID ("\"" ++ a.getURL ++ "\"") hist) .externalID
          fun _ hist => (.ok (), hist)

/-! ### What a run does -/

@[simp] theorem onSuccess_error {ε ε' α β σ : Type} (err : ε) (hist : σ) (f : ε → ε')
    (k : α → σ → Except ε' β × σ) :
    onSuccess (.error err, hist) f k = (.error (f err), hist) := rfl

@[simp] theorem onSuccess_ok {ε ε' α β σ : Type} (v : α) (hist : σ) (f : ε → ε')
    (k : α → σ → Except ε' β × σ) :
    onSuccess (.ok v, hist) f k = k v hist := rfl

theorem onSuccess_eq_ok {ε ε' α β σ : Type} {x : Except ε α × σ} {f : ε → ε'}
    {k : α → σ → Except ε' β × σ} {b : β} {hist' : σ} :
    onSuccess x f k = (.ok b, hist') ↔ ∃ v hist, x = (.ok v, hist) ∧ k v hist = (.ok b, hist') := by
  obtain ⟨_ | v, hist⟩ := x <;> simp [and_assoc]

theorem onSuccess_eq_ok_unit {ε ε' β σ : Type} {x : Except ε Unit × σ} {f : ε → ε'}
    {k : Unit → σ → Except ε' β × σ} {b : β} {hist' : σ} :
    onSuccess x f k = (.ok b, hist') ↔ ∃ hist, x = (.ok (), hist) ∧ k () hist = (.ok b, hist') := by
  rw [onSuccess_eq_ok]
  exact ⟨fun ⟨(), h, hx, hk⟩ => ⟨h, hx, hk⟩, fun ⟨h, hx, hk⟩ => ⟨(), h, hx, hk⟩⟩

/-- Each of `cs` succeeds when it runs after `hist` and the ones before it. -/
def Machine.runsOk (m : Machine) : List Command → List Command → Bool
  | _, [] => true
  | hist, c :: cs => (m.run hist c).toBool && m.runsOk (hist ++ [c]) cs

theorem Machine.runsOk_append (m : Machine) :
    ∀ (hist cs ds : List Command),
      m.runsOk hist (cs ++ ds) = (m.runsOk hist cs && m.runsOk (hist ++ cs) ds)
  | hist, [], ds => by simp [Machine.runsOk]
  | hist, c :: cs, ds => by
    simp [Machine.runsOk, Machine.runsOk_append m _ cs ds, Bool.and_assoc]

/-- The command that publishes the address of `a`, quoted, in its external id. -/
def setExternalIDCommand (vsctl : String) (a : OvnDBAuth) : Command :=
  ⟨vsctl, ["--timeout=15", "set", "Open_vSwitch", ".",
    "external_ids:" ++ a.externalID ++ "=" ++ ("\"" ++ a.getURL ++ "\"")]⟩

/-- The `ovs-vsctl` commands of the `ssl` block of `SetDBAuth` after `ensureCACert`: for the
southbound client, `del-ssl` and `set-ssl` with its key, certificate and CA certificate. -/
def sslCommands (vsctl : String) (a : OvnDBAuth) : List Command :=
  if a.ctlCmd = "ovn-sbctl" then
    [⟨vsctl, ["--timeout=15", "del-ssl"]⟩,
      ⟨vsctl, ["--timeout=15", "set-ssl", a.privKey, a.cert, a.caCert]⟩]
  else []

theorem runOVSVsctl_of_lookPath {m : Machine} {vsctl : String}
    (hl : m.lookPath ovsVsctlCommand = .ok vsctl) (args : List String) (hist : List Command) :
    runOVSVsctl m args hist =
      ((m.run hist ⟨vsctl, "--timeout=15" :: args⟩).map fun out =>
          trim (trimSpace (trimSpace out)) "\"",
        hist ++ [⟨vsctl, "--timeout=15" :: args⟩]) := by
  unfold runOVSVsctl rawExec
  simp only [hl]
  cases m.run hist ⟨vsctl, "--timeout=15" :: args⟩ <;> rfl

theorem runOVSVsctl_of_lookPath_error {m : Machine} {err : String}
    (hl : m.lookPath ovsVsctlCommand = .error err) (args : List String) (hist : List Command) :
    runOVSVsctl m args hist = (.error err, hist) := by
  simp [runOVSVsctl, rawExec, hl]

theorem onSuccess_runOVSVsctl_eq_ok {ε' β : Type} {m : Machine} {vsctl : String}
    (hl : m.lookPath ovsVsctlCommand = .ok vsctl) {args : List String} {hist hist' : List Command}
    {f : String → ε'} {k : List Command → Except ε' β × List Command} {b : β} :
    onSuccess (runOVSVsctl m args hist) f (fun _ => k) = (.ok b, hist') ↔
      m.runsOk hist [⟨vsctl, "--timeout=15" :: args⟩] ∧
        k (hist ++ [⟨vsctl, "--timeout=15" :: args⟩]) = (.ok b, hist') := by
  rw [runOVSVsctl_of_lookPath hl]
  cases h : m.run hist ⟨vsctl, "--timeout=15" :: args⟩ <;>
    simp [Except.map, Machine.runsOk, Except.toBool, h]

theorem rawExec_snd (m : Machine) (cmd : String) (args : List String) (hist : List Command) :
    ∃ cs, (rawExec m cmd args hist).2 = hist ++ cs ∧ cs.length ≤ 1 := by
  unfold rawExec
  split
  · exact ⟨[], by simp⟩
  · split <;> exact ⟨[_], rfl, le_rfl⟩

theorem ensureCACert_eq (a : OvnDBAuth) (m : Machine) (hist : List Command) :
    ∃ cs, a.ensureCACert m hist = (.ok (), hist ++ cs) ∧ cs.length ≤ 1 := by
  unfold OvnDBAuth.ensureCACert
  split
  · exact ⟨[], by simp⟩
  · dsimp only
    exact (rawExec_snd m "ovn-nbctl" _ hist).imp fun cs h => ⟨by rw [h.1], h.2⟩

theorem setOVSExternalID_eq_ok {m : Machine} {vsctl key value : String}
    (hl : m.lookPath ovsVsctlCommand = .ok vsctl) {hist hist' : List Command} :
    setOVSExternalID m key value hist = (.ok (), hist') ↔
      let c : Command := ⟨vsctl, ["--timeout=15", "set", "Open_vSwitch", ".",
        "external_ids:" ++ key ++ "=" ++ value]⟩
      m.runsOk hist [c] ∧ hist' = hist ++ [c] := by
  rw [setOVSExternalID, onSuccess_runOVSVsctl_eq_ok hl]
  simp [@eq_comm _ hist']

theorem setDBAuth_ssl_eq_ok {a : OvnDBAuth} {m : Machine} {vsctl : String}
    (hl : m.lookPath ovsVsctlCommand = .ok vsctl) {hist hist' : List Command} :
    OvnDBAuth.setDBAuth.ssl a m hist = (.ok (), hist') ↔
      m.runsOk (a.ensureCACert m hist).2 (sslCommands vsctl a) ∧
        hist' = (a.ensureCACert m hist).2 ++ sslCommands vsctl a := by
  obtain ⟨cs, hca, -⟩ := ensureCACert_eq a m hist
  rw [OvnDBAuth.setDBAuth.ssl, hca, onSuccess_ok, sslCommands]
  split_ifs
  · rw [onSuccess_runOVSVsctl_eq_ok hl, onSuccess_runOVSVsctl_eq_ok hl]
    simp [Machine.runsOk, @eq_comm _ hist', and_assoc]
  · simp [Machine.runsOk, @eq_comm _ hist']

theorem setDBAuth_eq_ok {a : OvnDBAuth} {m : Machine} {hist hist' : List Command}
    (hu : a.scheme ≠ .unix) :
    a.setDBAuth m hist = (.ok (), hist') ↔
      (a.scheme = .ssl → m.pathExists hist a.privKey ∧ m.pathExists hist a.cert) ∧
      ∃ vsctl, m.lookPath ovsVsctlCommand = .ok vsctl ∧
        let pre := if a.scheme = .ssl then (a.ensureCACert m hist).2 else hist
        let cs := (if a.scheme = .ssl then sslCommands vsctl a else []) ++
          [setExternalIDCommand vsctl a]
        m.runsOk pre cs ∧ hist' = pre ++ cs := by
  by_cases hk : a.scheme = .ssl → m.pathExists hist a.privKey ∧ m.pathExists hist a.cert
  swap
  · have hs : a.scheme = .ssl := by_contra fun h => hk fun h' => absurd h' h
    simp only [hk, false_and, iff_false, OvnDBAuth.setDBAuth, hu, hs, if_false, true_and]
    by_cases hp : m.pathExists hist a.privKey <;> simp_all
  rw [OvnDBAuth.setDBAuth, if_neg hu, if_neg fun h => absurd (hk h.1).1 (by simp [h.2]),
    if_neg fun h => absurd (hk h.1).2 (by simp [h.2]), onSuccess_eq_ok_unit]
  cases hl : m.lookPath ovsVsctlCommand with
  | error err => simp [setOVSExternalID, runOVSVsctl_of_lookPath_error hl]
  | ok vsctl =>
    simp only [onSuccess_eq_ok_unit, setOVSExternalID_eq_ok hl, eq_true hk, true_and]
    split_ifs
    · simp [setDBAuth_ssl_eq_ok hl, Machine.runsOk_append, and_assoc, setExternalIDCommand,
        @eq_comm _ _ hist']
    · simp [Machine.runsOk, setExternalIDCommand, @eq_comm _ _ hist']

/-- The `FakeExec` of the package's tests: commands are found in `/fake-bin` and print nothing;
the key and certificate files exist, the CA certificate does not. -/
def fakeExec : Machine where
  lookPath file := .ok ("/fake-bin/" ++ file)
  run _ _ := .ok ""
  pathExists _ path := path ≠ "ca.crt"

/-- The southbound SSL client of the package's test runs the commands the test expects, in its
order: `ensureCACert`'s `ovn-nbctl`, `del-ssl`, `set-ssl`, and the external id. -/
example :
    OvnDBAuth.setDBAuth
        ⟨"ssl:1.2.3.4:6642", "priv.key", "cert.crt", "ca.crt", .ssl, "ovn-sbctl", "ovn-remote"⟩
        fakeExec [] =
      (.ok (), [⟨"/fake-bin/ovn-nbctl", ["--db=ssl:1.2.3.4:6642", "--timeout=5",
          "--private-key=priv.key", "--certificate=cert.crt", "--bootstrap-ca-cert=ca.crt", "list",
          "nb_global"]⟩,
        ⟨"/fake-bin/ovs-vsctl", ["--timeout=15", "del-ssl"]⟩,
        ⟨"/fake-bin/ovs-vsctl", ["--timeout=15", "set-ssl", "priv.key", "cert.crt", "ca.crt"]⟩,
        ⟨"/fake-bin/ovs-vsctl", ["--timeout=15", "set", "Open_vSwitch", ".",
          "external_ids:ovn-remote=\"ssl:1.2.3.4:6642\""]⟩]) := by
  decide

/-! ### Reading the address back -/

/-- `ovs-vsctl get` of an external id prints, on a line of its own, the value a `set` of it just
before gave. -/
def Machine.EchoesExternalIDs (m : Machine) (vsctl : String) : Prop :=
  ∀ hist key value, m.run (hist ++ [⟨vsctl, ["--timeout=15", "set", "Open_vSwitch", ".",
      "external_ids:" ++ key ++ "=" ++ value]⟩])
    ⟨vsctl, ["--timeout=15", "--if-exists", "get", "Open_vSwitch", ".", "external_ids:" ++ key]⟩ =
    .ok (value ++ "\n")

theorem finish_fields {ctlCmd externalID privkey cert cacert : String} {r : String × String}
    {a : OvnDBAuth} (h : newOvnDBAuth.finish ctlCmd externalID privkey cert cacert r = .ok a) :
    a.externalID = externalID ∧ a.scheme ≠ .unix ∧ (privkey = "" → a.scheme = .tcp) := by
  unfold newOvnDBAuth.finish at h
  split_ifs at h <;> cases h <;> simp_all

theorem text_data_ne_nil (s : OvnDBScheme) : s.text.data ≠ [] := by
  cases s <;> decide

theorem newOvnDBAuth_getURL_head? {ctlCmd externalID urlString privkey cert cacert : String}
    {a : OvnDBAuth} (hu : urlString ≠ "")
    (h : newOvnDBAuth ctlCmd externalID urlString privkey cert cacert = .ok a) :
    a.getURL.data.head? = some ':' ∨ a.getURL.data.head? = a.scheme.text.data.head? := by
  obtain ⟨as, has, hsch, haddr, -⟩ := newOvnDBAuth_eq_ok hu h
  obtain ⟨k, n, hks⟩ := (foldlM_nextScheme_eq_some (text_ne_empty_scheme a.scheme)).1 hsch
  rcases as with _ | ⟨a₀, as⟩
  · exact absurd (List.forall₂_nil_right_iff.1 has) (split_ne_nil _ _)
  rw [OvnDBAuth.getURL, haddr, List.map_cons, head?_join_cons _ (text_ne_empty a₀), text_data,
    List.append_assoc]
  rcases k with _ | k <;> obtain ⟨h₀, -⟩ := List.cons.inj hks
  · exact .inr (by rw [h₀, List.head?_append_of_ne_nil _ (text_data_ne_nil a.scheme)])
  · exact .inl (by simp [h₀])

theorem newOvnDBAuth_getURL_head?_ne_quote
    {ctlCmd externalID urlString privkey cert cacert : String} {a : OvnDBAuth} (hu : urlString ≠ "")
    (h : newOvnDBAuth ctlCmd externalID urlString privkey cert cacert = .ok a) :
    a.getURL.data.head? ≠ some '"' := by
  rcases newOvnDBAuth_getURL_head? hu h with h' | h' <;> rw [h']
  · decide
  · cases a.scheme <;> decide

theorem getOVSExternalID_of_setDBAuth {m : Machine} {vsctl : String}
    (hl : m.lookPath ovsVsctlCommand = .ok vsctl) (he : m.EchoesExternalIDs vsctl)
    {a : OvnDBAuth} {hist hist' : List Command} (hsch : a.scheme ≠ .unix)
    (h₁ : a.getURL.data.head? ≠ some '"') (h₂ : a.getURL.data.getLast? ≠ some '"')
    (hs : a.setDBAuth m hist = (.ok (), hist')) :
    (getOVSExternalID m a.externalID hist').1 = a.getURL := by
  obtain ⟨-, vsctl', hl', -, hh⟩ := (setDBAuth_eq_ok hsch).1 hs
  obtain rfl : vsctl = vsctl' := by simpa [hl] using hl'
  rw [hh, ← List.append_assoc, getOVSExternalID, runOVSVsctl_of_lookPath hl,
    setExternalIDCommand, he]
  simp only [Except.map, trimSpace_quoted_line, trimSpace_quoted]
  exact trim_quoted h₁ h₂

/-- **The published address reads back**: after a successful `SetDBAuth` of an `OvnDBAuth` that
`newOvnDBAuth` built from a non-empty address, on a machine whose `ovs-vsctl` prints back the
external id it was given, `getOVSExternalID` reads `GetURL()` itself (unless that ends in a
quote, which `strings.Trim` would take off), and `newOvnDBAuth` on it with the same keys builds
the same `OvnDBAuth`. -/
theorem setDBAuth_getOVSExternalID {m : Machine} {vsctl : String}
    (hl : m.lookPath ovsVsctlCommand = .ok vsctl) (he : m.EchoesExternalIDs vsctl)
    {ctlCmd externalID urlString privkey cert cacert : String} {a : OvnDBAuth}
    {hist hist' : List Command} (hu : urlString ≠ "")
    (ha : newOvnDBAuth ctlCmd externalID urlString privkey cert cacert = .ok a)
    (hq : a.getURL.data.getLast? ≠ some '"') (hs : a.setDBAuth m hist = (.ok (), hist')) :
    (getOVSExternalID m externalID hist').1 = a.getURL ∧
      newOvnDBAuth ctlCmd externalID (getOVSExternalID m externalID hist').1 privkey cert cacert =
        .ok a := by
  obtain ⟨-, -, -, -, hfin⟩ := newOvnDBAuth_eq_ok hu ha
  obtain ⟨hext, hsch, -⟩ := finish_fields hfin
  have hget := hext ▸ getOVSExternalID_of_setDBAuth hl he hsch
    (newOvnDBAuth_getURL_head?_ne_quote hu ha) hq hs
  exact ⟨hget, hget ▸ newOvnDBAuth_getURL hu ha⟩

/-- A machine on which every command is found in `/usr/bin` and succeeds, every file exists, and
`ovs-vsctl get` of an external id prints, on a line of its own, what the `set` just before it
gave. -/
def echoMachine : Machine where
  lookPath cmd := .ok ("/usr/bin/" ++ cmd)
  run hist c :=
    match hist.getLast? with
    | some set =>
      if set.args.take 4 = ["--timeout=15", "set", "Open_vSwitch", "."] ∧
          c.args.take 5 = ["--timeout=15", "--if-exists", "get", "Open_vSwitch", "."] then
        .ok (⟨(set.args.getLastD "").data.drop ((c.args.getLastD "").length + 1)⟩ ++ "\n")
      else .ok ""
    | none => .ok ""
  pathExists _ _ := true

theorem echoMachine_echoes : echoMachine.EchoesExternalIDs "/usr/bin/ovs-vsctl" := by
  intro hist key value
  have hkv : ("external_ids:" ++ key ++ "=" ++ value).data =
      (("external_ids:" ++ key).data ++ ['=']) ++ value.data := by simp
  simp only [echoMachine, List.getLast?_concat]
  rw [if_pos ⟨rfl, rfl⟩]
  show Except.ok (⟨("external_ids:" ++ key ++ "=" ++ value).data.drop
    (("external_ids:" ++ key).length + 1)⟩ ++ "\n") = _
  rw [hkv, List.drop_left' (by rw [List.length_append, List.length_singleton]; rfl)]

theorem setDBAuth_getOVSExternalID_southbound :
    let a : OvnDBAuth :=
      ⟨"ssl:1.2.3.4:6642", "priv.key", "cert.crt", "ca.crt", .ssl, "ovn-sbctl", "ovn-remote"⟩
    let hist' : List Command :=
      [⟨"/usr/bin/ovs-vsctl", ["--timeout=15", "del-ssl"]⟩,
        ⟨"/usr/bin/ovs-vsctl", ["--timeout=15", "set-ssl", "priv.key", "cert.crt", "ca.crt"]⟩,
        ⟨"/usr/bin/ovs-vsctl", ["--timeout=15", "set", "Open_vSwitch", ".",
          "external_ids:ovn-remote=\"ssl:1.2.3.4:6642\""]⟩]
    echoMachine.lookPath ovsVsctlCommand = .ok "/usr/bin/ovs-vsctl" ∧
      echoMachine.EchoesExternalIDs "/usr/bin/ovs-vsctl" ∧ "ssl://1.2.3.4:6642" ≠ "" ∧
      newOvnDBAuth "ovn-sbctl" "ovn-remote" "ssl://1.2.3.4:6642" "priv.key" "cert.crt" "ca.crt" =
        .ok a ∧
      a.getURL.data.getLast? ≠ some '"' ∧ a.setDBAuth echoMachine [] = (.ok (), hist') ∧
      (getOVSExternalID echoMachine "ovn-remote" hist').1 = a.getURL ∧
      newOvnDBAuth "ovn-sbctl" "ovn-remote" (getOVSExternalID echoMachine "ovn-remote" hist').1
        "priv.key" "cert.crt" "ca.crt" = .ok a := by
  intro a hist'
  have ha : newOvnDBAuth "ovn-sbctl" "ovn-remote" "ssl://1.2.3.4:6642" "priv.key" "cert.crt"
      "ca.crt" = .ok a := by
    decide
  have hs : a.setDBAuth echoMachine [] = (.ok (), hist') := by decide
  exact ⟨rfl, echoMachine_echoes, by decide, ha, by decide, hs,
    setDBAuth_getOVSExternalID rfl echoMachine_echoes (by decide) ha (by decide) hs⟩

/-! ### The next start -/

/-- **A restart rebuilds the northbound client from what `SetDBAuth` published.** Take the
northbound client that `newOvnDBAuth` builds from a non-empty address with the key paths
`buildOvnAuth` takes for an `ssl` address (no keys for `tcp`), and a successful `SetDBAuth` of it
on a machine whose `ovs-vsctl` prints external ids back. A later `InitConfigWithPath` that gets no
northbound database from the command line or the config file and is told to read the address
from the external ids, on a host whose `getOVSExternalID("ovn-nb")` reads that machine, leaves the
same client in `OvnNorth` when it succeeds. -/
theorem initConfigWithPath_restores_ovnNorth {m : Machine} {vsctl : String}
    (hl : m.lookPath ovsVsctlCommand = .ok vsctl) (he : m.EchoesExternalIDs vsctl)
    {urlString privkey cert cacert : String} {north : OvnDBAuth} {hist hist' : List Command}
    (hu : urlString ≠ "")
    (ha : newOvnDBAuth "ovn-nbctl" "ovn-nb" urlString privkey cert cacert = .ok north)
    (hk : (privkey, cert, cacert) = if north.scheme = .ssl then
      ("/etc/openvswitch/ovnnb-privkey.pem", "/etc/openvswitch/ovnnb-cert.pem",
        "/etc/openvswitch/ovnnb-ca.cert") else ("", "", ""))
    (hq : north.getURL.data.getLast? ≠ some '"') (hs : north.setDBAuth m hist = (.ok (), hist'))
    {host : Host} (hx : host.externalID "ovn-nb" = (getOVSExternalID m "ovn-nb" hist').1)
    {cliConfig : RawConfig} (hc : cliConfig.ovnNorth = default) {configFile : String}
    {defaults : Defaults} (hd : defaults.ovnNorthAddress = true)
    (hf : ∀ file, readConfig host (resolveConfigFile host configFile).1
      (resolveConfigFile host configFile).2 = .ok file → file.ovnNorth = default)
    {g g' : Globals} {r : String}
    (h : initConfigWithPath host cliConfig configFile (some defaults) g = (.ok r, g')) :
    g'.ovnNorth = ⟨some north⟩ := by
  obtain ⟨as, has, -, haddr, hfin⟩ := newOvnDBAuth_eq_ok hu ha
  obtain ⟨hext, hsch, -⟩ := finish_fields hfin
  have hget := getOVSExternalID_of_setDBAuth hl he hsch
    (newOvnDBAuth_getURL_head?_ne_quote hu ha) hq hs
  rw [hext, ← hx] at hget
  have hne : north.getURL ≠ "" := by
    rw [OvnDBAuth.getURL, haddr]
    exact (rebuilt_address has).1
  have hre := newOvnDBAuth_keys hne (newOvnDBAuth_getURL hu ha)
  obtain ⟨file, north', -, hfile, hn, -, rfl⟩ := initConfigWithPath_run h
  obtain ⟨a, ha', rfl⟩ := buildOvnAuth_eq_ok.1 hn
  have h0 : (default : RawOvnAuthConfig).address = "" := rfl
  have hnb : "ovn-" ++ "nb" = "ovn-nb" := rfl
  cases hp : hasPrefix north.getURL "ssl" <;> rcases hsc : north.scheme <;>
    simp [buildOvnAuth.rawAuth, hc, hf file hfile, hd, h0, hnb, hget, hp, hsc] at ha' hk
  case false.unix | true.unix => exact absurd hsc hsch
  case false.ssl | true.tcp => simp [hre, newOvnDBAuth.finish, hsc, OvnDBScheme.text] at ha'
  case false.tcp | true.ssl =>
    obtain ⟨rfl, rfl, rfl⟩ := hk
    cases ha'.symm.trans (newOvnDBAuth_getURL hu ha)
    rfl

theorem initConfigWithPath_restores_ovnNorth_ssl :
    let north : OvnDBAuth := ⟨"ssl:1.2.3.4:6641", "/etc/openvswitch/ovnnb-privkey.pem",
      "/etc/openvswitch/ovnnb-cert.pem", "/etc/openvswitch/ovnnb-ca.cert", .ssl, "ovn-nbctl",
      "ovn-nb"⟩
    let hist' : List Command := [⟨"/usr/bin/ovs-vsctl", ["--timeout=15", "set", "Open_vSwitch", ".",
      "external_ids:ovn-nb=\"ssl:1.2.3.4:6641\""]⟩]
    let host : Host := { bareHost with externalID := fun _ => "ssl:1.2.3.4:6641" }
    let defaults : Defaults := ⟨true, false, false, false⟩
    let g' : Globals := { restoreDefaultConfig with
      ovnNorth := ⟨some north⟩
      ovnSouth := ⟨some ⟨"", "", "", "", .unix, "ovn-sbctl", "ovn-remote"⟩⟩ }
    echoMachine.lookPath ovsVsctlCommand = .ok "/usr/bin/ovs-vsctl" ∧
      echoMachine.EchoesExternalIDs "/usr/bin/ovs-vsctl" ∧ "ssl://1.2.3.4:6641" ≠ "" ∧
      newOvnDBAuth "ovn-nbctl" "ovn-nb" "ssl://1.2.3.4:6641" "/etc/openvswitch/ovnnb-privkey.pem"
        "/etc/openvswitch/ovnnb-cert.pem" "/etc/openvswitch/ovnnb-ca.cert" = .ok north ∧
      north.getURL.data.getLast? ≠ some '"' ∧ north.setDBAuth echoMachine [] = (.ok (), hist') ∧
      host.externalID "ovn-nb" = (getOVSExternalID echoMachine "ovn-nb" hist').1 ∧
      initConfigWithPath host default "" (some defaults) restoreDefaultConfig = (.ok "", g') ∧
      g'.ovnNorth = ⟨some north⟩ := by
  intro north hist' host defaults g'
  have ha : newOvnDBAuth "ovn-nbctl" "ovn-nb" "ssl://1.2.3.4:6641"
      "/etc/openvswitch/ovnnb-privkey.pem" "/etc/openvswitch/ovnnb-cert.pem"
      "/etc/openvswitch/ovnnb-ca.cert" = .ok north := by
    decide
  have hs : north.setDBAuth echoMachine [] = (.ok (), hist') := by decide
  have hx : host.externalID "ovn-nb" = (getOVSExternalID echoMachine "ovn-nb" hist').1 := by
    decide
  have hf : ∀ file, readConfig host (resolveConfigFile host "").1
      (resolveConfigFile host "").2 = .ok file → file.ovnNorth = default := fun file hfile => by
    obtain rfl : default = file := Except.ok.inj hfile
    rfl
  have hi : initConfigWithPath host default "" (some defaults) restoreDefaultConfig =
      (.ok "", g') := by
    decide
  exact ⟨rfl, echoMachine_echoes, by decide, ha, by decide, hs, hx, hi,
    initConfigWithPath_restores_ovnNorth rfl echoMachine_echoes (by decide) ha (by decide)
      (by decide) hs hx rfl rfl hf hi⟩

end OvnKubernetes.Config
