import OvnKubernetes.Config.DBAuth

/-!
# The configuration globals: `InitConfigWithPath` and `UpdateOvnNodeAuth`

`InitConfigWithPath` layers three sources over the globals: the config file read with `gcfg`,
the command-line flags (`cliConfig`), and for a few Kubernetes fields and the northbound address
the OVS external ids. `overrideFields` copies every field of its source that is not its type's
zero value. The OVN databases go through `buildOvnAuth`, which picks the address, fills in
default key paths for an `ssl` address, and hands the result to `newOvnDBAuth`.

The precedence the package documents is stated apart from that code: `precedence` for one field
(the command line unless zero, else the file unless zero, else the layers below), the same in
every field of a record, and `RawOvnAuthConfig.precedence` for a database's address and keys;
`LayeredGlobals` collects them into the globals a run should leave. Two overrides in a row are the
precedence (`overrideField_overrideField`), and so is `buildOvnAuth`'s choice
(`rawAuth_eq_precedence`).

Each step writes its global before the next one can fail, so the state is returned on failure as
well: the model returns the error or the config file path together with the globals.
`initConfigWithPath_eq_ok` says that a successful run leaves `LayeredGlobals`. `UpdateOvnNodeAuth`
updates the northbound client before it tries the southbound one; `updateOvnNodeAuth_error` says
what a failure leaves.

What the source reads from the machine (the config file flag, the platform, the config file, the
OVS external ids, which paths exist, and the errors of `url.Parse` past its scheme) is a `Host`.
-/

namespace OvnKubernetes.Config

open Net Strings

/-! ### The configuration records -/

/-- `DefaultConfig`. -/
structure DefaultConfig where
  mtu : Int
  conntrackZone : Int
  encapType : String
  encapIP : String
  inactivityProbe : Int
  deriving DecidableEq, Repr, Inhabited

/-- `LoggingConfig`. -/
structure LoggingConfig where
  file : String
  level : Int
  deriving DecidableEq, Repr, Inhabited

/-- `CNIConfig`. -/
structure CNIConfig where
  confDir : String
  plugin : String
  winHNSNetworkID : String
  deriving DecidableEq, Repr, Inhabited

/-- `KubernetesConfig`. -/
structure KubernetesConfig where
  kubeconfig : String
  caCert : String
  apiServer : String
  token : String
  deriving DecidableEq, Repr, Inhabited

/-- `rawOvnAuthConfig`: an OVN database as the file or the command line gives it. -/
structure RawOvnAuthConfig where
  address : String
  clientPrivKey : String
  clientCert : String
  clientCACert : String
  deriving DecidableEq, Repr, Inhabited

/-- `config`, the record `gcfg` reads the config file into and the command-line flags fill. -/
structure RawConfig where
  default : DefaultConfig
  logging : LoggingConfig
  cni : CNIConfig
  kubernetes : KubernetesConfig
  ovnNorth : RawOvnAuthConfig
  ovnSouth : RawOvnAuthConfig
  deriving DecidableEq, Repr, Inhabited

/-- `OvnAuthConfig`: `ClientAuth` is a pointer, `none` for `nil`. -/
structure OvnAuthConfig where
  clientAuth : Option OvnDBAuth
  deriving DecidableEq, Repr

/-- `Defaults`: which values to take from the OVS external ids. -/
structure Defaults where
  ovnNorthAddress : Bool
  k8sAPIServer : Bool
  k8sToken : Bool
  k8sCert : Bool
  deriving DecidableEq, Repr, Inhabited

/-- The globals `Default`, `Logging`, `CNI`, `Kubernetes`, `OvnNorth` and `OvnSouth`. -/
structure Globals where
  default : DefaultConfig
  logging : LoggingConfig
  cni : CNIConfig
  kubernetes : KubernetesConfig
  ovnNorth : OvnAuthConfig
  ovnSouth : OvnAuthConfig
  deriving DecidableEq, Repr

/-- The globals as the package initialises them, and as `RestoreDefaultConfig` restores them. -/
def restoreDefaultConfig : Globals where
  default := ⟨1400, 64000, "geneve", "", 100000⟩
  logging := ⟨"", 4⟩
  cni := ⟨"/etc/cni/net.d", "ovn-k8s-cni-overlay", ""⟩
  kubernetes := ⟨"", "", "http://localhost:8080", ""⟩
  ovnNorth := ⟨none⟩
  ovnSouth := ⟨none⟩

/-! ### `overrideFields` -/

/-- One field of `overrideFields`: the source's value unless it is the zero value of its type
(`""` or `0`, Lean's `default`). -/
def overrideField {α : Type} [DecidableEq α] [Inhabited α] (dst src : α) : α :=
  if src ≠ default then src else dst

/-- The precedence the package documents for one field, highest last: the command line's value
unless it is zero, else the config file's unless zero, else the value of the layers below. -/
def precedence {α : Type} [DecidableEq α] [Inhabited α] (below file cli : α) : α :=
  if cli ≠ default then cli else if file ≠ default then file else below

theorem overrideField_overrideField {α : Type} [DecidableEq α] [Inhabited α] (below file cli : α) :
    overrideField (overrideField below file) cli = precedence below file cli :=
  rfl

theorem precedence_precedence {α : Type} [DecidableEq α] [Inhabited α] (below file cli : α) :
    precedence (precedence below file cli) file cli = precedence below file cli := by
  unfold precedence
  split_ifs <;> rfl

@[simp]
theorem overrideField_default {α : Type} [DecidableEq α] [Inhabited α] (dst : α) :
    overrideField dst default = dst := by
  simp [overrideField]

/-- `overrideFields(&dst, &src)` on `DefaultConfig`. -/
def DefaultConfig.overrideFields (dst src : DefaultConfig) : DefaultConfig :=
  ⟨overrideField dst.mtu src.mtu, overrideField dst.conntrackZone src.conntrackZone,
    overrideField dst.encapType src.encapType, overrideField dst.encapIP src.encapIP,
    overrideField dst.inactivityProbe src.inactivityProbe⟩

/-- `overrideFields(&dst, &src)` on `LoggingConfig`. -/
def LoggingConfig.overrideFields (dst src : LoggingConfig) : LoggingConfig :=
  ⟨overrideField dst.file src.file, overrideField dst.level src.level⟩

/-- `overrideFields(&dst, &src)` on `CNIConfig`. -/
def CNIConfig.overrideFields (dst src : CNIConfig) : CNIConfig :=
  ⟨overrideField dst.confDir src.confDir, overrideField dst.plugin src.plugin,
    overrideField dst.winHNSNetworkID src.winHNSNetworkID⟩

/-- `overrideFields(&dst, &src)` on `KubernetesConfig`. -/
def KubernetesConfig.overrideFields (dst src : KubernetesConfig) : KubernetesConfig :=
  ⟨overrideField dst.kubeconfig src.kubeconfig, overrideField dst.caCert src.caCert,
    overrideField dst.apiServer src.apiServer, overrideField dst.token src.token⟩

/-- `overrideFields(&dst, &src)` on `rawOvnAuthConfig`. -/
def RawOvnAuthConfig.overrideFields (dst src : RawOvnAuthConfig) : RawOvnAuthConfig :=
  ⟨overrideField dst.address src.address, overrideField dst.clientPrivKey src.clientPrivKey,
    overrideField dst.clientCert src.clientCert, overrideField dst.clientCACert src.clientCACert⟩

/-- `precedence` in every field of `DefaultConfig`. -/
def DefaultConfig.precedence (below file cli : DefaultConfig) : DefaultConfig :=
  ⟨Config.precedence below.mtu file.mtu cli.mtu,
    Config.precedence below.conntrackZone file.conntrackZone cli.conntrackZone,
    Config.precedence below.encapType file.encapType cli.encapType,
    Config.precedence below.encapIP file.encapIP cli.encapIP,
    Config.precedence below.inactivityProbe file.inactivityProbe cli.inactivityProbe⟩

/-- `precedence` in every field of `LoggingConfig`. -/
def LoggingConfig.precedence (below file cli : LoggingConfig) : LoggingConfig :=
  ⟨Config.precedence below.file file.file cli.file,
    Config.precedence below.level file.level cli.level⟩

/-- `precedence` in every field of `CNIConfig`. -/
def CNIConfig.precedence (below file cli : CNIConfig) : CNIConfig :=
  ⟨Config.precedence below.confDir file.confDir cli.confDir,
    Config.precedence below.plugin file.plugin cli.plugin,
    Config.precedence below.winHNSNetworkID file.winHNSNetworkID cli.winHNSNetworkID⟩

/-- `precedence` in every field of `KubernetesConfig`. -/
def KubernetesConfig.precedence (below file cli : KubernetesConfig) : KubernetesConfig :=
  ⟨Config.precedence below.kubeconfig file.kubeconfig cli.kubeconfig,
    Config.precedence below.caCert file.caCert cli.caCert,
    Config.precedence below.apiServer file.apiServer cli.apiServer,
    Config.precedence below.token file.token cli.token⟩

theorem DefaultConfig.overrideFields_overrideFields (below file cli : DefaultConfig) :
    (below.overrideFields file).overrideFields cli = below.precedence file cli :=
  rfl

theorem LoggingConfig.overrideFields_overrideFields (below file cli : LoggingConfig) :
    (below.overrideFields file).overrideFields cli = below.precedence file cli :=
  rfl

theorem CNIConfig.overrideFields_overrideFields (below file cli : CNIConfig) :
    (below.overrideFields file).overrideFields cli = below.precedence file cli :=
  rfl

theorem KubernetesConfig.overrideFields_overrideFields (below file cli : KubernetesConfig) :
    (below.overrideFields file).overrideFields cli = below.precedence file cli :=
  rfl

@[simp]
theorem RawOvnAuthConfig.overrideFields_default (dst : RawOvnAuthConfig) :
    dst.overrideFields default = dst := by
  rw [show (default : RawOvnAuthConfig) = ⟨default, default, default, default⟩ from rfl]
  simp only [RawOvnAuthConfig.overrideFields, overrideField_default]

/-! ### The machine -/

/-- What `InitConfigWithPath` reads besides its arguments. -/
structure Host where
  /-- `ctx.String("config-file")` -/
  configFileFlag : String
  /-- `runtime.GOOS` -/
  goos : String
  /-- `os.Getenv("OVS_SYSCONFDIR")` -/
  ovsSysconfdir : String
  /-- `filepath.Join` of two elements on this platform -/
  filepathJoin : String → String → String
  /-- The error of `os.Open(path)`, if it fails -/
  openConfigFile : String → Option String
  /-- `gcfg.ReadInto` of the opened file -/
  parseConfigFile : String → Except String RawConfig
  /-- `getOVSExternalID(exec, name)`: `""` when `ovs-vsctl` fails -/
  externalID : String → String
  /-- `pathExists(path)` -/
  pathExists : String → Bool
  /-- The error of `url.Parse(s)` past its scheme, if any -/
  urlError : String → Option String

/-- The errors of `InitConfigWithPath`, one per `fmt.Errorf`, with the values they print. -/
inductive InitError
  /-- `"failed to open config file %s: %v"` -/
  | openConfigFile (path err : String)
  /-- `"failed to parse config file %s: %v"` -/
  | parseConfigFile (path err : String)
  /-- `"kubernetes kubeconfig file %q not found"` -/
  | kubeconfigNotFound (path : String)
  /-- `"kubernetes CA certificate file %q not found"` -/
  | caCertNotFound (path : String)
  /-- `"kubernetes API server address %q invalid: %v"` -/
  | apiServerInvalid (address err : String)
  /-- `"kubernetes API server URL scheme %q invalid"` -/
  | apiServerScheme (scheme : String)
  /-- The error of `buildOvnAuth`, returned as it is. -/
  | ovnAuth (err : DBAuthError)
  deriving DecidableEq, Repr

/-- `getscheme(rawurl)` of `net/url`: the letters, digits, `+`, `-` and `.` before the first
colon, if they start with a letter; `""` if another character comes first. -/
def getscheme (rawurl : List Char) : Except String (List Char) := go rawurl []
where
  /-- The character loop, with the scheme read so far (reversed). -/
  go : List Char → List Char → Except String (List Char)
    | [], _ => .ok []
    | c :: cs, acc =>
      if c.isAlpha then go cs (c :: acc)
      else if c.isDigit ∨ c = '+' ∨ c = '-' ∨ c = '.' then
        if acc = [] then .ok [] else go cs (c :: acc)
      else if c = ':' then
        if acc = [] then .error "missing protocol scheme" else .ok acc.reverse
      else .ok []

/-- The `Scheme` of `url.Parse(rawurl)`: `getscheme` of the part before `#`, in lower case. -/
def Host.urlScheme (host : Host) (rawurl : String) : Except String String :=
  match getscheme (rawurl.data.takeWhile (· ≠ '#')) with
  | .error err => .error err
  | .ok scheme =>
    match host.urlError rawurl with
    | some err => .error err
    | none => .ok ⟨scheme.map Char.toLower⟩

example : getscheme "HTTPS://10.0.0.1:6443".data = .ok "HTTPS".data := by decide
example : getscheme "10.0.0.1:6443".data = .ok [] := by decide

/-! ### `InitConfigWithPath` -/

/-- `getConfigFilePath(ctx)`: the flag's path, or the platform default and `true`. -/
def getConfigFilePath (host : Host) : String × Bool :=
  if host.configFileFlag ≠ "" then (host.configFileFlag, false)
  else if host.goos ≠ "windows" then ("/etc/openvswitch/ovn_k8s.conf", true)
  else (host.filepathJoin host.ovsSysconfdir "ovn_k8s.conf", true)

/-- The config file `InitConfigWithPath` reads, and whether it is the default one. -/
def resolveConfigFile (host : Host) (configFile : String) : String × Bool :=
  if configFile = "" then getConfigFilePath host else (configFile, false)

/-- `os.Open` and `gcfg.ReadInto` of the config file; a default file that cannot be opened reads
as the zero `config`. -/
def readConfig (host : Host) (configFile : String) (configFileIsDefault : Bool) :
    Except InitError RawConfig :=
  match host.openConfigFile configFile with
  | some err => if configFileIsDefault then .ok default else .error (.openConfigFile configFile err)
  | none =>
    match host.parseConfigFile configFile with
    | .error err => .error (.parseConfigFile configFile err)
    | .ok cfg => .ok cfg

/-- The external-id defaults `buildKubernetesConfig` writes first. -/
def kubernetesDefaults (host : Host) (defaults : Defaults) (k : KubernetesConfig) :
    KubernetesConfig :=
  let k := if defaults.k8sAPIServer then { k with apiServer := host.externalID "k8s-api-server" }
    else k
  let k := if defaults.k8sToken then { k with token := host.externalID "k8s-api-token" } else k
  if defaults.k8sCert then { k with caCert := host.externalID "k8s-ca-certificate" } else k

/-- The checks that end `buildKubernetesConfig`. -/
def checkKubernetesConfig (host : Host) (k : KubernetesConfig) : Except InitError Unit :=
  if k.kubeconfig ≠ "" ∧ host.pathExists k.kubeconfig = false then
    .error (.kubeconfigNotFound k.kubeconfig)
  else if k.caCert ≠ "" ∧ host.pathExists k.caCert = false then .error (.caCertNotFound k.caCert)
  else
    match host.urlScheme k.apiServer with
    | .error err => .error (.apiServerInvalid k.apiServer err)
    | .ok scheme =>
      if scheme ≠ "https" ∧ scheme ≠ "http" then .error (.apiServerScheme scheme) else .ok ()

/-- `buildKubernetesConfig(exec, cli, file, defaults)`: the new `Kubernetes` global, written
whether or not the checks pass, and their result. -/
def buildKubernetesConfig (host : Host) (cli file : RawConfig) (defaults : Defaults)
    (kubernetes : KubernetesConfig) : Except InitError Unit × KubernetesConfig :=
  let k := ((kubernetesDefaults host defaults kubernetes).overrideFields file.kubernetes).overrideFields
    cli.kubernetes
  (checkKubernetesConfig host k, k)

/-- The `rawOvnAuthConfig` `buildOvnAuth` hands to `newOvnDBAuth`: the command line's address,
else the file's, else (if `readAddress`) the external id; default key paths for an address that
starts with `ssl`; then the file's and the command line's fields over them. -/
def buildOvnAuth.rawAuth (host : Host) (direction : String) (cliAuth confAuth : RawOvnAuthConfig)
    (readAddress : Bool) : RawOvnAuthConfig :=
  let address := if cliAuth.address ≠ "" then cliAuth.address else confAuth.address
  let address := if address = "" ∧ readAddress then host.externalID ("ovn-" ++ direction)
    else address
  let auth : RawOvnAuthConfig :=
    if hasPrefix address "ssl" then
      ⟨address, "/etc/openvswitch/ovn" ++ direction ++ "-privkey.pem",
        "/etc/openvswitch/ovn" ++ direction ++ "-cert.pem",
        "/etc/openvswitch/ovn" ++ direction ++ "-ca.cert"⟩
    else ⟨address, "", "", ""⟩
  (auth.overrideFields confAuth).overrideFields cliAuth

/-- `buildOvnAuth(exec, direction, externalID, cliAuth, confAuth, readAddress)`. -/
def buildOvnAuth (host : Host) (direction externalID : String)
    (cliAuth confAuth : RawOvnAuthConfig) (readAddress : Bool) :
    Except DBAuthError OvnAuthConfig :=
  let auth := buildOvnAuth.rawAuth host direction cliAuth confAuth readAddress
  match newOvnDBAuth ("ovn-" ++ direction ++ "ctl") externalID auth.address auth.clientPrivKey
      auth.clientCert auth.clientCACert with
  | .error err => .error err
  | .ok clientAuth => .ok ⟨some clientAuth⟩

/-- `InitConfigWithPath(ctx, exec, configFile, defaults)` from the globals `g`: the returned path
or the error, and the globals as the call leaves them. -/
def initConfigWithPath (host : Host) (cliConfig : RawConfig) (configFile : String)
    (defaults : Option Defaults) (g : Globals) : Except InitError String × Globals :=
  let (configFile, configFileIsDefault) := resolveConfigFile host configFile
  let retConfigFile := if configFileIsDefault then "" else configFile
  match readConfig host configFile configFileIsDefault with
  | .error err => (.error err, g)
  | .ok cfg =>
    let defaults := defaults.getD default
    let g := { g with
      default := (g.default.overrideFields cfg.default).overrideFields cliConfig.default
      cni := (g.cni.overrideFields cfg.cni).overrideFields cliConfig.cni
      logging := (g.logging.overrideFields cfg.logging).overrideFields cliConfig.logging }
    let (checked, kubernetes) := buildKubernetesConfig host cliConfig cfg defaults g.kubernetes
    let g := { g with kubernetes }
    match checked with
    | .error err => (.error err, g)
    | .ok () =>
      match buildOvnAuth host "nb" "ovn-nb" cliConfig.ovnNorth cfg.ovnNorth
          defaults.ovnNorthAddress with
      | .error err => (.error (.ovnAuth err), { g with ovnNorth := ⟨none⟩ })
      | .ok ovnNorth =>
        let g := { g with ovnNorth }
        match buildOvnAuth host "sb" "ovn-remote" cliConfig.ovnSouth cfg.ovnSouth false with
        | .error err => (.error (.ovnAuth err), { g with ovnSouth := ⟨none⟩ })
        | .ok ovnSouth => (.ok retConfigFile, { g with ovnSouth })

/-! ### `UpdateOvnNodeAuth` -/

/-- The errors of `UpdateOvnNodeAuth`. -/
inductive NodeAuthError
  /-- `"failed to update OvnNorth ClientAuth URL: %v"` -/
  | north (err : UpdateIPError)
  /-- `"failed to update OvnSouth ClientAuth URL: %v"` -/
  | south (err : UpdateIPError)
  /-- The nil dereference of `ClientAuth.updateIP` on a `nil` `ClientAuth`, a Go panic. -/
  | nilClientAuth
  deriving DecidableEq, Repr

/-- `UpdateOvnNodeAuth(masterIP)` from the globals `g`: the result, and the globals as the call
leaves them. -/
def updateOvnNodeAuth (masterIP : String) (g : Globals) : Except NodeAuthError Unit × Globals :=
  match g.ovnNorth.clientAuth with
  | none => (.error .nilClientAuth, g)
  | some north =>
    match north.updateIP masterIP with
    | .error err => (.error (.north err), g)
    | .ok north =>
      let g := { g with ovnNorth := ⟨some north⟩ }
      match g.ovnSouth.clientAuth with
      | none => (.error .nilClientAuth, g)
      | some south =>
        match south.updateIP masterIP with
        | .error err => (.error (.south err), g)
        | .ok south => (.ok (), { g with ovnSouth := ⟨some south⟩ })

/-! ### The layers the package documents -/

/-- The `rawOvnAuthConfig` the layers give one database: the address by `precedence` over the
external id (when `readAddress`) or `""`; each key by `precedence` over the default path when that
address starts with `ssl`, else over `""`. -/
def RawOvnAuthConfig.precedence (host : Host) (direction : String) (readAddress : Bool)
    (file cli : RawOvnAuthConfig) : RawOvnAuthConfig :=
  let address := Config.precedence
    (if readAddress then host.externalID ("ovn-" ++ direction) else "") file.address cli.address
  let key (suffix : String) :=
    if hasPrefix address "ssl" then "/etc/openvswitch/ovn" ++ direction ++ suffix else ""
  ⟨address, Config.precedence (key "-privkey.pem") file.clientPrivKey cli.clientPrivKey,
    Config.precedence (key "-cert.pem") file.clientCert cli.clientCert,
    Config.precedence (key "-ca.cert") file.clientCACert cli.clientCACert⟩

/-- What an `OvnDBAuth` keeps of the `rawOvnAuthConfig` it was built from: the keys as given,
and the address rewritten entry by entry (`""` stays `""`). -/
structure RawOvnAuthConfig.StoredIn (raw : RawOvnAuthConfig) (a : OvnDBAuth) : Prop where
  address : if raw.address = "" then a.ovnAddressForClient = "" else
    List.Forall₂ RewritesTo (split (replaceDoubleSlashes raw.address) ',')
      (split a.ovnAddressForClient ',')
  privKey : a.privKey = raw.clientPrivKey
  cert : a.cert = raw.clientCert
  caCert : a.caCert = raw.clientCACert

/-- The globals the documented precedence gives (built-in defaults, then the OVS external ids,
then the config file record `file`, then the command line `cli`) over the globals `g`: field by
field for `Default`, `CNI`, `Logging` and `Kubernetes`, and for each OVN database a client auth
that keeps the layered address and keys. -/
structure LayeredGlobals (host : Host) (cli file : RawConfig) (defaults : Defaults) (g g' : Globals) :
    Prop where
  default : g'.default = g.default.precedence file.default cli.default
  cni : g'.cni = g.cni.precedence file.cni cli.cni
  logging : g'.logging = g.logging.precedence file.logging cli.logging
  kubernetes : g'.kubernetes = KubernetesConfig.precedence
    { g.kubernetes with
      caCert := if defaults.k8sCert then host.externalID "k8s-ca-certificate"
        else g.kubernetes.caCert
      apiServer := if defaults.k8sAPIServer then host.externalID "k8s-api-server"
        else g.kubernetes.apiServer
      token := if defaults.k8sToken then host.externalID "k8s-api-token"
        else g.kubernetes.token }
    file.kubernetes cli.kubernetes
  ovnNorth : ∃ north, g'.ovnNorth = ⟨some north⟩ ∧
    (RawOvnAuthConfig.precedence host "nb" defaults.ovnNorthAddress file.ovnNorth
      cli.ovnNorth).StoredIn north
  ovnSouth : ∃ south, g'.ovnSouth = ⟨some south⟩ ∧
    (RawOvnAuthConfig.precedence host "sb" false file.ovnSouth cli.ovnSouth).StoredIn south

/-! ### What a run leaves -/

theorem kubernetesDefaults_eq (host : Host) (defaults : Defaults) (k : KubernetesConfig) :
    kubernetesDefaults host defaults k = { k with
      caCert := if defaults.k8sCert then host.externalID "k8s-ca-certificate" else k.caCert
      apiServer := if defaults.k8sAPIServer then host.externalID "k8s-api-server" else k.apiServer
      token := if defaults.k8sToken then host.externalID "k8s-api-token" else k.token } := by
  unfold kubernetesDefaults
  cases defaults.k8sAPIServer <;> cases defaults.k8sToken <;> cases defaults.k8sCert <;> rfl

theorem rawAuth_eq_precedence (host : Host) (direction : String) (cliAuth confAuth : RawOvnAuthConfig)
    (readAddress : Bool) :
    buildOvnAuth.rawAuth host direction cliAuth confAuth readAddress =
      RawOvnAuthConfig.precedence host direction readAddress confAuth cliAuth := by
  have ha : (let address := if cliAuth.address ≠ "" then cliAuth.address else confAuth.address
      if address = "" ∧ readAddress then host.externalID ("ovn-" ++ direction) else address) =
      precedence (if readAddress then host.externalID ("ovn-" ++ direction) else "")
        confAuth.address cliAuth.address := by
    unfold precedence
    by_cases hc : cliAuth.address = "" <;> by_cases hf : confAuth.address = "" <;>
      cases readAddress <;> simp_all [show (default : String) = "" from rfl]
  simp only [buildOvnAuth.rawAuth, RawOvnAuthConfig.precedence] at ha ⊢
  rw [ha]
  split_ifs <;>
    simp only [RawOvnAuthConfig.overrideFields, overrideField_overrideField, precedence_precedence]

theorem storedIn_of_newOvnDBAuth {ctlCmd externalID urlString privkey cert cacert : String}
    {a : OvnDBAuth} (h : newOvnDBAuth ctlCmd externalID urlString privkey cert cacert = .ok a) :
    RawOvnAuthConfig.StoredIn ⟨urlString, privkey, cert, cacert⟩ a := by
  obtain ⟨hk, hc, hca⟩ := newOvnDBAuth_keys_eq h
  refine ⟨?_, hk, hc, hca⟩
  split
  · rename_i hu
    subst hu
    rw [newOvnDBAuth, if_pos rfl] at h
    split_ifs at h
    cases h
    rfl
  · exact (newOvnDBAuth_normalizes ‹_› h).1

theorem buildOvnAuth_eq_ok {host : Host} {direction externalID : String}
    {cliAuth confAuth : RawOvnAuthConfig} {readAddress : Bool} {o : OvnAuthConfig} :
    buildOvnAuth host direction externalID cliAuth confAuth readAddress = .ok o ↔
      ∃ a, (let auth := buildOvnAuth.rawAuth host direction cliAuth confAuth readAddress
        newOvnDBAuth ("ovn-" ++ direction ++ "ctl") externalID auth.address auth.clientPrivKey
          auth.clientCert auth.clientCACert = .ok a) ∧ o = ⟨some a⟩ := by
  dsimp only [buildOvnAuth]
  split <;> rename_i heq <;> simp [heq, eq_comm]

/-- **What a successful `InitConfigWithPath` is made of**: the config file record it read, the
Kubernetes checks passing, both databases built by `buildOvnAuth`, and the globals these give. -/
theorem initConfigWithPath_run {host : Host} {cliConfig : RawConfig} {configFile : String}
    {defaults : Option Defaults} {g g' : Globals} {r : String}
    (h : initConfigWithPath host cliConfig configFile defaults g = (.ok r, g')) :
    ∃ file north south,
      readConfig host (resolveConfigFile host configFile).1
        (resolveConfigFile host configFile).2 = .ok file ∧
      buildOvnAuth host "nb" "ovn-nb" cliConfig.ovnNorth file.ovnNorth
        (defaults.getD default).ovnNorthAddress = .ok north ∧
      buildOvnAuth host "sb" "ovn-remote" cliConfig.ovnSouth file.ovnSouth false = .ok south ∧
      g' = { g with
        default := (g.default.overrideFields file.default).overrideFields cliConfig.default
        cni := (g.cni.overrideFields file.cni).overrideFields cliConfig.cni
        logging := (g.logging.overrideFields file.logging).overrideFields cliConfig.logging
        kubernetes := ((kubernetesDefaults host (defaults.getD default) g.kubernetes).overrideFields
          file.kubernetes).overrideFields cliConfig.kubernetes
        ovnNorth := north
        ovnSouth := south } := by
  unfold initConfigWithPath at h
  generalize resolveConfigFile host configFile = rc at h ⊢
  obtain ⟨path, isDefault⟩ := rc
  cases hread : readConfig host path isDefault with
  | error err => simp [hread] at h
  | ok file =>
    simp only [hread, buildKubernetesConfig] at h
    split at h
    · simp at h
    cases hn : buildOvnAuth host "nb" "ovn-nb" cliConfig.ovnNorth file.ovnNorth
      (defaults.getD default).ovnNorthAddress with
    | error err => simp [hn] at h
    | ok north =>
      cases hs : buildOvnAuth host "sb" "ovn-remote" cliConfig.ovnSouth file.ovnSouth false with
      | error err => simp [hn, hs] at h
      | ok south =>
        simp only [hn, hs, Prod.mk.injEq] at h
        exact ⟨file, north, south, rfl, hn, hs, h.2.symm⟩

/-- **A successful `InitConfigWithPath` follows the documented precedence**: for the config file
record it read (the zero record for a missing default file), each field of `Default`, `CNI`,
`Logging` and `Kubernetes` is the command line's value unless zero, else the file's unless zero,
else the external id's (for a Kubernetes field whose `Defaults` flag is set) or the global's; each
OVN database keeps the address and keys chosen the same way, the address as `newOvnDBAuth`
rewrites it. -/
theorem initConfigWithPath_eq_ok {host : Host} {cliConfig : RawConfig} {configFile : String}
    {defaults : Option Defaults} {g g' : Globals} {r : String}
    (h : initConfigWithPath host cliConfig configFile defaults g = (.ok r, g')) :
    ∃ file : RawConfig,
      readConfig host (resolveConfigFile host configFile).1
        (resolveConfigFile host configFile).2 = .ok file ∧
      LayeredGlobals host cliConfig file (defaults.getD default) g g' := by
  obtain ⟨file, north, south, hread, hn, hs, rfl⟩ := initConfigWithPath_run h
  obtain ⟨a, ha, rfl⟩ := buildOvnAuth_eq_ok.1 hn
  obtain ⟨b, hb, rfl⟩ := buildOvnAuth_eq_ok.1 hs
  simp only [rawAuth_eq_precedence] at ha hb
  exact ⟨file, hread, rfl, rfl, rfl, by rw [kubernetesDefaults_eq]; rfl,
    ⟨a, rfl, storedIn_of_newOvnDBAuth ha⟩, ⟨b, rfl, storedIn_of_newOvnDBAuth hb⟩⟩

/-- A node with no config file, no OVS external ids and no files on disk. -/
def bareHost : Host where
  configFileFlag := ""
  goos := "linux"
  ovsSysconfdir := ""
  filepathJoin := fun dir file => dir ++ "/" ++ file
  openConfigFile := fun path => some ("open " ++ path ++ ": no such file or directory")
  parseConfigFile := fun _ => .ok default
  externalID := fun _ => ""
  pathExists := fun _ => false
  urlError := fun _ => none

/-- The northbound address the command line gives in URL form is stored rewritten. -/
theorem initConfigWithPath_rewrites_cli_address :
    initConfigWithPath bareHost
        { (default : RawConfig) with ovnNorth := ⟨"tcp://1.2.3.4:6641", "", "", ""⟩ }
        "" none restoreDefaultConfig =
      (.ok "", { restoreDefaultConfig with
        ovnNorth := ⟨some ⟨"tcp:1.2.3.4:6641", "", "", "", .tcp, "ovn-nbctl", "ovn-nb"⟩⟩
        ovnSouth := ⟨some ⟨"", "", "", "", .unix, "ovn-sbctl", "ovn-remote"⟩⟩ }) := by
  decide

theorem initConfigWithPath_eq_ok_bare :
    let cli : RawConfig :=
      { (default : RawConfig) with ovnNorth := ⟨"ssl:1.2.3.4:6641", "", "", ""⟩ }
    let g' : Globals := { restoreDefaultConfig with
      ovnNorth := ⟨some ⟨"ssl:1.2.3.4:6641", "/etc/openvswitch/ovnnb-privkey.pem",
        "/etc/openvswitch/ovnnb-cert.pem", "/etc/openvswitch/ovnnb-ca.cert", .ssl, "ovn-nbctl",
        "ovn-nb"⟩⟩
      ovnSouth := ⟨some ⟨"", "", "", "", .unix, "ovn-sbctl", "ovn-remote"⟩⟩ }
    initConfigWithPath bareHost cli "" none restoreDefaultConfig = (.ok "", g') ∧
    ∃ file : RawConfig,
      readConfig bareHost (resolveConfigFile bareHost "").1
        (resolveConfigFile bareHost "").2 = .ok file ∧
      LayeredGlobals bareHost cli file ((none : Option Defaults).getD default)
        restoreDefaultConfig g' := by
  intro cli g'
  have h : initConfigWithPath bareHost cli "" none restoreDefaultConfig = (.ok "", g') := by
    decide
  exact ⟨h, initConfigWithPath_eq_ok h⟩

/-- **What a failed `UpdateOvnNodeAuth` leaves**, from two client auths: the southbound one as it
was, and the northbound one as it was unless the southbound update is what failed, in which case
the northbound one is already updated. -/
theorem updateOvnNodeAuth_error {masterIP : String} {g g' : Globals} {north south : OvnDBAuth}
    {e : NodeAuthError} (hn : g.ovnNorth.clientAuth = some north)
    (hs : g.ovnSouth.clientAuth = some south)
    (h : updateOvnNodeAuth masterIP g = (.error e, g')) :
    g'.ovnSouth = g.ovnSouth ∧
      ((∃ err, e = .north err) ∧ g' = g ∨
        (∃ err, e = .south err) ∧ ∃ north', north.updateIP masterIP = .ok north' ∧
          g' = { g with ovnNorth := ⟨some north'⟩ }) := by
  unfold updateOvnNodeAuth at h
  rw [hn] at h
  cases hu : north.updateIP masterIP with
  | error err =>
    simp only [hu, Prod.mk.injEq, Except.error.injEq] at h
    obtain ⟨rfl, rfl⟩ := h
    exact ⟨rfl, .inl ⟨⟨err, rfl⟩, rfl⟩⟩
  | ok north' =>
    simp only [hu, hs] at h
    cases hv : south.updateIP masterIP with
    | error err =>
      simp only [hv, Prod.mk.injEq, Except.error.injEq] at h
      obtain ⟨rfl, rfl⟩ := h
      exact ⟨rfl, .inr ⟨⟨err, rfl⟩, north', rfl, rfl⟩⟩
    | ok south' => simp [hv] at h

/-- A single northbound address and a two-entry southbound one, as `InitConfig` builds them:
`UpdateOvnNodeAuth` fails on the southbound one after it has rewritten the northbound one. -/
theorem updateOvnNodeAuth_partial :
    initConfigWithPath bareHost
        { (default : RawConfig) with
          ovnNorth := ⟨"tcp:1.2.3.4:6641", "", "", ""⟩
          ovnSouth := ⟨"tcp:1.2.3.4:6642,tcp:1.2.3.5:6642", "", "", ""⟩ }
        "" none restoreDefaultConfig =
      (.ok "", { restoreDefaultConfig with
        ovnNorth := ⟨some ⟨"tcp:1.2.3.4:6641", "", "", "", .tcp, "ovn-nbctl", "ovn-nb"⟩⟩
        ovnSouth := ⟨some ⟨"tcp:1.2.3.4:6642,tcp:1.2.3.5:6642", "", "", "", .tcp, "ovn-sbctl",
          "ovn-remote"⟩⟩ }) ∧
    updateOvnNodeAuth "10.0.0.1" { restoreDefaultConfig with
        ovnNorth := ⟨some ⟨"tcp:1.2.3.4:6641", "", "", "", .tcp, "ovn-nbctl", "ovn-nb"⟩⟩
        ovnSouth := ⟨some ⟨"tcp:1.2.3.4:6642,tcp:1.2.3.5:6642", "", "", "", .tcp, "ovn-sbctl",
          "ovn-remote"⟩⟩ } =
      (.error (.south ⟨"tcp:1.2.3.4:6642,tcp:1.2.3.5:6642"⟩), { restoreDefaultConfig with
        ovnNorth := ⟨some ⟨"tcp:10.0.0.16641", "", "", "", .tcp, "ovn-nbctl", "ovn-nb"⟩⟩
        ovnSouth := ⟨some ⟨"tcp:1.2.3.4:6642,tcp:1.2.3.5:6642", "", "", "", .tcp, "ovn-sbctl",
          "ovn-remote"⟩⟩ }) := by
  decide

theorem updateOvnNodeAuth_error_two_addresses :
    let g : Globals := { restoreDefaultConfig with
      ovnNorth := ⟨some ⟨"tcp:1.2.3.4:6641", "", "", "", .tcp, "ovn-nbctl", "ovn-nb"⟩⟩
      ovnSouth := ⟨some ⟨"tcp:1.2.3.4:6642,tcp:1.2.3.5:6642", "", "", "", .tcp, "ovn-sbctl",
        "ovn-remote"⟩⟩ }
    let g' : Globals := { g with
      ovnNorth := ⟨some ⟨"tcp:10.0.0.16641", "", "", "", .tcp, "ovn-nbctl", "ovn-nb"⟩⟩ }
    updateOvnNodeAuth "10.0.0.1" g =
        (.error (.south ⟨"tcp:1.2.3.4:6642,tcp:1.2.3.5:6642"⟩), g') ∧
      g'.ovnSouth = g.ovnSouth ∧
      ((∃ err, NodeAuthError.south ⟨"tcp:1.2.3.4:6642,tcp:1.2.3.5:6642"⟩ = .north err) ∧ g' = g ∨
        (∃ err, NodeAuthError.south ⟨"tcp:1.2.3.4:6642,tcp:1.2.3.5:6642"⟩ = .south err) ∧
          ∃ north', OvnDBAuth.updateIP
            ⟨"tcp:1.2.3.4:6641", "", "", "", .tcp, "ovn-nbctl", "ovn-nb"⟩ "10.0.0.1" = .ok north' ∧
            g' = { g with ovnNorth := ⟨some north'⟩ }) := by
  intro g g'
  have h : updateOvnNodeAuth "10.0.0.1" g =
      (.error (.south ⟨"tcp:1.2.3.4:6642,tcp:1.2.3.5:6642"⟩), g') := by
    decide
  exact ⟨h, updateOvnNodeAuth_error rfl rfl h⟩

end OvnKubernetes.Config
