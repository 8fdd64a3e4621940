import OvnKubernetes.Config.Init
import OvnKubernetes.Cluster.Subnet
import OvnKubernetes.OvnKube.PidFile
import OvnKubernetes.Go.Net.Format

/-!
# `runOvnKube` and the exit status of `ovnkube`

`runOvnKube` is the action of `ovnkube`: it reads the configuration with `InitConfig`, sets up
the pidfile, makes the Kubernetes clientset and the watch factory, and then starts what the mode
flags ask for. `--init-master` and `--init-node` configure a cluster controller from the gateway
flags, `--ha`, `--cluster-subnet` and `--service-cluster-ip-range`, and start the master and the
node; `--net-controller` starts the OVN controller, after rebuilding the OVN databases if the
cluster controller is in HA mode. With any mode it then blocks in `select {}`; with none it
returns. Every failure past `InitConfig` panics.

The packages `runOvnKube` calls into are not under src/: `Services` answers for them, and the
run records the controller calls it makes (`Call`). `exitStatus` is what `main` and the Go runtime
make of the outcome.

`runOvnKube_inv` says once what a run can do; from it: a controller is only started with the
cluster network `parseClusterNetwork` builds, a master off Windows and a node with a token
(`runOvnKube_starts`); `ovnkube` exits with status 0 exactly when it is given no mode
(`runOvnKube_exitStatus_zero`); without `--init-master` and `--init-node` the cluster flags,
`--ha` included, change nothing (`runOvnKube_ignores_cluster_flags`); the pidfile holds its pid
while it runs and is gone when it ends (`runOvnKube_pidfile`); and the service subnet every
started controller gets is text that `ParseCIDR` reads back as the parsed range
(`runOvnKube_clusterServicesSubnet`).
-/

namespace OvnKubernetes.OvnKube

open Net Config Cluster

/-! ### What `runOvnKube` reads and calls -/

/-- The flags `runOvnKube` reads itself, with `ctx.String`, `ctx.Bool` and `ctx.Uint`. -/
structure RunFlags where
  netController : Bool
  initMaster : String
  initNode : String
  pidfile : String
  ha : Bool
  clusterSubnet : String
  serviceClusterIPRange : String
  initGateways : Bool
  gatewayInterface : String
  gatewayNexthop : String
  gatewaySpareInterface : Bool
  gatewayLocal : Bool
  gatewayVlanid : Nat
  nodeport : Bool
  deriving DecidableEq, Repr

/-- The fields of `ovncluster.OvnClusterController` that `runOvnKube` sets. -/
structure ClusterController where
  gatewayInit : Bool
  gatewayIntf : String
  gatewayNextHop : String
  gatewaySpareIntf : Bool
  localnetGateway : Bool
  gatewayVLANID : Nat
  ovnHA : Bool
  clusterIPNet : List CIDRNetworkEntry
  /-- `ClusterServicesSubnet = servicesSubnet.String()`. -/
  clusterServicesSubnet : String
  nodePortEnable : Bool
  deriving DecidableEq, Repr

/-- What `runOvnKube` calls outside src/, each answering with the error it returns (`none` for
nil). Each is called at most once in a run, so answers that do not depend on what came before
lose nothing. -/
structure Services where
  /-- `util.SetExec(exec)` -/
  setExec : Option String
  /-- `util.NewClientset(&config.Kubernetes)` -/
  newClientset : KubernetesConfig → Option String
  /-- `factory.NewWatchFactory(clientset, stopChan)` -/
  newWatchFactory : Option String
  /-- `ovncluster.NewClusterController(clientset, factory)` -/
  newClusterController : ClusterController
  /-- `clusterController.StartClusterMaster(master)` -/
  startClusterMaster : ClusterController → String → Option String
  /-- `clusterController.StartClusterNode(node)` -/
  startClusterNode : ClusterController → String → Option String
  /-- `clusterController.RebuildOVNDatabase(master, ovnController)` -/
  rebuildOVNDatabase : ClusterController → String → Option String
  /-- `ovn.NewOvnController(clientset, factory, nodePortEnable).Run()` -/
  runOvnController : Bool → Option String

/-- A controller call `runOvnKube` makes, with the cluster controller as it is then. -/
inductive Call
  | startClusterMaster (cc : ClusterController) (master : String)
  | startClusterNode (cc : ClusterController) (node : String)
  | rebuildOVNDatabase (cc : ClusterController) (master : String)
  | runOvnController (nodePortEnable : Bool)
  deriving DecidableEq, Repr

/-- The `panic`s of `runOvnKube`, with what they print. -/
inductive Panic
  | clientset (err : String)
  | watchFactory (err : String)
  | clusterSubnet (err : ClusterSubnetError)
  | serviceSubnet (err : ParseError)
  /-- `"Windows is not supported as master node"` -/
  | windowsMaster
  /-- `"Cannot initialize node without service account 'token'. ..."` -/
  | noToken
  | startMaster (err : String)
  | startNode (err : String)
  | rebuild (err : String)
  | ovnController (err : String)
  deriving DecidableEq, Repr

/-- The errors `runOvnKube` returns. -/
inductive RunError
  | initConfig (err : InitError)
  | setExec (err : String)
  /-- `setupPIDFile`'s: the pidfile exists but cannot be read. -/
  | pidfile
  deriving DecidableEq, Repr

/-- How `runOvnKube` ends. -/
inductive Outcome
  /-- `return err`, or `return nil` for `none`. -/
  | returned (err : Option RunError)
  | panicked (p : Panic)
  /-- `os.Exit(1)` in `setupPIDFile`: the pidfile holds a running pid. -/
  | exited
  /-- `select {}`: the controllers run until the process is stopped. -/
  | blocked
  deriving DecidableEq, Repr

/-- The exit status of `ovnkube` after `runOvnKube` ends as `o`, `none` while it runs: `main`
hands an error to `logrus.Fatal` (status 1) and returns on nil (0), an unrecovered panic ends a
Go program with status 2, and `setupPIDFile` calls `os.Exit(1)`. -/
def exitStatus : Outcome → Option Nat
  | .returned none => some 0
  | .returned (some _) => some 1
  | .panicked _ => some 2
  | .exited => some 1
  | .blocked => none

/-! ### `runOvnKube` -/

/-- Two steps that may panic, one after the other: the calls of both, unless the first panics. -/
def andThen (x y : Option Panic × List Call) : Option Panic × List Call :=
  match x with
  | (some p, calls) => (some p, calls)
  | (none, calls) => (y.1, calls ++ y.2)

/-- The cluster controller as `--init-master` and `--init-node` set it up: the gateway flags and
`--ha`, the parsed `--cluster-subnet` and `--service-cluster-ip-range`, and `--nodeport`. -/
def configureClusterController (flags : RunFlags) (cc : ClusterController) :
    Except Panic ClusterController :=
  let cc := { cc with
    gatewayInit := flags.initGateways, gatewayIntf := flags.gatewayInterface,
    gatewayNextHop := flags.gatewayNexthop, gatewaySpareIntf := flags.gatewaySpareInterface,
    localnetGateway := flags.gatewayLocal, gatewayVLANID := flags.gatewayVlanid,
    ovnHA := flags.ha }
  match parseClusterSubnetEntries flags.clusterSubnet with
  | .error err => .error (.clusterSubnet err)
  | .ok clusterIPNet =>
    let cc := { cc with clusterIPNet := clusterIPNet }
    let cc : Except Panic ClusterController :=
      if flags.serviceClusterIPRange ≠ "" then
        match parseCIDR flags.serviceClusterIPRange with
        | .error err => .error (.serviceSubnet err)
        | .ok (_, servicesSubnet) => .ok { cc with clusterServicesSubnet := servicesSubnet.string }
      else .ok cc
    cc.map fun cc => { cc with nodePortEnable := flags.nodeport }

/-- The `if master != ""` block. -/
def startMaster (host : Host) (master : String) (svc : Services) (cc : ClusterController) :
    Option Panic × List Call :=
  if master ≠ "" then
    if host.goos = "windows" then (some .windowsMaster, [])
    else ((svc.startClusterMaster cc master).map .startMaster, [.startClusterMaster cc master])
  else (none, [])

/-- The `if node != ""` block, with `config.Kubernetes.Token`. -/
def startNode (token node : String) (svc : Services) (cc : ClusterController) :
    Option Panic × List Call :=
  if node ≠ "" then
    if token = "" then (some .noToken, [])
    else ((svc.startClusterNode cc node).map .startNode, [.startClusterNode cc node])
  else (none, [])

/-- The `if master != "" || node != ""` block: the panic or the starts, and the cluster
controller it leaves (`NewClusterController`'s where the block does not run). -/
def initCluster (host : Host) (k : KubernetesConfig) (flags : RunFlags) (svc : Services) :
    Option Panic × List Call × ClusterController :=
  if flags.initMaster ≠ "" ∨ flags.initNode ≠ "" then
    match configureClusterController flags svc.newClusterController with
    | .error p => (some p, [], svc.newClusterController)
    | .ok cc =>
      let r := andThen (startMaster host flags.initMaster svc cc)
        (startNode k.token flags.initNode svc cc)
      (r.1, r.2, cc)
  else (none, [], svc.newClusterController)

/-- The `if netController` block. -/
def runNetController (flags : RunFlags) (svc : Services) (cc : ClusterController) :
    Option Panic × List Call :=
  if flags.netController then
    andThen
      (if cc.ovnHA then
        ((svc.rebuildOVNDatabase cc flags.initMaster).map .rebuild,
          [.rebuildOVNDatabase cc flags.initMaster])
      else (none, []))
      ((svc.runOvnController flags.nodeport).map .ovnController,
        [.runOvnController flags.nodeport])
  else (none, [])

/-- The end of `runOvnKube`: the panic of a controller block, else `select {}` for a mode, else
`return nil`. -/
def finishRun (flags : RunFlags) : Option Panic × List Call → Outcome × List Call
  | (some p, calls) => (.panicked p, calls)
  | (none, calls) =>
    if flags.initMaster ≠ "" ∨ flags.netController then (.blocked, calls)
    else if flags.initNode ≠ "" then (.blocked, calls)
    else (.returned none, calls)

/-- `runOvnKube` past the pidfile, with `config.Kubernetes` as `k`: the clientset, the watch
factory, the cluster and network controllers, and the end. -/
def runControllers (host : Host) (k : KubernetesConfig) (flags : RunFlags) (svc : Services) :
    Outcome × List Call :=
  match svc.newClientset k with
  | some err => (.panicked (.clientset err), [])
  | none =>
    match svc.newWatchFactory with
    | some err => (.panicked (.watchFactory err), [])
    | none =>
      let r := initCluster host k flags svc
      finishRun flags (andThen (r.1, r.2.1) (runNetController flags svc r.2.2))

/-- The `if pidfile != ""` block of `runOvnKube`. -/
def setupPidfileFlag (pidfile : String) (fs : FileSystem) (pid : Nat) :
    SetupResult × FileSystem :=
  if pidfile ≠ "" then setupPIDFile fs pid pidfile else (.ok, fs)

/-- `runOvnKube(ctx)` in the process `pid`, from the globals `g` and the file system `fs`: how it
ends, the controller calls it makes, and the globals and file system it leaves (while it blocks,
as they are then). `InitConfig(ctx, exec, nil)` is `InitConfigWithPath` with no path and no
defaults; the deferred `delPidfile` runs when it returns or panics. -/
def runOvnKube (host : Host) (cliConfig : RawConfig) (flags : RunFlags) (svc : Services) (pid : Nat)
    (g : Globals) (fs : FileSystem) : Outcome × List Call × Globals × FileSystem :=
  match initConfigWithPath host cliConfig "" none g with
  | (.error err, g) => (.returned (some (.initConfig err)), [], g, fs)
  | (.ok _, g) =>
    match svc.setExec with
    | some err => (.returned (some (.setExec err)), [], g, fs)
    | none =>
      match setupPidfileFlag flags.pidfile fs pid with
      | (.readError, fs) => (.returned (some .pidfile), [], g, delPidfile fs flags.pidfile)
      | (.exit, fs) => (.exited, [], g, fs)
      | (.ok, fs) =>
        match runControllers host g.kubernetes flags svc with
        | (.blocked, calls) => (.blocked, calls, g, fs)
        | (o, calls) => (o, calls, g, delPidfile fs flags.pidfile)

/-! ### Services and flags for the examples -/

/-- Services on which every call succeeds, from a cluster controller with zero fields. -/
def okServices : Services where
  setExec := none
  newClientset _ := none
  newWatchFactory := none
  newClusterController := ⟨false, "", "", false, false, 0, false, [], "", false⟩
  startClusterMaster _ _ := none
  startClusterNode _ _ := none
  rebuildOVNDatabase _ _ := none
  runOvnController _ := none

/-- What `runOvnKube` reads with no flag given: the default of `--cluster-subnet`, and zero
values. -/
def defaultRunFlags : RunFlags :=
  ⟨false, "", "", "", false, "11.11.0.0/16", "", false, "", "", false, false, 0, false⟩

/-! ### What a run does -/

theorem mem_andThen {x y : Option Panic × List Call} {c : Call} (h : c ∈ (andThen x y).2) :
    c ∈ x.2 ∨ c ∈ y.2 := by
  unfold andThen at h
  split at h <;> simp_all

theorem setupPidfileFlag_of_ne_ok {pidfile : String} {fs fs₂ : FileSystem} {pid : Nat}
    {r : SetupResult} (h : setupPidfileFlag pidfile fs pid = (r, fs₂)) (hr : r ≠ .ok) :
    fs₂ = fs := by
  unfold setupPidfileFlag at h
  split_ifs at h
  · obtain ⟨r', h'⟩ := setupPIDFile_eq fs pid pidfile
    rw [h'] at h
    cases h
    simp [hr]
  · cases h
    exact absurd rfl hr

/-- **What one run can do**: stop before the controllers, having started nothing, with an error
or an exit; or pass `InitConfig`, `SetExec` and the pidfile and run the controllers, with the
deferred `delPidfile` unless it blocks. -/
theorem runOvnKube_inv {host : Host} {cliConfig : RawConfig} {flags : RunFlags} {svc : Services}
    {pid : Nat} {g g' : Globals} {fs fs' : FileSystem} {o : Outcome} {calls : List Call}
    (h : runOvnKube host cliConfig flags svc pid g fs = (o, calls, g', fs')) :
    (calls = [] ∧ (o = .exited ∨ ∃ e, o = .returned (some e)) ∧
      (fs' = fs ∨ fs' = delPidfile fs flags.pidfile)) ∨
    ∃ r fs₁, initConfigWithPath host cliConfig "" none g = (.ok r, g') ∧ svc.setExec = none ∧
      setupPidfileFlag flags.pidfile fs pid = (.ok, fs₁) ∧
      runControllers host g'.kubernetes flags svc = (o, calls) ∧
      (o = .blocked ∧ fs' = fs₁ ∨ o ≠ .blocked ∧ fs' = delPidfile fs₁ flags.pidfile) := by
  unfold runOvnKube at h
  split at h
  · cases h
    exact .inl ⟨rfl, .inr ⟨_, rfl⟩, .inl rfl⟩
  rename_i r g₁ hi
  split at h
  · cases h
    exact .inl ⟨rfl, .inr ⟨_, rfl⟩, .inl rfl⟩
  rename_i he
  split at h <;> rename_i fs₂ hp
  · simp only [Prod.mk.injEq] at h
    obtain ⟨rfl, rfl, rfl, rfl⟩ := h
    exact .inl ⟨rfl, .inr ⟨_, rfl⟩, .inr (by rw [setupPidfileFlag_of_ne_ok hp (by simp)])⟩
  · simp only [Prod.mk.injEq] at h
    obtain ⟨rfl, rfl, rfl, rfl⟩ := h
    exact .inl ⟨rfl, .inl rfl, .inl (setupPidfileFlag_of_ne_ok hp (by simp))⟩
  · split at h <;> simp only [Prod.mk.injEq] at h <;> obtain ⟨rfl, rfl, rfl, rfl⟩ := h
    · exact .inr ⟨r, _, hi, he, hp, ‹_›, .inl ⟨rfl, rfl⟩⟩
    · exact .inr ⟨r, _, hi, he, hp, ‹_›, .inr ⟨‹_›, rfl⟩⟩

-- Two overlapping `--cluster-subnet` entries with a mode: a panic before any controller starts,
-- and status 2.
example :
    let flags : RunFlags :=
      { defaultRunFlags with initMaster := "m", clusterSubnet := "10.0.0.0/8,10.1.0.0/16" }
    let r := runOvnKube bareHost default flags okServices 100 restoreDefaultConfig emptySystem.fs
    r.1 = .panicked (.clusterSubnet (.overlaps ⟨[10, 1, 0, 0], [255, 255, 0, 0]⟩)) ∧ r.2.1 = [] ∧
      exitStatus r.1 = some 2 := by
  decide

theorem runOvnKube_of_setup {host : Host} {cliConfig : RawConfig} {flags : RunFlags}
    {svc : Services} {pid : Nat} {g g₁ : Globals} {fs fs₁ : FileSystem} {r : String}
    (hi : initConfigWithPath host cliConfig "" none g = (.ok r, g₁)) (he : svc.setExec = none)
    (hp : setupPidfileFlag flags.pidfile fs pid = (.ok, fs₁)) :
    runOvnKube host cliConfig flags svc pid g fs =
      match runControllers host g₁.kubernetes flags svc with
      | (.blocked, calls) => (.blocked, calls, g₁, fs₁)
      | (o, calls) => (o, calls, g₁, delPidfile fs₁ flags.pidfile) := by
  simp only [runOvnKube, hi, he, hp]

theorem exitStatus_eq_zero {o : Outcome} : exitStatus o = some 0 ↔ o = .returned none := by
  rcases o with (_ | _) | _ | _ | _ <;> simp [exitStatus]

/-! ### The controllers -/

theorem configureClusterController_clusterIPNet {flags : RunFlags} {cc₀ cc : ClusterController}
    (h : configureClusterController flags cc₀ = .ok cc) :
    parseClusterSubnetEntries flags.clusterSubnet = .ok cc.clusterIPNet := by
  unfold configureClusterController at h
  split at h
  · cases h
  rename_i entries hr
  rw [hr]
  split_ifs at h
  · split at h <;> cases h
    rfl
  · cases h
    rfl

theorem configureClusterController_clusterServicesSubnet {flags : RunFlags}
    {cc₀ cc : ClusterController} (h : configureClusterController flags cc₀ = .ok cc)
    (hs : flags.serviceClusterIPRange ≠ "") :
    ∃ ip n, parseCIDR flags.serviceClusterIPRange = .ok (ip, n) ∧
      cc.clusterServicesSubnet = n.string := by
  unfold configureClusterController at h
  split at h
  · cases h
  dsimp only at h
  rw [if_pos hs] at h
  split at h
  · cases h
  rename_i ip n hp
  cases h
  exact ⟨ip, n, hp, rfl⟩

theorem mem_initCluster {host : Host} {k : KubernetesConfig} {flags : RunFlags} {svc : Services}
    {c : Call} (h : c ∈ (initCluster host k flags svc).2.1) :
    ∃ cc, configureClusterController flags svc.newClusterController = .ok cc ∧
      (c = .startClusterMaster cc flags.initMaster ∧ host.goos ≠ "windows" ∨
        c = .startClusterNode cc flags.initNode ∧ k.token ≠ "") := by
  unfold initCluster at h
  split_ifs at h
  · split at h
    · simp at h
    rename_i cc hcc
    refine ⟨cc, hcc, ?_⟩
    rcases mem_andThen h with h | h
    · unfold startMaster at h
      split_ifs at h with _ hw <;> simp_all
    · unfold startNode at h
      split_ifs at h with _ ht <;> simp_all
  · simp at h

theorem mem_runNetController {flags : RunFlags} {svc : Services} {cc : ClusterController}
    {c : Call} (h : c ∈ (runNetController flags svc cc).2) :
    c = .rebuildOVNDatabase cc flags.initMaster ∨ c = .runOvnController flags.nodeport := by
  unfold runNetController at h
  split_ifs at h
  · rcases mem_andThen h with h | h <;> simp_all
  · rcases mem_andThen h with h | h <;> simp_all
  · simp at h

@[simp]
theorem finishRun_snd (flags : RunFlags) (x : Option Panic × List Call) :
    (finishRun flags x).2 = x.2 := by
  obtain ⟨_ | p, calls⟩ := x
  · simp only [finishRun]
    split_ifs <;> rfl
  · rfl

theorem finishRun_returned_none {flags : RunFlags} {x : Option Panic × List Call} :
    (finishRun flags x).1 = .returned none ↔
      x.1 = none ∧ flags.initMaster = "" ∧ flags.initNode = "" ∧ flags.netController = false := by
  obtain ⟨_ | p, calls⟩ := x
  · simp only [finishRun]
    split_ifs with h₁
    · rcases h₁ with h₁ | h₁ <;> simp_all
    all_goals simp_all
  · simp [finishRun]

theorem mem_runControllers {host : Host} {k : KubernetesConfig} {flags : RunFlags}
    {svc : Services} {c : Call} (h : c ∈ (runControllers host k flags svc).2) :
    c ∈ (initCluster host k flags svc).2.1 ∨
      c ∈ (runNetController flags svc (initCluster host k flags svc).2.2).2 := by
  unfold runControllers at h
  split at h
  · simp at h
  split at h
  · simp at h
  exact mem_andThen (by simpa using h)

theorem runControllers_returned_none {host : Host} {k : KubernetesConfig} {flags : RunFlags}
    {svc : Services} :
    (runControllers host k flags svc).1 = .returned none ↔
      svc.newClientset k = none ∧ svc.newWatchFactory = none ∧ flags.initMaster = "" ∧
        flags.initNode = "" ∧ flags.netController = false := by
  unfold runControllers
  cases hc : svc.newClientset k <;> cases hw : svc.newWatchFactory <;>
    simp only [finishRun_returned_none, true_and, reduceCtorEq, false_and, iff_false]
  · constructor
    · exact fun h => h.2
    · rintro ⟨hm, hn, hnc⟩
      simp [hm, hn, hnc, initCluster, runNetController, andThen]

theorem exists_clusterNetwork {s : String} {r : List CIDRNetworkEntry}
    (h : parseClusterSubnetEntries s = .ok r) :
    ∃ n : ClusterNetwork, parseClusterNetwork s = .ok n ∧ r = n.entries := by
  have hm := parseClusterNetwork_entries s
  rw [h] at hm
  cases hn : parseClusterNetwork s <;> rw [hn] at hm <;> cases hm
  exact ⟨_, rfl, rfl⟩

theorem mem_runOvnKube {host : Host} {cliConfig : RawConfig} {flags : RunFlags} {svc : Services}
    {pid : Nat} {g g' : Globals} {fs fs' : FileSystem} {o : Outcome} {calls : List Call}
    (h : runOvnKube host cliConfig flags svc pid g fs = (o, calls, g', fs')) {c : Call}
    (hc : c ∈ calls) :
    c ∈ (initCluster host g'.kubernetes flags svc).2.1 ∨
      c ∈ (runNetController flags svc (initCluster host g'.kubernetes flags svc).2.2).2 := by
  rcases runOvnKube_inv h with ⟨rfl, -⟩ | ⟨-, -, -, -, -, hrc, -⟩
  · simp at hc
  · exact mem_runControllers (by rw [hrc]; exact hc)

/-! ### What `ovnkube` guarantees -/

/-- **What the cluster controllers are started with**: a master only off Windows, a node only
with a Kubernetes token in the globals `InitConfig` left, each with the name its flag gives and a
controller whose `ClusterIPNet` is the cluster network `parseClusterNetwork` builds from
`--cluster-subnet`: non-empty, in `ParseCIDR` form, pairwise disjoint. -/
theorem runOvnKube_starts {host : Host} {cliConfig : RawConfig} {flags : RunFlags} {svc : Services}
    {pid : Nat} {g g' : Globals} {fs fs' : FileSystem} {o : Outcome} {calls : List Call}
    (h : runOvnKube host cliConfig flags svc pid g fs = (o, calls, g', fs')) :
    (∀ cc master, Call.startClusterMaster cc master ∈ calls →
      master = flags.initMaster ∧ host.goos ≠ "windows" ∧
        ∃ n : ClusterNetwork, parseClusterNetwork flags.clusterSubnet = .ok n ∧
          cc.clusterIPNet = n.entries) ∧
    (∀ cc node, Call.startClusterNode cc node ∈ calls →
      node = flags.initNode ∧ g'.kubernetes.token ≠ "" ∧
        ∃ n : ClusterNetwork, parseClusterNetwork flags.clusterSubnet = .ok n ∧
          cc.clusterIPNet = n.entries) := by
  constructor
  · intro cc master hc
    rcases mem_runOvnKube h hc with h₁ | h₁
    · obtain ⟨cc', hcfg, ⟨⟨⟩, hw⟩ | ⟨⟨⟩, -⟩⟩ := mem_initCluster h₁
      exact ⟨rfl, hw, exists_clusterNetwork (configureClusterController_clusterIPNet hcfg)⟩
    · simpa using mem_runNetController h₁
  · intro cc node hc
    rcases mem_runOvnKube h hc with h₁ | h₁
    · obtain ⟨cc', hcfg, ⟨⟨⟩, -⟩ | ⟨⟨⟩, ht⟩⟩ := mem_initCluster h₁
      exact ⟨rfl, ht, exists_clusterNetwork (configureClusterController_clusterIPNet hcfg)⟩
    · simpa using mem_runNetController h₁

/-- **The controllers' service subnet names the parsed range**: in every run of `runOvnKube` with
`--service-cluster-ip-range` given, every cluster controller it starts, master or node, has as
`ClusterServicesSubnet` the `String()` of the network `ParseCIDR` read from the flag, and for an
IPv4 range `ParseCIDR` reads that text back as the same network. -/
theorem runOvnKube_clusterServicesSubnet {host : Host} {cliConfig : RawConfig} {flags : RunFlags}
    {svc : Services} {pid : Nat} {g g' : Globals} {fs fs' : FileSystem} {o : Outcome}
    {calls : List Call} (h : runOvnKube host cliConfig flags svc pid g fs = (o, calls, g', fs'))
    (hs : flags.serviceClusterIPRange ≠ "") :
    ∀ cc name, (Call.startClusterMaster cc name ∈ calls ∨ Call.startClusterNode cc name ∈ calls) →
      ∃ ip n, parseCIDR flags.serviceClusterIPRange = .ok (ip, n) ∧
        cc.clusterServicesSubnet = n.string ∧
        (n.mask.length = 4 →
          parseCIDR cc.clusterServicesSubnet = .ok (v4InV6Prefix ++ n.ip, n)) := by
  intro cc name hc
  obtain ⟨cc', hcfg, rfl⟩ : ∃ cc', configureClusterController flags svc.newClusterController =
      .ok cc' ∧ cc = cc' := by
    rcases hc with hc | hc <;> rcases mem_runOvnKube h hc with h₁ | h₁
    all_goals first
      | obtain ⟨_, hcfg, ⟨⟨⟩, -⟩ | ⟨⟨⟩, -⟩⟩ := mem_initCluster h₁
        exact ⟨_, hcfg, rfl⟩
      | simpa using mem_runNetController h₁
  obtain ⟨ip, n, hp, heq⟩ := configureClusterController_clusterServicesSubnet hcfg hs
  exact ⟨ip, n, hp, heq, fun h4 => heq ▸ parseCIDR_string_of_parseCIDR hp h4⟩

/-- **`ovnkube` exits with status 0 exactly when it is given no mode**: `runOvnKube` returns nil
exactly when `InitConfig`, `SetExec`, the pidfile, the clientset and the watch factory pass and
none of `--init-master`, `--init-node` and `--net-controller` is given; with one of them it
blocks or fails. -/
theorem runOvnKube_exitStatus_zero {host : Host} {cliConfig : RawConfig} {flags : RunFlags}
    {svc : Services} {pid : Nat} {g g' : Globals} {fs fs' : FileSystem} {o : Outcome}
    {calls : List Call} (h : runOvnKube host cliConfig flags svc pid g fs = (o, calls, g', fs')) :
    exitStatus o = some 0 ↔
      (∃ r, initConfigWithPath host cliConfig "" none g = (.ok r, g')) ∧ svc.setExec = none ∧
        (setupPidfileFlag flags.pidfile fs pid).1 = .ok ∧
        svc.newClientset g'.kubernetes = none ∧ svc.newWatchFactory = none ∧
        flags.initMaster = "" ∧ flags.initNode = "" ∧ flags.netController = false := by
  rw [exitStatus_eq_zero]
  constructor
  · rintro rfl
    rcases runOvnKube_inv h with ⟨-, he | ⟨e, he⟩, -⟩ | ⟨r, fs₁, hi, he, hp, hrc, -⟩
    · cases he
    · cases he
    · exact ⟨⟨r, hi⟩, he, by rw [hp], runControllers_returned_none.1 (by rw [hrc])⟩
  · rintro ⟨⟨r, hi⟩, he, hp, hrest⟩
    rw [runOvnKube_of_setup hi he (Prod.ext hp rfl)] at h
    have hrc : (runControllers host g'.kubernetes flags svc).1 = .returned none :=
      runControllers_returned_none.2 hrest
    cases hx : runControllers host g'.kubernetes flags svc with
    | mk o' calls' =>
      rw [hx] at h hrc
      subst hrc
      simp only [Prod.mk.injEq] at h
      exact h.1.symm

theorem initCluster_of_no_mode {host : Host} {k : KubernetesConfig} {flags : RunFlags}
    {svc : Services} (hm : flags.initMaster = "") (hn : flags.initNode = "") :
    initCluster host k flags svc = (none, [], svc.newClusterController) := by
  simp [initCluster, hm, hn]

/-- **Without `--init-master` and `--init-node`, the cluster flags change nothing**: two flag
sets that agree on `--pidfile`, `--net-controller` and `--nodeport` give the same run, whatever
their gateway flags, `--ha`, `--cluster-subnet` and `--service-cluster-ip-range`. In particular
`--ha` does not make the network controller rebuild the databases. -/
theorem runOvnKube_ignores_cluster_flags {host : Host} {cliConfig : RawConfig}
    {flags flags' : RunFlags} {svc : Services} {pid : Nat} {g : Globals} {fs : FileSystem}
    (hm : flags.initMaster = "") (hn : flags.initNode = "") (hm' : flags'.initMaster = "")
    (hn' : flags'.initNode = "") (hp : flags'.pidfile = flags.pidfile)
    (hnc : flags'.netController = flags.netController) (hnp : flags'.nodeport = flags.nodeport) :
    runOvnKube host cliConfig flags' svc pid g fs = runOvnKube host cliConfig flags svc pid g fs := by
  have hfin : finishRun flags' = finishRun flags := by
    funext x
    obtain ⟨_ | p, calls⟩ := x <;> simp only [finishRun, hm, hm', hn, hn', hnc]
  have hnet : runNetController flags' svc = runNetController flags svc := by
    funext cc
    simp only [runNetController, hnc, hnp, hm, hm']
  have hrc : ∀ k, runControllers host k flags' svc = runControllers host k flags svc := fun k => by
    simp only [runControllers, initCluster_of_no_mode hm hn, initCluster_of_no_mode hm' hn', hnet,
      hfin]
  simp only [runOvnKube, hp, hrc]

theorem runOvnKube_starts_master_node :
    let cli : RawConfig :=
      { (default : RawConfig) with kubernetes := { (default : KubernetesConfig) with token := "t" } }
    let flags : RunFlags := { defaultRunFlags with initMaster := "m", initNode := "n" }
    let r := runOvnKube bareHost cli flags okServices 100 restoreDefaultConfig emptySystem.fs
    r.1 = .blocked ∧ r.2.1.length = 2 ∧
    (∀ cc master, Call.startClusterMaster cc master ∈ r.2.1 →
      master = flags.initMaster ∧ bareHost.goos ≠ "windows" ∧
        ∃ n : ClusterNetwork, parseClusterNetwork flags.clusterSubnet = .ok n ∧
          cc.clusterIPNet = n.entries) ∧
    (∀ cc node, Call.startClusterNode cc node ∈ r.2.1 →
      node = flags.initNode ∧ r.2.2.1.kubernetes.token ≠ "" ∧
        ∃ n : ClusterNetwork, parseClusterNetwork flags.clusterSubnet = .ok n ∧
          cc.clusterIPNet = n.entries) := by
  intro cli flags r
  exact ⟨by decide, by decide, runOvnKube_starts (show runOvnKube bareHost cli flags okServices
    100 restoreDefaultConfig emptySystem.fs = (r.1, r.2.1, r.2.2.1, r.2.2.2) from rfl)⟩

theorem runOvnKube_exitStatus_zero_no_mode :
    let r := runOvnKube bareHost default defaultRunFlags okServices 100 restoreDefaultConfig
      emptySystem.fs
    exitStatus r.1 = some 0 ∧
    (exitStatus r.1 = some 0 ↔
      (∃ s, initConfigWithPath bareHost default "" none restoreDefaultConfig = (.ok s, r.2.2.1)) ∧
        okServices.setExec = none ∧
        (setupPidfileFlag defaultRunFlags.pidfile emptySystem.fs 100).1 = .ok ∧
        okServices.newClientset r.2.2.1.kubernetes = none ∧ okServices.newWatchFactory = none ∧
        defaultRunFlags.initMaster = "" ∧ defaultRunFlags.initNode = "" ∧
        defaultRunFlags.netController = false) := by
  intro r
  exact ⟨by decide, runOvnKube_exitStatus_zero (show runOvnKube bareHost default defaultRunFlags
    okServices 100 restoreDefaultConfig emptySystem.fs = (r.1, r.2.1, r.2.2.1, r.2.2.2) from rfl)⟩

theorem runOvnKube_ignores_cluster_flags_net_controller :
    let flags : RunFlags := { defaultRunFlags with netController := true }
    let flags' : RunFlags :=
      { flags with ha := true, clusterSubnet := "no subnet", gatewayLocal := true }
    flags.initMaster = "" ∧ flags.initNode = "" ∧ flags'.initMaster = "" ∧ flags'.initNode = "" ∧
      flags'.pidfile = flags.pidfile ∧ flags'.netController = flags.netController ∧
      flags'.nodeport = flags.nodeport ∧
      runOvnKube bareHost default flags' okServices 100 restoreDefaultConfig emptySystem.fs =
        runOvnKube bareHost default flags okServices 100 restoreDefaultConfig emptySystem.fs :=
  ⟨rfl, rfl, rfl, rfl, rfl, rfl, rfl,
    runOvnKube_ignores_cluster_flags rfl rfl rfl rfl rfl rfl rfl⟩

theorem runOvnKube_clusterServicesSubnet_master :
    let flags : RunFlags :=
      { defaultRunFlags with initMaster := "m", serviceClusterIPRange := "10.96.0.1/12" }
    let r := runOvnKube bareHost default flags okServices 100 restoreDefaultConfig emptySystem.fs
    flags.serviceClusterIPRange ≠ "" ∧ r.2.1.length = 1 ∧
      ∀ cc name, (Call.startClusterMaster cc name ∈ r.2.1 ∨ Call.startClusterNode cc name ∈ r.2.1) →
        ∃ ip n, parseCIDR flags.serviceClusterIPRange = .ok (ip, n) ∧
          cc.clusterServicesSubnet = n.string ∧
          (n.mask.length = 4 →
            parseCIDR cc.clusterServicesSubnet = .ok (v4InV6Prefix ++ n.ip, n)) := by
  intro flags r
  exact ⟨by decide, by decide, runOvnKube_clusterServicesSubnet (show runOvnKube bareHost default
    flags okServices 100 restoreDefaultConfig emptySystem.fs = (r.1, r.2.1, r.2.2.1, r.2.2.2)
    from rfl) (by decide)⟩

end OvnKubernetes.OvnKube
