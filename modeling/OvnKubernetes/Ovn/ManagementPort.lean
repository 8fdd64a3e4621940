import OvnKubernetes.Go.Net.Format
import OvnKubernetes.Config.Exec

/-!
# The management port of a node

`CreateManagementPort` lets a node reach its pods at their own addresses. It parses the node's
subnet and takes `util.NextIP` of its address for the router port of the node's logical switch
and the address after that for the management port; it creates the OVS internal interface
`util.GetK8sMgmtIntfName(node)` on `br-int`, reads its MAC address, creates the logical switch
port `k8s-<node>` with that MAC and address, reads the MAC of the router port, and calls
`configureManagementPort`. Off Windows, that brings the interface up with the address, flushes
and adds again the route of every cluster subnet and of the service subnet through the router
port, and adds a neighbour entry for the router port, whose error is returned only when
`os.IsNotExist` holds for it. On Windows, `configureManagementPortWindows` does the same with
PowerShell, `netsh` and `route`, and skips each route whose address `route print` shows.

The `util` helpers are not under src/: a `Node` answers each call after the calls before it, and
every function here returns the history of calls extended by its own.

* `configureManagementPort_linux_eq` is the refinement of the code by a script: off Windows,
  `configureManagementPort` runs `linuxSetupCommands` until one fails, then the neighbour entry;
  `configureManagementPort_eq_ok` says when it succeeds and `configureManagementPort_eq_error`
  at which call it fails.
* `NetState.apply` is what each `ip` command does itself, and `NetState.Step` what a successful
  call may do to the node: its own effect, and on the device of a link or address call whatever
  the kernel does along with it (the prefix route of `ip addr add`; the routes and neighbour
  entries through a device that loses its last IPv4 address; the link-local address of a link
  brought up), left open. `NetState.Runs` are the runs of a list of calls, and
  `NetState.Configured` says what the management port is for: the interface up with exactly its
  address, every cluster subnet and the service subnet routed through the router port, the
  router port's neighbour entry, and the other links, the other devices' addresses and the
  neighbour entries on other devices as before. `configureManagementPort_netState`: a successful
  run leaves that, in every run and from any state before; `configureManagementPort_rerun`: so do
  two runs, as on a restart.
* `createManagementPort_netState`: the same for `CreateManagementPort` with the addresses it
  computes, after it has created the logical port with the MAC OVS reported for the interface
  and the port's address.
* `configureManagementPortWindows_routes`: on Windows every subnet parses, and each is added
  through the router port unless `route print` showed its address.
* `createManagementPort_cases` says once what `CreateManagementPort` does before
  `configureManagementPort`. On Windows the port address reaches `New-NetIPAddress` through
  `fmt.Sprintf("%s/%d", ...)`, `ParseCIDR` and `String()`; `parseCIDR_string_of_to4` is that
  round trip, so for an IPv4 port address the interface gets the logical port's address and the
  local subnet's prefix length (`createManagementPort_windows_address`), and
  `"Failed to parse interfaceIP"` never comes out of `CreateManagementPort` for an IPv4 local
  subnet (`createManagementPort_ne_interfaceIP`).
-/

namespace OvnKubernetes.Ovn

open Net Config Strings

/-! ### Calls of the `util` helpers -/

/-- The `util` function a call goes through. `FetchIfMacWindows` runs commands of its own; it is
one call here, whose output is the MAC address. -/
inductive Tool
  | ip
  | powershell
  | netsh
  | route
  | ovsVsctl
  | ovnNbctl
  | fetchIfMacWindows
  deriving DecidableEq, Repr

/-- A call of a `util` helper: which one, and its arguments. -/
structure Cmd where
  tool : Tool
  args : List String
  deriving DecidableEq, Repr

/-- The error a helper returns; `notExist` is `os.IsNotExist(err)`. -/
structure CmdError where
  msg : String
  notExist : Bool
  deriving DecidableEq, Repr

/-- What a helper returns: its standard output, its standard error, and its error. -/
structure Reply where
  stdout : String
  stderr : String
  err : Option CmdError
  deriving DecidableEq, Repr

/-- The node the port is set up on: the reply of each call after the calls before it, and the
`util` functions that call nothing. -/
structure Node where
  reply : List Cmd → Cmd → Reply
  /-- `util.NextIP(ip)` -/
  nextIP : IP → IP
  /-- `util.GetK8sMgmtIntfName(nodeName)` -/
  getK8sMgmtIntfName : String → String

/-- The errors of the management port, one per `fmt.Errorf`, with the values they print. -/
inductive MgmtPortError
  /-- The error of a helper, returned as it is. -/
  | cmd (err : CmdError)
  /-- The error of `strconv.Atoi` on the interface index, returned as it is. -/
  | interfaceIndex (err : Strconv.NumError)
  /-- `"Failed to parse interfaceIP %v : %v"` -/
  | interfaceIP (interfaceIP : String) (err : ParseError)
  /-- `"failed to parse clusterSubnet %v : %v"` -/
  | clusterSubnet (subnet : String) (err : ParseError)
  /-- `"Failed to parse clusterServicesSubnet %v : %v"` -/
  | clusterServicesSubnet (subnet : String) (err : ParseError)
  /-- `"Failed to parse local subnet %s: %v"` -/
  | localSubnet (localSubnet : String) (err : ParseError)
  /-- `"Failed to get mac address of %v"` -/
  | macAddress (interfaceName : String)
  deriving DecidableEq, Repr

/-- A call after the calls `hist`: its reply, and the history with it. -/
def Node.call (node : Node) (c : Cmd) (hist : List Cmd) : Reply × List Cmd :=
  (node.reply hist c, hist ++ [c])

/-- `out, _, err := util.RunX(args...)`, then `if err != nil { return err }`. -/
def Node.run (node : Node) (c : Cmd) (hist : List Cmd) : Except MgmtPortError Reply × List Cmd :=
  match (node.reply hist c).err with
  | some err => (.error (.cmd err), hist ++ [c])
  | none => (.ok (node.reply hist c), hist ++ [c])

/-- Each of `cs` succeeds after `hist` and the ones before it. -/
def Node.runsOk (node : Node) : List Cmd → List Cmd → Bool
  | _, [] => true
  | hist, c :: cs => (node.reply hist c).err.isNone && node.runsOk (hist ++ [c]) cs

/-- The calls `cs` one after the other, each followed by `if err != nil { return err }`. -/
def Node.runScript (node : Node) : List Cmd → List Cmd → Except MgmtPortError Unit × List Cmd
  | [], hist => (.ok (), hist)
  | c :: cs, hist => onSuccess (node.run c hist) id fun _ hist => node.runScript cs hist

theorem Node.run_of_ok {node : Node} {c : Cmd} {hist : List Cmd} (h : (node.reply hist c).err = none) :
    node.run c hist = (.ok (node.reply hist c), hist ++ [c]) := by
  simp [Node.run, h]

theorem Node.run_of_error {node : Node} {c : Cmd} {hist : List Cmd} {err : CmdError}
    (h : (node.reply hist c).err = some err) :
    node.run c hist = (.error (.cmd err), hist ++ [c]) := by
  simp [Node.run, h]

@[simp] theorem Node.call_fst (node : Node) (c : Cmd) (hist : List Cmd) :
    (node.call c hist).1 = node.reply hist c := rfl

@[simp] theorem Node.call_snd (node : Node) (c : Cmd) (hist : List Cmd) :
    (node.call c hist).2 = hist ++ [c] := rfl

theorem Node.onSuccess_run {node : Node} {c : Cmd} {hist hist' : List Cmd} {β : Type}
    {k : Reply → List Cmd → Except MgmtPortError β × List Cmd} {r : Except MgmtPortError β}
    (h : onSuccess (node.run c hist) id k = (r, hist')) :
    (∃ err, (node.reply hist c).err = some err ∧ r = .error (.cmd err) ∧ hist' = hist ++ [c]) ∨
      ((node.reply hist c).err = none ∧ k (node.reply hist c) (hist ++ [c]) = (r, hist')) := by
  cases hc : (node.reply hist c).err with
  | none =>
    rw [Node.run_of_ok hc, onSuccess_ok] at h
    exact .inr ⟨rfl, h⟩
  | some err =>
    rw [Node.run_of_error hc, onSuccess_error] at h
    cases h
    exact .inl ⟨err, rfl, rfl, rfl⟩

theorem onSuccess_assoc {ε α β γ σ : Type} (x : Except ε α × σ) (k : α → σ → Except ε β × σ)
    (k' : β → σ → Except ε γ × σ) :
    onSuccess (onSuccess x id k) id k' = onSuccess x id fun v h => onSuccess (k v h) id k' := by
  obtain ⟨_ | v, h⟩ := x <;> rfl

theorem onSuccess_eq_error {ε α β σ : Type} {x : Except ε α × σ} {k : α → σ → Except ε β × σ}
    {e : ε} {hist' : σ} (h : onSuccess x id k = (.error e, hist')) :
    x = (.error e, hist') ∨ ∃ v hist, x = (.ok v, hist) ∧ k v hist = (.error e, hist') := by
  obtain ⟨_ | v, hist⟩ := x
  · simp only [onSuccess_error, id, Prod.mk.injEq, Except.error.injEq] at h
    obtain ⟨rfl, rfl⟩ := h
    exact .inl rfl
  · exact .inr ⟨v, hist, rfl, h⟩

theorem Node.runScript_append (node : Node) :
    ∀ (cs ds hist : List Cmd), node.runScript (cs ++ ds) hist =
      onSuccess (node.runScript cs hist) id fun _ hist => node.runScript ds hist
  | [], _, _ => rfl
  | c :: cs, ds, hist => by
    rw [List.cons_append, Node.runScript, Node.runScript, onSuccess_assoc]
    congr 1
    funext _ h
    exact Node.runScript_append node cs ds h

theorem Node.runsOk_append (node : Node) :
    ∀ (hist cs ds : List Cmd),
      node.runsOk hist (cs ++ ds) = (node.runsOk hist cs && node.runsOk (hist ++ cs) ds)
  | _, [], _ => by simp [Node.runsOk]
  | hist, c :: cs, ds => by
    simp [Node.runsOk, Node.runsOk_append node _ cs ds, Bool.and_assoc]

theorem Node.runScript_eq_ok {node : Node} :
    ∀ {cs hist hist' : List Cmd},
      node.runScript cs hist = (.ok (), hist') ↔ node.runsOk hist cs ∧ hist' = hist ++ cs
  | [], hist, hist' => by simp [Node.runScript, Node.runsOk, eq_comm]
  | c :: cs, hist, hist' => by
    cases h : (node.reply hist c).err with
    | none => simp [Node.runScript, Node.runsOk, Node.run_of_ok h, h, Node.runScript_eq_ok]
    | some err => simp [Node.runScript, Node.runsOk, Node.run_of_error h, h]

theorem Node.runScript_eq_error {node : Node} {e : MgmtPortError} :
    ∀ {cs hist hist' : List Cmd}, node.runScript cs hist = (.error e, hist') →
      ∃ pre c post err, cs = pre ++ c :: post ∧ node.runsOk hist pre ∧
        (node.reply (hist ++ pre) c).err = some err ∧ e = .cmd err ∧ hist' = hist ++ pre ++ [c]
  | [], _, _, h => by simp [Node.runScript] at h
  | c :: cs, hist, hist', h => by
    cases hc : (node.reply hist c).err with
    | some err =>
      rw [Node.runScript, Node.run_of_error hc, onSuccess_error] at h
      cases h
      exact ⟨[], c, cs, err, rfl, rfl, by simpa using hc, rfl, by simp⟩
    | none =>
      rw [Node.runScript, Node.run_of_ok hc, onSuccess_ok] at h
      obtain ⟨pre, c', post, err, rfl, hok, he, rfl, rfl⟩ := Node.runScript_eq_error h
      exact ⟨c :: pre, c', post, err, rfl, by simp [Node.runsOk, hc, hok], by simpa using he, rfl,
        by simp⟩

/-! ### Sample nodes -/

/-- A node on which every call succeeds: OVS reports the MAC `0a:58:0a:f4:01:02` for the
interface, the router port's is `0a:58:0a:f4:01:01`, PowerShell prints the interface index `7`,
and `route print` prints nothing; `util.NextIP` adds one to the last byte, and the interface of
a node is `k8s-<node>`. -/
def sampleNode : Node where
  reply _ c :=
    match c.tool, c.args with
    | .ovsVsctl, [_, _, _, _, "mac_in_use"] => ⟨"0a:58:0a:f4:01:02", "", none⟩
    | .ovnNbctl, ["lsp-get-addresses", _] => ⟨"0a:58:0a:f4:01:01", "", none⟩
    | .powershell, [_, _, _, _, _, _, _, _, _] => ⟨"7", "", none⟩
    | _, _ => ⟨"", "", none⟩
  nextIP ip := ip.dropLast ++ [ip.getLastD 0 + 1]
  getK8sMgmtIntfName nodeName := "k8s-" ++ nodeName

/-- `bareHost` on Windows. -/
def windowsHost : Host := { bareHost with goos := "windows" }

/-- The node of `sampleNode` on which the management port already has its address, so that
`ip addr add` fails. -/
def addrTakenNode : Node :=
  { sampleNode with
    reply := fun hist c =>
      match c.tool, c.args with
      | .ip, ["addr", "add", _, "dev", _] =>
        ⟨"", "RTNETLINK answers: File exists", some ⟨"exit status 2", false⟩⟩
      | _, _ => sampleNode.reply hist c }

/-! ### `configureManagementPort` off Windows -/

/-- The route of one subnet through the router port: `ip route flush`, then `ip route add`. -/
def routeCommands (routerIP subnet : String) : List Cmd :=
  [⟨.ip, ["route", "flush", subnet]⟩, ⟨.ip, ["route", "add", subnet, "via", routerIP]⟩]

/-- One subnet's block: flush its route (it may have been added before) and add it. -/
def addRoute (node : Node) (routerIP subnet : String) (hist : List Cmd) :
    Except MgmtPortError Unit × List Cmd :=
  onSuccess (node.run ⟨.ip, ["route", "flush", subnet]⟩ hist) id fun _ hist =>
    onSuccess (node.run ⟨.ip, ["route", "add", subnet, "via", routerIP]⟩ hist) id fun _ hist =>
      (.ok (), hist)

/-- The loop over `clusterSubnet`. -/
def addRoutes (node : Node) (routerIP : String) : List String → List Cmd →
    Except MgmtPortError Unit × List Cmd
  | [], hist => (.ok (), hist)
  | subnet :: rest, hist =>
    onSuccess (addRoute node routerIP subnet hist) id fun _ hist => addRoutes node routerIP rest hist

/-- The `ip neigh add` of the router port's MAC. -/
def neighCommand (routerIP routerMac interfaceName : String) : Cmd :=
  ⟨.ip, ["neigh", "add", routerIP, "dev", interfaceName, "lladdr", routerMac]⟩

/-- The neighbour entry: `if err != nil && os.IsNotExist(err) { return err }`. -/
def addNeighbour (node : Node) (routerIP routerMac interfaceName : String) (hist : List Cmd) :
    Except MgmtPortError Unit × List Cmd :=
  let c := neighCommand routerIP routerMac interfaceName
  match (node.reply hist c).err with
  | some err => (if err.notExist then .error (.cmd err) else .ok (), hist ++ [c])
  | none => (.ok (), hist ++ [c])

/-- `configureManagementPort(...)` past `if runtime.GOOS == windowsOS`. -/
def configureManagementPort.linux (node : Node) (clusterSubnet : List String)
    (clusterServicesSubnet routerIP routerMac interfaceName interfaceIP : String)
    (hist : List Cmd) : Except MgmtPortError Unit × List Cmd :=
  onSuccess (node.run ⟨.ip, ["link", "set", interfaceName, "up"]⟩ hist) id fun _ hist =>
  onSuccess (node.run ⟨.ip, ["addr", "flush", "dev", interfaceName]⟩ hist) id fun _ hist =>
  onSuccess (node.run ⟨.ip, ["addr", "add", interfaceIP, "dev", interfaceName]⟩ hist) id
    fun _ hist =>
  onSuccess (addRoutes node routerIP clusterSubnet hist) id fun _ hist =>
  onSuccess (if clusterServicesSubnet ≠ "" then addRoute node routerIP clusterServicesSubnet hist
    else (.ok (), hist)) id fun _ hist =>
  addNeighbour node routerIP routerMac interfaceName hist

/-- The subnets routed through the router port: the cluster subnets, then the service subnet if
there is one. -/
def routedSubnets (clusterSubnet : List String) (clusterServicesSubnet : String) : List String :=
  clusterSubnet ++ if clusterServicesSubnet ≠ "" then [clusterServicesSubnet] else []

/-- The calls of `configureManagementPort` off Windows before the neighbour entry, in order. -/
def linuxSetupCommands (clusterSubnet : List String)
    (clusterServicesSubnet routerIP interfaceName interfaceIP : String) : List Cmd :=
  [⟨.ip, ["link", "set", interfaceName, "up"]⟩, ⟨.ip, ["addr", "flush", "dev", interfaceName]⟩,
    ⟨.ip, ["addr", "add", interfaceIP, "dev", interfaceName]⟩] ++
  (routedSubnets clusterSubnet clusterServicesSubnet).flatMap (routeCommands routerIP)

theorem addRoute_eq (node : Node) (routerIP subnet : String) (hist : List Cmd) :
    addRoute node routerIP subnet hist = node.runScript (routeCommands routerIP subnet) hist := rfl

theorem addRoutes_eq (node : Node) (routerIP : String) :
    ∀ (subnets : List String) (hist : List Cmd),
      addRoutes node routerIP subnets hist =
        node.runScript (subnets.flatMap (routeCommands routerIP)) hist
  | [], _ => rfl
  | subnet :: rest, hist => by
    rw [addRoutes, List.flatMap_cons, Node.runScript_append, addRoute_eq]
    simp only [addRoutes_eq node routerIP rest]

/-- **`configureManagementPort` off Windows is a script**: `linuxSetupCommands` until one fails,
then the neighbour entry. -/
theorem configureManagementPort_linux_eq (node : Node) (clusterSubnet : List String)
    (clusterServicesSubnet routerIP routerMac interfaceName interfaceIP : String)
    (hist : List Cmd) :
    configureManagementPort.linux node clusterSubnet clusterServicesSubnet routerIP routerMac
        interfaceName interfaceIP hist =
      onSuccess (node.runScript (linuxSetupCommands clusterSubnet clusterServicesSubnet routerIP
          interfaceName interfaceIP) hist) id fun _ hist =>
        addNeighbour node routerIP routerMac interfaceName hist := by
  have hsvc : ∀ hist, (if clusterServicesSubnet ≠ "" then
      addRoute node routerIP clusterServicesSubnet hist else (.ok (), hist)) =
      node.runScript ((if clusterServicesSubnet ≠ "" then [clusterServicesSubnet] else []).flatMap
        (routeCommands routerIP)) hist := fun hist => by
    split_ifs <;> simp [addRoute_eq, Node.runScript]
  simp only [configureManagementPort.linux, hsvc, addRoutes_eq]
  simp only [linuxSetupCommands, routedSubnets, List.flatMap_append, Node.runScript_append,
    onSuccess_assoc]
  simp only [Node.runScript, onSuccess_assoc, onSuccess_ok]

theorem addNeighbour_eq_ok {node : Node} {routerIP routerMac interfaceName : String}
    {hist hist' : List Cmd} :
    addNeighbour node routerIP routerMac interfaceName hist = (.ok (), hist') ↔
      (∀ err, (node.reply hist (neighCommand routerIP routerMac interfaceName)).err = some err →
        err.notExist = false) ∧ hist' = hist ++ [neighCommand routerIP routerMac interfaceName] := by
  simp only [addNeighbour]
  cases (node.reply hist (neighCommand routerIP routerMac interfaceName)).err with
  | none => simp [@eq_comm _ hist']
  | some err => cases hn : err.notExist <;> simp [hn, @eq_comm _ hist']

theorem addNeighbour_eq_error {node : Node} {routerIP routerMac interfaceName : String}
    {hist hist' : List Cmd} {e : MgmtPortError}
    (h : addNeighbour node routerIP routerMac interfaceName hist = (.error e, hist')) :
    ∃ err, (node.reply hist (neighCommand routerIP routerMac interfaceName)).err = some err ∧
      err.notExist = true ∧ e = .cmd err ∧
      hist' = hist ++ [neighCommand routerIP routerMac interfaceName] := by
  simp only [addNeighbour] at h
  cases hr : (node.reply hist (neighCommand routerIP routerMac interfaceName)).err with
  | none => simp [hr] at h
  | some err =>
    cases hn : err.notExist <;> simp only [hr, hn, if_true, Prod.mk.injEq] at h
    · simp at h
    · exact ⟨err, rfl, hn, (Except.error.inj h.1).symm, h.2.symm⟩

/-! ### What the `ip` commands do -/

/-- The part of a node the `ip` commands of the management port act on: which links are up, the
addresses of each device, the gateway of the route to each destination, and the neighbour
entries, by address and then device. -/
@[ext] structure NetState where
  up : String → Bool
  addrs : String → List String
  routes : String → Option String
  neigh : String → String → Option String

/-- A node with every link down and no address, route or neighbour entry. -/
def NetState.down : NetState := ⟨fun _ => false, fun _ => [], fun _ => none, fun _ _ => none⟩

/-- What each call that succeeds does itself: `ip route flush` of a prefix removes the route to
exactly that prefix, `ip route add` and `ip neigh add` add their one entry. Calls of other helpers
do nothing here. What the kernel does besides is left to `NetState.Step`. -/
def NetState.apply (s : NetState) : Cmd → NetState
  | ⟨.ip, ["link", "set", dev, "up"]⟩ => { s with up := Function.update s.up dev true }
  | ⟨.ip, ["addr", "flush", "dev", dev]⟩ => { s with addrs := Function.update s.addrs dev [] }
  | ⟨.ip, ["addr", "add", a, "dev", dev]⟩ =>
    { s with addrs := Function.update s.addrs dev (s.addrs dev ++ [a]) }
  | ⟨.ip, ["route", "flush", dst]⟩ => { s with routes := Function.update s.routes dst none }
  | ⟨.ip, ["route", "add", dst, "via", gw]⟩ =>
    { s with routes := Function.update s.routes dst (some gw) }
  | ⟨.ip, ["neigh", "add", a, "dev", dev, "lladdr", mac]⟩ =>
    { s with neigh := Function.update s.neigh a (Function.update (s.neigh a) dev (some mac)) }
  | _ => s

@[simp] theorem NetState.apply_link_up (s : NetState) (dev : String) :
    s.apply ⟨.ip, ["link", "set", dev, "up"]⟩ = { s with up := Function.update s.up dev true } :=
  rfl

@[simp] theorem NetState.apply_addr_flush (s : NetState) (dev : String) :
    s.apply ⟨.ip, ["addr", "flush", "dev", dev]⟩ =
      { s with addrs := Function.update s.addrs dev [] } := rfl

@[simp] theorem NetState.apply_addr_add (s : NetState) (a dev : String) :
    s.apply ⟨.ip, ["addr", "add", a, "dev", dev]⟩ =
      { s with addrs := Function.update s.addrs dev (s.addrs dev ++ [a]) } := rfl

@[simp] theorem NetState.apply_route_flush (s : NetState) (dst : String) :
    s.apply ⟨.ip, ["route", "flush", dst]⟩ =
      { s with routes := Function.update s.routes dst none } := rfl

@[simp] theorem NetState.apply_route_add (s : NetState) (dst gw : String) :
    s.apply ⟨.ip, ["route", "add", dst, "via", gw]⟩ =
      { s with routes := Function.update s.routes dst (some gw) } := rfl

@[simp] theorem NetState.apply_neigh_add (s : NetState) (a dev mac : String) :
    s.apply ⟨.ip, ["neigh", "add", a, "dev", dev, "lladdr", mac]⟩ =
      { s with neigh := Function.update s.neigh a (Function.update (s.neigh a) dev (some mac)) } :=
  rfl

/-- The device of an `ip link set up`, `ip addr flush` or `ip addr add`, on which the kernel acts
along with the call. -/
def Cmd.device? : Cmd → Option String
  | ⟨.ip, ["link", "set", dev, "up"]⟩ => some dev
  | ⟨.ip, ["addr", "flush", "dev", dev]⟩ => some dev
  | ⟨.ip, ["addr", "add", _, "dev", dev]⟩ => some dev
  | _ => none

/-- What a call that succeeds may do to the node: its own effect, and on the device of a link or
address call whatever the kernel does along with it. Bringing a link up may give it addresses
(the IPv6 link-local one) and routes; `ip addr add` adds the prefix route of the address; an
`ip addr flush` that takes a device's last IPv4 address deletes the routes and the neighbour
entries through the device. So a link or address call may change any route and the neighbour
entries of its device, and `ip link set up` the device's addresses; everything else is the call's
own effect. -/
structure NetState.Step (s : NetState) (c : Cmd) (s' : NetState) : Prop where
  up : s'.up = (s.apply c).up
  addrs : ∀ d, c ≠ ⟨.ip, ["link", "set", d, "up"]⟩ → s'.addrs d = (s.apply c).addrs d
  routes : c.device? = none → s'.routes = (s.apply c).routes
  neigh : ∀ a d, c.device? ≠ some d → s'.neigh a d = (s.apply c).neigh a d

/-- The kernel may also do nothing more. -/
theorem NetState.step_apply (s : NetState) (c : Cmd) : s.Step c (s.apply c) :=
  ⟨rfl, fun _ _ => rfl, fun _ => rfl, fun _ _ _ => rfl⟩

theorem NetState.Step.eq_apply {s s' : NetState} {c : Cmd} (h : s.Step c s')
    (hc : c.device? = none) : s' = s.apply c := by
  refine NetState.ext h.up (funext fun d => h.addrs d ?_) (h.routes hc)
    (funext fun a => funext fun d => h.neigh a d (by simp [hc]))
  rintro rfl
  cases hc

/-- The states the node can reach through the calls `cs`, made after `hist`, from `s`: a call
that succeeds takes a `Step`, one that fails changes nothing. -/
inductive NetState.Runs (node : Node) : NetState → List Cmd → List Cmd → NetState → Prop
  | nil {s : NetState} {hist : List Cmd} : NetState.Runs node s hist [] s
  | ok {s s₁ s' : NetState} {hist : List Cmd} {c : Cmd} {cs : List Cmd} :
    (node.reply hist c).err = none → s.Step c s₁ → NetState.Runs node s₁ (hist ++ [c]) cs s' →
      NetState.Runs node s hist (c :: cs) s'
  | error {s s' : NetState} {hist : List Cmd} {c : Cmd} {cs : List Cmd} :
    (node.reply hist c).err ≠ none → NetState.Runs node s (hist ++ [c]) cs s' →
      NetState.Runs node s hist (c :: cs) s'

/-- The run in which the kernel does nothing more than the calls: each call that succeeds does
its own effect. -/
def NetState.run (node : Node) : NetState → List Cmd → List Cmd → NetState
  | s, _, [] => s
  | s, hist, c :: cs =>
    NetState.run node (if (node.reply hist c).err = none then s.apply c else s) (hist ++ [c]) cs

theorem NetState.runs_run (node : Node) :
    ∀ (s : NetState) (hist cs : List Cmd), NetState.Runs node s hist cs (NetState.run node s hist cs)
  | _, _, [] => .nil
  | s, hist, c :: cs => by
    by_cases h : (node.reply hist c).err = none
    · rw [NetState.run, if_pos h]
      exact .ok h (NetState.step_apply s c) (NetState.runs_run node _ _ cs)
    · rw [NetState.run, if_neg h]
      exact .error h (NetState.runs_run node s _ cs)

theorem NetState.Runs.nil_eq {node : Node} {s s' : NetState} {hist : List Cmd}
    (h : NetState.Runs node s hist [] s') : s' = s := by
  cases h
  rfl

theorem NetState.Runs.cons_ok {node : Node} {s s' : NetState} {hist : List Cmd} {c : Cmd}
    {cs : List Cmd} (h : NetState.Runs node s hist (c :: cs) s') (hc : (node.reply hist c).err = none) :
    ∃ s₁, s.Step c s₁ ∧ NetState.Runs node s₁ (hist ++ [c]) cs s' := by
  cases h with
  | ok _ hs h => exact ⟨_, hs, h⟩
  | error hc' _ => exact absurd hc hc'

theorem NetState.Runs.append {node : Node} {s s' : NetState} {hist ds : List Cmd} :
    ∀ {cs : List Cmd}, NetState.Runs node s hist (cs ++ ds) s' →
      ∃ s₁, NetState.Runs node s hist cs s₁ ∧ NetState.Runs node s₁ (hist ++ cs) ds s'
  | [], h => ⟨s, .nil, by simpa using h⟩
  | _ :: _, .ok hc hs h => by
    obtain ⟨s₁, h₁, h₂⟩ := NetState.Runs.append h
    exact ⟨s₁, .ok hc hs h₁, by simpa using h₂⟩
  | _ :: _, .error hc h => by
    obtain ⟨s₁, h₁, h₂⟩ := NetState.Runs.append h
    exact ⟨s₁, .error hc h₁, by simpa using h₂⟩

theorem NetState.Runs.eq_run {node : Node} {s s' : NetState} {hist cs : List Cmd}
    (h : NetState.Runs node s hist cs s') (hcs : ∀ c ∈ cs, c.device? = none) :
    s' = NetState.run node s hist cs := by
  induction h with
  | nil => rfl
  | ok hc hs _ ih =>
    rw [NetState.run, if_pos hc, ← hs.eq_apply (hcs _ (List.mem_cons_self _ _))]
    exact ih fun c hc => hcs c (List.mem_cons_of_mem _ hc)
  | error hc _ ih =>
    rw [NetState.run, if_neg hc]
    exact ih fun c hc => hcs c (List.mem_cons_of_mem _ hc)

theorem NetState.run_of_runsOk {node : Node} :
    ∀ {s : NetState} {hist cs : List Cmd}, node.runsOk hist cs →
      NetState.run node s hist cs = cs.foldl NetState.apply s
  | _, _, [], _ => rfl
  | s, hist, c :: cs, h => by
    simp only [Node.runsOk, Bool.and_eq_true, Option.isNone_iff_eq_none] at h
    simp only [NetState.run, h.1, if_true, List.foldl_cons]
    exact NetState.run_of_runsOk h.2

@[simp] theorem NetState.apply_route_up (s : NetState) (routerIP : String) (l : List String) :
    ((l.flatMap (routeCommands routerIP)).foldl NetState.apply s).up = s.up := by
  induction l generalizing s with
  | nil => rfl
  | cons a l ih => simp [routeCommands, ih]

@[simp] theorem NetState.apply_route_addrs (s : NetState) (routerIP : String) (l : List String) :
    ((l.flatMap (routeCommands routerIP)).foldl NetState.apply s).addrs = s.addrs := by
  induction l generalizing s with
  | nil => rfl
  | cons a l ih => simp [routeCommands, ih]

theorem NetState.apply_route_routes (s : NetState) (routerIP : String) (l : List String) :
    ((l.flatMap (routeCommands routerIP)).foldl NetState.apply s).routes =
      fun dst => if dst ∈ l then some routerIP else s.routes dst := by
  induction l generalizing s with
  | nil => simp
  | cons a l ih =>
    funext dst
    simp only [List.flatMap_cons, List.foldl_append, ih, routeCommands, List.foldl_cons,
      List.foldl_nil, NetState.apply_route_flush, NetState.apply_route_add, List.mem_cons]
    by_cases hl : dst ∈ l
    · simp [hl]
    · by_cases ha : dst = a
      · subst ha
        simp [hl]
      · simp [hl, ha]

@[simp] theorem NetState.apply_route_neigh (s : NetState) (routerIP : String) (l : List String) :
    ((l.flatMap (routeCommands routerIP)).foldl NetState.apply s).neigh = s.neigh := by
  induction l generalizing s with
  | nil => rfl
  | cons a l ih => simp [routeCommands, ih]

/-- What the management port is for, on the node `s'` reached from `s`: the interface up with
`interfaceIP` its only address, every routed subnet through the router port, the router port's
neighbour entry on the interface if that call succeeded (`neigh`), and every other link, the
addresses of every other device and the neighbour entries on every other device as in `s`. The
other routes, and the other neighbour entries of the interface, are the kernel's. -/
structure NetState.Configured (s s' : NetState) (clusterSubnet : List String)
    (clusterServicesSubnet routerIP routerMac interfaceName interfaceIP : String) (neigh : Bool) :
    Prop where
  up : s'.up = Function.update s.up interfaceName true
  addrs : s'.addrs = Function.update s.addrs interfaceName [interfaceIP]
  routes : ∀ dst ∈ routedSubnets clusterSubnet clusterServicesSubnet, s'.routes dst = some routerIP
  neigh_router : neigh = true → s'.neigh routerIP interfaceName = some routerMac
  neigh_other : ∀ a d, d ≠ interfaceName → s'.neigh a d = s.neigh a d

theorem NetState.Configured.trans {s s₁ s₂ : NetState} {clusterSubnet : List String}
    {clusterServicesSubnet routerIP routerMac interfaceName interfaceIP : String}
    {neigh₁ neigh₂ : Bool}
    (h₁ : NetState.Configured s s₁ clusterSubnet clusterServicesSubnet routerIP routerMac
      interfaceName interfaceIP neigh₁)
    (h₂ : NetState.Configured s₁ s₂ clusterSubnet clusterServicesSubnet routerIP routerMac
      interfaceName interfaceIP neigh₂) :
    NetState.Configured s s₂ clusterSubnet clusterServicesSubnet routerIP routerMac interfaceName
      interfaceIP neigh₂ where
  up := by rw [h₂.up, h₁.up, Function.update_idem]
  addrs := by rw [h₂.addrs, h₁.addrs, Function.update_idem]
  routes := h₂.routes
  neigh_router := h₂.neigh_router
  neigh_other a d hd := (h₂.neigh_other a d hd).trans (h₁.neigh_other a d hd)

theorem NetState.Runs.linkAddr {node : Node} {s s' : NetState} {hist : List Cmd}
    {interfaceName interfaceIP : String}
    (h : NetState.Runs node s hist [⟨.ip, ["link", "set", interfaceName, "up"]⟩,
      ⟨.ip, ["addr", "flush", "dev", interfaceName]⟩,
      ⟨.ip, ["addr", "add", interfaceIP, "dev", interfaceName]⟩] s')
    (hok : node.runsOk hist [⟨.ip, ["link", "set", interfaceName, "up"]⟩,
      ⟨.ip, ["addr", "flush", "dev", interfaceName]⟩,
      ⟨.ip, ["addr", "add", interfaceIP, "dev", interfaceName]⟩] = true) :
    s'.up = Function.update s.up interfaceName true ∧
      s'.addrs = Function.update s.addrs interfaceName [interfaceIP] ∧
      ∀ a d, d ≠ interfaceName → s'.neigh a d = s.neigh a d := by
  simp only [Node.runsOk, Bool.and_eq_true, Option.isNone_iff_eq_none] at hok
  obtain ⟨hl, hf, ha, -⟩ := hok
  obtain ⟨s₁, hs₁, h⟩ := h.cons_ok hl
  obtain ⟨s₂, hs₂, h⟩ := h.cons_ok hf
  obtain ⟨s₃, hs₃, h⟩ := h.cons_ok ha
  obtain rfl := h.nil_eq
  have hne : ∀ {d c}, d ≠ interfaceName → Cmd.device? c = some interfaceName → c.device? ≠ some d :=
    fun hd hc e => hd (Option.some.inj (e.symm.trans hc))
  refine ⟨?_, funext fun d => ?_, fun a d hd => ?_⟩
  · simp only [hs₃.up, hs₂.up, hs₁.up, NetState.apply_addr_add, NetState.apply_addr_flush,
      NetState.apply_link_up]
  · have h₁ : d ≠ interfaceName → s₁.addrs d = s.addrs d := fun hd => by
      simpa using hs₁.addrs d (by simpa using Ne.symm hd)
    have h₂ : ∀ d, s₂.addrs d = Function.update s₁.addrs interfaceName [] d := fun d => by
      simpa using hs₂.addrs d (by simp)
    rw [show s'.addrs d = _ by simpa using hs₃.addrs d (by simp), h₂]
    by_cases hd : d = interfaceName
    · subst hd
      simp
    · simp [Function.update_noteq hd, h₂, h₁ hd]
  · simp only [hs₃.neigh a d (hne hd rfl), hs₂.neigh a d (hne hd rfl), hs₁.neigh a d (hne hd rfl),
      NetState.apply_addr_add, NetState.apply_addr_flush, NetState.apply_link_up]

theorem NetState.Runs.configured {node : Node} {clusterSubnet : List String}
    {clusterServicesSubnet routerIP routerMac interfaceName interfaceIP : String}
    {hist : List Cmd} {s s' : NetState}
    (hok : node.runsOk hist (linuxSetupCommands clusterSubnet clusterServicesSubnet routerIP
      interfaceName interfaceIP) = true)
    (h : NetState.Runs node s hist (linuxSetupCommands clusterSubnet clusterServicesSubnet routerIP
      interfaceName interfaceIP ++ [neighCommand routerIP routerMac interfaceName]) s') :
    NetState.Configured s s' clusterSubnet clusterServicesSubnet routerIP routerMac interfaceName
      interfaceIP (node.reply (hist ++ linuxSetupCommands clusterSubnet clusterServicesSubnet
        routerIP interfaceName interfaceIP) (neighCommand routerIP routerMac interfaceName)).err.isNone := by
  rw [linuxSetupCommands, List.append_assoc] at h
  rw [linuxSetupCommands, Node.runsOk_append] at hok
  simp only [Bool.and_eq_true] at hok
  obtain ⟨s₁, h₁, h⟩ := h.append
  obtain ⟨s₂, h₂, h₃⟩ := h.append
  obtain ⟨hup, haddrs, hneigh⟩ := h₁.linkAddr hok.1
  have hroutes : ∀ c ∈ (routedSubnets clusterSubnet clusterServicesSubnet).flatMap
      (routeCommands routerIP), c.device? = none := by
    simp only [List.mem_flatMap, routeCommands]
    rintro c ⟨_, -, hc⟩
    simp only [List.mem_cons, List.mem_singleton, List.not_mem_nil, or_false] at hc
    rcases hc with rfl | rfl <;> rfl
  rw [h₂.eq_run hroutes, NetState.run_of_runsOk hok.2] at h₃
  rw [h₃.eq_run fun c hc => by rw [List.mem_singleton.1 hc]; rfl]
  simp only [NetState.run, List.append_assoc]
  split_ifs with hn
  · refine ⟨by simp [neighCommand, hup], by simp [neighCommand, haddrs],
      fun dst hd => by simp [neighCommand, NetState.apply_route_routes, hd],
      fun _ => by simp [neighCommand], fun a d hd => ?_⟩
    by_cases ha : a = routerIP <;> simp [neighCommand, ha, hd, hneigh]
  · exact ⟨by simp [hup], by simp [haddrs], fun dst hd => by simp [NetState.apply_route_routes, hd],
      fun h => absurd hn (by simpa using h), fun a d hd => by simp [hneigh a d hd]⟩
/-! ### `configureManagementPortWindows` -/

/-- One subnet's route on Windows, `wrap` its parse error: `route print` of the subnet's address
(its error is only logged), and unless the output shows the address, `route -p add` of it with
its mask, written as an address, through the router port on the interface. -/
def windowsRoute (node : Node) (routerIP interfaceIndex : String)
    (wrap : String → ParseError → MgmtPortError) (subnet : String) (hist : List Cmd) :
    Except MgmtPortError Unit × List Cmd :=
  match parseCIDR subnet with
  | .error err => (.error (wrap subnet err), hist)
  | .ok (subnetIP, subnetIPNet) =>
    let r := node.call ⟨.route, ["print", "-4", subnetIP.string]⟩ hist
    if contains r.1.stdout subnetIP.string then (.ok (), r.2)
    else
      onSuccess (node.run ⟨.route, ["-p", "add", subnetIP.string, "mask",
        IP.string subnetIPNet.mask, routerIP, "METRIC", "2", "IF", interfaceIndex]⟩ r.2) id
        fun _ hist => (.ok (), hist)

/-- The loop over `clusterSubnet` on Windows. -/
def windowsRoutes (node : Node) (routerIP interfaceIndex : String) :
    List String → List Cmd → Except MgmtPortError Unit × List Cmd
  | [], hist => (.ok (), hist)
  | subnet :: rest, hist =>
    onSuccess (windowsRoute node routerIP interfaceIndex .clusterSubnet subnet hist) id
      fun _ hist => windowsRoutes node routerIP interfaceIndex rest hist

/-- The PowerShell call that prints the interface index of `interfaceName`. -/
def ifIndexCommand (interfaceName : String) : Cmd :=
  ⟨.powershell, ["$(Get-NetAdapter", "-IncludeHidden", "|", "Where", "\x7b", "$_.Name", "-Match",
    "\"" ++ interfaceName ++ "\"", "\x7d).ifIndex"]⟩

/-- `configureManagementPortWindows(...)`, with `config.Default.MTU` from the globals. -/
def configureManagementPortWindows (g : Globals) (node : Node) (clusterSubnet : List String)
    (clusterServicesSubnet routerIP interfaceName interfaceIP : String) (hist : List Cmd) :
    Except MgmtPortError Unit × List Cmd :=
  let ifAlias := "-InterfaceAlias " ++ interfaceName
  onSuccess (node.run ⟨.powershell, ["Enable-NetAdapter", "-IncludeHidden", interfaceName]⟩ hist) id
    fun _ hist =>
  let r := node.call ⟨.powershell, ["Get-NetIPAddress", ifAlias]⟩ hist
  onSuccess (if r.1.err = none then
      onSuccess (node.run ⟨.powershell, ["Remove-NetIPAddress", ifAlias, "-Confirm:$false"]⟩ r.2) id
        fun _ hist => (.ok (), hist)
    else (.ok (), r.2)) id fun _ hist =>
  match parseCIDR interfaceIP with
  | .error err => (.error (.interfaceIP interfaceIP err), hist)
  | .ok (portIP, interfaceIPNet) =>
    onSuccess (node.run ⟨.powershell, ["New-NetIPAddress", "-IPAddress " ++ portIP.string,
      "-PrefixLength " ++ toString interfaceIPNet.mask.size.1, ifAlias]⟩ hist) id fun _ hist =>
    onSuccess (node.run ⟨.netsh, ["interface", "ipv4", "set", "subinterface", interfaceName,
      "mtu=" ++ toString g.default.mtu, "store=persistent"]⟩ hist) id fun _ hist =>
    onSuccess (node.run (ifIndexCommand interfaceName) hist) id fun out hist =>
    match Strconv.atoi out.stdout with
    | .error err => (.error (.interfaceIndex err), hist)
    | .ok _ =>
      onSuccess (windowsRoutes node routerIP out.stdout clusterSubnet hist) id fun _ hist =>
      if clusterServicesSubnet ≠ "" then
        windowsRoute node routerIP out.stdout .clusterServicesSubnet clusterServicesSubnet hist
      else (.ok (), hist)

/-- One subnet is routed on Windows after the calls `hist`: it parses, and either its
`route -p add` through the router port on the interface `index` was made, or a `route print` of
its address, made after some calls `pre`, showed the address. -/
def WindowsRouted (node : Node) (routerIP index subnet : String) (hist : List Cmd) : Prop :=
  ∃ ip n, parseCIDR subnet = .ok (ip, n) ∧
    (⟨.route, ["-p", "add", ip.string, "mask", IP.string n.mask, routerIP, "METRIC", "2", "IF",
        index]⟩ ∈ hist ∨
      ∃ pre, pre ++ [⟨.route, ["print", "-4", ip.string]⟩] <+: hist ∧
        contains (node.reply pre ⟨.route, ["print", "-4", ip.string]⟩).stdout ip.string = true)

theorem WindowsRouted.mono {node : Node} {routerIP index subnet : String} {hist₁ hist₂ : List Cmd}
    (hp : hist₁ <+: hist₂) (h : WindowsRouted node routerIP index subnet hist₁) :
    WindowsRouted node routerIP index subnet hist₂ := by
  obtain ⟨ip, n, hparse, hadd | ⟨pre, hpre, hc⟩⟩ := h
  · exact ⟨ip, n, hparse, .inl (hp.subset hadd)⟩
  · exact ⟨ip, n, hparse, .inr ⟨pre, hpre.trans hp, hc⟩⟩

theorem windowsRoute_routed {node : Node} {routerIP index subnet : String}
    {wrap : String → ParseError → MgmtPortError} {hist hist' : List Cmd}
    (h : windowsRoute node routerIP index wrap subnet hist = (.ok (), hist')) :
    hist <+: hist' ∧ WindowsRouted node routerIP index subnet hist' := by
  unfold windowsRoute at h
  split at h
  · cases h
  rename_i ip n hp
  dsimp only at h
  split_ifs at h with hc
  · cases h
    exact ⟨List.prefix_append _ _, ip, n, hp, .inr ⟨hist, List.prefix_refl _, by simpa using hc⟩⟩
  · rcases Node.onSuccess_run h with ⟨_, -, ⟨⟩, -⟩ | ⟨-, h⟩
    cases h
    exact ⟨⟨_, (List.append_assoc _ _ _).symm⟩, ip, n, hp, .inl (by simp)⟩

theorem windowsRoutes_routed {node : Node} {routerIP index : String} :
    ∀ {subnets : List String} {hist hist' : List Cmd},
      windowsRoutes node routerIP index subnets hist = (.ok (), hist') →
        hist <+: hist' ∧ ∀ subnet ∈ subnets, WindowsRouted node routerIP index subnet hist'
  | [], _, _, h => by
    cases h
    exact ⟨List.prefix_refl _, by simp⟩
  | subnet :: rest, hist, hist', h => by
    rw [windowsRoutes] at h
    obtain ⟨_, h₁, hr, h⟩ := onSuccess_eq_ok.1 h
    obtain ⟨hp₁, hs⟩ := windowsRoute_routed hr
    obtain ⟨hp₂, hrest⟩ := windowsRoutes_routed h
    refine ⟨hp₁.trans hp₂, ?_⟩
    simp only [List.mem_cons, forall_eq_or_imp]
    exact ⟨hs.mono hp₂, hrest⟩

theorem windowsRoute_eq_error {node : Node} {routerIP index subnet : String}
    {wrap : String → ParseError → MgmtPortError} {hist hist' : List Cmd} {e : MgmtPortError}
    (h : windowsRoute node routerIP index wrap subnet hist = (.error e, hist')) :
    (∃ err, e = wrap subnet err) ∨ ∃ err, e = .cmd err := by
  unfold windowsRoute at h
  split at h
  · cases h
    exact .inl ⟨_, rfl⟩
  dsimp only at h
  split_ifs at h
  · cases h
  rcases Node.onSuccess_run h with ⟨err, -, he, -⟩ | ⟨-, h⟩
  · exact .inr ⟨err, Except.error.inj he⟩
  · cases h

theorem windowsRoutes_eq_error {node : Node} {routerIP index : String} {e : MgmtPortError} :
    ∀ {subnets : List String} {hist hist' : List Cmd},
      windowsRoutes node routerIP index subnets hist = (.error e, hist') →
        (∃ subnet err, e = .clusterSubnet subnet err) ∨ ∃ err, e = .cmd err
  | [], _, _, h => by cases h
  | subnet :: rest, hist, hist', h => by
    rw [windowsRoutes] at h
    rcases onSuccess_eq_error h with h | ⟨_, _, -, h⟩
    · exact (windowsRoute_eq_error h).imp_left fun ⟨err, he⟩ => ⟨subnet, err, he⟩
    · exact windowsRoutes_eq_error h

theorem configureManagementPortWindows_eq_ok {g : Globals} {node : Node}
    {clusterSubnet : List String} {clusterServicesSubnet routerIP interfaceName interfaceIP : String}
    {hist hist' : List Cmd}
    (h : configureManagementPortWindows g node clusterSubnet clusterServicesSubnet routerIP
      interfaceName interfaceIP hist = (.ok (), hist')) :
    ∃ portIP net pre v hist₂, parseCIDR interfaceIP = .ok (portIP, net) ∧
      hist <+: pre ∧ pre ++ [ifIndexCommand interfaceName] <+: hist' ∧
      ⟨.powershell, ["New-NetIPAddress", "-IPAddress " ++ portIP.string,
        "-PrefixLength " ++ toString net.mask.size.1, "-InterfaceAlias " ++ interfaceName]⟩ ∈ pre ∧
      let index := (node.reply pre (ifIndexCommand interfaceName)).stdout
      Strconv.atoi index = .ok v ∧
      windowsRoutes node routerIP index clusterSubnet (pre ++ [ifIndexCommand interfaceName]) =
        (.ok (), hist₂) ∧
      (if clusterServicesSubnet ≠ "" then
          windowsRoute node routerIP index .clusterServicesSubnet clusterServicesSubnet hist₂
        else (.ok (), hist₂)) = (.ok (), hist') := by
  dsimp only [configureManagementPortWindows] at h
  rcases Node.onSuccess_run h with ⟨_, -, ⟨⟩, -⟩ | ⟨-, h⟩
  obtain ⟨_, h₀, hr, h⟩ := onSuccess_eq_ok.1 h
  have hp₀ : hist <+: h₀ := by
    split at hr
    · rcases Node.onSuccess_run hr with ⟨_, -, ⟨⟩, -⟩ | ⟨-, hr⟩
      cases hr
      simp
    · cases hr
      simp
  split at h
  · cases h
  rename_i portIP net hp
  -- New-NetIPAddress, the MTU, and the interface index
  iterate 3 rcases Node.onSuccess_run h with ⟨_, -, ⟨⟩, -⟩ | ⟨-, h⟩
  split at h
  · cases h
  rename_i v hv
  obtain ⟨_, hist₂, hr, h⟩ := onSuccess_eq_ok.1 h
  have hp₂ : hist₂ <+: hist' := by
    split at h
    · exact (windowsRoute_routed h).1
    · cases h
      exact List.prefix_refl _
  exact ⟨portIP, net, _, v, hist₂, hp, hp₀.trans (by simp),
    (windowsRoutes_routed hr).1.trans hp₂, by simp, hv, hr, h⟩

theorem configureManagementPortWindows_interfaceIP {g : Globals} {node : Node}
    {clusterSubnet : List String} {clusterServicesSubnet routerIP interfaceName interfaceIP : String}
    {hist hist' : List Cmd} {s : String} {err : ParseError}
    (h : configureManagementPortWindows g node clusterSubnet clusterServicesSubnet routerIP
      interfaceName interfaceIP hist = (.error (.interfaceIP s err), hist')) :
    parseCIDR interfaceIP = .error err := by
  dsimp only [configureManagementPortWindows] at h
  rcases Node.onSuccess_run h with ⟨_, -, ⟨⟩, -⟩ | ⟨-, h⟩
  split at h
  on_goal 1 =>
    rw [onSuccess_assoc] at h
    rcases Node.onSuccess_run h with ⟨_, -, ⟨⟩, -⟩ | ⟨-, h⟩
    rw [onSuccess_ok] at h
  all_goals
    split at h
    · rename_i err' hp
      cases h
      exact hp
    -- New-NetIPAddress, the MTU, and the interface index
    iterate 3 rcases Node.onSuccess_run h with ⟨_, -, ⟨⟩, -⟩ | ⟨-, h⟩
    split at h
    · cases h
    rcases onSuccess_eq_error h with h | ⟨_, _, -, h⟩
    · rcases windowsRoutes_eq_error h with ⟨_, _, ⟨⟩⟩ | ⟨_, ⟨⟩⟩
    split at h
    · rcases windowsRoute_eq_error h with ⟨_, ⟨⟩⟩ | ⟨_, ⟨⟩⟩
    · cases h

/-- `configureManagementPort(clusterSubnet, clusterServicesSubnet, routerIP, routerMac,
interfaceName, interfaceIP)`. -/
def configureManagementPort (host : Host) (g : Globals) (node : Node) (clusterSubnet : List String)
    (clusterServicesSubnet routerIP routerMac interfaceName interfaceIP : String)
    (hist : List Cmd) : Except MgmtPortError Unit × List Cmd :=
  if host.goos = "windows" then
    configureManagementPortWindows g node clusterSubnet clusterServicesSubnet routerIP
      interfaceName interfaceIP hist
  else
    configureManagementPort.linux node clusterSubnet clusterServicesSubnet routerIP routerMac
      interfaceName interfaceIP hist

/-- `CreateManagementPort(nodeName, localSubnet, clusterServicesSubnet, clusterSubnet)`, with
`runtime.GOOS` from the host and `config.Default.MTU` from the globals. -/
def createManagementPort (host : Host) (g : Globals) (node : Node)
    (nodeName localSubnet clusterServicesSubnet : String) (clusterSubnet : List String)
    (hist : List Cmd) : Except MgmtPortError Unit × List Cmd :=
  match parseCIDR localSubnet with
  | .error err => (.error (.localSubnet localSubnet err), hist)
  | .ok (ip, subnet) =>
    let ip := node.nextIP ip
    let routerIP := ip.string
    let nodeName := toLower nodeName
    onSuccess (node.run ⟨.ovsVsctl, ["--", "--may-exist", "add-br", "br-int"]⟩ hist) id
      fun _ hist =>
    let interfaceName := node.getK8sMgmtIntfName nodeName
    onSuccess (node.run ⟨.ovsVsctl, ["--", "--may-exist", "add-port", "br-int", interfaceName, "--",
      "set", "interface", interfaceName, "type=internal", "mtu_request=" ++ toString g.default.mtu,
      "external-ids:iface-id=k8s-" ++ nodeName]⟩ hist) id fun _ hist =>
    onSuccess (node.run ⟨.ovsVsctl, ["--if-exists", "get", "interface", interfaceName,
      "mac_in_use"]⟩ hist) id fun r hist =>
    if r.stdout = "[]" then (.error (.macAddress interfaceName), hist)
    else
      onSuccess (if host.goos = "windows" ∧ r.stdout = "00:00:00:00:00:00" then
          onSuccess (node.run ⟨.fetchIfMacWindows, [interfaceName]⟩ hist) id
            fun r hist => (.ok r.stdout, hist)
        else (.ok r.stdout, hist)) id fun macAddress hist =>
      let ip := node.nextIP ip
      let portIP := ip.string
      let portIPMask := portIP ++ "/" ++ toString subnet.mask.size.1
      onSuccess (node.run ⟨.ovnNbctl, ["--", "--may-exist", "lsp-add", nodeName, "k8s-" ++ nodeName,
        "--", "lsp-set-addresses", "k8s-" ++ nodeName, macAddress ++ " " ++ portIP]⟩ hist) id
        fun _ hist =>
      onSuccess (node.run ⟨.ovnNbctl, ["lsp-get-addresses", "stor-" ++ nodeName]⟩ hist) id
        fun r hist =>
      configureManagementPort host g node clusterSubnet clusterServicesSubnet routerIP r.stdout
        interfaceName portIPMask hist

theorem configureManagementPort_interfaceIP {host : Host} {g : Globals} {node : Node}
    {clusterSubnet : List String}
    {clusterServicesSubnet routerIP routerMac interfaceName interfaceIP : String}
    {hist hist' : List Cmd} {s : String} {err : ParseError}
    (h : configureManagementPort host g node clusterSubnet clusterServicesSubnet routerIP routerMac
      interfaceName interfaceIP hist = (.error (.interfaceIP s err), hist')) :
    host.goos = "windows" ∧ parseCIDR interfaceIP = .error err := by
  unfold configureManagementPort at h
  split_ifs at h with hw
  · exact ⟨hw, configureManagementPortWindows_interfaceIP h⟩
  rw [configureManagementPort_linux_eq] at h
  rcases onSuccess_eq_error h with h | ⟨_, _, -, h⟩
  · obtain ⟨_, _, _, _, -, -, -, ⟨⟩, -⟩ := Node.runScript_eq_error h
  · obtain ⟨_, -, -, ⟨⟩, -⟩ := addNeighbour_eq_error h

/-- What `CreateManagementPort` does before `configureManagementPort`: it fails on the local
subnet, on a helper or on a missing MAC, or it has made calls `cs`, none of them an `ip` call, that
add the logical port with its MAC (the one OVS reported after the calls `pre`, or on Windows for
`00:00:00:00:00:00` the one `FetchIfMacWindows` reported) and the port address, and hands
`configureManagementPort` the router address, the router port's MAC as `lsp-get-addresses`
reported it after the calls `pre'`, and the port address with the local subnet's prefix
length. -/
theorem createManagementPort_cases {host : Host} {g : Globals} {node : Node}
    {nodeName localSubnet clusterServicesSubnet : String} {clusterSubnet : List String}
    {hist hist' : List Cmd} {r : Except MgmtPortError Unit}
    (h : createManagementPort host g node nodeName localSubnet clusterServicesSubnet clusterSubnet
      hist = (r, hist')) :
    (∃ err, r = .error (.localSubnet localSubnet err)) ∨ (∃ err, r = .error (.cmd err)) ∨
    (∃ name, r = .error (.macAddress name)) ∨
    ∃ ip subnet, parseCIDR localSubnet = .ok (ip, subnet) ∧
      let name := toLower nodeName
      let interfaceName := node.getK8sMgmtIntfName name
      let getMac : Cmd := ⟨.ovsVsctl, ["--if-exists", "get", "interface", interfaceName,
        "mac_in_use"]⟩
      let portIP := (node.nextIP (node.nextIP ip)).string
      ∃ pre routerMac cs, pre ++ [getMac] <+: hist ++ cs ∧ (∀ c ∈ cs, c.tool ≠ .ip) ∧
        (node.reply pre getMac).stdout ≠ "[]" ∧
        let mac := if host.goos = "windows" ∧ (node.reply pre getMac).stdout = "00:00:00:00:00:00"
          then (node.reply (pre ++ [getMac]) ⟨.fetchIfMacWindows, [interfaceName]⟩).stdout
          else (node.reply pre getMac).stdout
        ⟨.ovnNbctl, ["--", "--may-exist", "lsp-add", name, "k8s-" ++ name, "--",
          "lsp-set-addresses", "k8s-" ++ name, mac ++ " " ++ portIP]⟩ ∈ cs ∧
        (∃ pre', routerMac =
          (node.reply pre' ⟨.ovnNbctl, ["lsp-get-addresses", "stor-" ++ name]⟩).stdout ∧
          pre' ++ [⟨.ovnNbctl, ["lsp-get-addresses", "stor-" ++ name]⟩] <+: hist ++ cs) ∧
        configureManagementPort host g node clusterSubnet clusterServicesSubnet
          (node.nextIP ip).string routerMac interfaceName
          (portIP ++ "/" ++ toString subnet.mask.size.1) (hist ++ cs) = (r, hist') := by
  unfold createManagementPort at h
  split at h
  · exact .inl ⟨_, (Prod.mk.inj h).1.symm⟩
  rename_i ip subnet hp
  dsimp only at h
  -- add-br, add-port, and the MAC of the interface
  iterate 3
    rcases Node.onSuccess_run h with ⟨err, -, rfl, -⟩ | ⟨-, h⟩
    · exact .inr (.inl ⟨err, rfl⟩)
  split at h
  · exact .inr (.inr (.inl ⟨_, (Prod.mk.inj h).1.symm⟩))
  rename_i hmac
  split at h
  on_goal 1 =>
    rename_i hw
    rw [onSuccess_assoc] at h
    rcases Node.onSuccess_run h with ⟨err, -, rfl, -⟩ | ⟨-, h⟩
    · exact .inr (.inl ⟨err, rfl⟩)
    rw [onSuccess_ok] at h
  on_goal 2 =>
    rename_i hw
    rw [onSuccess_ok] at h
  all_goals
    -- lsp-add, and the MAC of the router port
    iterate 2
      rcases Node.onSuccess_run h with ⟨err, -, rfl, -⟩ | ⟨-, h⟩
      · exact .inr (.inl ⟨err, rfl⟩)
    simp only [List.append_assoc, List.singleton_append] at h hw hmac
    exact .inr (.inr (.inr ⟨ip, subnet, hp, _, _, _, by simp, by simp, hmac,
      by first | (rw [if_pos hw]; simp) | (rw [if_neg hw]; simp), ⟨_, rfl, by simp⟩, h⟩))

theorem configureManagementPort_linux_eq_ok {node : Node} {clusterSubnet : List String}
    {clusterServicesSubnet routerIP routerMac interfaceName interfaceIP : String}
    {hist hist' : List Cmd} :
    configureManagementPort.linux node clusterSubnet clusterServicesSubnet routerIP routerMac
        interfaceName interfaceIP hist = (.ok (), hist') ↔
      let setup := linuxSetupCommands clusterSubnet clusterServicesSubnet routerIP interfaceName
        interfaceIP
      let neigh := neighCommand routerIP routerMac interfaceName
      node.runsOk hist setup = true ∧
        (∀ err, (node.reply (hist ++ setup) neigh).err = some err → err.notExist = false) ∧
        hist' = hist ++ setup ++ [neigh] := by
  rw [configureManagementPort_linux_eq, onSuccess_eq_ok_unit]
  simp only [Node.runScript_eq_ok, addNeighbour_eq_ok]
  constructor
  · rintro ⟨_, ⟨hok, rfl⟩, hn, rfl⟩
    exact ⟨hok, hn, rfl⟩
  · rintro ⟨hok, hn, rfl⟩
    exact ⟨_, ⟨hok, rfl⟩, hn, rfl⟩

theorem configureManagementPort_linux_run {node : Node} {clusterSubnet : List String}
    {clusterServicesSubnet routerIP routerMac interfaceName interfaceIP : String}
    {hist cs : List Cmd}
    (h : configureManagementPort.linux node clusterSubnet clusterServicesSubnet routerIP routerMac
      interfaceName interfaceIP hist = (.ok (), hist ++ cs)) {s s' : NetState}
    (hs : NetState.Runs node s hist cs s') :
    NetState.Configured s s' clusterSubnet clusterServicesSubnet routerIP routerMac interfaceName
      interfaceIP (node.reply (hist ++ linuxSetupCommands clusterSubnet clusterServicesSubnet
        routerIP interfaceName interfaceIP) (neighCommand routerIP routerMac interfaceName)).err.isNone := by
  obtain ⟨hok, -, he⟩ := configureManagementPort_linux_eq_ok.1 h
  rw [List.append_assoc, List.append_cancel_left_eq] at he
  subst he
  exact hs.configured hok

/-- **When `configureManagementPort` succeeds off Windows**: exactly when each call of
`linuxSetupCommands` succeeds after the ones before it, and the neighbour entry succeeds or fails
with an error `os.IsNotExist` does not hold for; it has then made the script's calls and the
neighbour entry, and nothing else. -/
theorem configureManagementPort_eq_ok {host : Host} {g : Globals} {node : Node}
    {clusterSubnet : List String}
    {clusterServicesSubnet routerIP routerMac interfaceName interfaceIP : String}
    {hist hist' : List Cmd} (hw : host.goos ≠ "windows") :
    configureManagementPort host g node clusterSubnet clusterServicesSubnet routerIP routerMac
        interfaceName interfaceIP hist = (.ok (), hist') ↔
      let setup := linuxSetupCommands clusterSubnet clusterServicesSubnet routerIP interfaceName
        interfaceIP
      let neigh := neighCommand routerIP routerMac interfaceName
      node.runsOk hist setup = true ∧
        (∀ err, (node.reply (hist ++ setup) neigh).err = some err → err.notExist = false) ∧
        hist' = hist ++ setup ++ [neigh] := by
  rw [configureManagementPort, if_neg hw]
  exact configureManagementPort_linux_eq_ok

theorem configureManagementPort_eq_ok_node1 :
    let r := configureManagementPort bareHost restoreDefaultConfig sampleNode ["10.244.0.0/16"]
      "10.96.0.0/12" "10.244.1.1" "0a:58:0a:f4:01:01" "k8s-node1" "10.244.1.2/24" []
    bareHost.goos ≠ "windows" ∧ r.1 = .ok () ∧
      (r = (.ok (), r.2) ↔
        let setup := linuxSetupCommands ["10.244.0.0/16"] "10.96.0.0/12" "10.244.1.1" "k8s-node1"
          "10.244.1.2/24"
        let neigh := neighCommand "10.244.1.1" "0a:58:0a:f4:01:01" "k8s-node1"
        sampleNode.runsOk [] setup = true ∧
          (∀ err, (sampleNode.reply ([] ++ setup) neigh).err = some err → err.notExist = false) ∧
          r.2 = [] ++ setup ++ [neigh]) := by
  intro r
  exact ⟨by decide, by decide, configureManagementPort_eq_ok (by decide)⟩

/-- **How `configureManagementPort` fails off Windows**: at one call, whose error it returns,
with every call before it successful and none after it made. Either a call of
`linuxSetupCommands` failed, or they all succeeded and the neighbour entry failed with an error
`os.IsNotExist` holds for. -/
theorem configureManagementPort_eq_error {host : Host} {g : Globals} {node : Node}
    {clusterSubnet : List String}
    {clusterServicesSubnet routerIP routerMac interfaceName interfaceIP : String}
    {hist hist' : List Cmd} {e : MgmtPortError} (hw : host.goos ≠ "windows")
    (h : configureManagementPort host g node clusterSubnet clusterServicesSubnet routerIP routerMac
      interfaceName interfaceIP hist = (.error e, hist')) :
    let setup := linuxSetupCommands clusterSubnet clusterServicesSubnet routerIP interfaceName
      interfaceIP
    let neigh := neighCommand routerIP routerMac interfaceName
    (∃ pre c post err, setup = pre ++ c :: post ∧ node.runsOk hist pre = true ∧
      (node.reply (hist ++ pre) c).err = some err ∧ e = .cmd err ∧ hist' = hist ++ pre ++ [c]) ∨
    (node.runsOk hist setup = true ∧ ∃ err, (node.reply (hist ++ setup) neigh).err = some err ∧
      err.notExist = true ∧ e = .cmd err ∧ hist' = hist ++ setup ++ [neigh]) := by
  rw [configureManagementPort, if_neg hw, configureManagementPort_linux_eq] at h
  rcases hs : node.runScript (linuxSetupCommands clusterSubnet clusterServicesSubnet
    routerIP interfaceName interfaceIP) hist with ⟨r, h₁⟩
  rw [hs] at h
  cases r with
  | error e' =>
    cases h
    exact .inl (Node.runScript_eq_error hs)
  | ok u =>
    obtain ⟨hok, rfl⟩ := Node.runScript_eq_ok.1 hs
    obtain ⟨err, hr, hn, rfl, rfl⟩ := addNeighbour_eq_error h
    exact .inr ⟨hok, err, hr, hn, rfl, by simp⟩

theorem configureManagementPort_eq_error_addrTaken :
    let r := configureManagementPort bareHost restoreDefaultConfig addrTakenNode ["10.244.0.0/16"]
      "10.96.0.0/12" "10.244.1.1" "0a:58:0a:f4:01:01" "k8s-node1" "10.244.1.2/24" []
    let setup := linuxSetupCommands ["10.244.0.0/16"] "10.96.0.0/12" "10.244.1.1" "k8s-node1"
      "10.244.1.2/24"
    let neigh := neighCommand "10.244.1.1" "0a:58:0a:f4:01:01" "k8s-node1"
    let e : MgmtPortError := .cmd ⟨"exit status 2", false⟩
    bareHost.goos ≠ "windows" ∧ r.1 = .error e ∧
      ((∃ pre c post err, setup = pre ++ c :: post ∧ addrTakenNode.runsOk [] pre = true ∧
        (addrTakenNode.reply ([] ++ pre) c).err = some err ∧ e = .cmd err ∧
          r.2 = [] ++ pre ++ [c]) ∨
      (addrTakenNode.runsOk [] setup = true ∧ ∃ err,
        (addrTakenNode.reply ([] ++ setup) neigh).err = some err ∧ err.notExist = true ∧
          e = .cmd err ∧ r.2 = [] ++ setup ++ [neigh])) := by
  intro r setup neigh e
  have h : r.1 = .error e := by decide
  exact ⟨by decide, h, configureManagementPort_eq_error (by decide)
    (show configureManagementPort bareHost restoreDefaultConfig addrTakenNode ["10.244.0.0/16"]
      "10.96.0.0/12" "10.244.1.1" "0a:58:0a:f4:01:01" "k8s-node1" "10.244.1.2/24" [] =
        (.error e, r.2) from Prod.ext h rfl)⟩

/-- **What a successful `configureManagementPort` does to the node off Windows**: from any state
of the node, and whatever the kernel does along with the link and address calls, it leaves the
interface up with exactly the address it was given, every cluster subnet and the service subnet,
if there is one, routed through the router port, the router port's neighbour entry on the
interface if that call succeeded, and every other link, the addresses of every other device and
the neighbour entries on every other device as they were. -/
theorem configureManagementPort_netState {host : Host} {g : Globals} {node : Node}
    {clusterSubnet : List String}
    {clusterServicesSubnet routerIP routerMac interfaceName interfaceIP : String}
    {hist cs : List Cmd} (hw : host.goos ≠ "windows")
    (h : configureManagementPort host g node clusterSubnet clusterServicesSubnet routerIP routerMac
      interfaceName interfaceIP hist = (.ok (), hist ++ cs))
    {s s' : NetState} (hs : NetState.Runs node s hist cs s') :
    NetState.Configured s s' clusterSubnet clusterServicesSubnet routerIP routerMac interfaceName
      interfaceIP (node.reply (hist ++ linuxSetupCommands clusterSubnet clusterServicesSubnet
        routerIP interfaceName interfaceIP) (neighCommand routerIP routerMac interfaceName)).err.isNone := by
  rw [configureManagementPort, if_neg hw] at h
  exact configureManagementPort_linux_run h hs

theorem configureManagementPort_netState_node1 :
    let r := configureManagementPort bareHost restoreDefaultConfig sampleNode ["10.244.0.0/16"]
      "10.96.0.0/12" "10.244.1.1" "0a:58:0a:f4:01:01" "k8s-node1" "10.244.1.2/24" []
    let s' := NetState.run sampleNode NetState.down [] r.2
    bareHost.goos ≠ "windows" ∧ r = (.ok (), [] ++ r.2) ∧
      NetState.Runs sampleNode NetState.down [] r.2 s' ∧
      NetState.Configured NetState.down s' ["10.244.0.0/16"] "10.96.0.0/12" "10.244.1.1"
        "0a:58:0a:f4:01:01" "k8s-node1" "10.244.1.2/24"
        (sampleNode.reply ([] ++ linuxSetupCommands ["10.244.0.0/16"] "10.96.0.0/12" "10.244.1.1"
          "k8s-node1" "10.244.1.2/24")
          (neighCommand "10.244.1.1" "0a:58:0a:f4:01:01" "k8s-node1")).err.isNone := by
  intro r s'
  have h₁ : r.1 = .ok () := by decide
  have h : r = (.ok (), [] ++ r.2) := Prod.ext h₁ (List.nil_append _).symm
  have hs := NetState.runs_run sampleNode NetState.down [] r.2
  exact ⟨by decide, h, hs, configureManagementPort_netState (by decide) h hs⟩

/-- **`configureManagementPort` can be run again**: off Windows, two successful runs with the same
arguments, as when a node restarts, leave the node configured from the state before the first,
whatever the kernel did along with their calls: the interface has still exactly its one address,
since each run flushes the addresses before it adds its own, and the neighbour entry is the
second run's. -/
theorem configureManagementPort_rerun {host : Host} {g : Globals} {node : Node}
    {clusterSubnet : List String}
    {clusterServicesSubnet routerIP routerMac interfaceName interfaceIP : String}
    {hist cs₁ cs₂ : List Cmd} (hw : host.goos ≠ "windows")
    (h₁ : configureManagementPort host g node clusterSubnet clusterServicesSubnet routerIP routerMac
      interfaceName interfaceIP hist = (.ok (), hist ++ cs₁))
    (h₂ : configureManagementPort host g node clusterSubnet clusterServicesSubnet routerIP routerMac
      interfaceName interfaceIP (hist ++ cs₁) = (.ok (), hist ++ cs₁ ++ cs₂))
    {s s' : NetState} (hs : NetState.Runs node s hist (cs₁ ++ cs₂) s') :
    NetState.Configured s s' clusterSubnet clusterServicesSubnet routerIP routerMac interfaceName
      interfaceIP (node.reply (hist ++ cs₁ ++ linuxSetupCommands clusterSubnet clusterServicesSubnet
        routerIP interfaceName interfaceIP) (neighCommand routerIP routerMac interfaceName)).err.isNone := by
  rw [configureManagementPort, if_neg hw] at h₁ h₂
  obtain ⟨s₁, hs₁, hs₂⟩ := hs.append
  exact (configureManagementPort_linux_run h₁ hs₁).trans (configureManagementPort_linux_run h₂ hs₂)

theorem configureManagementPort_rerun_node1 :
    let run := configureManagementPort bareHost restoreDefaultConfig sampleNode ["10.244.0.0/16"]
      "10.96.0.0/12" "10.244.1.1" "0a:58:0a:f4:01:01" "k8s-node1" "10.244.1.2/24"
    let r₁ := run []
    let r₂ := run r₁.2
    let cs₂ := r₂.2.drop r₁.2.length
    let s' := NetState.run sampleNode NetState.down [] (r₁.2 ++ cs₂)
    bareHost.goos ≠ "windows" ∧ r₁ = (.ok (), [] ++ r₁.2) ∧ r₂ = (.ok (), [] ++ r₁.2 ++ cs₂) ∧
      NetState.Runs sampleNode NetState.down [] (r₁.2 ++ cs₂) s' ∧
      NetState.Configured NetState.down s' ["10.244.0.0/16"] "10.96.0.0/12" "10.244.1.1"
        "0a:58:0a:f4:01:01" "k8s-node1" "10.244.1.2/24"
        (sampleNode.reply ([] ++ r₁.2 ++ linuxSetupCommands ["10.244.0.0/16"] "10.96.0.0/12"
          "10.244.1.1" "k8s-node1" "10.244.1.2/24")
          (neighCommand "10.244.1.1" "0a:58:0a:f4:01:01" "k8s-node1")).err.isNone := by
  intro run r₁ r₂ cs₂ s'
  have h₁ : r₁ = (.ok (), [] ++ r₁.2) := Prod.ext (by decide) (List.nil_append _).symm
  have h₂ : r₂ = (.ok (), [] ++ r₁.2 ++ cs₂) := Prod.ext (by decide) (by decide)
  have hs := NetState.runs_run sampleNode NetState.down [] (r₁.2 ++ cs₂)
  exact ⟨by decide, h₁, h₂, hs, configureManagementPort_rerun (by decide) h₁ h₂ hs⟩

/-- **On Windows the management interface gets its logical port's address**: when
`CreateManagementPort` succeeds and `util.NextIP` has kept the port address an IPv4 one, the local
subnet's prefix length is at most 32, and `New-NetIPAddress` has given the interface the address
the logical port `k8s-<node>` was added with, with that prefix length, although the address went
through `fmt.Sprintf("%s/%d", ...)`, `ParseCIDR` and `String()` on the way. -/
theorem createManagementPort_windows_address {host : Host} {g : Globals} {node : Node}
    {nodeName localSubnet clusterServicesSubnet : String} {clusterSubnet : List String}
    {hist hist' : List Cmd} {ip : IP} {subnet : IPNet} {a b c d : Byte}
    (hw : host.goos = "windows") (hl : parseCIDR localSubnet = .ok (ip, subnet))
    (h4 : (node.nextIP (node.nextIP ip)).to4 = some [a, b, c, d])
    (h : createManagementPort host g node nodeName localSubnet clusterServicesSubnet clusterSubnet
      hist = (.ok (), hist')) :
    let name := toLower nodeName
    let portIP := (node.nextIP (node.nextIP ip)).string
    subnet.mask.size.1 ≤ 32 ∧
      (∃ mac, ⟨.ovnNbctl, ["--", "--may-exist", "lsp-add", name, "k8s-" ++ name, "--",
        "lsp-set-addresses", "k8s-" ++ name, mac ++ " " ++ portIP]⟩ ∈ hist') ∧
      ⟨.powershell, ["New-NetIPAddress", "-IPAddress " ++ portIP,
        "-PrefixLength " ++ toString subnet.mask.size.1,
        "-InterfaceAlias " ++ node.getK8sMgmtIntfName name]⟩ ∈ hist' := by
  rcases createManagementPort_cases h with ⟨_, ⟨⟩⟩ | ⟨_, ⟨⟩⟩ | ⟨_, ⟨⟩⟩ |
    ⟨ip', subnet', hp, _, _, cs, -, -, -, hlsp, -, h⟩
  obtain ⟨rfl, rfl⟩ := Prod.mk.inj (Except.ok.inj (hl.symm.trans hp))
  rw [configureManagementPort, if_pos hw] at h
  obtain ⟨_, _, pre, -, -, hparse, hpre, hpost, hnew, -⟩ := configureManagementPortWindows_eq_ok h
  replace hpost := (List.prefix_append pre _).trans hpost
  have hn : subnet.mask.size.1 < 0xFFFFFF := by
    rcases size_mask_of_parseCIDR hl with h | h <;> omega
  rw [parseCIDR_string_of_to4 h4 hn] at hparse
  split_ifs at hparse with h32
  cases hparse
  rw [size_cidrMask (.inl rfl) h32, string_of_to4 (to4_IPv4 a b c d), ← string_of_to4 h4] at hnew
  exact ⟨h32, ⟨_, (hpre.trans hpost).subset (List.mem_append_right _ hlsp)⟩, hpost.subset hnew⟩

theorem createManagementPort_windows_address_node1 :
    let ip := IPv4 10 244 1 0
    let subnet : IPNet := ⟨[10, 244, 1, 0], [255, 255, 255, 0]⟩
    let r := createManagementPort windowsHost restoreDefaultConfig sampleNode "Node1"
      "10.244.1.0/24" "10.96.0.0/12" ["10.244.0.0/16"] []
    windowsHost.goos = "windows" ∧ parseCIDR "10.244.1.0/24" = .ok (ip, subnet) ∧
      (sampleNode.nextIP (sampleNode.nextIP ip)).to4 = some [10, 244, 1, 2] ∧ r.1 = .ok () ∧
      let name := toLower "Node1"
      let portIP := (sampleNode.nextIP (sampleNode.nextIP ip)).string
      subnet.mask.size.1 ≤ 32 ∧
        (∃ mac, ⟨.ovnNbctl, ["--", "--may-exist", "lsp-add", name, "k8s-" ++ name, "--",
          "lsp-set-addresses", "k8s-" ++ name, mac ++ " " ++ portIP]⟩ ∈ r.2) ∧
        ⟨.powershell, ["New-NetIPAddress", "-IPAddress " ++ portIP,
          "-PrefixLength " ++ toString subnet.mask.size.1,
          "-InterfaceAlias " ++ sampleNode.getK8sMgmtIntfName name]⟩ ∈ r.2 := by
  intro ip subnet r
  have h4 : (sampleNode.nextIP (sampleNode.nextIP ip)).to4 = some [10, 244, 1, 2] := by decide
  have h : r.1 = .ok () := by decide
  exact ⟨rfl, by decide, h4, h, createManagementPort_windows_address rfl (by decide) h4
    (show createManagementPort windowsHost restoreDefaultConfig sampleNode "Node1"
      "10.244.1.0/24" "10.96.0.0/12" ["10.244.0.0/16"] [] = (.ok (), r.2) from Prod.ext h rfl)⟩


/-- **`CreateManagementPort` never fails with `"Failed to parse interfaceIP"` for an IPv4 local
subnet**, as long as `util.NextIP` keeps the port address an IPv4 one: on Windows the port address
and prefix length it hands on always parse, and off Windows nothing parses them. -/
theorem createManagementPort_ne_interfaceIP {host : Host} {g : Globals} {node : Node}
    {nodeName localSubnet clusterServicesSubnet : String} {clusterSubnet : List String}
    {hist hist' : List Cmd} {r : Except MgmtPortError Unit} {ip : IP} {subnet : IPNet}
    {a b c d : Byte} (hl : parseCIDR localSubnet = .ok (ip, subnet))
    (hv4 : subnet.mask.length = 4) (h4 : (node.nextIP (node.nextIP ip)).to4 = some [a, b, c, d])
    (h : createManagementPort host g node nodeName localSubnet clusterServicesSubnet clusterSubnet
      hist = (r, hist')) :
    ∀ s err, r ≠ .error (.interfaceIP s err) := by
  rintro s err rfl
  rcases createManagementPort_cases h with ⟨_, ⟨⟩⟩ | ⟨_, ⟨⟩⟩ | ⟨_, ⟨⟩⟩ |
    ⟨ip', subnet', hp, _, _, _, -, -, -, -, -, h⟩
  obtain ⟨rfl, rfl⟩ := Prod.mk.inj (Except.ok.inj (hl.symm.trans hp))
  have h32 : subnet.mask.size.1 ≤ 32 := by
    rcases size_mask_of_parseCIDR hl with h | h <;> omega
  have hparse := (configureManagementPort_interfaceIP h).2
  rw [parseCIDR_string_of_to4 h4 (by omega), if_pos h32] at hparse
  cases hparse

theorem createManagementPort_ne_interfaceIP_node1 :
    let ip := IPv4 10 244 1 0
    let subnet : IPNet := ⟨[10, 244, 1, 0], [255, 255, 255, 0]⟩
    let r := createManagementPort windowsHost restoreDefaultConfig sampleNode "Node1"
      "10.244.1.0/24" "10.96.0.0/12" ["10.244.0.0/16"] []
    parseCIDR "10.244.1.0/24" = .ok (ip, subnet) ∧ subnet.mask.length = 4 ∧
      (sampleNode.nextIP (sampleNode.nextIP ip)).to4 = some [10, 244, 1, 2] ∧
      ∀ s err, r.1 ≠ .error (.interfaceIP s err) := by
  intro ip subnet r
  have hl : parseCIDR "10.244.1.0/24" = .ok (ip, subnet) := by decide
  have h4 : (sampleNode.nextIP (sampleNode.nextIP ip)).to4 = some [10, 244, 1, 2] := by decide
  exact ⟨hl, rfl, h4, createManagementPort_ne_interfaceIP hl rfl h4
    (show createManagementPort windowsHost restoreDefaultConfig sampleNode "Node1"
      "10.244.1.0/24" "10.96.0.0/12" ["10.244.0.0/16"] [] = (r.1, r.2) from rfl)⟩

end OvnKubernetes.Ovn
