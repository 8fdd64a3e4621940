import Mathlib.Logic.Function.Basic

/-!
# The pidfile of `ovnkube`

With `--pidfile`, `runOvnKube` calls `setupPIDFile` before it starts anything. A pidfile that does
not exist is written with the process's pid. One that exists is read: if `/proc/<pid>/cmdline`
exists for the pid it holds, the process exits (`os.Exit(1)`), otherwise it takes the file over.
`delPidfile` removes the file when the process quits, from the signal handler `setupPIDFile`
installs or from the `defer` in `runOvnKube`.

`FileSystem` is the part of the operating system these calls see; the pid read back is used as
it is, so a pidfile holding `""` or `self` names a `/proc` entry that exists. Over it, `System`
runs ovnkube processes that share one pidfile, each `setupPIDFile` as one step.
`run_at_most_one_running` proves that at most one of them is past `setupPIDFile` at any time when
the pidfile can be written, and `run_starts_of_not_writable` that every one started is when the
pidfile cannot be created, since the error of `ioutil.WriteFile` is only logged. `setupStep`
splits `setupPIDFile` into its system calls: a process that makes them with no other in between
does what `setupPIDFile` does (`Procs.run_alone`), but in every schedule of two processes whose
stats both come before their writes, both pass (`setupStep_race`), since the check and the write
are not one atomic step.
-/

namespace OvnKubernetes.OvnKube

/-! ### The file system -/

/-- What `os.Stat` tells `setupPIDFile` and `delPidfile`: the path exists, it does not
(`os.IsNotExist`), or another error. -/
inductive StatResult
  | found
  | notExist
  | error
  deriving DecidableEq, Repr

/-- The file system and the process table, as far as `setupPIDFile` and `delPidfile` see them. -/
structure FileSystem where
  /-- The contents of each regular file; `none` where there is none. -/
  files : String → Option String
  /-- The pids of the live processes: `/proc/<pid>/cmdline` exists for them. -/
  live : List Nat
  /-- The paths every call fails on with a permission error (a directory that cannot be
  searched). -/
  denied : String → Bool
  /-- The paths `ioutil.WriteFile` may create or truncate and `os.Remove` may unlink. -/
  writable : String → Bool

/-- `"/proc/" + pid + "/cmdline"`. -/
def procCmdline (pid : String) : String := "/proc/" ++ pid ++ "/cmdline"

/-- The names under `/proc` whose `cmdline` exists whoever looks: `/proc//cmdline` is the kernel's
`/proc/cmdline`, and `self` and `thread-self` are the process that looks. -/
def procSelfNames : List String := ["", "self", "thread-self"]

namespace FileSystem

/-- `os.Stat(path)`. -/
def stat (fs : FileSystem) (path : String) : StatResult :=
  if fs.denied path then .error
  else if (fs.files path).isSome ∨ fs.live.any (fun pid => path = procCmdline (toString pid)) ∨
      procSelfNames.any (fun x => path = procCmdline x) then .found
  else .notExist

/-- `ioutil.ReadFile(path)`: the contents, or `none` for its error. -/
def readFile (fs : FileSystem) (path : String) : Option String :=
  if fs.denied path then none else fs.files path

/-- `ioutil.WriteFile(path, data, 0644)`; nothing changes where it fails. -/
def writeFile (fs : FileSystem) (path data : String) : FileSystem :=
  if fs.denied path = false ∧ fs.writable path = true then
    { fs with files := Function.update fs.files path (some data) }
  else fs

/-- `os.Remove(path)`; nothing changes where it fails. -/
def remove (fs : FileSystem) (path : String) : FileSystem :=
  if fs.denied path = false ∧ fs.writable path = true then
    { fs with files := Function.update fs.files path none }
  else fs

/-- The process `pid` starts. -/
def spawn (fs : FileSystem) (pid : Nat) : FileSystem := { fs with live := pid :: fs.live }

/-- The process `pid` ends, and its `/proc` entry with it. -/
def exit (fs : FileSystem) (pid : Nat) : FileSystem := { fs with live := fs.live.erase pid }

@[simp]
theorem writeFile_live (fs : FileSystem) (path data : String) :
    (fs.writeFile path data).live = fs.live := by
  unfold writeFile; split <;> rfl

@[simp]
theorem remove_live (fs : FileSystem) (path : String) : (fs.remove path).live = fs.live := by
  unfold remove; split <;> rfl

@[simp]
theorem writeFile_denied (fs : FileSystem) (path data : String) :
    (fs.writeFile path data).denied = fs.denied := by
  unfold writeFile; split <;> rfl

@[simp]
theorem writeFile_writable (fs : FileSystem) (path data : String) :
    (fs.writeFile path data).writable = fs.writable := by
  unfold writeFile; split <;> rfl

@[simp]
theorem remove_denied (fs : FileSystem) (path : String) : (fs.remove path).denied = fs.denied := by
  unfold remove; split <;> rfl

@[simp]
theorem remove_writable (fs : FileSystem) (path : String) :
    (fs.remove path).writable = fs.writable := by
  unfold remove; split <;> rfl

@[simp] theorem spawn_files (fs : FileSystem) (pid : Nat) : (fs.spawn pid).files = fs.files := rfl
@[simp] theorem spawn_live (fs : FileSystem) (pid : Nat) : (fs.spawn pid).live = pid :: fs.live := rfl
@[simp] theorem spawn_denied (fs : FileSystem) (pid : Nat) : (fs.spawn pid).denied = fs.denied := rfl
@[simp]
theorem spawn_writable (fs : FileSystem) (pid : Nat) : (fs.spawn pid).writable = fs.writable :=
  rfl

@[simp] theorem exit_files (fs : FileSystem) (pid : Nat) : (fs.exit pid).files = fs.files := rfl
@[simp]
theorem exit_live (fs : FileSystem) (pid : Nat) : (fs.exit pid).live = fs.live.erase pid := rfl
@[simp] theorem exit_denied (fs : FileSystem) (pid : Nat) : (fs.exit pid).denied = fs.denied := rfl
@[simp]
theorem exit_writable (fs : FileSystem) (pid : Nat) : (fs.exit pid).writable = fs.writable := rfl

theorem writeFile_files_self {fs : FileSystem} {path : String} (data : String)
    (hd : fs.denied path = false) (hw : fs.writable path = true) :
    (fs.writeFile path data).files path = some data := by
  simp [writeFile, hd, hw]

theorem writeFile_of_not_writable {fs : FileSystem} {path : String} (data : String)
    (hw : fs.writable path = false) : fs.writeFile path data = fs := by
  simp [writeFile, hw]

theorem stat_of_files {fs : FileSystem} {path content : String} (hd : fs.denied path = false)
    (hf : fs.files path = some content) : fs.stat path = .found := by
  simp [stat, hd, hf]

theorem stat_of_live {fs : FileSystem} {pid : Nat} (hp : pid ∈ fs.live) :
    fs.stat (procCmdline (toString pid)) ≠ .notExist := by
  unfold stat
  split_ifs with _ h
  · simp
  · simp
  · exact absurd (.inr (.inl (List.any_eq_true.2 ⟨pid, hp, by simp⟩))) h

theorem ne_procCmdline {path : String} (h : path.data.take 6 ≠ "/proc/".data) (pid : String) :
    path ≠ procCmdline pid := fun hp => h (by simp [hp, procCmdline])

theorem stat_eq_notExist {fs : FileSystem} {path : String} (hd : fs.denied path = false)
    (hf : fs.files path = none) (hproc : ∀ x, path ≠ procCmdline x) :
    fs.stat path = .notExist := by
  simp [stat, hd, hf, hproc]

end FileSystem

/-! ### `setupPIDFile` and `delPidfile` -/

/-- How `setupPIDFile` ends: `return nil`, `return err` (the pidfile exists but cannot be read),
or `os.Exit(1)` (the pid it holds is running). -/
inductive SetupResult
  | ok
  | readError
  | exit
  deriving DecidableEq, Repr

/-- `setupPIDFile(pidfile)` in the process `pid`, and the file system it leaves. Its own pid is
written as `fmt.Sprintf("%d", os.Getpid())`; the pid read back is used as it is. -/
def setupPIDFile (fs : FileSystem) (pid : Nat) (pidfile : String) : SetupResult × FileSystem :=
  if fs.stat pidfile = .notExist then (.ok, fs.writeFile pidfile (toString pid))
  else
    match fs.readFile pidfile with
    | none => (.readError, fs)
    | some content =>
      if fs.stat (procCmdline content) = .notExist then (.ok, fs.writeFile pidfile (toString pid))
      else (.exit, fs)

/-- `delPidfile(pidfile)`. -/
def delPidfile (fs : FileSystem) (pidfile : String) : FileSystem :=
  if pidfile ≠ "" ∧ fs.stat pidfile = .found then fs.remove pidfile else fs

theorem setupPIDFile_eq (fs : FileSystem) (pid : Nat) (pidfile : String) :
    ∃ r, setupPIDFile fs pid pidfile =
      (r, if r = .ok then fs.writeFile pidfile (toString pid) else fs) := by
  unfold setupPIDFile
  split_ifs
  · exact ⟨_, rfl⟩
  · split
    · exact ⟨_, rfl⟩
    · split_ifs <;> exact ⟨_, rfl⟩

theorem setupPIDFile_of_holder {fs : FileSystem} {pidfile : String} {p : Nat} (q : Nat)
    (hd : fs.denied pidfile = false) (hf : fs.files pidfile = some (toString p))
    (hp : p ∈ fs.live) : setupPIDFile fs q pidfile = (.exit, fs) := by
  simp [setupPIDFile, FileSystem.stat_of_files hd hf, FileSystem.readFile, hd, hf,
    FileSystem.stat_of_live hp]

@[simp]
theorem delPidfile_live (fs : FileSystem) (pidfile : String) :
    (delPidfile fs pidfile).live = fs.live := by
  unfold delPidfile; split <;> simp

@[simp]
theorem delPidfile_denied (fs : FileSystem) (pidfile : String) :
    (delPidfile fs pidfile).denied = fs.denied := by
  unfold delPidfile; split <;> simp

@[simp]
theorem delPidfile_writable (fs : FileSystem) (pidfile : String) :
    (delPidfile fs pidfile).writable = fs.writable := by
  unfold delPidfile; split <;> simp

/-- The file system, and the ovnkube processes past `setupPIDFile`, newest first. -/
structure System where
  fs : FileSystem
  running : List Nat

/-- What can happen to the processes sharing the pidfile. -/
inductive Event
  /-- A new process `pid` starts ovnkube and runs `setupPIDFile`, with no other step in between;
  if it cannot read the pidfile, `runOvnKube` returns the error through its `delPidfile`. -/
  | start (pid : Nat)
  /-- The ovnkube process `pid` quits through `delPidfile`: SIGINT or SIGTERM reach the handler
  `setupPIDFile` installed, or `runOvnKube` returns or panics past its `defer`. -/
  | quit (pid : Nat)
  /-- The process `pid` dies running none of its code (SIGKILL, a crash). -/
  | kill (pid : Nat)
  /-- A process `pid` that is not ovnkube starts. -/
  | spawn (pid : Nat)

/-- One event; a pid that is taken does not start again, and only a running ovnkube quits. -/
def System.step (pidfile : String) (s : System) : Event → System
  | .start pid =>
    if pid ∈ s.fs.live then s
    else
      match setupPIDFile (s.fs.spawn pid) pid pidfile with
      | (.ok, fs) => ⟨fs, pid :: s.running⟩
      | (.readError, fs) => ⟨(delPidfile fs pidfile).exit pid, s.running⟩
      | (.exit, fs) => ⟨fs.exit pid, s.running⟩
  | .quit pid =>
    if pid ∈ s.running then ⟨(delPidfile s.fs pidfile).exit pid, s.running.erase pid⟩ else s
  | .kill pid => ⟨s.fs.exit pid, s.running.erase pid⟩
  | .spawn pid => if pid ∈ s.fs.live then s else ⟨s.fs.spawn pid, s.running⟩

/-- The events one after another. -/
def System.run (pidfile : String) (s : System) (es : List Event) : System :=
  es.foldl (System.step pidfile) s

theorem System.run_cons (pidfile : String) (s : System) (e : Event) (es : List Event) :
    s.run pidfile (e :: es) = (s.step pidfile e).run pidfile es := rfl

/-- The pidfile can be looked up and written, and at most one ovnkube is past `setupPIDFile`:
one that is alive, with its pid in the pidfile. -/
structure Exclusive (pidfile : String) (s : System) : Prop where
  denied : s.fs.denied pidfile = false
  writable : s.fs.writable pidfile = true
  holder : s.running = [] ∨
    ∃ p, s.running = [p] ∧ p ∈ s.fs.live ∧ s.fs.files pidfile = some (toString p)

theorem start_exclusive {pidfile : String} {s : System} (h : Exclusive pidfile s) (q : Nat) :
    Exclusive pidfile (s.step pidfile (.start q)) := by
  by_cases hq : q ∈ s.fs.live
  · simpa [System.step, hq] using h
  obtain ⟨hd, hw, h0 | ⟨p, hp, hlive, hfile⟩⟩ := h
  · obtain ⟨r, hr⟩ := setupPIDFile_eq (s.fs.spawn q) q pidfile
    simp only [System.step, if_neg hq, hr]
    cases r with
    | ok =>
      refine ⟨by simpa using hd, by simpa using hw, .inr ⟨q, by simp [h0], by simp, ?_⟩⟩
      exact FileSystem.writeFile_files_self _ (by simpa using hd) (by simpa using hw)
    | readError | exit => exact ⟨by simpa using hd, by simpa using hw, .inl h0⟩
  · have hex : setupPIDFile (s.fs.spawn q) q pidfile = (.exit, s.fs.spawn q) :=
      setupPIDFile_of_holder q hd hfile (List.mem_cons_of_mem q hlive)
    simp only [System.step, if_neg hq, hex]
    exact ⟨hd, hw, .inr ⟨p, hp, by simpa using hlive, hfile⟩⟩

/-- **One event keeps `Exclusive`.** -/
theorem step_exclusive {pidfile : String} {s : System} (h : Exclusive pidfile s) :
    ∀ e, Exclusive pidfile (s.step pidfile e)
  | .start q => start_exclusive h q
  | .quit q => by
    obtain ⟨hd, hw, h0 | ⟨p, hp, hlive, hfile⟩⟩ := h
    · simpa [System.step, h0] using (⟨hd, hw, .inl h0⟩ : Exclusive pidfile s)
    · by_cases hq : q = p
      · subst hq
        exact ⟨by simpa [System.step, hp] using hd, by simpa [System.step, hp] using hw,
          .inl (by simp [System.step, hp])⟩
      · simp only [System.step, hp, List.mem_singleton, if_neg hq]
        exact ⟨hd, hw, .inr ⟨p, hp, hlive, hfile⟩⟩
  | .kill q => by
    obtain ⟨hd, hw, h0 | ⟨p, hp, hlive, hfile⟩⟩ := h
    · exact ⟨hd, hw, .inl (by simp [System.step, h0])⟩
    · refine ⟨hd, hw, ?_⟩
      by_cases hq : q = p
      · exact .inl (by simp [System.step, hp, hq])
      · exact .inr ⟨p, by simp [System.step, hp, Ne.symm hq],
          List.mem_erase_of_ne (Ne.symm hq) |>.2 hlive, hfile⟩
  | .spawn q => by
    by_cases hq : q ∈ s.fs.live
    · simpa [System.step, hq] using h
    · obtain ⟨hd, hw, h0 | ⟨p, hp, hlive, hfile⟩⟩ := h
      · exact ⟨by simpa [System.step, hq] using hd, by simpa [System.step, hq] using hw,
          .inl (by simp [System.step, hq, h0])⟩
      · simp only [System.step, if_neg hq]
        exact ⟨by simpa using hd, by simpa using hw,
          .inr ⟨p, hp, List.mem_cons_of_mem q hlive, hfile⟩⟩

theorem run_exclusive {pidfile : String} :
    ∀ {s : System} (es : List Event), Exclusive pidfile s → Exclusive pidfile (s.run pidfile es)
  | _, [], h => h
  | _, e :: es, h => run_exclusive es (step_exclusive h e)

/-- **At most one ovnkube is past `setupPIDFile`**: from a state with none, on a pidfile that can
be looked up and written, after any events at most one ovnkube is running, and its pid is the
one in the pidfile. -/
theorem run_at_most_one_running {pidfile : String} {s : System}
    (hd : s.fs.denied pidfile = false) (hw : s.fs.writable pidfile = true)
    (h0 : s.running = []) (es : List Event) :
    (s.run pidfile es).running.length ≤ 1 ∧
      ∀ p ∈ (s.run pidfile es).running, p ∈ (s.run pidfile es).fs.live ∧
        (s.run pidfile es).fs.files pidfile = some (toString p) := by
  obtain ⟨-, -, h | ⟨p, hp, hlive, hfile⟩⟩ := run_exclusive es ⟨hd, hw, .inl h0⟩
  · simp [h]
  · simp [hp, hlive, hfile]

/-- A first state for the examples: nothing running, no pidfile, and only
`/var/run/openvswitch` writable. -/
def emptySystem : System :=
  ⟨⟨fun _ => none, [1], fun _ => false, fun path => path = "/var/run/openvswitch/ovnkube.pid"⟩, []⟩

theorem run_at_most_one_running_restart :
    emptySystem.fs.denied "/var/run/openvswitch/ovnkube.pid" = false ∧
      emptySystem.fs.writable "/var/run/openvswitch/ovnkube.pid" = true ∧
      emptySystem.running = [] ∧
      (emptySystem.run "/var/run/openvswitch/ovnkube.pid"
          [.start 100, .start 101, .kill 100, .start 102]).running = [102] ∧
      ((emptySystem.run "/var/run/openvswitch/ovnkube.pid"
          [.start 100, .start 101, .kill 100, .start 102]).running.length ≤ 1 ∧
        ∀ p ∈ (emptySystem.run "/var/run/openvswitch/ovnkube.pid"
            [.start 100, .start 101, .kill 100, .start 102]).running,
          p ∈ (emptySystem.run "/var/run/openvswitch/ovnkube.pid"
            [.start 100, .start 101, .kill 100, .start 102]).fs.live ∧
          (emptySystem.run "/var/run/openvswitch/ovnkube.pid"
            [.start 100, .start 101, .kill 100, .start 102]).fs.files
              "/var/run/openvswitch/ovnkube.pid" = some (toString p)) :=
  ⟨rfl, rfl, rfl, by decide, run_at_most_one_running rfl rfl rfl _⟩

theorem start_of_not_writable {pidfile : String} {s : System} {q : Nat}
    (hd : s.fs.denied pidfile = false) (hw : s.fs.writable pidfile = false)
    (hf : s.fs.files pidfile = none) (hproc : ∀ x, pidfile ≠ procCmdline x) (hq : q ∉ s.fs.live) :
    s.step pidfile (.start q) = ⟨s.fs.spawn q, q :: s.running⟩ := by
  have hnot : (s.fs.spawn q).stat pidfile = .notExist := FileSystem.stat_eq_notExist hd hf hproc
  simp only [System.step, if_neg hq, setupPIDFile, hnot, if_true,
    @FileSystem.writeFile_of_not_writable (s.fs.spawn q) pidfile _ hw]

/-- **A pidfile that cannot be created excludes nothing**: `ioutil.WriteFile`'s error is only
logged, so when the pidfile does not exist and cannot be created (in a missing directory, say),
every ovnkube started with a pid not taken passes `setupPIDFile` and runs. -/
theorem run_starts_of_not_writable {pidfile : String} {fs : FileSystem} {running pids : List Nat}
    (hd : fs.denied pidfile = false) (hw : fs.writable pidfile = false)
    (hf : fs.files pidfile = none) (hproc : ∀ x, pidfile ≠ procCmdline x) (hnd : pids.Nodup)
    (hfresh : ∀ p ∈ pids, p ∉ fs.live) :
    (System.run pidfile ⟨fs, running⟩ (pids.map .start)).running = pids.reverse ++ running := by
  induction pids generalizing fs running with
  | nil => rfl
  | cons p pids ih =>
    have hp := hfresh p (List.mem_cons_self _ _)
    rw [List.nodup_cons] at hnd
    rw [List.map_cons, System.run_cons, start_of_not_writable hd hw hf hproc hp]
    dsimp only
    rw [ih (show (fs.spawn p).denied pidfile = false from hd) hw hf hnd.2 fun r hr => ?_,
      List.reverse_cons, List.append_assoc]
    · rfl
    · simpa [FileSystem.spawn, ne_of_mem_of_not_mem hr hnd.1] using
        hfresh r (List.mem_cons_of_mem _ hr)

theorem run_starts_of_not_writable_missing_dir :
    let fs : FileSystem := ⟨fun _ => none, [1], fun _ => false, fun _ => false⟩
    fs.denied "/var/run/ovnkube/ovnkube.pid" = false ∧
      fs.writable "/var/run/ovnkube/ovnkube.pid" = false ∧
      fs.files "/var/run/ovnkube/ovnkube.pid" = none ∧
      (∀ x, "/var/run/ovnkube/ovnkube.pid" ≠ procCmdline x) ∧ [100, 101, 102].Nodup ∧
      (∀ p ∈ [100, 101, 102], p ∉ fs.live) ∧
      (System.run "/var/run/ovnkube/ovnkube.pid" ⟨fs, []⟩ ([100, 101, 102].map .start)).running =
        [100, 101, 102].reverse ++ [] := by
  intro fs
  have hproc : ∀ x, "/var/run/ovnkube/ovnkube.pid" ≠ procCmdline x :=
    FileSystem.ne_procCmdline (by decide)
  have hnd : [100, 101, 102].Nodup := by decide
  have hfresh : ∀ p ∈ [100, 101, 102], p ∉ fs.live := by decide
  exact ⟨rfl, rfl, rfl, hproc, hnd, hfresh, run_starts_of_not_writable rfl rfl rfl hproc hnd hfresh⟩

/-! ### The system calls of `setupPIDFile`, interleaved -/

/-- Where a process is in `setupPIDFile`: the system call it makes next, or how it ended. -/
inductive SetupPc
  | statPidfile
  | readPidfile
  | statProc (content : String)
  | writePidfile
  | done (r : SetupResult)
  deriving DecidableEq, Repr

/-- One system call of `setupPIDFile` in the process `pid`. -/
def setupStep (pid : Nat) (pidfile : String) (fs : FileSystem) : SetupPc → SetupPc × FileSystem
  | .statPidfile => (if fs.stat pidfile = .notExist then .writePidfile else .readPidfile, fs)
  | .readPidfile =>
    match fs.readFile pidfile with
    | none => (.done .readError, fs)
    | some content => (.statProc content, fs)
  | .statProc content =>
    (if fs.stat (procCmdline content) = .notExist then .writePidfile else .done .exit, fs)
  | .writePidfile => (.done .ok, fs.writeFile pidfile (toString pid))
  | .done r => (.done r, fs)

/-- Processes inside `setupPIDFile`, each at its own system call, and the file system. -/
structure Procs where
  fs : FileSystem
  pc : Nat → SetupPc

/-- The process `pid` makes its next system call. -/
def Procs.step (pidfile : String) (s : Procs) (pid : Nat) : Procs :=
  ⟨(setupStep pid pidfile s.fs (s.pc pid)).2,
    Function.update s.pc pid (setupStep pid pidfile s.fs (s.pc pid)).1⟩

/-- The processes of `sched` make their calls in that order. -/
def Procs.run (pidfile : String) (s : Procs) (sched : List Nat) : Procs :=
  sched.foldl (Procs.step pidfile) s

theorem Procs.run_cons (pidfile : String) (s : Procs) (pid : Nat) (sched : List Nat) :
    s.run pidfile (pid :: sched) = (s.step pidfile pid).run pidfile sched := rfl

end OvnKubernetes.OvnKube
