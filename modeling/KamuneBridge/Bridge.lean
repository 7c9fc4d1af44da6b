import KamuneBridge.Binary
import KamuneBridge.Reader

/-!
# The process supervisor

`DaemonBridge` with the processes it has launched. Each method is a function of the
`Host`, the bridge and the process table together; what the operating system decides
(a write that fails, a launch that fails, `try_wait` failing) is an argument. `kill`
followed by `wait` leaves the child reaped: `wait` returns once the process is gone.
-/

namespace KamuneBridge

/-- A launched process: running, exited but not reaped, or reaped. -/
inductive ProcStatus
  | running | exited | reaped
  deriving DecidableEq, Repr

/-- A launched daemon with its pipes: what the bridge wrote to its stdin, and the lines it
wrote to its stdout that the reader has not taken yet. -/
structure Proc where
  status : ProcStatus
  stdin : List Char
  stdout : List String

/-- The fields of `DaemonBridge`. `child`, `stdin` and `shutdown_tx` name a launched process,
`event_tx` an event channel. -/
structure DaemonBridge where
  child : Option Nat
  stdin : Option Nat
  pendingResponses : PendingTable
  eventTx : Option Nat
  shutdownTx : Option Nat

/-- `DaemonBridge::new`. -/
def DaemonBridge.new : DaemonBridge := ⟨none, none, ∅, none, none⟩

/-- The bridge and every process it has launched, in launch order. -/
structure Host where
  bridge : DaemonBridge
  procs : List Proc

def Host.status (h : Host) (p : Nat) : Option ProcStatus := (h.procs.map (·.status))[p]?

/-- The lines waiting in the stdout pipe of process `p`. -/
def Host.output (h : Host) (p : Nat) : List String := ((h.procs.map (·.stdout))[p]?).getD []

/-- What the bridge has written to the stdin pipe of process `p`. -/
def Host.input (h : Host) (p : Nat) : List Char := ((h.procs.map (·.stdin))[p]?).getD []

/-- Alive or exited but not yet reaped. -/
def Host.isLive (h : Host) (p : Nat) : Bool :=
  match h.status p with
  | some .running | some .exited => true
  | _ => false

def Host.writeStdin (h : Host) (p : Nat) (bytes : List Char) : Host :=
  { h with procs := h.procs.modify (fun pr => { pr with stdin := pr.stdin ++ bytes }) p }

def Host.reap (h : Host) (p : Nat) : List Proc :=
  h.procs.modify (fun pr => { pr with status := .reaped }) p

/-- What one `writeln!` and `flush` do: both succeed, the write fails after some bytes, or
the flush fails. -/
inductive PipeOutcome
  | ok
  | writeFailed (written : Nat) (err : String)
  | flushFailed (err : String)

/-- `send_command`. `serde_json::to_string` cannot fail on a command, so `JsonError` does
not arise. -/
def Host.sendCommand (h : Host) (c : DaemonCommand) (out : PipeOutcome) :
    Except DaemonError String × Host :=
  match h.bridge.stdin with
  | none => (.error .notRunning, h)
  | some p =>
    match out with
    | .ok => (.ok c.id, h.writeStdin p (frame c))
    | .writeFailed n err =>
      (.error (.sendError ("failed to write to stdin: " ++ err)), h.writeStdin p ((frame c).take n))
    | .flushFailed err =>
      (.error (.sendError ("failed to flush stdin: " ++ err)), h.writeStdin p (frame c))

/-- `spawn`: `launch` is the error of `Command::spawn`, `none` when it succeeds. The new
process's reader and shutdown monitor are started by the caller. -/
def Host.spawn (h : Host) (eventTx : Nat) (launch : Option String) : Except DaemonError Unit × Host :=
  if h.bridge.child.isSome then (.error .alreadyRunning, h)
  else
    match launch with
    | some err => (.error (.spawnError err), h)
    | none =>
      let p := h.procs.length
      (.ok (), { bridge := { h.bridge with shutdownTx := some p, stdin := some p,
                                           eventTx := some eventTx, child := some p },
                 procs := h.procs ++ [⟨.running, [], []⟩] })

/-- `is_running`: `waitErr` is whether `try_wait` fails. -/
def Host.isRunning (h : Host) (waitErr : Bool) : Bool × Host :=
  match h.bridge.child with
  | none => (false, h)
  | some p =>
    if waitErr then (false, h)
    else if (h.procs[p]?.map (·.status)) = some .running then (true, h)
    else (false, { bridge := { h.bridge with child := none, stdin := none }, procs := h.reap p })

/-- `stop`: a best-effort `shutdown` command (`shutdownId` is its uuid), the grace period,
then `kill` and `wait`. -/
def Host.stop (h : Host) (shutdownId : String) (out : PipeOutcome) : Except DaemonError Unit × Host :=
  let h := if h.bridge.stdin.isSome then
    (h.sendCommand (DaemonCommand.new "shutdown" shutdownId (.object [])) out).2 else h
  let procs := match h.bridge.child with
    | some p => h.reap p
    | none => h.procs
  (.ok (), { bridge := { h.bridge with child := none, stdin := none, shutdownTx := none },
             procs := procs })

structure CommandResponse where
  success : Bool
  data : Option Value
  error : Option String

/-- `CommandResponse::success`. -/
def CommandResponse.successWith (data : Value) : CommandResponse := ⟨true, some data, none⟩

/-- `CommandResponse::error`. -/
def CommandResponse.errorWith (msg : String) : CommandResponse := ⟨false, none, some msg⟩

/-- `to_string_lossy` of a path. -/
def Path.toStringLossy (p : Path) : String :=
  (if p.absolute then "/" else "") ++ "/".intercalate p.comps

/-- The `start_daemon` command. `eventTx` is the channel it creates; storing the receiver and
starting the forwarder task are the channel's consumer side. `json!` objects list their
keys in order, as the map holds them. -/
def Host.startDaemon (h : Host) (waitErr : Bool) (fs : FileSystem) (plat : Platform)
    (currentExe resourceDir : Option Path) (eventTx : Nat) (launch : Option String) :
    CommandResponse × Host :=
  let (running, h) := h.isRunning waitErr
  if running then (.errorWith "Daemon is already running", h)
  else
    match findDaemonBinary fs plat currentExe resourceDir with
    | .error e => (.errorWith ("Daemon binary not found: " ++ e.message), h)
    | .ok path =>
      match h.spawn eventTx launch with
      | (.error e, h) => (.errorWith ("Failed to spawn daemon: " ++ e.message), h)
      | (.ok (), h) =>
        (.successWith (.object [("path", .string path.toStringLossy), ("status", .string "started")]), h)

/-- The `stop_daemon` command. -/
def Host.stopDaemon (h : Host) (waitErr : Bool) (shutdownId : String) (out : PipeOutcome) :
    CommandResponse × Host :=
  let (running, h) := h.isRunning waitErr
  if !running then (.errorWith "Daemon is not running", h)
  else
    match h.stop shutdownId out with
    | (.error e, h) => (.errorWith ("Failed to stop daemon: " ++ e.message), h)
    | (.ok (), h) => (.successWith (.object [("status", .string "stopped")]), h)

/-- The `daemon_status` command. -/
def Host.daemonStatus (h : Host) (waitErr : Bool) : CommandResponse × Host :=
  let (running, h) := h.isRunning waitErr
  (.successWith (.object [("running", .bool running)]), h)

lemma map_modify_of_comp {α β : Type} (f : α → α) (g : α → β) (hf : ∀ x, g (f x) = g x)
    (n : Nat) (l : List α) : (l.modify f n).map g = l.map g := by
  apply List.ext_getElem?
  intro m
  simp only [List.getElem?_map, List.getElem?_modify]
  cases l[m]? <;> by_cases h : n = m <;> simp [h, hf]

@[simp] lemma Host.status_writeStdin (h : Host) (p : Nat) (bytes : List Char) :
    (h.writeStdin p bytes).status = h.status := by
  funext q
  simp only [Host.status, Host.writeStdin,
    map_modify_of_comp (fun pr : Proc => { pr with stdin := pr.stdin ++ bytes }) (·.status)
      (fun _ => rfl)]

@[simp] lemma Host.output_writeStdin (h : Host) (p : Nat) (bytes : List Char) :
    (h.writeStdin p bytes).output = h.output := by
  funext q
  simp only [Host.output, Host.writeStdin,
    map_modify_of_comp (fun pr : Proc => { pr with stdin := pr.stdin ++ bytes }) (·.stdout)
      (fun _ => rfl)]

@[simp] lemma Host.output_reap (h : Host) (b : DaemonBridge) (p : Nat) :
    (⟨b, h.reap p⟩ : Host).output = h.output := by
  funext q
  simp only [Host.output, Host.reap,
    map_modify_of_comp (fun pr : Proc => { pr with status := .reaped }) (·.stdout) (fun _ => rfl)]

/-- A process launched with nothing in its pipe leaves every pipe as it was. -/
lemma Host.output_append_nil (h : Host) (b : DaemonBridge) {pr : Proc} (hpr : pr.stdout = []) :
    (⟨b, h.procs ++ [pr]⟩ : Host).output = h.output := by
  funext q
  simp only [Host.output, List.map_append, List.map_cons, List.map_nil]
  rcases Nat.lt_trichotomy q h.procs.length with hq | rfl | hq
  · rw [List.getElem?_append_left (by simpa using hq)]
  · simp [hpr]
  · rw [List.getElem?_eq_none (by simp; omega), List.getElem?_eq_none (by simp; omega)]

lemma Host.status_append (h : Host) (b : DaemonBridge) (pr : Proc) (q : Nat) :
    (⟨b, h.procs ++ [pr]⟩ : Host).status q =
      if q < h.procs.length then h.status q else if q = h.procs.length then some pr.status else none := by
  simp only [Host.status, List.map_append, List.map_cons, List.map_nil]
  split_ifs with h1 h2
  · exact List.getElem?_append_left (by simpa using h1)
  · subst h2; simp
  · exact List.getElem?_eq_none (by simp; omega)

lemma Host.status_reap (h : Host) (b : DaemonBridge) (p q : Nat) :
    ((⟨b, h.reap p⟩ : Host).status q) = if p = q then (h.status q).map fun _ => .reaped else h.status q := by
  simp only [Host.status, Host.reap, List.getElem?_map, List.getElem?_modify]
  cases h.procs[q]? <;> split_ifs <;> simp

/-- The process-handle invariant: `stdin` is the pipe of `child`, and a launched process is
alive or unreaped exactly when it is `child`. -/
structure Host.Inv (h : Host) : Prop where
  stdin_eq_child : h.bridge.stdin = h.bridge.child
  live_iff : ∀ p, h.isLive p = true ↔ h.bridge.child = some p

lemma Host.inv_new : (⟨DaemonBridge.new, []⟩ : Host).Inv :=
  ⟨rfl, fun p => by simp [Host.isLive, Host.status, DaemonBridge.new]⟩

section
variable {h : Host}

/-- `start_daemon` leaves the host as `is_running` left it, or as `spawn` then left it. -/
lemma Host.startDaemon_cases (waitErr : Bool) (fs : FileSystem) (plat : Platform)
    (currentExe resourceDir : Option Path) (eventTx : Nat) (launch : Option String) :
    (h.startDaemon waitErr fs plat currentExe resourceDir eventTx launch).2 = (h.isRunning waitErr).2 ∨
      (h.startDaemon waitErr fs plat currentExe resourceDir eventTx launch).2 =
        ((h.isRunning waitErr).2.spawn eventTx launch).2 := by
  rcases hr : h.isRunning waitErr with ⟨running, g⟩
  simp only [Host.startDaemon, hr]
  split_ifs
  · exact .inl rfl
  · split
    · exact .inl rfl
    · split <;> next heq => exact .inr (by rw [heq])

/-- `stop_daemon` leaves the host as `is_running` left it, or as `stop` then left it. -/
lemma Host.stopDaemon_cases (waitErr : Bool) (shutdownId : String) (out : PipeOutcome) :
    (h.stopDaemon waitErr shutdownId out).2 = (h.isRunning waitErr).2 ∨
      (h.stopDaemon waitErr shutdownId out).2 = ((h.isRunning waitErr).2.stop shutdownId out).2 := by
  rcases hr : h.isRunning waitErr with ⟨running, g⟩
  simp only [Host.stopDaemon, hr]
  split_ifs
  · exact .inl rfl
  · split <;> next heq => exact .inr (by rw [heq])


lemma Host.Inv.writeStdin (hi : h.Inv) (p : Nat) (bytes : List Char) : (h.writeStdin p bytes).Inv :=
  ⟨hi.stdin_eq_child, fun q => by simpa [Host.isLive] using hi.live_iff q⟩

/-- A bridge with no child over processes none of which is live. -/
lemma Host.Inv.clear (hi : h.Inv) (hc : h.bridge.child = none) (b : DaemonBridge)
    (hb : b.child = none) (hs : b.stdin = none) : (⟨b, h.procs⟩ : Host).Inv :=
  ⟨by rw [hb, hs], fun q => by simpa [hb, hc, Host.isLive, Host.status] using hi.live_iff q⟩

/-- Reaping the child and emptying the slots keeps the invariant. -/
lemma Host.Inv.reap (hi : h.Inv) {p : Nat} (hp : h.bridge.child = some p) (b : DaemonBridge)
    (hb : b.child = none) (hs : b.stdin = none) : (⟨b, h.reap p⟩ : Host).Inv := by
  refine ⟨by rw [hb, hs], fun q => ?_⟩
  rw [hb]
  simp only [Host.isLive, Host.status_reap, reduceCtorEq, iff_false]
  split_ifs with hq
  · cases h.status q <;> simp
  · have := (hi.live_iff q).not.mpr (by rw [hp]; simpa using hq)
    simpa [Host.isLive] using this

lemma Host.Inv.sendCommand (hi : h.Inv) (c : DaemonCommand) (out : PipeOutcome) :
    (h.sendCommand c out).2.Inv := by
  unfold Host.sendCommand
  split
  · exact hi
  · split <;> exact hi.writeStdin _ _

lemma Host.Inv.spawn (hi : h.Inv) (eventTx : Nat) (launch : Option String) :
    (h.spawn eventTx launch).2.Inv := by
  unfold Host.spawn
  split_ifs with hc
  · exact hi
  · cases launch with
    | some err => exact hi
    | none =>
      simp only [Option.isSome_iff_ne_none, not_not] at hc
      refine ⟨rfl, fun q => ?_⟩
      have hq : h.isLive q = false := by simpa [hc] using hi.live_iff q
      simp only [Host.isLive, Host.status_append, Option.some.injEq] at hq ⊢
      split_ifs with h1 h2
      · simpa [Nat.ne_of_gt h1] using hq
      · simp [h2]
      · simp only [reduceCtorEq, false_iff]
        omega

lemma Host.Inv.isRunning (hi : h.Inv) (waitErr : Bool) : (h.isRunning waitErr).2.Inv := by
  unfold Host.isRunning
  split
  · exact hi
  · next p hp =>
    split_ifs
    · exact hi
    · exact hi
    · exact hi.reap hp _ rfl rfl

lemma Host.Inv.stop (hi : h.Inv) (shutdownId : String) (out : PipeOutcome) :
    (h.stop shutdownId out).2.Inv := by
  unfold Host.stop
  dsimp only
  generalize hg : (if h.bridge.stdin.isSome then
    (h.sendCommand (DaemonCommand.new "shutdown" shutdownId (.object [])) out).2 else h) = g
  have hgi : g.Inv := by
    subst hg
    split_ifs
    · exact hi.sendCommand _ _
    · exact hi
  split
  · next p hp => exact hgi.reap hp _ rfl rfl
  · next hn => exact hgi.clear (by simpa using hn) _ rfl rfl

lemma Host.Inv.startDaemon (hi : h.Inv) (waitErr : Bool) (fs : FileSystem) (plat : Platform)
    (currentExe resourceDir : Option Path) (eventTx : Nat) (launch : Option String) :
    (h.startDaemon waitErr fs plat currentExe resourceDir eventTx launch).2.Inv := by
  rcases h.startDaemon_cases waitErr fs plat currentExe resourceDir eventTx launch with e | e <;> rw [e]
  exacts [hi.isRunning waitErr, (hi.isRunning waitErr).spawn eventTx launch]

lemma Host.Inv.stopDaemon (hi : h.Inv) (waitErr : Bool) (shutdownId : String) (out : PipeOutcome) :
    (h.stopDaemon waitErr shutdownId out).2.Inv := by
  rcases h.stopDaemon_cases waitErr shutdownId out with e | e <;> rw [e]
  exacts [hi.isRunning waitErr, (hi.isRunning waitErr).stop shutdownId out]

lemma Host.Inv.daemonStatus (hi : h.Inv) (waitErr : Bool) : (h.daemonStatus waitErr).2.Inv :=
  hi.isRunning waitErr

/-- What a lifecycle operation leaves alone: the pending table, the lines waiting in the
stdout pipes, and every process launched so far. -/
def Host.Frame (h h' : Host) : Prop :=
  h'.bridge.pendingResponses = h.bridge.pendingResponses ∧ h'.output = h.output ∧
    h.procs.length ≤ h'.procs.length

lemma Host.Frame.refl (h : Host) : h.Frame h := ⟨rfl, rfl, le_rfl⟩

lemma Host.Frame.trans {h₂ h₃ : Host} (h12 : h.Frame h₂) (h23 : h₂.Frame h₃) : h.Frame h₃ :=
  ⟨h23.1.trans h12.1, h23.2.1.trans h12.2.1, h12.2.2.trans h23.2.2⟩

lemma Host.frame_writeStdin (p : Nat) (bytes : List Char) : h.Frame (h.writeStdin p bytes) :=
  ⟨rfl, by simp, by simp [Host.writeStdin]⟩

lemma Host.frame_sendCommand (c : DaemonCommand) (out : PipeOutcome) :
    h.Frame (h.sendCommand c out).2 := by
  unfold Host.sendCommand
  split
  · exact .refl h
  · split <;> exact Host.frame_writeStdin _ _

lemma Host.frame_spawn (eventTx : Nat) (launch : Option String) : h.Frame (h.spawn eventTx launch).2 := by
  unfold Host.spawn
  split_ifs
  · exact .refl h
  · cases launch
    · exact ⟨rfl, h.output_append_nil _ rfl, by simp⟩
    · exact .refl h

lemma Host.frame_isRunning (waitErr : Bool) : h.Frame (h.isRunning waitErr).2 := by
  unfold Host.isRunning
  split
  · exact .refl h
  · split_ifs
    · exact .refl h
    · exact .refl h
    · exact ⟨rfl, by simp, by simp [Host.reap]⟩

lemma Host.frame_stop (shutdownId : String) (out : PipeOutcome) : h.Frame (h.stop shutdownId out).2 := by
  unfold Host.stop
  dsimp only
  generalize hg : (if h.bridge.stdin.isSome then
    (h.sendCommand (DaemonCommand.new "shutdown" shutdownId (.object [])) out).2 else h) = g
  have hf : h.Frame g := by
    subst hg
    split_ifs
    · exact Host.frame_sendCommand _ _
    · exact .refl h
  refine hf.trans ?_
  split
  · exact ⟨rfl, by simp, by simp [Host.reap]⟩
  · exact .refl g

lemma Host.frame_startDaemon (waitErr : Bool) (fs : FileSystem) (plat : Platform)
    (currentExe resourceDir : Option Path) (eventTx : Nat) (launch : Option String) :
    h.Frame (h.startDaemon waitErr fs plat currentExe resourceDir eventTx launch).2 := by
  rcases h.startDaemon_cases waitErr fs plat currentExe resourceDir eventTx launch with e | e <;> rw [e]
  exacts [Host.frame_isRunning waitErr, (Host.frame_isRunning waitErr).trans (Host.frame_spawn _ _)]

lemma Host.frame_stopDaemon (waitErr : Bool) (shutdownId : String) (out : PipeOutcome) :
    h.Frame (h.stopDaemon waitErr shutdownId out).2 := by
  rcases h.stopDaemon_cases waitErr shutdownId out with e | e <;> rw [e]
  exacts [Host.frame_isRunning waitErr, (Host.frame_isRunning waitErr).trans (Host.frame_stop _ _)]

lemma Host.input_sendCommand {p : Nat} (hp : h.bridge.stdin ≠ some p) (c : DaemonCommand)
    (out : PipeOutcome) : (h.sendCommand c out).2.input p = h.input p := by
  unfold Host.sendCommand
  split
  · rfl
  · next q hq =>
    have hqp : q ≠ p := fun e => hp (e ▸ hq)
    split <;> simp [Host.input, Host.writeStdin, List.getElem?_map, List.getElem?_modify, hqp]

lemma Host.length_isRunning (waitErr : Bool) : (h.isRunning waitErr).2.procs.length = h.procs.length := by
  unfold Host.isRunning
  split
  · rfl
  · split_ifs <;> simp [Host.reap]

/-- `spawn` launches only when no child is held. -/
lemma Host.child_of_launch {eventTx : Nat} {launch : Option String}
    (hl : (h.spawn eventTx launch).2.procs.length ≠ h.procs.length) : h.bridge.child = none := by
  unfold Host.spawn at hl
  split_ifs at hl with hc
  · exact hl rfl |>.elim
  · simpa using hc

/-- `spawn` launches nothing while a child is held. -/
lemma Host.spawn_of_child (hc : h.bridge.child.isSome) (eventTx : Nat) (launch : Option String) :
    h.spawn eventTx launch = (.error .alreadyRunning, h) := by
  simp [Host.spawn, hc]

/-- A `spawn` that returns an error leaves the bridge and the processes as they were. -/
lemma Host.spawn_error {eventTx : Nat} {launch : Option String} {e : DaemonError}
    (he : (h.spawn eventTx launch).1 = .error e) : (h.spawn eventTx launch).2 = h := by
  unfold Host.spawn at he ⊢
  split_ifs at he ⊢
  · rfl
  · cases launch
    · cases he
    · rfl

end

lemma Host.writeStdin_writeStdin (h : Host) (p : Nat) (a b : List Char) :
    (h.writeStdin p a).writeStdin p b = h.writeStdin p (a ++ b) := by
  simp only [Host.writeStdin, Host.mk.injEq, true_and]
  apply List.ext_getElem?
  intro m
  simp only [List.getElem?_modify]
  cases h.procs[m]? <;> by_cases hm : p = m <;> simp [hm]

/-- The bytes written join the end of the stdin pipe of process `p`, if it was launched, and
of no other. -/
lemma Host.input_writeStdin (h : Host) (p : Nat) (bytes : List Char) (q : Nat) :
    (h.writeStdin p bytes).input q = h.input q ++ if q = p ∧ p < h.procs.length then bytes else [] := by
  simp only [Host.input, Host.writeStdin, List.getElem?_map, List.getElem?_modify]
  by_cases hq : q = p
  · subst hq
    by_cases hp : q < h.procs.length
    · simp [List.getElem?_eq_getElem hp, hp]
    · simp [List.getElem?_eq_none (not_lt.mp hp), hp]
  · simp [Ne.symm hq, hq]

lemma Host.writeStdin_nil (h : Host) (p : Nat) : h.writeStdin p [] = h := by
  have : (fun pr : Proc => { pr with stdin := pr.stdin ++ [] }) = id := by funext; simp
  rw [Host.writeStdin, this, List.modify_id]

/-- `send_command` on each command in turn, every write and flush succeeding. -/
def Host.sendEach (h : Host) : List DaemonCommand → List (Except DaemonError String) × Host
  | [] => ([], h)
  | c :: cs =>
    let (r, h) := h.sendCommand c .ok
    let (rs, h) := h.sendEach cs
    (r :: rs, h)

lemma Host.sendEach_running (h : Host) (p : Nat) (hp : h.bridge.stdin = some p)
    (cs : List DaemonCommand) :
    h.sendEach cs = (cs.map fun c => .ok c.id, h.writeStdin p (cs.flatMap frame)) := by
  induction cs generalizing h with
  | nil => simp [Host.sendEach, Host.writeStdin_nil]
  | cons c cs ih =>
    simp only [Host.sendEach, Host.sendCommand, hp]
    rw [ih (h.writeStdin p (frame c)) hp, Host.writeStdin_writeStdin]
    simp

lemma Host.sendEach_stopped (h : Host) (hn : h.bridge.stdin = none) (cs : List DaemonCommand) :
    h.sendEach cs = (cs.map fun _ => .error .notRunning, h) := by
  induction cs with
  | nil => rfl
  | cons c cs ih => simp [Host.sendEach, Host.sendCommand, hn, ih]

/-- `send_command` appends each command's JSON text and `\n` to the child's stdin, or fails
with `NotRunning`; the text has no line break, so each line parses to its command's record. -/
theorem sendCommand_frames (h : Host) (cmds : List (String × String × Value)) :
    let cs := cmds.map fun x => DaemonCommand.new x.1 x.2.1 x.2.2
    (h.sendEach cs = match h.bridge.stdin with
      | some p => (cs.map fun c => .ok c.id, h.writeStdin p (cs.flatMap frame))
      | none => (cs.map fun _ => .error .notRunning, h)) ∧
    (∀ q, (h.sendEach cs).2.input q =
      h.input q ++ if h.bridge.stdin = some q ∧ q < h.procs.length then cs.flatMap frame else []) ∧
    (∀ c : DaemonCommand, '\n' ∉ c.toJson.toList ∧ '\r' ∉ c.toJson.toList) ∧
    (lines (cs.flatMap frame)).map parse =
      cs.map fun c => some (.object [("type", .string "cmd"), ("cmd", .string c.cmd),
        ("id", .string c.id), ("params", c.params)]) := by
  intro cs
  refine ⟨?_, fun q => ?_, fun c => ⟨fun hn => absurd (toJson_toNat c _ hn) (by decide),
    fun hr => absurd (toJson_toNat c _ hr) (by decide)⟩, ?_⟩
  · cases hs : h.bridge.stdin with
    | some p => exact h.sendEach_running p hs cs
    | none => exact h.sendEach_stopped hs cs
  · cases hs : h.bridge.stdin with
    | some p =>
      rw [h.sendEach_running p hs cs, Host.input_writeStdin]
      by_cases hq : q = p
      · simp [hq]
      · simp [hq, Ne.symm hq]
    | none => simp [h.sendEach_stopped hs cs]
  · have hf : cs.flatMap frame = (cs.map fun c => c.toJson.toList).flatMap (· ++ ['\n']) := by
      simp only [List.flatMap_map]
      rfl
    rw [hf, lines_flatMap _ (by simpa using fun c _ => toJson_toNat c), List.map_map]
    simp only [Function.comp_def, parse_toJson]
    simp [cs, DaemonCommand.toValue, DaemonCommand.new]

end KamuneBridge
