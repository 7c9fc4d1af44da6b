import KamuneBridge.Bridge

/-!
# The bridge under concurrency

Every thread of the bridge as one state machine: any number of `send_command_async`
calls, the stdout reader and the shutdown monitor that each `spawn` starts, the daemons
writing lines and exiting, event receivers going away, and the Tauri commands, which hold
the bridge's mutex for their whole body and so are single steps. A step is enabled only
where the code can run; a lock is taken only when it is free. The reader, monitor and event
channel that a `spawn` creates share the index of the process it launched.
-/

namespace KamuneBridge

/-- Where a `send_command_async` call is. -/
inductive CallerPc
  /-- `bridge.lock().await` before registering. -/
  | lockBridge
  /-- Holding the bridge: `pending_responses.write().await`. -/
  | lockPending
  /-- Holding both: `pending.insert(cmd_id, tx)`. -/
  | insert
  /-- Holding the bridge: `send_command(command)?`. -/
  | send
  /-- `timeout(30 s, rx).await`. -/
  | wait
  /-- Timed out: `bridge.lock().await`. -/
  | expired
  /-- Holding the bridge: `pending_responses.write().await`. -/
  | expiredLocked
  /-- Holding both: `pending.remove(&cmd_id)`. -/
  | expiring
  /-- Returned from the final `match`. -/
  | done (r : Except DaemonError DaemonEvent)
  /-- Returned through the `?` after `send_command`. -/
  | sendFailed (e : DaemonError)

/-- The oneshot channel of a call. -/
inductive Chan
  | empty
  | full (r : Except DaemonError DaemonEvent)
  /-- The sender was dropped without sending. -/
  | closed

def Chan.fill (r : Except DaemonError DaemonEvent) : Chan → Chan
  | .empty => .full r
  | c => c

def Chan.close : Chan → Chan
  | .empty => .closed
  | c => c

structure Caller where
  cmd : DaemonCommand
  pc : CallerPc
  chan : Chan

/-- Where the stdout reader of a process is. -/
inductive ReaderPc
  /-- At `reader.lines()`. -/
  | next
  /-- `pending.try_write()` for an event with a non-empty id. -/
  | tryLock (e : DaemonEvent) (k : String)
  /-- Holding the write guard: `remove(id)`. -/
  | remove (e : DaemonEvent) (k : String)
  /-- `sender.send(Ok(event.clone()))` for the sender removed, if any. -/
  | reply (e : DaemonEvent) (i : Option Nat)
  /-- `event_tx.send(event)`. -/
  | forward (e : DaemonEvent)
  | exited

/-- Where the shutdown monitor of a process is. -/
inductive WatcherPc
  /-- `pending_shutdown.try_write()`. -/
  | start
  /-- Holding the write guard: `drain()`, sending `NotRunning` to each sender. -/
  | draining
  | done

/-- An event channel: whether its receiver is still there, and what it has received. -/
structure Sink where
  isOpen : Bool
  events : List DaemonEvent

inductive Holder
  | caller (i : Nat)
  | reader (p : Nat)
  | watcher (p : Nat)
  deriving DecidableEq

structure Sys where
  host : Host
  callers : Nat → Option Caller
  nCallers : Nat
  readers : Nat → ReaderPc
  watchers : Nat → WatcherPc
  sinks : Nat → Sink
  /-- The call holding the bridge's mutex between its steps. -/
  bridgeLock : Option Nat
  pendingLock : Option Holder
  /-- Every line a daemon has written to its stdout. -/
  lines : List String

def Sys.init : Sys :=
  ⟨⟨DaemonBridge.new, []⟩, fun _ => none, 0, fun _ => .exited, fun _ => .done,
    fun _ => ⟨false, []⟩, none, none, []⟩

def Sys.pending (s : Sys) : PendingTable := s.host.bridge.pendingResponses

@[simps] def Sys.setPending (s : Sys) (t : PendingTable) : Sys :=
  { s with host := { s.host with bridge := { s.host.bridge with pendingResponses := t } } }

@[simps] def Sys.setCaller (s : Sys) (i : Nat) (c : Caller) : Sys :=
  { s with callers := Function.update s.callers i (some c) }

/-- Apply `f` to the channels of the calls `js`. -/
@[simps] def Sys.mapChan (s : Sys) (js : List Nat) (f : Chan → Chan) : Sys :=
  { s with callers := fun i =>
      if i ∈ js then (s.callers i).map fun c => { c with chan := f c.chan } else s.callers i }

@[simps] def Sys.modifyProc (s : Sys) (p : Nat) (f : Proc → Proc) : Sys :=
  { s with host := { s.host with procs := s.host.procs.modify f p } }

@[simps] def Sys.setReader (s : Sys) (p : Nat) (pc : ReaderPc) : Sys :=
  { s with readers := Function.update s.readers p pc }

@[simps] def Sys.setWatcher (s : Sys) (p : Nat) (pc : WatcherPc) : Sys :=
  { s with watchers := Function.update s.watchers p pc }

/-- The host after a Tauri command; a process it launched gets its reader, its monitor and
its event channel. -/
def Sys.withHost (s : Sys) (h : Host) : Sys :=
  if s.host.procs.length < h.procs.length then
    let p := s.host.procs.length
    { s with host := h, readers := Function.update s.readers p .next,
             watchers := Function.update s.watchers p .start,
             sinks := Function.update s.sinks p ⟨true, []⟩ }
  else { s with host := h }

inductive Action
  | call (cmd : DaemonCommand)
  | lockBridge (i : Nat)
  | lockPending (i : Nat)
  | insert (i : Nat)
  | send (i : Nat) (out : PipeOutcome)
  | recv (i : Nat)
  | elapse (i : Nat)
  | expire (i : Nat)
  | readLine (p : Nat)
  | readError (p : Nat)
  | tryLock (p : Nat)
  | remove (p : Nat)
  | reply (p : Nat)
  | forward (p : Nat)
  | watch (p : Nat)
  | drain (p : Nat)
  | emit (p : Nat) (line : String)
  | exit (p : Nat)
  | dropReceiver (p : Nat)
  | startDaemon (waitErr : Bool) (fs : FileSystem) (plat : Platform)
      (currentExe resourceDir : Option Path) (launch : Option String)
  | stopDaemon (waitErr : Bool) (shutdownId : String) (out : PipeOutcome)
  | daemonStatus (waitErr : Bool)
  | spawn (launch : Option String)
  | isRunning (waitErr : Bool)
  /-- `stop`, called directly or by `Drop`. -/
  | stop (shutdownId : String) (out : PipeOutcome)

/-- `send_command_async` starts, with a fresh oneshot channel. -/
def Sys.call (s : Sys) (cmd : DaemonCommand) : Sys :=
  { s with callers := Function.update s.callers s.nCallers (some ⟨cmd, .lockBridge, .empty⟩),
           nCallers := s.nCallers + 1 }

/-- `bridge.lock().await`, before registering or after the timeout. -/
def Sys.lockBridge (s : Sys) (i : Nat) : Option Sys :=
  match s.callers i, s.bridgeLock with
  | some c, none =>
    match c.pc with
    | .lockBridge => some { s.setCaller i { c with pc := .lockPending } with bridgeLock := some i }
    | .expired => some { s.setCaller i { c with pc := .expiredLocked } with bridgeLock := some i }
    | _ => none
  | _, _ => none

/-- `pending_responses.write().await`. -/
def Sys.lockPending (s : Sys) (i : Nat) : Option Sys :=
  match s.callers i, s.pendingLock with
  | some c, none =>
    match c.pc with
    | .lockPending =>
      some { s.setCaller i { c with pc := .insert } with pendingLock := some (.caller i) }
    | .expiredLocked =>
      some { s.setCaller i { c with pc := .expiring } with pendingLock := some (.caller i) }
    | _ => none
  | _, _ => none

/-- `pending.insert(cmd_id, tx)`, which drops a sender already under the id; then the write
guard is dropped. -/
def Sys.insert (s : Sys) (i : Nat) : Option Sys :=
  match s.callers i with
  | some c =>
    match c.pc with
    | .insert =>
      some { (((s.setPending (s.pending.insert c.cmd.id i)).setCaller i { c with pc := .send }).mapChan
               (s.pending.lookup c.cmd.id).toList .close) with pendingLock := none }
    | _ => none
  | none => none

/-- `send_command(command)?`, then the bridge guard is dropped. -/
def Sys.send (s : Sys) (i : Nat) (out : PipeOutcome) : Option Sys :=
  match s.callers i with
  | some c =>
    match c.pc with
    | .send =>
      let sent := s.host.sendCommand c.cmd out
      let pc := match sent.1 with
        | .ok _ => CallerPc.wait
        | .error e => .sendFailed e
      some { ({ s with host := sent.2 }.setCaller i { c with pc := pc }) with bridgeLock := none }
    | _ => none
  | none => none

/-- `timeout(rx)` completes: the value sent, or `SendError` when the sender was dropped. -/
def Sys.recv (s : Sys) (i : Nat) : Option Sys :=
  match s.callers i with
  | some c =>
    match c.pc, c.chan with
    | .wait, .full r => some (s.setCaller i { c with pc := .done r })
    | .wait, .closed =>
      some (s.setCaller i { c with pc := .done (.error (.sendError "response channel closed")) })
    | _, _ => none
  | none => none

/-- The 30 seconds pass with nothing received. -/
def Sys.elapse (s : Sys) (i : Nat) : Option Sys :=
  match s.callers i with
  | some c =>
    match c.pc, c.chan with
    | .wait, .empty => some (s.setCaller i { c with pc := .expired })
    | _, _ => none
  | none => none

/-- `pending.remove(&cmd_id)`, whose sender is dropped; both guards go and `Timeout` is
returned. -/
def Sys.expire (s : Sys) (i : Nat) : Option Sys :=
  match s.callers i with
  | some c =>
    match c.pc with
    | .expiring =>
      some { (((s.setPending (s.pending.erase c.cmd.id)).setCaller i
                { c with pc := .done (.error .timeout) }).mapChan (s.pending.lookup c.cmd.id).toList .close)
             with bridgeLock := none, pendingLock := none }
    | _ => none
  | none => none

/-- Where the reader goes with a line: to the table with an event that has a non-empty id, to
the event channel with any other event, back to `lines()` with an empty or malformed line. -/
def ReaderPc.ofLine (l : String) : ReaderPc :=
  match lineEvent l with
  | some e =>
    match replyId e with
    | some k => .tryLock e k
    | none => .forward e
  | none => .next

/-- `reader.lines()` yields the next line of the pipe, or ends once the pipe is empty and the
daemon is gone. -/
def Sys.readLine (s : Sys) (p : Nat) : Option Sys :=
  match s.readers p, s.host.procs[p]? with
  | .next, some pr =>
    match pr.stdout with
    | l :: _ =>
      some ((s.modifyProc p fun pr => { pr with stdout := pr.stdout.tail }).setReader p (.ofLine l))
    | [] => if pr.status = .running then none else some (s.setReader p .exited)
  | _, _ => none

/-- `reader.lines()` yields an error, which ends the loop. -/
def Sys.readError (s : Sys) (p : Nat) : Option Sys :=
  match s.readers p with
  | .next => some (s.setReader p .exited)
  | _ => none

/-- `pending.try_write()`: without the guard there is no sender. -/
def Sys.tryLock (s : Sys) (p : Nat) : Option Sys :=
  match s.readers p with
  | .tryLock e k =>
    if s.pendingLock = none then
      some { s.setReader p (.remove e k) with pendingLock := some (.reader p) }
    else some (s.setReader p (.forward e))
  | _ => none

def Sys.remove (s : Sys) (p : Nat) : Option Sys :=
  match s.readers p with
  | .remove e k =>
    some { (s.setPending (s.pending.erase k)).setReader p (.reply e (s.pending.lookup k))
           with pendingLock := none }
  | _ => none

def Sys.reply (s : Sys) (p : Nat) : Option Sys :=
  match s.readers p with
  | .reply e i => some ((s.mapChan i.toList (.fill (.ok e))).setReader p (.forward e))
  | _ => none

/-- `event_tx.send(event)`: the loop ends when the receiver is gone. -/
def Sys.forward (s : Sys) (p : Nat) : Option Sys :=
  match s.readers p with
  | .forward e =>
    if (s.sinks p).isOpen then
      some { s.setReader p .next with
        sinks := Function.update s.sinks p { s.sinks p with events := (s.sinks p).events ++ [e] } }
    else some (s.setReader p .exited)
  | _ => none

/-- The monitor's `pending_shutdown.try_write()`: it runs once, at once. -/
def Sys.watch (s : Sys) (p : Nat) : Option Sys :=
  match s.watchers p with
  | .start =>
    if s.pendingLock = none then
      some { s.setWatcher p .draining with pendingLock := some (.watcher p) }
    else some (s.setWatcher p .done)
  | _ => none

/-- `pending.drain()`, sending `Err(NotRunning)` to each sender. -/
def Sys.drain (s : Sys) (p : Nat) : Option Sys :=
  match s.watchers p with
  | .draining =>
    some { (((s.setPending ∅).mapChan (s.pending.entries.map Sigma.snd) (.fill (.error .notRunning))).setWatcher
             p .done) with pendingLock := none }
  | _ => none

/-- A running daemon writes a line to its stdout. -/
def Sys.emit (s : Sys) (p : Nat) (l : String) : Option Sys :=
  match s.host.procs[p]? with
  | some pr =>
    if pr.status = .running then
      some { s.modifyProc p fun pr => { pr with stdout := pr.stdout ++ [l] } with
             lines := s.lines ++ [l] }
    else none
  | none => none

/-- A running daemon exits; it stays unreaped until `try_wait` or `wait`. -/
def Sys.exit (s : Sys) (p : Nat) : Option Sys :=
  match s.host.procs[p]? with
  | some pr =>
    if pr.status = .running then
      some (s.modifyProc p fun pr => { pr with status := .exited })
    else none
  | none => none

@[simps] def Sys.dropReceiver (s : Sys) (p : Nat) : Sys :=
  { s with sinks := Function.update s.sinks p { s.sinks p with isOpen := false } }

/-- A Tauri command or a direct call: it runs while no call holds the bridge's mutex. -/
def Sys.lifecycle (s : Sys) (h : Host) : Option Sys :=
  if s.bridgeLock = none then some (s.withHost h) else none

def step (s : Sys) : Action → Option Sys
  | .call cmd => some (s.call cmd)
  | .lockBridge i => s.lockBridge i
  | .lockPending i => s.lockPending i
  | .insert i => s.insert i
  | .send i out => s.send i out
  | .recv i => s.recv i
  | .elapse i => s.elapse i
  | .expire i => s.expire i
  | .readLine p => s.readLine p
  | .readError p => s.readError p
  | .tryLock p => s.tryLock p
  | .remove p => s.remove p
  | .reply p => s.reply p
  | .forward p => s.forward p
  | .watch p => s.watch p
  | .drain p => s.drain p
  | .emit p l => s.emit p l
  | .exit p => s.exit p
  | .dropReceiver p => some (s.dropReceiver p)
  | .startDaemon waitErr fs plat currentExe resourceDir launch =>
    s.lifecycle (s.host.startDaemon waitErr fs plat currentExe resourceDir s.host.procs.length launch).2
  | .stopDaemon waitErr shutdownId out => s.lifecycle (s.host.stopDaemon waitErr shutdownId out).2
  | .daemonStatus waitErr => s.lifecycle (s.host.daemonStatus waitErr).2
  | .spawn launch => s.lifecycle (s.host.spawn s.host.procs.length launch).2
  | .isRunning waitErr => s.lifecycle (s.host.isRunning waitErr).2
  | .stop shutdownId out => s.lifecycle (s.host.stop shutdownId out).2

inductive Reachable : Sys → Prop
  | init : Reachable Sys.init
  | step {s s' : Sys} (a : Action) : Reachable s → step s a = some s' → Reachable s'

def run : Sys → List Action → Option Sys
  | s, [] => some s
  | s, a :: as => (step s a).bind (run · as)

lemma run_reachable {s s' : Sys} {as : List Action} (hs : Reachable s) (h : run s as = some s') :
    Reachable s' := by
  induction as generalizing s with
  | nil => simp only [run, Option.some.injEq] at h; exact h ▸ hs
  | cons a as ih =>
    simp only [run] at h
    cases ha : step s a with
    | none => simp [ha] at h
    | some s₁ =>
      rw [ha, Option.some_bind] at h
      exact ih (.step a hs ha) h

end KamuneBridge
