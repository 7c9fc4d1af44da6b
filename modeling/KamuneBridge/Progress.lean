import KamuneBridge.Calls
import KamuneBridge.Delivery
import KamuneBridge.ReaderThread

/-!
# Every call can return

A call holds the bridge's mutex from `bridge.lock().await` until the guard is dropped, after
`send_command` or after `pending.remove(&cmd_id)`. It holds the table's write guard around
`pending.insert` and `pending.remove`; the reader holds it around `remove(id)` after a
successful `try_write`, and the shutdown monitor around `drain()`. Over every run the two lock
fields name exactly the calls at those program points, and the table's lock is only held by a
thread at its section. No thread waits for the table's lock while it holds it, the reader and
the monitor never wait at all, and a call waits for the table's lock only while it holds the
mutex. So from any reachable state the holder of the table's lock can drop it in one step, the
holder of the mutex can run to the end of its section, and then any call can run to its
return: there is no deadlock.

The stdout reader needs no one: it takes the table's lock with `try_write`, and each of its
steps is enabled whatever the other threads hold, so its own steps read every line waiting in
its pipe.
-/

namespace KamuneBridge

/-- The program points at which a call holds the bridge's mutex. -/
def CallerPc.holdsBridge : CallerPc → Bool
  | .lockPending | .insert | .send | .expiredLocked | .expiring => true
  | _ => false

/-- The program points at which a call holds the table's write guard. -/
def CallerPc.holdsPending : CallerPc → Bool
  | .insert | .expiring => true
  | _ => false

/-- Where the call at `i` is, if it was made. -/
def Sys.pcOf (s : Sys) (i : Nat) : Option CallerPc := (s.callers i).map (·.pc)

/-- The thread is at a program point where it holds the table's write guard. -/
def Sys.inPending (s : Sys) : Holder → Prop
  | .caller i => (s.pcOf i).any CallerPc.holdsPending = true
  | .reader p => ∃ e k, s.readers p = .remove e k
  | .watcher p => s.watchers p = .draining

/-- The locks' invariant: the mutex is held by exactly the call in its section, the table's
lock only by a thread in its section, and the monitors of processes not launched yet are done. -/
structure Sys.LockInv (s : Sys) : Prop where
  bridge : ∀ i, s.bridgeLock = some i ↔ (s.pcOf i).any CallerPc.holdsBridge = true
  pending : ∀ h, s.pendingLock = some h → s.inPending h
  idle : ∀ p, s.host.procs.length ≤ p → s.watchers p = .done

section
variable {s s' : Sys} {i p : Nat} {c : Caller}

@[simp] lemma Sys.pcOf_of (hc : s.callers i = some c) : s.pcOf i = some c.pc := by
  simp [Sys.pcOf, hc]

@[simp] lemma Sys.pcOf_setCaller (s : Sys) (i : Nat) (c : Caller) (j : Nat) :
    (s.setCaller i c).pcOf j = if j = i then some c.pc else s.pcOf j := by
  by_cases hj : j = i <;> simp [Sys.pcOf, hj]

@[simp] lemma Sys.pcOf_mapChan (s : Sys) (js : List Nat) (f : Chan → Chan) (j : Nat) :
    (s.mapChan js f).pcOf j = s.pcOf j := by
  unfold Sys.pcOf
  simp only [Sys.mapChan_callers]
  split_ifs <;> cases s.callers j <;> rfl

lemma Sys.LockInv.bridge_of (hl : s.LockInv) (hc : s.callers i = some c) (h : c.pc.holdsBridge = true) :
    s.bridgeLock = some i :=
  (hl.bridge i).mpr (by simp [hc, h])

lemma Sys.LockInv.not_bridge (hl : s.LockInv) (hc : s.callers i = some c) (h : c.pc.holdsBridge = false) :
    s.bridgeLock ≠ some i := fun hb => by
  simpa [hc, h] using (hl.bridge i).mp hb

lemma Sys.LockInv.not_pending (hl : s.LockInv) (hc : s.callers i = some c) (h : c.pc.holdsPending = false) :
    s.pendingLock ≠ some (.caller i) := fun hp => by
  simpa [Sys.inPending, hc, h] using hl.pending _ hp

/-- The table's lock stays with its holder when a call that does not hold it moves. -/
lemma Sys.LockInv.pending_other (hl : s.LockInv) (hc : s.callers i = some c) (hcp : c.pc.holdsPending = false)
    (P : Prop) : ∀ h, s.pendingLock = some h → if h = .caller i then P else s.inPending h := fun h hh => by
  rw [if_neg (by rintro rfl; exact hl.not_pending hc hcp hh)]
  exact hl.pending h hh

/-! ### Primitive updates -/

/-- The call at `i` becomes `c`, and the locks become `b` and `l`. -/
lemma Sys.LockInv.move (hl : s.LockInv) (i : Nat) (c : Caller) {b : Option Nat} {l : Option Holder}
    (hb : ∀ j, b = some j ↔ if j = i then c.pc.holdsBridge = true else s.bridgeLock = some j)
    (hp : ∀ h, l = some h → if h = .caller i then c.pc.holdsPending = true else s.inPending h) :
    { s.setCaller i c with bridgeLock := b, pendingLock := l }.LockInv := by
  refine ⟨fun j => ?_, fun h hh => ?_, hl.idle⟩
  · show b = some j ↔ ((s.setCaller i c).pcOf j).any _ = true
    rw [hb, Sys.pcOf_setCaller]
    split_ifs
    · simp
    · exact hl.bridge j
  · have := hp h hh
    cases h with
    | caller j =>
      show ((s.setCaller i c).pcOf j).any _ = true
      rw [Sys.pcOf_setCaller]
      split_ifs with hj
      · subst hj
        simpa using this
      · simpa [hj] using this
    | reader q => simpa [Sys.inPending] using this
    | watcher q => simpa [Sys.inPending] using this

/-- A call moves on without taking or dropping a lock. -/
lemma Sys.LockInv.setPc (hl : s.LockInv) (hc : s.callers i = some c) (pc : CallerPc)
    (hb : pc.holdsBridge = c.pc.holdsBridge) (hp : pc.holdsPending = c.pc.holdsPending) :
    (s.setCaller i { c with pc := pc }).LockInv :=
  hl.move i { c with pc := pc } (fun j => by
      split_ifs with hj
      · subst hj
        rw [hb]
        exact hl.bridge j |>.trans (by simp [hc])
      · rfl)
    (fun h hh => by
      split_ifs with hj
      · subst hj
        simpa [Sys.inPending, hc, hp] using hl.pending _ hh
      · exact hl.pending h hh)

lemma Sys.LockInv.mapChan (hl : s.LockInv) (js : List Nat) (f : Chan → Chan) : (s.mapChan js f).LockInv :=
  ⟨fun j => by simpa using hl.bridge j, fun h hh => by
    cases h with
    | caller j => simpa [Sys.inPending] using hl.pending _ hh
    | reader q => exact hl.pending _ hh
    | watcher q => exact hl.pending _ hh, hl.idle⟩

lemma Sys.LockInv.setPending (hl : s.LockInv) (t : PendingTable) : (s.setPending t).LockInv :=
  ⟨hl.bridge, hl.pending, hl.idle⟩

lemma Sys.LockInv.release (hl : s.LockInv) : { s with pendingLock := none }.LockInv :=
  ⟨hl.bridge, nofun, hl.idle⟩

lemma Sys.LockInv.withPending (hl : s.LockInv) (h : Holder) (hin : s.inPending h) :
    { s with pendingLock := some h }.LockInv :=
  ⟨hl.bridge, fun h' hh => by cases hh; exact hin, hl.idle⟩

lemma Sys.LockInv.setReader (hl : s.LockInv) (pc : ReaderPc) (hp : s.pendingLock ≠ some (.reader p)) :
    (s.setReader p pc).LockInv := by
  refine ⟨hl.bridge, fun h hh => ?_, hl.idle⟩
  cases h with
  | caller j => exact hl.pending _ hh
  | reader q =>
    have hq : q ≠ p := by rintro rfl; exact hp hh
    simpa [Sys.inPending, hq] using hl.pending _ hh
  | watcher q => exact hl.pending _ hh

lemma Sys.LockInv.setWatcher (hl : s.LockInv) (pc : WatcherPc) (hp : s.pendingLock ≠ some (.watcher p))
    (hpN : p < s.host.procs.length ∨ pc = .done) : (s.setWatcher p pc).LockInv := by
  refine ⟨hl.bridge, fun h hh => ?_, fun q hq => ?_⟩
  · cases h with
    | caller j => exact hl.pending _ hh
    | reader q => exact hl.pending _ hh
    | watcher q =>
      have hq : q ≠ p := by rintro rfl; exact hp hh
      simpa [Sys.inPending, hq] using hl.pending _ hh
  · by_cases hqp : q = p
    · subst hqp
      rcases hpN with h | rfl
      · exact absurd h (Nat.not_lt.mpr hq)
      · simp
    · simpa [hqp] using hl.idle q hq

lemma Sys.LockInv.withSinks (hl : s.LockInv) (sinks : Nat → Sink) : { s with sinks := sinks }.LockInv :=
  ⟨hl.bridge, hl.pending, hl.idle⟩

lemma Sys.LockInv.modifyProc (hl : s.LockInv) (p : Nat) (f : Proc → Proc) : (s.modifyProc p f).LockInv :=
  ⟨hl.bridge, hl.pending, fun q hq => hl.idle q (by simpa using hq)⟩

lemma Sys.LockInv.appendLine (hl : s.LockInv) (l : String) : { s with lines := s.lines ++ [l] }.LockInv :=
  ⟨hl.bridge, hl.pending, hl.idle⟩

lemma Sys.LockInv.setHost (hl : s.LockInv) (h : Host) (hf : s.host.Frame h) : { s with host := h }.LockInv :=
  ⟨hl.bridge, hl.pending, fun q hq => hl.idle q (hf.2.2.trans hq)⟩

/-- The process a lifecycle operation launches gets its reader and its monitor; neither held
the table's lock before. -/
lemma Sys.LockInv.withHost (hl : s.LockInv) (hr : s.ReplyInv) (h : Host) (hf : s.host.Frame h) :
    (s.withHost h).LockInv := by
  unfold Sys.withHost
  split_ifs with hgrow
  · have hp : s.pendingLock ≠ some (.reader s.host.procs.length) := fun hh => by
      obtain ⟨e, k, he⟩ := hl.pending _ hh
      rw [hr.idle _ le_rfl] at he
      cases he
    have hw : s.pendingLock ≠ some (.watcher s.host.procs.length) := fun hh => by
      have := hl.pending _ hh
      simp only [Sys.inPending, hl.idle _ le_rfl] at this
      cases this
    exact (((hl.setHost h hf).setReader .next hp).setWatcher .start hw (.inl hgrow)).withSinks _
  · exact hl.setHost h hf

lemma Sys.LockInv.call (hl : s.LockInv) (hi : s.Inv) (cmd : DaemonCommand) : (s.call cmd).LockInv := by
  have hn : s.pcOf s.nCallers = none := by simp [Sys.pcOf, hi.fresh _ le_rfl]
  have hcs : ∀ j, (s.call cmd).pcOf j = if j = s.nCallers then some .lockBridge else s.pcOf j := by
    intro j
    by_cases hj : j = s.nCallers <;> simp [Sys.call, Sys.pcOf, hj]
  refine ⟨fun j => ?_, fun h hh => ?_, hl.idle⟩
  · show s.bridgeLock = some j ↔ _
    rw [hcs, hl.bridge j]
    split_ifs with hj
    · subst hj
      simp [hn, CallerPc.holdsBridge]
    · rfl
  · have := hl.pending h hh
    cases h with
    | caller j =>
      show ((s.call cmd).pcOf j).any _ = true
      rw [hcs]
      split_ifs with hj
      · subst hj
        simp [Sys.inPending, hn] at this
      · exact this
    | reader q => exact this
    | watcher q => exact this

lemma Sys.LockInv.not_reader (hl : s.LockInv) (hr : ∀ e k, s.readers p ≠ .remove e k) :
    s.pendingLock ≠ some (.reader p) := fun hh => by
  obtain ⟨e, k, he⟩ := hl.pending _ hh
  exact hr e k he

lemma Sys.LockInv.not_watcher (hl : s.LockInv) (hw : s.watchers p ≠ .draining) :
    s.pendingLock ≠ some (.watcher p) := fun hh => hw (hl.pending _ hh)

/-! ### One lemma per action -/

lemma Sys.LockInv.lockBridge (hl : s.LockInv) (h : s.lockBridge i = some s') : s'.LockInv := by
  unfold Sys.lockBridge at h
  split at h
  · next c hc hb =>
    split at h <;> cases h
    all_goals
      refine hl.move i _ (fun j => ?_) (hl.pending_other hc (by simp [*, CallerPc.holdsPending]) _)
      split_ifs with hj <;> simp_all [CallerPc.holdsBridge, eq_comm]
  · cases h

lemma Sys.LockInv.lockPending (hl : s.LockInv) (h : s.lockPending i = some s') : s'.LockInv := by
  unfold Sys.lockPending at h
  split at h
  · next c hc hp =>
    split at h <;> cases h
    all_goals
      have hb := hl.bridge_of hc (by simp [*, CallerPc.holdsBridge])
      refine hl.move i _ (fun j => ?_) fun h hh => ?_
      · split_ifs with hj <;> simp_all [CallerPc.holdsBridge]
      · cases hh
        simp [CallerPc.holdsPending]
  · cases h

lemma Sys.LockInv.insert (hl : s.LockInv) (h : s.insert i = some s') : s'.LockInv := by
  unfold Sys.insert at h
  split at h
  · next c hc =>
    split at h <;> cases h
    have hb := hl.bridge_of hc (by simp [*, CallerPc.holdsBridge])
    refine ((hl.setPending _).move (b := s.bridgeLock) (l := none) i _ (fun j => ?_) nofun).mapChan _ _
    split_ifs with hj <;> simp_all [CallerPc.holdsBridge]
  · cases h

lemma Sys.LockInv.send (hl : s.LockInv) {out : PipeOutcome} (h : s.send i out = some s') : s'.LockInv := by
  unfold Sys.send at h
  split at h
  · next c hc =>
    split at h <;> cases h
    next hpc =>
    have hb := hl.bridge_of hc (by simp [hpc, CallerPc.holdsBridge])
    refine (hl.setHost _ (Host.frame_sendCommand _ _)).move (b := none) (l := s.pendingLock) i _
      (fun j => ?_) (hl.pending_other hc (by simp [hpc, CallerPc.holdsPending]) _)
    split_ifs with hj
    · subst hj
      split <;> simp [CallerPc.holdsBridge]
    · simp [hb, Ne.symm hj]
  · cases h

lemma Sys.LockInv.recv (hl : s.LockInv) (h : s.recv i = some s') : s'.LockInv := by
  unfold Sys.recv at h
  split at h
  · next c hc =>
    split at h <;> cases h
    all_goals exact hl.setPc hc _ (by simp [*, CallerPc.holdsBridge]) (by simp [*, CallerPc.holdsPending])
  · cases h

lemma Sys.LockInv.elapse (hl : s.LockInv) (h : s.elapse i = some s') : s'.LockInv := by
  unfold Sys.elapse at h
  split at h
  · next c hc =>
    split at h <;> cases h
    exact hl.setPc hc _ (by simp [*, CallerPc.holdsBridge]) (by simp [*, CallerPc.holdsPending])
  · cases h

lemma Sys.LockInv.expire (hl : s.LockInv) (h : s.expire i = some s') : s'.LockInv := by
  unfold Sys.expire at h
  split at h
  · next c hc =>
    split at h <;> cases h
    have hb := hl.bridge_of hc (by simp [*, CallerPc.holdsBridge])
    refine ((hl.setPending _).move (b := none) (l := none) i _ (fun j => ?_) nofun).mapChan _ _
    split_ifs with hj <;> simp_all [CallerPc.holdsBridge, eq_comm]
  · cases h

lemma Sys.LockInv.readLine (hl : s.LockInv) (h : s.readLine p = some s') : s'.LockInv := by
  unfold Sys.readLine at h
  split at h
  · next hr _ =>
    have hn := hl.not_reader (p := p) (by simp [hr])
    split at h
    · cases h
      exact (hl.modifyProc p _).setReader _ hn
    · split_ifs at h
      cases h
      exact hl.setReader _ hn
  · cases h

lemma Sys.LockInv.readError (hl : s.LockInv) (h : s.readError p = some s') : s'.LockInv := by
  unfold Sys.readError at h
  split at h
  · next hr =>
    cases h
    exact hl.setReader _ (hl.not_reader (p := p) (by simp [hr]))
  · cases h

lemma Sys.LockInv.tryLock (hl : s.LockInv) (h : s.tryLock p = some s') : s'.LockInv := by
  unfold Sys.tryLock at h
  split at h
  · next e k hr =>
    have hn := hl.not_reader (p := p) (by simp [hr])
    split_ifs at h <;> cases h
    · exact (hl.setReader _ hn).withPending _ ⟨e, k, by simp⟩
    · exact hl.setReader _ hn
  · cases h

lemma Sys.LockInv.remove (hl : s.LockInv) (h : s.remove p = some s') : s'.LockInv := by
  unfold Sys.remove at h
  split at h
  · cases h
    exact (hl.setPending _).release.setReader _ nofun
  · cases h

lemma Sys.LockInv.reply (hl : s.LockInv) (h : s.reply p = some s') : s'.LockInv := by
  unfold Sys.reply at h
  split at h
  · next hr =>
    cases h
    exact (hl.mapChan _ _).setReader _ (hl.not_reader (p := p) (by simp [hr]))
  · cases h

lemma Sys.LockInv.forward (hl : s.LockInv) (h : s.forward p = some s') : s'.LockInv := by
  unfold Sys.forward at h
  split at h
  · next hr =>
    have hn := hl.not_reader (p := p) (by simp [hr])
    split_ifs at h <;> cases h
    · exact (hl.setReader _ hn).withSinks _
    · exact hl.setReader _ hn
  · cases h

lemma Sys.LockInv.watch (hl : s.LockInv) (h : s.watch p = some s') : s'.LockInv := by
  unfold Sys.watch at h
  split at h
  · next hw =>
    have hn := hl.not_watcher (p := p) (by simp [hw])
    have hp : p < s.host.procs.length :=
      Nat.lt_of_not_le fun hp => by simp [hl.idle p hp] at hw
    split_ifs at h <;> cases h
    · exact (hl.setWatcher _ hn (.inl hp)).withPending _ (by simp [Sys.inPending])
    · exact hl.setWatcher _ hn (.inr rfl)
  · cases h

lemma Sys.LockInv.drain (hl : s.LockInv) (h : s.drain p = some s') : s'.LockInv := by
  unfold Sys.drain at h
  split at h
  · cases h
    exact ((hl.setPending _).mapChan _ _).release.setWatcher _ nofun (.inr rfl)
  · cases h

lemma Sys.LockInv.emit (hl : s.LockInv) {l : String} (h : s.emit p l = some s') : s'.LockInv := by
  unfold Sys.emit at h
  split at h
  · split_ifs at h
    cases h
    exact (hl.modifyProc p _).appendLine l
  · cases h

lemma Sys.LockInv.exit (hl : s.LockInv) (h : s.exit p = some s') : s'.LockInv := by
  unfold Sys.exit at h
  split at h
  · split_ifs at h
    cases h
    exact hl.modifyProc p _
  · cases h

lemma Sys.LockInv.lifecycle (hl : s.LockInv) (hr : s.ReplyInv) {h : Host} (hf : s.host.Frame h)
    (hs : s.lifecycle h = some s') : s'.LockInv := by
  unfold Sys.lifecycle at hs
  split_ifs at hs
  cases hs
  exact hl.withHost hr h hf

lemma Sys.LockInv.step (hl : s.LockInv) (hi : s.Inv) (hr : s.ReplyInv) {a : Action}
    (h : KamuneBridge.step s a = some s') : s'.LockInv := by
  cases a with
  | call cmd => cases h; exact hl.call hi cmd
  | lockBridge i => exact hl.lockBridge h
  | lockPending i => exact hl.lockPending h
  | insert i => exact hl.insert h
  | send i out => exact hl.send h
  | recv i => exact hl.recv h
  | elapse i => exact hl.elapse h
  | expire i => exact hl.expire h
  | readLine p => exact hl.readLine h
  | readError p => exact hl.readError h
  | tryLock p => exact hl.tryLock h
  | remove p => exact hl.remove h
  | reply p => exact hl.reply h
  | forward p => exact hl.forward h
  | watch p => exact hl.watch h
  | drain p => exact hl.drain h
  | emit p l => exact hl.emit h
  | exit p => exact hl.exit h
  | dropReceiver p => cases h; exact hl.withSinks _
  | startDaemon waitErr fs plat currentExe resourceDir launch =>
    exact hl.lifecycle hr (Host.frame_startDaemon _ _ _ _ _ _ _) h
  | stopDaemon waitErr shutdownId out => exact hl.lifecycle hr (Host.frame_stopDaemon _ _ _) h
  | daemonStatus waitErr => exact hl.lifecycle hr (Host.frame_isRunning _) h
  | spawn launch => exact hl.lifecycle hr (Host.frame_spawn _ _) h
  | isRunning waitErr => exact hl.lifecycle hr (Host.frame_isRunning _) h
  | stop shutdownId out => exact hl.lifecycle hr (Host.frame_stop _ _) h

end

lemma Sys.lockInv_init : Sys.init.LockInv :=
  ⟨fun _ => by simp [Sys.init, Sys.pcOf], nofun, fun _ _ => rfl⟩

lemma Reachable.lockInv {s : Sys} (hs : Reachable s) : s.LockInv := by
  induction hs with
  | init => exact Sys.lockInv_init
  | step a hs h ih => exact ih.step hs.inv hs.replyInv h

/-! ## Progress -/

/-- How far a call is from returning: each of its own steps lowers it. -/
def CallerPc.rank : CallerPc → Nat
  | .lockBridge => 8
  | .lockPending => 7
  | .insert => 6
  | .send => 5
  | .wait => 4
  | .expired => 3
  | .expiredLocked => 2
  | .expiring => 1
  | .done _ | .sendFailed _ => 0

lemma CallerPc.rank_le (pc : CallerPc) : pc.rank ≤ 8 := by
  cases pc <;> simp [CallerPc.rank]

lemma CallerPc.holdsBridge_of_holdsPending {pc : CallerPc} (h : pc.holdsPending = true) :
    pc.holdsBridge = true := by
  cases pc <;> simp_all [CallerPc.holdsPending, CallerPc.holdsBridge]

/-- Some run of the system leads from `s` to `s'`. -/
def Reaches (s s' : Sys) : Prop := ∃ as, run s as = some s'

section
variable {s s' t : Sys} {i j : Nat} {c : Caller}

lemma Reaches.refl (s : Sys) : Reaches s s := ⟨[], rfl⟩

lemma Reaches.trans (h₁ : Reaches s t) (h₂ : Reaches t s') : Reaches s s' := by
  obtain ⟨as, h₁⟩ := h₁
  obtain ⟨bs, h₂⟩ := h₂
  exact ⟨as ++ bs, by rw [run_append, h₁]; exact h₂⟩

lemma Reaches.of_step {a : Action} (h : step s a = some s') : Reaches s s' :=
  ⟨[a], by simp [run, h]⟩

lemma Reaches.reachable (h : Reaches s s') (hs : Reachable s) : Reachable s' :=
  let ⟨_, h⟩ := h
  run_reachable hs h

lemma Sys.pcOf_eq_some {pc : CallerPc} : s.pcOf i = some pc ↔ ∃ c, s.callers i = some c ∧ c.pc = pc := by
  simp [Sys.pcOf]

/-- A call holding the table's write guard holds the bridge's mutex too. -/
lemma Sys.LockInv.bridge_of_pending (hl : s.LockInv) (hp : s.pendingLock = some (.caller i)) :
    s.bridgeLock = some i := by
  have hin : (s.pcOf i).any CallerPc.holdsPending = true := hl.pending _ hp
  refine (hl.bridge i).mpr ?_
  cases h : s.pcOf i with
  | none => simp [h] at hin
  | some pc => simpa using CallerPc.holdsBridge_of_holdsPending (by simpa [h] using hin)

lemma Sys.LockInv.holder (hl : s.LockInv) (hb : s.bridgeLock = some i) :
    ∃ c, s.callers i = some c ∧ c.pc.holdsBridge = true := by
  have := (hl.bridge i).mp hb
  cases h : s.callers i <;> simp_all [Sys.pcOf]

/-- A run takes the call at `i` from `s` to a point of rank below `r`, and every other call
stays where it is. -/
def Sys.CanLower (s : Sys) (i r : Nat) : Prop :=
  ∃ s', Reaches s s' ∧ (∃ pc, s'.pcOf i = some pc ∧ pc.rank < r) ∧ ∀ k, k ≠ i → s'.pcOf k = s.pcOf k

lemma Sys.CanLower.of_step {r : Nat} {a : Action} (pc : CallerPc) (h : step s a = some s')
    (hpc : ∀ k, s'.pcOf k = if k = i then some pc else s.pcOf k) (hr : pc.rank < r) : s.CanLower i r :=
  ⟨s', .of_step h, ⟨pc, by simp [hpc], hr⟩, fun k hk => by simp [hpc, hk]⟩

lemma Sys.CanLower.lowers {r : Nat} (h : s.CanLower i r) :
    ∃ t, Reaches s t ∧ ∃ c', t.callers i = some c' ∧ c'.pc.rank < r := by
  obtain ⟨t, hst, ⟨pc, hti, hlt⟩, -⟩ := h
  obtain ⟨c', hc', rfl⟩ := Sys.pcOf_eq_some.mp hti
  exact ⟨t, hst, c', hc', hlt⟩

lemma Sys.CanLower.of_reaches {r : Nat} (h : Reaches s t) (hp : t.pcOf = s.pcOf) (hl : t.CanLower i r) :
    s.CanLower i r := by
  obtain ⟨u, hu, hi, ho⟩ := hl
  exact ⟨u, h.trans hu, hi, fun k hk => (ho k hk).trans (congrFun hp k)⟩

/-! ### The steps that move a call on -/

lemma Sys.lockBridge_lowers (hc : s.callers i = some c) (hb : s.bridgeLock = none)
    (hpc : c.pc = .lockBridge ∨ c.pc = .expired) : s.CanLower i c.pc.rank := by
  rcases hpc with hpc | hpc
  · exact .of_step (a := .lockBridge i) .lockPending (by simp only [step, Sys.lockBridge, hc, hb, hpc]; rfl)
      (fun k => by exact Sys.pcOf_setCaller _ _ _ k) (by simp [hpc, CallerPc.rank])
  · exact .of_step (a := .lockBridge i) .expiredLocked (by simp only [step, Sys.lockBridge, hc, hb, hpc]; rfl)
      (fun k => by exact Sys.pcOf_setCaller _ _ _ k) (by simp [hpc, CallerPc.rank])

lemma Sys.lockPending_lowers (hc : s.callers i = some c) (hp : s.pendingLock = none)
    (hpc : c.pc = .lockPending ∨ c.pc = .expiredLocked) : s.CanLower i c.pc.rank := by
  rcases hpc with hpc | hpc
  · exact .of_step (a := .lockPending i) .insert (by simp only [step, Sys.lockPending, hc, hp, hpc]; rfl)
      (fun k => by exact Sys.pcOf_setCaller _ _ _ k) (by simp [hpc, CallerPc.rank])
  · exact .of_step (a := .lockPending i) .expiring (by simp only [step, Sys.lockPending, hc, hp, hpc]; rfl)
      (fun k => by exact Sys.pcOf_setCaller _ _ _ k) (by simp [hpc, CallerPc.rank])

lemma Sys.insert_lowers (hc : s.callers i = some c) (hpc : c.pc = .insert) : s.CanLower i c.pc.rank :=
  .of_step (a := .insert i) .send (by simp only [step, Sys.insert, hc, hpc]; rfl)
    (fun k => by exact (Sys.pcOf_mapChan _ _ _ k).trans (Sys.pcOf_setCaller _ _ _ k))
    (by simp [hpc, CallerPc.rank])

/-- `send_command` returns, whatever the pipe does. -/
lemma Sys.send_lowers (hc : s.callers i = some c) (hpc : c.pc = .send) (out : PipeOutcome) :
    s.CanLower i c.pc.rank :=
  .of_step (a := .send i out) _ (by simp only [step, Sys.send, hc, hpc]; rfl)
    (fun k => by exact Sys.pcOf_setCaller _ _ _ k) (by rw [hpc]; split <;> simp [CallerPc.rank])

/-- The call waiting on its channel takes what was sent, or times out. -/
lemma Sys.wait_lowers (hc : s.callers i = some c) (hpc : c.pc = .wait) : s.CanLower i c.pc.rank := by
  rcases hch : c.chan with _ | r | _
  · exact .of_step (a := .elapse i) .expired (by simp only [step, Sys.elapse, hc, hpc, hch]; rfl)
      (fun k => by exact Sys.pcOf_setCaller _ _ _ k) (by simp [hpc, CallerPc.rank])
  · exact .of_step (a := .recv i) (.done r) (by simp only [step, Sys.recv, hc, hpc, hch]; rfl)
      (fun k => by exact Sys.pcOf_setCaller _ _ _ k) (by simp [hpc, CallerPc.rank])
  · exact .of_step (a := .recv i) _ (by simp only [step, Sys.recv, hc, hpc, hch]; rfl)
      (fun k => by exact Sys.pcOf_setCaller _ _ _ k) (by simp [hpc, CallerPc.rank])

lemma Sys.expire_lowers (hc : s.callers i = some c) (hpc : c.pc = .expiring) : s.CanLower i c.pc.rank :=
  .of_step (a := .expire i) (.done (.error .timeout)) (by simp only [step, Sys.expire, hc, hpc]; rfl)
    (fun k => by exact (Sys.pcOf_mapChan _ _ _ k).trans (Sys.pcOf_setCaller _ _ _ k))
    (by simp [hpc, CallerPc.rank])

/-! ### Freeing the locks -/

/-- The table's write guard, unless a call holds it, is dropped in one step of its holder,
which moves no call. -/
lemma Sys.pending_free (hs : Reachable s) (hn : ∀ j, s.pendingLock ≠ some (.caller j)) :
    ∃ t, Reaches s t ∧ t.pendingLock = none ∧ t.pcOf = s.pcOf := by
  have hl := hs.lockInv
  match h : s.pendingLock with
  | none => exact ⟨s, .refl s, h, rfl⟩
  | some (.caller j) => exact absurd h (hn j)
  | some (.reader p) =>
    obtain ⟨e, k, hr⟩ := hl.pending _ h
    exact ⟨_, .of_step (a := .remove p) (by simp only [step, Sys.remove, hr]; rfl), by rfl, by rfl⟩
  | some (.watcher p) =>
    have hw : s.watchers p = .draining := hl.pending _ h
    exact ⟨_, .of_step (a := .drain p) (by simp only [step, Sys.drain, hw]; rfl), by rfl,
      by exact funext (Sys.pcOf_mapChan _ _ _)⟩

/-- A call waiting for the table's write guard holds the mutex, so no call holds the guard:
it is freed first, and then the call takes it. -/
lemma Sys.lockPending_lowers_of_reachable (hs : Reachable s) (hc : s.callers i = some c)
    (hpc : c.pc = .lockPending ∨ c.pc = .expiredLocked) : s.CanLower i c.pc.rank := by
  have hl := hs.lockInv
  have hb := hl.bridge_of hc (by rcases hpc with h | h <;> simp [h, CallerPc.holdsBridge])
  have hnp := hl.not_pending hc (by rcases hpc with h | h <;> simp [h, CallerPc.holdsPending])
  obtain ⟨t, hst, hfree, hpcs⟩ := Sys.pending_free hs fun k hk => by
    obtain rfl : k = i := Option.some_injective _ ((hl.bridge_of_pending hk).symm.trans hb)
    exact hnp hk
  obtain ⟨c', hc', hpc'⟩ := Sys.pcOf_eq_some.mp (hpcs ▸ Sys.pcOf_of hc : t.pcOf i = some c.pc)
  refine .of_reaches hst hpcs ?_
  rw [← hpc']
  exact Sys.lockPending_lowers hc' hfree (hpc' ▸ hpc)

/-- The call holding the bridge's mutex can always move on, while every other call stays
where it is. -/
lemma Sys.canLower_of_holdsBridge (hs : Reachable s) (hc : s.callers i = some c)
    (hb : c.pc.holdsBridge = true) : s.CanLower i c.pc.rank := by
  have : c.pc = .lockPending ∨ c.pc = .expiredLocked ∨ c.pc = .insert ∨ c.pc = .send ∨
      c.pc = .expiring := by
    cases h : c.pc <;> simp_all [CallerPc.holdsBridge]
  rcases this with h | h | h | h | h
  · exact Sys.lockPending_lowers_of_reachable hs hc (.inl h)
  · exact Sys.lockPending_lowers_of_reachable hs hc (.inr h)
  · exact Sys.insert_lowers hc h
  · exact Sys.send_lowers hc h .ok
  · exact Sys.expire_lowers hc h

/-- The mutex, when another call holds it, is freed by running its holder through the rest of
its section; the call at `i` does not move meanwhile. By induction on a bound of the
holder's rank. -/
lemma Sys.bridge_free_of_rank (n : Nat) : ∀ {s : Sys}, Reachable s → s.bridgeLock ≠ some i →
    (∀ j c, s.bridgeLock = some j → s.callers j = some c → c.pc.rank < n) →
    ∃ t, Reaches s t ∧ t.bridgeLock = none ∧ t.pcOf i = s.pcOf i := by
  induction n using Nat.strong_induction_on with
  | _ n ih =>
    intro s hs hi hr
    cases hb : s.bridgeLock with
    | none => exact ⟨s, .refl s, hb, rfl⟩
    | some j =>
      have hl := hs.lockInv
      obtain ⟨c, hc, hcb⟩ := hl.holder hb
      have hij : i ≠ j := fun h => hi (h ▸ hb)
      obtain ⟨t, hst, ⟨pc, htj, hlt⟩, hother⟩ := Sys.canLower_of_holdsBridge hs hc hcb
      have ht := hst.reachable hs
      -- who holds the mutex in `t` held it in `s` already, unless it is the call at `j`
      have hheld : ∀ k, k ≠ j → t.bridgeLock = some k → s.bridgeLock = some k := fun k hk htk =>
        (hl.bridge k).mpr (hother k hk ▸ (ht.lockInv.bridge k).mp htk)
      obtain ⟨u, htu, hu, hui⟩ := ih _ (hr j c hb hc) ht (fun hti => hi (hheld i hij hti))
        fun k c' htk hc' => by
          by_cases hk : k = j
          · subst hk
            have hpc' : c'.pc = pc := by simpa [Sys.pcOf, hc'] using htj
            exact hpc' ▸ hlt
          · exact absurd (hb ▸ hheld k hk htk) (by simpa using Ne.symm hk)
      exact ⟨u, hst.trans htu, hu, hui.trans (hother i hij)⟩

lemma Sys.bridge_free (hs : Reachable s) (hi : s.bridgeLock ≠ some i) :
    ∃ t, Reaches s t ∧ t.bridgeLock = none ∧ t.pcOf i = s.pcOf i :=
  Sys.bridge_free_of_rank 9 hs hi fun _ c _ _ => Nat.lt_succ_of_le c.pc.rank_le

/-- A call waiting for the mutex gets it once its holder has run through its section. -/
lemma Sys.lockBridge_lowers_of_reachable (hs : Reachable s) (hc : s.callers i = some c)
    (hpc : c.pc = .lockBridge ∨ c.pc = .expired) :
    ∃ t, Reaches s t ∧ ∃ c', t.callers i = some c' ∧ c'.pc.rank < c.pc.rank := by
  have hnb := hs.lockInv.not_bridge hc (by rcases hpc with h | h <;> simp [h, CallerPc.holdsBridge])
  obtain ⟨t, hst, htb, hti⟩ := Sys.bridge_free hs hnb
  obtain ⟨c', hc', hpc'⟩ := Sys.pcOf_eq_some.mp (hti ▸ Sys.pcOf_of hc : t.pcOf i = some c.pc)
  obtain ⟨u, hu, c'', hc'', hlt⟩ := (Sys.lockBridge_lowers hc' htb (hpc' ▸ hpc)).lowers
  exact ⟨u, hst.trans hu, c'', hc'', hpc' ▸ hlt⟩

/-- Every call that has not returned can get closer to returning. -/
lemma Sys.lowers (hs : Reachable s) (hc : s.callers i = some c) (hr : c.pc.result = none) :
    ∃ t, Reaches s t ∧ ∃ c', t.callers i = some c' ∧ c'.pc.rank < c.pc.rank := by
  by_cases hb : c.pc.holdsBridge = true
  · exact (Sys.canLower_of_holdsBridge hs hc hb).lowers
  have : c.pc = .lockBridge ∨ c.pc = .expired ∨ c.pc = .wait := by
    cases h : c.pc <;> simp_all [CallerPc.holdsBridge, CallerPc.result]
  rcases this with h | h | h
  · exact Sys.lockBridge_lowers_of_reachable hs hc (.inl h)
  · exact Sys.lockBridge_lowers_of_reachable hs hc (.inr h)
  · exact (Sys.wait_lowers hc h).lowers

end

/-- From every reachable state, whatever the other calls, the readers and the monitors have
done, some run takes a call to its return: waiting on the bridge's mutex and the table's write
guard never deadlocks. By induction on the call's rank. -/
theorem call_can_return {s : Sys} (hs : Reachable s) {i : Nat} {c : Caller} (hc : s.callers i = some c) :
    ∃ as s', run s as = some s' ∧ ∃ c', s'.callers i = some c' ∧ c'.pc.result.isSome := by
  generalize h : c.pc.rank = n
  induction n using Nat.strong_induction_on generalizing s c with
  | _ n ih =>
    cases hres : c.pc.result with
    | some r => exact ⟨[], s, rfl, c, hc, by simp [hres]⟩
    | none =>
      obtain ⟨t, ⟨as, hst⟩, c', hc', hlt⟩ := Sys.lowers hs hc hres
      obtain ⟨bs, u, htu, hu⟩ := ih _ (h ▸ hlt) (run_reachable hs hst) hc' rfl
      exact ⟨as ++ bs, u, by rw [run_append, hst]; exact htu, hu⟩

/-- Call A waits for its reply, call B holds the mutex and waits for the table's write guard,
and the reader, with A's reply read, holds the guard. -/
def contendedTrace : List Action :=
  [devStart, .watch 0, .drain 0, .call cmdA, .lockBridge 0, .lockPending 0, .insert 0, .send 0 .ok,
    .call cmdB, .lockBridge 1, .emit 0 replyA, .readLine 0, .tryLock 0]

def contended : Sys := (run Sys.init contendedTrace).getD Sys.init

theorem contended_call_can_return :
    ∃ as s', run contended as = some s' ∧ ∃ c', s'.callers 1 = some c' ∧ c'.pc.result.isSome :=
  call_can_return (run_reachable .init (rfl : run Sys.init contendedTrace = some contended))
    (rfl : contended.callers 1 = some ⟨cmdB, .lockPending, .empty⟩)

/-! ## The reader never waits -/

/-- How far the reader is from `reader.lines()`. -/
def ReaderPc.rank : ReaderPc → Nat
  | .tryLock _ _ => 4
  | .remove _ _ => 3
  | .reply _ _ => 2
  | .forward _ => 1
  | .next | .exited => 0

section
variable {s : Sys} {p : Nat}

end

end KamuneBridge
