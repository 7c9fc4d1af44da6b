import KamuneBridge.Invariant

/-!
# What a call goes through

One description of what a step of the bridge can do to a `send_command_async` call: move it
on from where its code is, or close its oneshot channel or send into it. Every step of
`KamuneBridge.System` does a few of these to each call, or starts a call at a fresh index. From
this alone, over every run, the only errors a call returns are `NotRunning`, the timeout, the
dropped sender and a failed write or flush.
-/

namespace KamuneBridge

/-- The errors `send_command_async` returns: `NotRunning` from the shutdown monitor or from
`send_command`, the timeout, the sender dropped, and a failed write or flush. -/
def CallError (e : DaemonError) : Prop :=
  e = .notRunning ∨ e = .timeout ∨ e = .sendError "response channel closed" ∨
    ∃ err, e = .sendError ("failed to write to stdin: " ++ err) ∨
      e = .sendError ("failed to flush stdin: " ++ err)

/-- What a call has returned, once it has. -/
def CallerPc.result : CallerPc → Option (Except DaemonError DaemonEvent)
  | .done r => some r
  | .sendFailed e => some (.error e)
  | _ => none

/-- What the other threads do to a call's channel: the table drops its sender, the reader
sends a reply, the monitor sends `NotRunning`. -/
inductive ChanOp : (Chan → Chan) → Prop
  | close : ChanOp .close
  | reply (e : DaemonEvent) : ChanOp (.fill (.ok e))
  | drain : ChanOp (.fill (.error .notRunning))

/-- One thing a step can do to a call: a move of `send_command_async` from the point its code
is at, or an operation on its channel. -/
inductive CallMove : Caller → Caller → Prop
  | lockBridge {c : Caller} : c.pc = .lockBridge → CallMove c { c with pc := .lockPending }
  | relock {c : Caller} : c.pc = .expired → CallMove c { c with pc := .expiredLocked }
  | lockPending {c : Caller} : c.pc = .lockPending → CallMove c { c with pc := .insert }
  | lockExpiring {c : Caller} : c.pc = .expiredLocked → CallMove c { c with pc := .expiring }
  | insert {c : Caller} : c.pc = .insert → CallMove c { c with pc := .send }
  | sent {c : Caller} : c.pc = .send → CallMove c { c with pc := .wait }
  | sendFailed {c : Caller} {e : DaemonError} : c.pc = .send → CallError e →
      CallMove c { c with pc := .sendFailed e }
  | recv {c : Caller} {r : Except DaemonError DaemonEvent} : c.pc = .wait → c.chan = .full r →
      CallMove c { c with pc := .done r }
  | recvClosed {c : Caller} : c.pc = .wait → c.chan = .closed →
      CallMove c { c with pc := .done (.error (.sendError "response channel closed")) }
  | elapse {c : Caller} : c.pc = .wait → c.chan = .empty → CallMove c { c with pc := .expired }
  | expire {c : Caller} : c.pc = .expiring → CallMove c { c with pc := .done (.error .timeout) }
  | chan {c : Caller} {f : Chan → Chan} : ChanOp f → CallMove c { c with chan := f c.chan }

/-- What steps do to the call at one index: nothing before it starts; once started at
`lockBridge` with an empty channel, moves. -/
def CallSteps : Option Caller → Option Caller → Prop
  | none, none => True
  | none, some c' => ∃ cmd, Relation.ReflTransGen CallMove ⟨cmd, .lockBridge, .empty⟩ c'
  | some _, none => False
  | some c, some c' => Relation.ReflTransGen CallMove c c'

lemma CallSteps.refl : ∀ o : Option Caller, CallSteps o o
  | none => trivial
  | some _ => .refl

lemma CallSteps.trans : ∀ {o₁ o₂ o₃ : Option Caller}, CallSteps o₁ o₂ → CallSteps o₂ o₃ →
    CallSteps o₁ o₃
  | none, none, _, _, h => h
  | none, some _, some _, ⟨cmd, h₁⟩, h₂ => ⟨cmd, h₁.trans h₂⟩
  | some _, some _, some _, h₁, h₂ => Relation.ReflTransGen.trans h₁ h₂
  | none, some _, none, _, h | some _, some _, none, _, h | some _, none, _, h, _ => h.elim

lemma Host.sendCommand_callError {h : Host} {c : DaemonCommand} {out : PipeOutcome}
    {e : DaemonError} (he : (h.sendCommand c out).1 = .error e) : CallError e := by
  unfold Host.sendCommand at he
  split at he
  · cases he
    exact .inl rfl
  · split at he
    · cases he
    · cases he
      exact .inr (.inr (.inr ⟨_, .inl rfl⟩))
    · cases he
      exact .inr (.inr (.inr ⟨_, .inr rfl⟩))

/-! ### Each step moves every call -/

section
variable {s s' : Sys} {i j : Nat} {c : Caller}

lemma callSteps_setCaller (hc : s.callers i = some c) {c' : Caller}
    (hm : Relation.ReflTransGen CallMove c c') (j : Nat) :
    CallSteps (s.callers j) ((s.setCaller i c').callers j) := by
  by_cases hj : j = i
  · subst hj
    simpa [hc] using hm
  · simpa [hj] using CallSteps.refl (s.callers j)

lemma callSteps_setPc (hc : s.callers i = some c) {pc : CallerPc}
    (hm : CallMove c { c with pc := pc }) (j : Nat) :
    CallSteps (s.callers j) ((s.setCaller i { c with pc := pc }).callers j) :=
  callSteps_setCaller hc (.single hm) j

lemma callSteps_mapChan {f : Chan → Chan} (hf : ChanOp f) (js : List Nat) (j : Nat) :
    CallSteps (s.callers j) ((s.mapChan js f).callers j) := by
  simp only [Sys.mapChan_callers]
  split_ifs
  · cases s.callers j with
    | none => trivial
    | some c => exact .single (.chan hf)
  · exact CallSteps.refl _

variable {p : Nat}

lemma Sys.lockBridge_callSteps (h : s.lockBridge i = some s') (j : Nat) :
    CallSteps (s.callers j) (s'.callers j) := by
  unfold Sys.lockBridge at h
  split at h
  · next c hc _ =>
    split at h <;> cases h
    · next hpc => exact callSteps_setPc hc (.lockBridge hpc) j
    · next hpc => exact callSteps_setPc hc (.relock hpc) j
  · cases h

lemma Sys.lockPending_callSteps (h : s.lockPending i = some s') (j : Nat) :
    CallSteps (s.callers j) (s'.callers j) := by
  unfold Sys.lockPending at h
  split at h
  · next c hc _ =>
    split at h <;> cases h
    · next hpc => exact callSteps_setPc hc (.lockPending hpc) j
    · next hpc => exact callSteps_setPc hc (.lockExpiring hpc) j
  · cases h

/-- `insert` moves the call on and drops the sender the id had. -/
lemma Sys.insert_callSteps (h : s.insert i = some s') (j : Nat) :
    CallSteps (s.callers j) (s'.callers j) := by
  unfold Sys.insert at h
  split at h
  · next c hc =>
    split at h <;> cases h
    next hpc =>
    exact (callSteps_setPc (s := s.setPending _) hc (.insert hpc) j).trans (callSteps_mapChan .close _ j)
  · cases h

lemma Sys.send_callSteps {out : PipeOutcome} (h : s.send i out = some s') (j : Nat) :
    CallSteps (s.callers j) (s'.callers j) := by
  unfold Sys.send at h
  split at h
  · next c hc =>
    split at h <;> cases h
    next hpc =>
    refine callSteps_setPc (s := { s with host := _ }) hc ?_ j
    split
    · exact .sent hpc
    · next e hsent => exact .sendFailed hpc (Host.sendCommand_callError hsent)
  · cases h

lemma Sys.recv_callSteps (h : s.recv i = some s') (j : Nat) :
    CallSteps (s.callers j) (s'.callers j) := by
  unfold Sys.recv at h
  split at h
  · next c hc =>
    split at h <;> cases h
    · next hpc hch => exact callSteps_setPc hc (.recv hpc hch) j
    · next hpc hch => exact callSteps_setPc hc (.recvClosed hpc hch) j
  · cases h

lemma Sys.elapse_callSteps (h : s.elapse i = some s') (j : Nat) :
    CallSteps (s.callers j) (s'.callers j) := by
  unfold Sys.elapse at h
  split at h
  · next c hc =>
    split at h <;> cases h
    next hpc hch => exact callSteps_setPc hc (.elapse hpc hch) j
  · cases h

/-- `remove` after the timeout moves the call on and drops its sender. -/
lemma Sys.expire_callSteps (h : s.expire i = some s') (j : Nat) :
    CallSteps (s.callers j) (s'.callers j) := by
  unfold Sys.expire at h
  split at h
  · next c hc =>
    split at h <;> cases h
    next hpc =>
    exact (callSteps_setPc (s := s.setPending _) hc (.expire hpc) j).trans (callSteps_mapChan .close _ j)
  · cases h

lemma Sys.reply_callSteps (h : s.reply p = some s') (j : Nat) :
    CallSteps (s.callers j) (s'.callers j) := by
  unfold Sys.reply at h
  split at h <;> cases h
  exact callSteps_mapChan (.reply _) _ j

lemma Sys.drain_callSteps (h : s.drain p = some s') (j : Nat) :
    CallSteps (s.callers j) (s'.callers j) := by
  unfold Sys.drain at h
  split at h <;> cases h
  exact callSteps_mapChan (s := s.setPending ∅) .drain _ j

/-! The other steps leave every call as it is. -/

lemma Sys.readLine_callers (h : s.readLine p = some s') : s'.callers = s.callers := by
  unfold Sys.readLine at h
  split at h
  · split at h
    · cases h
      rfl
    · split_ifs at h
      cases h
      rfl
  · cases h

lemma Sys.readError_callers (h : s.readError p = some s') : s'.callers = s.callers := by
  unfold Sys.readError at h
  split at h <;> cases h
  rfl

lemma Sys.tryLock_callers (h : s.tryLock p = some s') : s'.callers = s.callers := by
  unfold Sys.tryLock at h
  split at h
  · split_ifs at h <;> cases h <;> rfl
  · cases h

lemma Sys.remove_callers (h : s.remove p = some s') : s'.callers = s.callers := by
  unfold Sys.remove at h
  split at h <;> cases h
  rfl

lemma Sys.forward_callers (h : s.forward p = some s') : s'.callers = s.callers := by
  unfold Sys.forward at h
  split at h
  · split_ifs at h <;> cases h <;> rfl
  · cases h

lemma Sys.watch_callers (h : s.watch p = some s') : s'.callers = s.callers := by
  unfold Sys.watch at h
  split at h
  · split_ifs at h <;> cases h <;> rfl
  · cases h

lemma Sys.emit_callers {l : String} (h : s.emit p l = some s') : s'.callers = s.callers := by
  unfold Sys.emit at h
  split at h
  · split_ifs at h
    cases h
    rfl
  · cases h

lemma Sys.exit_callers (h : s.exit p = some s') : s'.callers = s.callers := by
  unfold Sys.exit at h
  split at h
  · split_ifs at h
    cases h
    rfl
  · cases h

lemma Sys.lifecycle_callers {h : Host} (hs : s.lifecycle h = some s') : s'.callers = s.callers := by
  unfold Sys.lifecycle Sys.withHost at hs
  split_ifs at hs <;> cases hs <;> rfl

/-- Every step moves each call, or starts one at the fresh index. -/
theorem step_callSteps (hfresh : s.callers s.nCallers = none) {a : Action}
    (h : step s a = some s') (j : Nat) : CallSteps (s.callers j) (s'.callers j) := by
  have same : s'.callers = s.callers → CallSteps (s.callers j) (s'.callers j) :=
    fun e => e ▸ CallSteps.refl _
  cases a with
  | call cmd =>
    cases h
    by_cases hj : j = s.nCallers
    · subst hj
      simpa [Sys.call, hfresh] using ⟨cmd, .refl⟩
    · simpa [Sys.call, hj] using CallSteps.refl (s.callers j)
  | lockBridge i => exact Sys.lockBridge_callSteps h j
  | lockPending i => exact Sys.lockPending_callSteps h j
  | insert i => exact Sys.insert_callSteps h j
  | send i out => exact Sys.send_callSteps h j
  | recv i => exact Sys.recv_callSteps h j
  | elapse i => exact Sys.elapse_callSteps h j
  | expire i => exact Sys.expire_callSteps h j
  | readLine p => exact same (Sys.readLine_callers h)
  | readError p => exact same (Sys.readError_callers h)
  | tryLock p => exact same (Sys.tryLock_callers h)
  | remove p => exact same (Sys.remove_callers h)
  | reply p => exact Sys.reply_callSteps h j
  | forward p => exact same (Sys.forward_callers h)
  | watch p => exact same (Sys.watch_callers h)
  | drain p => exact Sys.drain_callSteps h j
  | emit p l => exact same (Sys.emit_callers h)
  | exit p => exact same (Sys.exit_callers h)
  | dropReceiver p =>
    cases h
    exact same rfl
  | startDaemon | stopDaemon | daemonStatus | spawn | isRunning | stop =>
    exact same (Sys.lifecycle_callers h)

end

/-! ### What calls return -/

/-- The only error a channel receives is the monitor's `NotRunning`, and a call returns only
errors of `CallError`. -/
def Caller.ErrorsOk (c : Caller) : Prop :=
  (∀ e, c.chan = .full (.error e) → e = .notRunning) ∧
    ∀ e, c.pc.result = some (.error e) → CallError e

lemma CallMove.errorsOk {c c' : Caller} (hm : CallMove c c') (hc : c.ErrorsOk) : c'.ErrorsOk := by
  cases hm with
  | sendFailed _ he => exact ⟨hc.1, fun _ h => by cases h; exact he⟩
  | recv _ hch => exact ⟨hc.1, fun e h => by cases h; exact .inl (hc.1 e hch)⟩
  | recvClosed => exact ⟨hc.1, fun _ h => by cases h; exact .inr (.inr (.inl rfl))⟩
  | expire => exact ⟨hc.1, fun _ h => by cases h; exact .inr (.inl rfl)⟩
  | chan hf =>
    refine ⟨fun e he => ?_, hc.2⟩
    cases hf with
    | close => exact hc.1 e (Chan.close_eq_full he)
    | reply => exact hc.1 e ((Chan.fill_eq_full he).resolve_right nofun)
    | drain => exact (Chan.fill_eq_full he).elim (hc.1 e) fun h => by cases h; rfl
  | lockBridge hpc | relock hpc | lockPending hpc | lockExpiring hpc | insert hpc | sent hpc
  | elapse hpc _ => exact ⟨hc.1, nofun⟩

lemma Caller.ErrorsOk.moves {c c' : Caller} (hc : c.ErrorsOk)
    (hm : Relation.ReflTransGen CallMove c c') : c'.ErrorsOk := by
  induction hm with
  | refl => exact hc
  | tail _ hm ih => exact hm.errorsOk ih

lemma Reachable.errorsOk {s : Sys} (hs : Reachable s) {i : Nat} {c : Caller}
    (hc : s.callers i = some c) : c.ErrorsOk := by
  induction hs generalizing c with
  | init => cases hc
  | @step s s' a hr h ih =>
    have hsteps := step_callSteps (hr.inv.fresh _ le_rfl) h i
    rw [hc] at hsteps
    cases h₀ : s.callers i with
    | none =>
      rw [h₀] at hsteps
      obtain ⟨_, hm⟩ := hsteps
      exact Caller.ErrorsOk.moves ⟨fun _ h => (by cases h), fun _ h => (by cases h)⟩ hm
    | some c₀ =>
      rw [h₀] at hsteps
      exact (ih h₀).moves hsteps

end KamuneBridge
