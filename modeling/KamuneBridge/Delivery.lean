import Mathlib.Algebra.Order.BigOperators.Group.Finset
import KamuneBridge.Forwarding

/-!
# A reply line reaches at most one call

The reader sends a reply only after `remove(id)` took the sender out of the table, and a
oneshot channel takes one value. So each line with id `k` that a daemon writes answers at most
one call. Counted over every run: the calls whose channel was sent an `Ok` with id `k`, and the
replies with id `k` a reader may still send (the event it holds on its way to the table, and
the lines still in its pipe), are never more than the lines with id `k` the daemons wrote.
The count moves with the line: `emit` adds one to both sides, `lines()` moves it from the pipe
to the reader, `send` from the reader into one channel, and any other step can only lose it.
-/

namespace KamuneBridge

open Finset

/-- One when the channel holds `Ok` of an event with id `k`. -/
def Chan.replies (k : String) : Chan → Nat
  | .full (.ok e) => if e.id = some k then 1 else 0
  | _ => 0

/-- One when the reader holds an event with id `k` that it may still send to a call. -/
def ReaderPc.due (k : String) : ReaderPc → Nat
  | .tryLock e _ | .remove e _ | .reply e _ => if e.id = some k then 1 else 0
  | _ => 0

/-- One when the line decodes to an event with id `k`. -/
def lineReplies (k l : String) : Nat :=
  match lineEvent l with
  | some e => if e.id = some k then 1 else 0
  | none => 0

/-- How many of the lines decode to an event with id `k`. -/
def repliesIn (k : String) : List String → Nat
  | [] => 0
  | l :: ls => lineReplies k l + repliesIn k ls

@[simp] lemma repliesIn_nil (k : String) : repliesIn k [] = 0 := rfl

@[simp] lemma repliesIn_cons (k l : String) (ls : List String) :
    repliesIn k (l :: ls) = lineReplies k l + repliesIn k ls := rfl

@[simp] lemma repliesIn_append (k : String) (ls ls' : List String) :
    repliesIn k (ls ++ ls') = repliesIn k ls + repliesIn k ls' := by
  induction ls with
  | nil => simp
  | cons l ls ih => simp [ih, Nat.add_assoc]

/-- One when the call at `i` was sent a reply with id `k`. -/
def Sys.replies (s : Sys) (k : String) (i : Nat) : Nat :=
  ((s.callers i).map fun c => c.chan.replies k).getD 0

/-- The calls sent a reply with id `k`. -/
def Sys.sent (s : Sys) (k : String) : Nat :=
  ∑ i ∈ range s.nCallers, s.replies k i

/-- The replies with id `k` the reader of `p` may still send. -/
def Sys.dueAt (s : Sys) (k : String) (p : Nat) : Nat :=
  (s.readers p).due k + repliesIn k (s.host.output p)

/-- The replies with id `k` the readers may still send. -/
def Sys.due (s : Sys) (k : String) : Nat :=
  ∑ p ∈ range s.host.procs.length, s.dueAt k p

/-- The readers of processes not launched yet are at rest, and the replies sent or due are no
more than the lines written. -/
structure Sys.ReplyInv (s : Sys) : Prop where
  idle : ∀ p, s.host.procs.length ≤ p → s.readers p = .exited
  count : ∀ k, s.sent k + s.due k ≤ repliesIn k s.lines

/-- Summing over the first `n` indices, where `g` and `f` differ only at `i`, by `a` against `b`. -/
lemma sum_range_le_at {f g : Nat → Nat} {i a b n : Nat}
    (h : ∀ j < n, g j + (if j = i then a else 0) ≤ f j + (if j = i then b else 0)) :
    ∑ j ∈ range n, g j + (if i < n then a else 0) ≤ ∑ j ∈ range n, f j + (if i < n then b else 0) := by
  have := sum_le_sum fun j hj => h j (mem_range.mp hj)
  simpa only [sum_add_distrib, sum_ite_eq', mem_range] using this

lemma sum_range_le {f g : Nat → Nat} {n : Nat} (h : ∀ j < n, g j ≤ f j) :
    ∑ j ∈ range n, g j ≤ ∑ j ∈ range n, f j :=
  sum_le_sum fun j hj => h j (mem_range.mp hj)

lemma Chan.replies_close (k : String) (ch : Chan) : ch.close.replies k ≤ ch.replies k := by
  cases ch <;> simp [Chan.close, Chan.replies]

lemma Chan.replies_fill (k : String) (ch : Chan) (r : Except DaemonError DaemonEvent) :
    (ch.fill r).replies k ≤ ch.replies k + (Chan.full r).replies k := by
  cases ch <;> simp [Chan.fill]

lemma ReaderPc.due_ofLine (k l : String) : (ReaderPc.ofLine l).due k ≤ lineReplies k l := by
  unfold ReaderPc.ofLine lineReplies
  cases lineEvent l with
  | none => exact le_rfl
  | some e => dsimp only; cases replyId e <;> simp [ReaderPc.due]

section
variable {s s' : Sys} {i p : Nat} {c : Caller}

/-! ### Primitive updates -/

lemma Sys.ReplyInv.of_le (hi : s.ReplyInv) (hN : s'.host.procs.length = s.host.procs.length)
    (hidle : ∀ p, s.host.procs.length ≤ p → s'.readers p = .exited)
    (hsent : ∀ k, s'.sent k ≤ s.sent k) (hdue : ∀ k p, p < s.host.procs.length → s'.dueAt k p ≤ s.dueAt k p)
    (hl : s'.lines = s.lines) : s'.ReplyInv := by
  refine ⟨hN ▸ hidle, fun k => ?_⟩
  have hd : s'.due k ≤ s.due k := by
    unfold Sys.due
    rw [hN]
    exact sum_range_le (hdue k)
  rw [hl]
  exact le_trans (Nat.add_le_add (hsent k) hd) (hi.count k)

lemma Sys.ReplyInv.setCaller (hi : s.ReplyInv) (hc : s.callers i = some c) (c' : Caller)
    (hch : c'.chan = c.chan) : (s.setCaller i c').ReplyInv := by
  refine hi.of_le rfl hi.idle (fun k => sum_range_le fun j _ => ?_) (fun _ _ _ => le_rfl) rfl
  by_cases hj : j = i
  · subst hj
    simp [Sys.replies, hc, hch]
  · simp [Sys.replies, hj]

lemma Sys.ReplyInv.setPc (hi : s.ReplyInv) (hc : s.callers i = some c) (pc : CallerPc) :
    (s.setCaller i { c with pc := pc }).ReplyInv :=
  hi.setCaller hc _ rfl

lemma Sys.replies_mapChan {f : Chan → Chan} {k : String} {d : Nat}
    (hf : ∀ ch, (f ch).replies k ≤ ch.replies k + d) (js : List Nat) (j : Nat) :
    (s.mapChan js f).replies k j ≤ s.replies k j + if j ∈ js then d else 0 := by
  unfold Sys.replies
  simp only [Sys.mapChan_callers]
  split_ifs
  · cases s.callers j <;> simp [hf]
  · simp

/-- Dropping senders and sending errors take no reply away from the count. -/
lemma Sys.ReplyInv.mapChan (hi : s.ReplyInv) (js : List Nat) (f : Chan → Chan)
    (hf : ∀ k ch, (f ch).replies k ≤ ch.replies k) : (s.mapChan js f).ReplyInv :=
  hi.of_le rfl hi.idle (fun k => sum_range_le fun j _ => by
    simpa using s.replies_mapChan (d := 0) (fun ch => hf k ch) js j) (fun _ _ _ => le_rfl) rfl

lemma Sys.ReplyInv.close (hi : s.ReplyInv) (js : List Nat) : (s.mapChan js .close).ReplyInv :=
  hi.mapChan js _ Chan.replies_close

lemma Sys.ReplyInv.fillError (hi : s.ReplyInv) (js : List Nat) (err : DaemonError) :
    (s.mapChan js (.fill (.error err))).ReplyInv :=
  hi.mapChan js _ fun k ch => by simpa [Chan.replies] using Chan.replies_fill k ch (.error err)

lemma Sys.ReplyInv.withLocks (hi : s.ReplyInv) (b : Option Nat) (l : Option Holder) :
    { s with bridgeLock := b, pendingLock := l }.ReplyInv :=
  ⟨hi.idle, hi.count⟩

lemma Sys.ReplyInv.setPending (hi : s.ReplyInv) (t : PendingTable) : (s.setPending t).ReplyInv :=
  ⟨hi.idle, hi.count⟩

lemma Sys.ReplyInv.setWatcher (hi : s.ReplyInv) (q : Nat) (pc : WatcherPc) :
    (s.setWatcher q pc).ReplyInv :=
  ⟨hi.idle, hi.count⟩

lemma Sys.ReplyInv.withSinks (hi : s.ReplyInv) (sinks : Nat → Sink) : { s with sinks := sinks }.ReplyInv :=
  ⟨hi.idle, hi.count⟩

lemma Sys.ReplyInv.active (hi : s.ReplyInv) (hr : s.readers p ≠ .exited) : p < s.host.procs.length :=
  Nat.lt_of_not_le fun h => hr (hi.idle p h)

/-- Moving a reader on to where it may send fewer replies. -/
lemma Sys.ReplyInv.setReader (hi : s.ReplyInv) (pc : ReaderPc) (hp : p < s.host.procs.length ∨ pc = .exited)
    (hd : ∀ k, pc.due k ≤ (s.readers p).due k) : (s.setReader p pc).ReplyInv := by
  refine hi.of_le rfl (fun q hq => ?_) (fun _ => le_rfl) (fun k q _ => ?_) rfl
  · by_cases hqp : q = p
    · subst hqp
      rcases hp with hp | rfl
      · exact absurd hp (Nat.not_lt.mpr hq)
      · simp
    · simpa [hqp] using hi.idle q hq
  · by_cases hqp : q = p
    · subst hqp
      simpa [Sys.dueAt] using hd k
    · simp [Sys.dueAt, hqp]

/-- The reader of a running process moves on from `pc₀` to where it may send fewer replies. -/
lemma Sys.ReplyInv.advance (hi : s.ReplyInv) {pc₀ : ReaderPc} (hr : s.readers p = pc₀) (hpc : pc₀ ≠ .exited)
    (pc : ReaderPc) (hd : ∀ k, pc.due k ≤ pc₀.due k) : (s.setReader p pc).ReplyInv :=
  hi.setReader pc (.inl (hi.active (hr ▸ hpc))) (hr ▸ hd)

/-- A lifecycle operation keeps every pipe and only adds processes, whose readers are at rest. -/
lemma Sys.ReplyInv.setHost (hi : s.ReplyInv) (h : Host) (hf : s.host.Frame h) :
    ({ s with host := h } : Sys).ReplyInv := by
  have hzero : ∀ k q, s.host.procs.length ≤ q → ({ s with host := h } : Sys).dueAt k q = 0 := fun k q hq => by
    have hout : s.host.output q = [] := by simp [Host.output, List.getElem?_eq_none hq]
    simp [Sys.dueAt, hi.idle q hq, hf.2.1, hout, ReaderPc.due]
  refine ⟨fun q hq => hi.idle q (hf.2.2.trans hq), fun k => ?_⟩
  have hd : ({ s with host := h } : Sys).due k = s.due k := by
    unfold Sys.due
    rw [← sum_subset (range_subset.mpr hf.2.2) fun q _ hq => hzero k q (by simpa using hq)]
    exact sum_congr rfl fun q _ => by simp only [Sys.dueAt, hf.2.1]
  rw [hd]
  exact hi.count k

/-- The process a lifecycle operation launches gets its reader at `lines()`. -/
lemma Sys.ReplyInv.withHost (hi : s.ReplyInv) (h : Host) (hf : s.host.Frame h) :
    (s.withHost h).ReplyInv := by
  unfold Sys.withHost
  split_ifs with hgrow
  · exact (((hi.setHost h hf).setReader .next (.inl hgrow) fun _ => Nat.zero_le _).setWatcher _ _).withSinks _
  · exact hi.setHost h hf

/-! ### One lemma per action -/

lemma Sys.ReplyInv.call (hi : s.ReplyInv) (cmd : DaemonCommand) : (s.call cmd).ReplyInv := by
  refine ⟨hi.idle, fun k => ?_⟩
  have hlt : ∀ j ∈ range s.nCallers, (s.call cmd).replies k j = s.replies k j := fun j hj => by
    simp [Sys.call, Sys.replies, Nat.ne_of_lt (mem_range.mp hj)]
  have hs : (s.call cmd).sent k = s.sent k := by
    rw [Sys.sent, show (s.call cmd).nCallers = s.nCallers + 1 from rfl, sum_range_succ, sum_congr rfl hlt]
    simp [Sys.call, Sys.replies, Chan.replies, Sys.sent]
  rw [hs]
  exact hi.count k

lemma Sys.ReplyInv.lockBridge (hi : s.ReplyInv) (h : s.lockBridge i = some s') : s'.ReplyInv := by
  unfold Sys.lockBridge at h
  split at h
  · next c hc _ =>
    split at h <;> cases h
    all_goals exact (hi.setPc hc _).withLocks _ _
  · cases h

lemma Sys.ReplyInv.lockPending (hi : s.ReplyInv) (h : s.lockPending i = some s') : s'.ReplyInv := by
  unfold Sys.lockPending at h
  split at h
  · next c hc _ =>
    split at h <;> cases h
    all_goals exact (hi.setPc hc _).withLocks _ _
  · cases h

lemma Sys.ReplyInv.insert (hi : s.ReplyInv) (h : s.insert i = some s') : s'.ReplyInv := by
  unfold Sys.insert at h
  split at h
  · next c hc =>
    split at h <;> cases h
    exact (((hi.setPending (s.pending.insert c.cmd.id i)).setPc hc _).close _).withLocks _ _
  · cases h

lemma Sys.ReplyInv.send (hi : s.ReplyInv) {out : PipeOutcome} (h : s.send i out = some s') : s'.ReplyInv := by
  unfold Sys.send at h
  split at h
  · next c hc =>
    split at h <;> cases h
    exact ((hi.setHost _ (Host.frame_sendCommand _ _)).setPc hc _).withLocks _ _
  · cases h

lemma Sys.ReplyInv.recv (hi : s.ReplyInv) (h : s.recv i = some s') : s'.ReplyInv := by
  unfold Sys.recv at h
  split at h
  · next c hc =>
    split at h <;> cases h
    all_goals exact hi.setPc hc _
  · cases h

lemma Sys.ReplyInv.elapse (hi : s.ReplyInv) (h : s.elapse i = some s') : s'.ReplyInv := by
  unfold Sys.elapse at h
  split at h
  · next c hc =>
    split at h <;> cases h
    exact hi.setPc hc _
  · cases h

lemma Sys.ReplyInv.expire (hi : s.ReplyInv) (h : s.expire i = some s') : s'.ReplyInv := by
  unfold Sys.expire at h
  split at h
  · next c hc =>
    split at h <;> cases h
    exact (((hi.setPending (s.pending.erase c.cmd.id)).setPc hc _).close _).withLocks _ _
  · cases h

/-- `lines()` moves a line's reply, if any, from the pipe to the reader. -/
lemma Sys.ReplyInv.readLine (hi : s.ReplyInv) (h : s.readLine p = some s') : s'.ReplyInv := by
  unfold Sys.readLine at h
  split at h
  · next pr hr hpr =>
    have hp : p < s.host.procs.length := (List.getElem?_eq_some_iff.mp hpr).1
    split at h
    · next l ls hl =>
      cases h
      refine hi.of_le (by simp) (fun q hq => ?_) (fun _ => le_rfl) (fun k q _ => ?_) rfl
      · simpa [Nat.ne_of_gt (Nat.lt_of_lt_of_le hp hq)] using hi.idle q hq
      · simp only [Sys.dueAt, Sys.setReader_readers, Sys.setReader_host, Sys.modifyProc_readers,
          s.output_modifyProc_eq _ hpr]
        by_cases hq : q = p
        · subst hq
          have := ReaderPc.due_ofLine k l
          simp [hr, hl, Host.output, hpr, show ReaderPc.next.due k = 0 from rfl]
          omega
        · simp [hq]
    · split_ifs at h
      cases h
      exact hi.setReader .exited (.inr rfl) fun _ => Nat.zero_le _
  · cases h

lemma Sys.ReplyInv.readError (hi : s.ReplyInv) (h : s.readError p = some s') : s'.ReplyInv := by
  unfold Sys.readError at h
  split at h <;> cases h
  exact hi.setReader .exited (.inr rfl) fun _ => Nat.zero_le _

lemma Sys.ReplyInv.tryLock (hi : s.ReplyInv) (h : s.tryLock p = some s') : s'.ReplyInv := by
  unfold Sys.tryLock at h
  split at h
  · next e k hr =>
    split_ifs at h <;> cases h
    · exact (hi.advance hr nofun (.remove e k) fun _ => le_rfl).withLocks _ _
    · exact hi.advance hr nofun (.forward e) fun _ => Nat.zero_le _
  · cases h

lemma Sys.ReplyInv.remove (hi : s.ReplyInv) (h : s.remove p = some s') : s'.ReplyInv := by
  unfold Sys.remove at h
  split at h
  · next e k hr =>
    cases h
    exact ((hi.setPending (s.pending.erase k)).advance hr nofun (.reply e _) fun _ => le_rfl).withLocks _ _
  · cases h

/-- Sending `Ok(e)` to at most one call adds at most one reply with `e`'s id. -/
lemma Sys.sent_fillOk (e : DaemonEvent) (j : Option Nat) (k : String) :
    (s.mapChan j.toList (.fill (.ok e))).sent k ≤ s.sent k + (Chan.full (.ok e)).replies k := by
  have hfill := s.replies_mapChan (fun ch => Chan.replies_fill k ch (.ok e)) j.toList
  cases j with
  | none => exact le_trans (sum_range_le fun q _ => by simpa using hfill q) le_self_add
  | some i =>
    have := sum_range_le_at (n := s.nCallers) (i := i) (a := 0) (f := s.replies k)
      (g := (s.mapChan [i] (.fill (.ok e))).replies k) fun q _ => by simpa [eq_comm] using hfill q
    simp only [ite_self, add_zero] at this
    exact this.trans (by unfold Sys.sent; split_ifs <;> simp)

/-- `sender.send(Ok(event))` moves the reply from the reader into at most one channel. -/
lemma Sys.ReplyInv.reply (hi : s.ReplyInv) (h : s.reply p = some s') : s'.ReplyInv := by
  unfold Sys.reply at h
  split at h
  · next e j hr =>
    cases h
    have hp : p < s.host.procs.length := hi.active (by rw [hr]; nofun)
    set t := s.mapChan j.toList (.fill (.ok e))
    refine ⟨fun q hq => ?_, fun k => ?_⟩
    · simpa [Nat.ne_of_gt (Nat.lt_of_lt_of_le hp hq)] using hi.idle q hq
    have hsent : t.sent k ≤ _ := s.sent_fillOk e j k
    have hdue : (t.setReader p (.forward e)).due k + (Chan.full (.ok e)).replies k ≤ s.due k := by
      have := sum_range_le_at (n := s.host.procs.length) (i := p) (a := (Chan.full (.ok e)).replies k) (b := 0)
        (f := s.dueAt k) (g := (t.setReader p (.forward e)).dueAt k) fun q _ => by
          by_cases hq : q = p
          · subst hq
            simp [Sys.dueAt, hr, ReaderPc.due, Chan.replies, t, add_comm]
          · simp [Sys.dueAt, hq, t]
      simpa [hp] using this
    have := hi.count k
    change t.sent k + (t.setReader p (.forward e)).due k ≤ repliesIn k s.lines
    omega
  · cases h

lemma Sys.ReplyInv.forward (hi : s.ReplyInv) (h : s.forward p = some s') : s'.ReplyInv := by
  unfold Sys.forward at h
  split at h
  · next hr =>
    split_ifs at h <;> cases h
    · exact (hi.advance hr nofun .next fun _ => Nat.zero_le _).withSinks _
    · exact hi.advance hr nofun .exited fun _ => Nat.zero_le _
  · cases h

lemma Sys.ReplyInv.watch (hi : s.ReplyInv) (h : s.watch p = some s') : s'.ReplyInv := by
  unfold Sys.watch at h
  split at h
  · split_ifs at h <;> cases h
    · exact (hi.setWatcher _ _).withLocks _ _
    · exact hi.setWatcher _ _
  · cases h

lemma Sys.ReplyInv.drain (hi : s.ReplyInv) (h : s.drain p = some s') : s'.ReplyInv := by
  unfold Sys.drain at h
  split at h
  · cases h
    exact (((hi.setPending ∅).fillError _ _).setWatcher _ _).withLocks _ _
  · cases h

lemma Sys.due_emit {pr : Proc} (hpr : s.host.procs[p]? = some pr) (k l : String) :
    (s.modifyProc p fun pr => { pr with stdout := pr.stdout ++ [l] }).due k ≤ s.due k + lineReplies k l := by
  have hp : p < s.host.procs.length := (List.getElem?_eq_some_iff.mp hpr).1
  have := sum_range_le_at (n := s.host.procs.length) (i := p) (a := 0) (b := lineReplies k l)
    (f := s.dueAt k) (g := (s.modifyProc p fun pr => { pr with stdout := pr.stdout ++ [l] }).dueAt k)
    fun q _ => by
      simp only [Sys.dueAt, Sys.modifyProc_readers, s.output_modifyProc_eq _ hpr]
      by_cases hq : q = p
      · subst hq
        simp [Host.output, hpr, add_assoc]
      · simp [hq]
  simpa [Sys.due, hp] using this

/-- A daemon's line adds its reply, if any, to its pipe and to the lines written. -/
lemma Sys.ReplyInv.emit (hi : s.ReplyInv) {l : String} (h : s.emit p l = some s') : s'.ReplyInv := by
  unfold Sys.emit at h
  split at h
  · next pr hpr =>
    split_ifs at h
    cases h
    refine ⟨by simpa using hi.idle, fun k => ?_⟩
    have := hi.count k
    have := s.due_emit hpr k l
    show s.sent k + (s.modifyProc p fun pr => { pr with stdout := pr.stdout ++ [l] }).due k ≤
      repliesIn k (s.lines ++ [l])
    simp only [repliesIn_append, repliesIn_cons, repliesIn_nil, add_zero]
    omega
  · cases h

lemma Sys.ReplyInv.exit (hi : s.ReplyInv) (h : s.exit p = some s') : s'.ReplyInv := by
  unfold Sys.exit at h
  split at h
  · next pr hpr =>
    split_ifs at h
    cases h
    refine hi.of_le (by simp) (by simpa using hi.idle) (fun _ => le_rfl) (fun k q _ => ?_) rfl
    simp only [Sys.dueAt, Sys.modifyProc_readers, s.output_modifyProc_eq _ hpr]
    split_ifs with hq
    · subst hq
      simp [Host.output, hpr]
    · exact le_rfl
  · cases h

lemma Sys.ReplyInv.lifecycle (hi : s.ReplyInv) {h : Host} (hf : s.host.Frame h)
    (hs : s.lifecycle h = some s') : s'.ReplyInv := by
  unfold Sys.lifecycle at hs
  split_ifs at hs
  cases hs
  exact hi.withHost h hf

lemma Sys.ReplyInv.step (hi : s.ReplyInv) {a : Action} (h : KamuneBridge.step s a = some s') : s'.ReplyInv := by
  cases a with
  | call cmd => cases h; exact hi.call cmd
  | lockBridge i => exact hi.lockBridge h
  | lockPending i => exact hi.lockPending h
  | insert i => exact hi.insert h
  | send i out => exact hi.send h
  | recv i => exact hi.recv h
  | elapse i => exact hi.elapse h
  | expire i => exact hi.expire h
  | readLine p => exact hi.readLine h
  | readError p => exact hi.readError h
  | tryLock p => exact hi.tryLock h
  | remove p => exact hi.remove h
  | reply p => exact hi.reply h
  | forward p => exact hi.forward h
  | watch p => exact hi.watch h
  | drain p => exact hi.drain h
  | emit p l => exact hi.emit h
  | exit p => exact hi.exit h
  | dropReceiver p => cases h; exact hi.withSinks _
  | startDaemon waitErr fs plat currentExe resourceDir launch =>
    exact hi.lifecycle (Host.frame_startDaemon _ _ _ _ _ _ _) h
  | stopDaemon waitErr shutdownId out => exact hi.lifecycle (Host.frame_stopDaemon _ _ _) h
  | daemonStatus waitErr => exact hi.lifecycle (Host.frame_isRunning _) h
  | spawn launch => exact hi.lifecycle (Host.frame_spawn _ _) h
  | isRunning waitErr => exact hi.lifecycle (Host.frame_isRunning _) h
  | stop shutdownId out => exact hi.lifecycle (Host.frame_stop _ _) h

end

lemma Sys.replyInv_init : Sys.init.ReplyInv :=
  ⟨fun _ _ => rfl, fun _ => by simp [Sys.sent, Sys.due, Sys.init]⟩

lemma Reachable.replyInv {s : Sys} (hs : Reachable s) : s.ReplyInv := by
  induction hs with
  | init => exact Sys.replyInv_init
  | step a _ h ih => exact ih.step h

/-- Over every run of the bridge, the calls whose oneshot channel was sent `Ok` of an event
with id `k`, and the replies with id `k` the readers may still send, are no more than the lines
with id `k` the daemons wrote: no reply line is sent to two calls. -/
theorem replies_within_lines {s : Sys} (hs : Reachable s) (k : String) :
    s.sent k + s.due k ≤ repliesIn k s.lines :=
  hs.replyInv.count k

theorem answered_replies_within_lines :
    answered.sent "a" = 1 ∧ answered.sent "a" + answered.due "a" ≤ repliesIn "a" answered.lines :=
  ⟨by simp [Sys.sent, Sys.replies, sum_range_succ]; rfl,
    replies_within_lines (run_reachable .init (rfl : run Sys.init answeredTrace = some answered)) "a"⟩

end KamuneBridge
