import KamuneBridge.System

/-!
# The invariant of the running bridge

One invariant over every reachable state. It follows each event a call can receive from the
line it was read from, through the reader's `remove` and `send`, into the oneshot channel of
the call it was removed for; the table only ever maps an id to a call registered under it,
and no step needs the ids of the calls to be distinct. It also holds the process handles of
`DaemonBridge` to the processes that are alive. Each action keeps it through a few lemmas,
one per primitive update of the state.
-/

namespace KamuneBridge

/-- An event held as the reply to `k`: decoded from a line some daemon wrote, and carrying
`k`, which is not empty. -/
def Sys.Reply (s : Sys) (e : DaemonEvent) (k : String) : Prop :=
  e.id = some k ∧ k ≠ "" ∧ ∃ l ∈ s.lines, lineEvent l = some e

/-- `Ok(e)` waits in the call's channel, or the call has returned it. -/
def Caller.Holds (c : Caller) (e : DaemonEvent) : Prop :=
  c.chan = .full (.ok e) ∨ c.pc = .done (.ok e)

/-- What the stdout reader knows of the event it holds. -/
def Sys.ReaderOk (s : Sys) : ReaderPc → Prop
  | .tryLock e k | .remove e k => s.Reply e k
  | .reply e (some i) => ∃ c, s.callers i = some c ∧ s.Reply e c.cmd.id
  | _ => True

/-- The invariant: calls are only made at fresh indices, the table maps an id to a call
registered under it, every `Ok` a call holds is a reply to it, the reader holds replies, every
buffered line was written by a daemon, and the process handles are consistent. -/
structure Sys.Inv (s : Sys) : Prop where
  fresh : ∀ i, s.nCallers ≤ i → s.callers i = none
  table : ∀ k i, s.pending.lookup k = some i → ∃ c, s.callers i = some c ∧ c.cmd.id = k
  holds : ∀ i c e, s.callers i = some c → c.Holds e → s.Reply e c.cmd.id
  readers : ∀ p, s.ReaderOk (s.readers p)
  buffered : ∀ p, s.host.output p ⊆ s.lines
  handles : s.host.Inv

section
variable {s : Sys}

lemma Sys.Reply.mono {s' : Sys} (hl : s.lines ⊆ s'.lines) {e : DaemonEvent} {k : String}
    (h : s.Reply e k) : s'.Reply e k :=
  let ⟨h1, h2, l, hm, he⟩ := h
  ⟨h1, h2, l, hl hm, he⟩

lemma Sys.ReaderOk.mono (s' : Sys) (hl : s.lines ⊆ s'.lines)
    (hc : ∀ i c, s.callers i = some c → ∃ c', s'.callers i = some c' ∧ c'.cmd = c.cmd) :
    ∀ {pc : ReaderPc}, s.ReaderOk pc → s'.ReaderOk pc
  | .tryLock _ _, h | .remove _ _, h => Sys.Reply.mono hl h
  | .reply _ (some i), ⟨c, hc0, hr⟩ =>
    let ⟨c', h1, h2⟩ := hc i c hc0
    ⟨c', h1, by rw [h2]; exact hr.mono hl⟩
  | .next, _ | .reply _ none, _ | .forward _, _ | .exited, _ => trivial

lemma Sys.Inv.withLocks (hi : s.Inv) (b : Option Nat) (l : Option Holder) :
    { s with bridgeLock := b, pendingLock := l }.Inv :=
  ⟨hi.fresh, hi.table, hi.holds, hi.readers, hi.buffered, hi.handles⟩

/-- Replacing the calls keeps the invariant when every call keeps its command and no call
gains an `Ok` that is not a reply to it. -/
lemma Sys.Inv.updateCallers (hi : s.Inv) (cs : Nat → Option Caller)
    (keep : ∀ j c, s.callers j = some c → ∃ c', cs j = some c' ∧ c'.cmd = c.cmd)
    (back : ∀ j c', cs j = some c' → ∃ c, s.callers j = some c ∧ c'.cmd = c.cmd ∧
      ∀ e, c'.Holds e → s.Reply e c.cmd.id) :
    { s with callers := cs }.Inv := by
  refine ⟨fun j hj => ?_, fun k j hk => ?_, fun j c' e hc' he => ?_,
    fun p => (hi.readers p).mono { s with callers := cs } (List.Subset.refl s.lines) keep, hi.buffered,
    hi.handles⟩
  · change cs j = none
    cases h : cs j with
    | none => rfl
    | some c' =>
      obtain ⟨c, hc, -⟩ := back j c' h
      simp [hi.fresh j hj] at hc
  · obtain ⟨c, hc, rfl⟩ := hi.table k j hk
    obtain ⟨c', h1, h2⟩ := keep j c hc
    exact ⟨c', h1, by rw [h2]⟩
  · obtain ⟨c, hc, h1, h2⟩ := back j c' hc'
    rw [h1]
    exact h2 e he

lemma Sys.Inv.setCaller (hi : s.Inv) {i : Nat} {c : Caller} (hc : s.callers i = some c)
    (c' : Caller) (hcmd : c'.cmd = c.cmd) (hok : ∀ e, c'.Holds e → s.Reply e c.cmd.id) :
    (s.setCaller i c').Inv := by
  refine hi.updateCallers _ (fun j d hd => ?_) (fun j d hd => ?_)
  · by_cases hj : j = i
    · subst hj
      rw [hc] at hd
      cases hd
      exact ⟨c', by simp, hcmd⟩
    · exact ⟨d, by simp [hj, hd], rfl⟩
  · by_cases hj : j = i
    · subst hj
      simp only [Function.update_same, Option.some.injEq] at hd
      subst hd
      exact ⟨c, hc, hcmd, hok⟩
    · rw [Function.update_noteq hj] at hd
      exact ⟨d, hd, rfl, fun e => hi.holds j d e hd⟩

/-- Moving a call on keeps the invariant unless it returns an `Ok` it was not given. -/
lemma Sys.Inv.setPc (hi : s.Inv) {i : Nat} {c : Caller} (hc : s.callers i = some c)
    (pc : CallerPc) (hpc : ∀ e, pc = .done (.ok e) → s.Reply e c.cmd.id) :
    (s.setCaller i { c with pc := pc }).Inv :=
  hi.setCaller hc _ rfl fun e he => he.elim (fun h => hi.holds i c e hc (.inl h)) (hpc e)

lemma Sys.Inv.mapChan (hi : s.Inv) (js : List Nat) (f : Chan → Chan)
    (hf : ∀ i c e, i ∈ js → s.callers i = some c → f c.chan = .full (.ok e) →
      c.chan = .full (.ok e) ∨ s.Reply e c.cmd.id) :
    (s.mapChan js f).Inv := by
  refine hi.updateCallers _ (fun j c hc => ?_) (fun j c' hc' => ?_)
  · by_cases hj : j ∈ js
    · exact ⟨{ c with chan := f c.chan }, by simp [hj, hc], rfl⟩
    · exact ⟨c, by simp [hj, hc], rfl⟩
  · by_cases hj : j ∈ js
    · simp only [if_pos hj] at hc'
      obtain ⟨c, hc, rfl⟩ := Option.map_eq_some'.mp hc'
      refine ⟨c, hc, rfl, fun e he => he.elim (fun h => ?_) (fun h => hi.holds j c e hc (.inr h))⟩
      exact (hf j c e hj hc h).elim (fun h' => hi.holds j c e hc (.inl h')) id
    · simp only [if_neg hj] at hc'
      exact ⟨c', hc', rfl, fun e => hi.holds j c' e hc'⟩

lemma Chan.close_eq_full {ch : Chan} {r : Except DaemonError DaemonEvent}
    (h : ch.close = .full r) : ch = .full r := by
  cases ch <;> simp_all [Chan.close]

lemma Chan.fill_eq_full {ch : Chan} {r r' : Except DaemonError DaemonEvent}
    (h : ch.fill r' = .full r) : ch = .full r ∨ r = r' := by
  cases ch <;> simp_all [Chan.fill]

/-- Dropping a sender puts nothing in its channel. -/
lemma Sys.Inv.close (hi : s.Inv) (js : List Nat) : (s.mapChan js .close).Inv :=
  hi.mapChan js _ fun _ _ _ _ _ h => .inl (Chan.close_eq_full h)

lemma Sys.Inv.fillError (hi : s.Inv) (js : List Nat) (err : DaemonError) :
    (s.mapChan js (.fill (.error err))).Inv :=
  hi.mapChan js _ fun _ _ _ _ _ h => (Chan.fill_eq_full h).imp_right nofun

lemma Sys.Inv.setPending (hi : s.Inv) (t : PendingTable)
    (ht : ∀ k i, t.lookup k = some i → ∃ c, s.callers i = some c ∧ c.cmd.id = k) :
    (s.setPending t).Inv :=
  ⟨hi.fresh, ht, hi.holds, hi.readers, hi.buffered, hi.handles.1, hi.handles.2⟩

lemma Sys.Inv.erase (hi : s.Inv) (k : String) : (s.setPending (s.pending.erase k)).Inv :=
  hi.setPending _ fun k' i h => hi.table k' i (lookup_erase_eq_some h).1

/-- Registering a call under its own command id. -/
lemma Sys.Inv.register (hi : s.Inv) {i : Nat} {c : Caller} (hc : s.callers i = some c) :
    (s.setPending (s.pending.insert c.cmd.id i)).Inv := by
  refine hi.setPending _ fun k j hk => ?_
  rcases lookup_insert_eq_some hk with ⟨rfl, rfl⟩ | ⟨-, hk⟩
  exacts [⟨c, hc, rfl⟩, hi.table k j hk]

lemma Sys.Inv.setReader (hi : s.Inv) (p : Nat) (pc : ReaderPc) (h : s.ReaderOk pc) :
    (s.setReader p pc).Inv := by
  refine ⟨hi.fresh, hi.table, hi.holds, fun q => ?_, hi.buffered, hi.handles⟩
  have mono := @Sys.ReaderOk.mono s (s.setReader p pc) (List.Subset.refl _) fun i c h => ⟨c, h, rfl⟩
  by_cases hq : q = p
  · subst hq
    simpa [Sys.setReader] using mono h
  · simpa [Sys.setReader, hq] using mono (hi.readers q)

lemma Sys.output_modifyProc (s : Sys) (p : Nat) (f : Proc → Proc) (extra : List String)
    (hf : ∀ pr, (f pr).stdout ⊆ pr.stdout ++ extra) (q : Nat) :
    (s.modifyProc p f).host.output q ⊆ s.host.output q ++ extra := by
  simp only [Sys.modifyProc, Host.output, List.getElem?_map, List.getElem?_modify]
  cases s.host.procs[q]? <;> split_ifs <;> simp [hf]

lemma Host.isLive_modify (h : Host) (p : Nat) (f : Proc → Proc)
    (hf : ∀ pr, h.procs[p]? = some pr → ((f pr).status = .reaped ↔ pr.status = .reaped)) (q : Nat) :
    ({ h with procs := h.procs.modify f p } : Host).isLive q = h.isLive q := by
  simp only [Host.isLive, Host.status, List.getElem?_map, List.getElem?_modify]
  cases hq : h.procs[q]? with
  | none => rfl
  | some pr =>
    by_cases hpq : p = q
    · subst hpq
      have := hf pr hq
      simp only [Option.map_some', if_true]
      cases ha : (f pr).status <;> cases hb : pr.status <;> simp_all
    · simp [hpq]

lemma Sys.Inv.modifyProc (hi : s.Inv) (p : Nat) (f : Proc → Proc) (extra : List String)
    (hf : ∀ pr, (f pr).stdout ⊆ pr.stdout ++ extra) (hx : extra ⊆ s.lines)
    (hl : ∀ pr, s.host.procs[p]? = some pr → ((f pr).status = .reaped ↔ pr.status = .reaped)) :
    (s.modifyProc p f).Inv :=
  ⟨hi.fresh, hi.table, hi.holds, hi.readers, fun q =>
    (s.output_modifyProc p f extra hf q).trans (List.append_subset.mpr ⟨hi.buffered q, hx⟩),
    hi.handles.1, fun q => by
      have := hi.handles.2 q
      rwa [← s.host.isLive_modify p f hl q] at this⟩

lemma Sys.Inv.appendLine (hi : s.Inv) (l : String) : { s with lines := s.lines ++ [l] }.Inv :=
  have hl : s.lines ⊆ s.lines ++ [l] := List.subset_append_left _ _
  ⟨hi.fresh, hi.table, fun j c e hc he => (hi.holds j c e hc he).mono hl,
    fun q => (hi.readers q).mono { s with lines := s.lines ++ [l] } hl fun _ c hc => ⟨c, hc, rfl⟩,
    fun q => (hi.buffered q).trans hl, hi.handles⟩

lemma Sys.Inv.setHost (hi : s.Inv) (h : Host) (hf : s.host.Frame h) (hh : h.Inv) :
    { s with host := h }.Inv := by
  refine ⟨hi.fresh, fun k i hk => hi.table k i ?_, hi.holds, hi.readers,
    fun p => hf.2.1 ▸ hi.buffered p, hh⟩
  change h.bridge.pendingResponses.lookup k = some i at hk
  rwa [hf.1] at hk

lemma Sys.Inv.withHost (hi : s.Inv) (h : Host) (hf : s.host.Frame h) (hh : h.Inv) :
    (s.withHost h).Inv := by
  have hi' := hi.setHost h hf hh
  unfold Sys.withHost
  split_ifs
  · refine ⟨hi'.fresh, hi'.table, hi'.holds, fun q => ?_, hi'.buffered, hh⟩
    by_cases hq : q = s.host.procs.length
    · subst hq
      simp [Sys.ReaderOk]
    · simpa [hq] using hi.readers q
  · exact hi'

lemma Sys.Inv.setWatcher (hi : s.Inv) (p : Nat) (pc : WatcherPc) : (s.setWatcher p pc).Inv :=
  ⟨hi.fresh, hi.table, hi.holds, hi.readers, hi.buffered, hi.handles⟩

lemma Sys.Inv.withSinks (hi : s.Inv) (sinks : Nat → Sink) : { s with sinks := sinks }.Inv :=
  ⟨hi.fresh, hi.table, hi.holds, hi.readers, hi.buffered, hi.handles⟩

lemma Sys.Inv.reader (hi : s.Inv) {p : Nat} {pc : ReaderPc} (hr : s.readers p = pc) : s.ReaderOk pc :=
  hr ▸ hi.readers p

/-! ### One lemma per action -/

variable {s' : Sys} {i p : Nat}

lemma Sys.Inv.call (hi : s.Inv) (cmd : DaemonCommand) : (s.call cmd).Inv := by
  have keep : ∀ j d, s.callers j = some d → (s.call cmd).callers j = some d := fun j d hd => by
    have : j ≠ s.nCallers := fun h => by simp [h, hi.fresh] at hd
    simp [Sys.call, this, hd]
  refine ⟨fun j hj => ?_, fun k j hk => ?_, fun j d e hd he => ?_,
    fun p => (hi.readers p).mono (s.call cmd) (List.Subset.refl s.lines) fun j d hd =>
      ⟨d, keep j d hd, rfl⟩, hi.buffered, hi.handles⟩
  · change s.nCallers + 1 ≤ j at hj
    simp [Sys.call, show j ≠ s.nCallers by omega, hi.fresh j (by omega)]
  · obtain ⟨d, hd, rfl⟩ := hi.table k j hk
    exact ⟨d, keep j d hd, rfl⟩
  · by_cases hj : j = s.nCallers
    · subst hj
      simp only [Sys.call, Function.update_same, Option.some.injEq] at hd
      subst hd
      simp [Caller.Holds] at he
    · simp only [Sys.call, Function.update_noteq hj] at hd
      exact hi.holds j d e hd he

lemma Sys.Inv.lockBridge (hi : s.Inv) (h : s.lockBridge i = some s') : s'.Inv := by
  unfold Sys.lockBridge at h
  split at h
  · next c hc _ =>
    split at h <;> cases h
    all_goals
      refine (hi.setPc hc _ ?_).withLocks _ _
      exact nofun
  · cases h

lemma Sys.Inv.lockPending (hi : s.Inv) (h : s.lockPending i = some s') : s'.Inv := by
  unfold Sys.lockPending at h
  split at h
  · next c hc _ =>
    split at h <;> cases h
    all_goals
      refine (hi.setPc hc _ ?_).withLocks _ _
      exact nofun
  · cases h

lemma Sys.Inv.insert (hi : s.Inv) (h : s.insert i = some s') : s'.Inv := by
  unfold Sys.insert at h
  split at h
  · next c hc =>
    split at h <;> cases h
    refine (((hi.register hc).setPc hc _ ?_).close _).withLocks _ _
    exact nofun
  · cases h

lemma Sys.Inv.send (hi : s.Inv) {out : PipeOutcome} (h : s.send i out = some s') : s'.Inv := by
  unfold Sys.send at h
  split at h
  · next c hc =>
    split at h <;> cases h
    refine ((hi.setHost _ (Host.frame_sendCommand _ _) (hi.handles.sendCommand _ _)).setPc hc _
      fun e he => ?_).withLocks _ _
    split at he <;> cases he
  · cases h

lemma Sys.Inv.recv (hi : s.Inv) (h : s.recv i = some s') : s'.Inv := by
  unfold Sys.recv at h
  split at h
  · next c hc =>
    split at h <;> cases h
    · next r _ hr =>
      exact hi.setPc hc _ fun e he => hi.holds i c e hc (.inl (by cases he; exact hr))
    · refine hi.setPc hc _ ?_
      exact nofun
  · cases h

lemma Sys.Inv.elapse (hi : s.Inv) (h : s.elapse i = some s') : s'.Inv := by
  unfold Sys.elapse at h
  split at h
  · next c hc =>
    split at h <;> cases h
    exact hi.setPc hc .expired nofun
  · cases h

lemma Sys.Inv.expire (hi : s.Inv) (h : s.expire i = some s') : s'.Inv := by
  unfold Sys.expire at h
  split at h
  · next c hc =>
    split at h <;> cases h
    refine (((hi.erase c.cmd.id).setPc hc _ ?_).close _).withLocks _ _
    exact nofun
  · cases h

lemma Sys.Inv.readLine (hi : s.Inv) (h : s.readLine p = some s') : s'.Inv := by
  unfold Sys.readLine at h
  split at h
  · next pr _ hpr =>
    split at h
    · next l ls hl =>
      cases h
      have hm : l ∈ s.lines := hi.buffered p (by simp [Host.output, hpr, hl])
      refine (hi.modifyProc p (fun pr => { pr with stdout := pr.stdout.tail }) []
        (fun _ _ h => List.mem_append_left _ (List.mem_of_mem_tail h))
        (List.nil_subset _) fun _ _ => Iff.rfl).setReader p _ ?_
      unfold ReaderPc.ofLine
      cases he : lineEvent l with
      | none => trivial
      | some e =>
        dsimp only
        cases hk : replyId e with
        | none => trivial
        | some k => exact ⟨(replyId_eq_some.mp hk).1, (replyId_eq_some.mp hk).2, l, hm, he⟩
    · split_ifs at h
      cases h
      exact hi.setReader p .exited trivial
  · cases h

lemma Sys.Inv.readError (hi : s.Inv) (h : s.readError p = some s') : s'.Inv := by
  unfold Sys.readError at h
  split at h <;> cases h
  exact hi.setReader p .exited trivial

lemma Sys.Inv.tryLock (hi : s.Inv) (h : s.tryLock p = some s') : s'.Inv := by
  unfold Sys.tryLock at h
  split at h
  · next e k hr =>
    have hk := hi.reader hr
    split_ifs at h <;> cases h
    · refine (hi.setReader p (.remove e k) ?_).withLocks _ _
      exact hk
    · exact hi.setReader p (.forward e) trivial
  · cases h

lemma Sys.Inv.remove (hi : s.Inv) (h : s.remove p = some s') : s'.Inv := by
  unfold Sys.remove at h
  split at h
  · next e k hr =>
    cases h
    refine ((hi.erase k).setReader p _ ?_).withLocks _ _
    cases hl : s.pending.lookup k with
    | none => trivial
    | some j =>
      obtain ⟨c, hc, rfl⟩ := hi.table k j hl
      exact ⟨c, hc, hi.reader hr⟩
  · cases h

lemma Sys.Inv.reply (hi : s.Inv) (h : s.reply p = some s') : s'.Inv := by
  unfold Sys.reply at h
  split at h
  · next e j hr =>
    cases h
    refine (hi.mapChan _ _ fun i c e' hj hc hf => ?_).setReader p (.forward e) trivial
    refine (Chan.fill_eq_full hf).imp_right fun he => ?_
    cases he
    cases j with
    | none => cases hj
    | some j =>
      obtain ⟨c0, hc0, hr0⟩ := hi.reader hr
      obtain rfl : i = j := by simpa using hj
      rw [hc] at hc0
      cases hc0
      exact hr0
  · cases h

lemma Sys.Inv.forward (hi : s.Inv) (h : s.forward p = some s') : s'.Inv := by
  unfold Sys.forward at h
  split at h
  · split_ifs at h <;> cases h
    · exact (hi.setReader p .next trivial).withSinks _
    · exact hi.setReader p .exited trivial
  · cases h

lemma Sys.Inv.watch (hi : s.Inv) (h : s.watch p = some s') : s'.Inv := by
  unfold Sys.watch at h
  split at h
  · split_ifs at h <;> cases h
    · exact (hi.setWatcher p _).withLocks _ _
    · exact hi.setWatcher p _
  · cases h

lemma Sys.Inv.drain (hi : s.Inv) (h : s.drain p = some s') : s'.Inv := by
  unfold Sys.drain at h
  split at h
  · cases h
    exact ((((hi.setPending ∅ (by simp [AList.lookup_empty])).fillError _ _).setWatcher p _).withLocks _ _)
  · cases h

lemma Sys.Inv.emit (hi : s.Inv) {l : String} (h : s.emit p l = some s') : s'.Inv := by
  unfold Sys.emit at h
  split at h
  · split_ifs at h
    cases h
    exact (hi.appendLine l).modifyProc p _ [l] (fun _ => List.Subset.refl _) (by simp) fun _ _ => Iff.rfl
  · cases h

lemma Sys.Inv.exit (hi : s.Inv) (h : s.exit p = some s') : s'.Inv := by
  unfold Sys.exit at h
  split at h
  · next pr hpr =>
    split_ifs at h with hrun
    cases h
    refine hi.modifyProc p _ [] (fun _ => List.subset_append_left _ _) (List.nil_subset _) fun pr' hpr' => ?_
    rw [hpr] at hpr'
    cases hpr'
    simp [hrun]
  · cases h

lemma Sys.Inv.lifecycle (hi : s.Inv) {h : Host} (hf : s.host.Frame h) (hh : h.Inv)
    (hs : s.lifecycle h = some s') : s'.Inv := by
  unfold Sys.lifecycle at hs
  split_ifs at hs
  cases hs
  exact hi.withHost h hf hh

lemma Sys.Inv.step (hi : s.Inv) {a : Action} (h : step s a = some s') : s'.Inv := by
  cases a with
  | call cmd => cases h; exact hi.call cmd
  | lockBridge i => exact hi.lockBridge h
  | lockPending i => exact hi.lockPending h
  | insert i => exact hi.insert h
  | send i out => exact hi.send h
  | recv i => exact hi.recv h
  | elapse i => exact hi.elapse h
  | expire i => exact hi.expire h
  | readLine p => exact hi.readLine h
  | readError p => exact hi.readError h
  | tryLock p => exact hi.tryLock h
  | remove p => exact hi.remove h
  | reply p => exact hi.reply h
  | forward p => exact hi.forward h
  | watch p => exact hi.watch h
  | drain p => exact hi.drain h
  | emit p l => exact hi.emit h
  | exit p => exact hi.exit h
  | dropReceiver p => cases h; exact hi.withSinks _
  | startDaemon waitErr fs plat currentExe resourceDir launch =>
    exact hi.lifecycle (Host.frame_startDaemon _ _ _ _ _ _ _) (hi.handles.startDaemon _ _ _ _ _ _ _) h
  | stopDaemon waitErr shutdownId out =>
    exact hi.lifecycle (Host.frame_stopDaemon _ _ _) (hi.handles.stopDaemon _ _ _) h
  | daemonStatus waitErr => exact hi.lifecycle (Host.frame_isRunning _) (hi.handles.isRunning _) h
  | spawn launch => exact hi.lifecycle (Host.frame_spawn _ _) (hi.handles.spawn _ _) h
  | isRunning waitErr => exact hi.lifecycle (Host.frame_isRunning _) (hi.handles.isRunning _) h
  | stop shutdownId out => exact hi.lifecycle (Host.frame_stop _ _) (hi.handles.stop _ _) h

end

lemma Sys.inv_init : Sys.init.Inv :=
  ⟨fun _ _ => rfl, fun _ _ h => by simp [Sys.init, Sys.pending, DaemonBridge.new, AList.lookup_empty] at h,
    fun _ _ _ h => (by cases h), fun _ => trivial, fun _ => by simp [Host.output, Sys.init], Host.inv_new⟩

lemma Reachable.inv {s : Sys} (hs : Reachable s) : s.Inv := by
  induction hs with
  | init => exact Sys.inv_init
  | step a _ h ih => exact ih.step h

/-- Whatever `send_command_async` returns as `Ok(e)`, in any run of the bridge, was decoded
from a line a daemon wrote and carries the call's own command id, which is not empty: an
event with no id, an empty id, or an id that no call, or another call, registered never
reaches a call. -/
theorem sendCommandAsync_ok_own_reply {s : Sys} (hs : Reachable s) {i : Nat} {c : Caller}
    {e : DaemonEvent} (hc : s.callers i = some c) (hdone : c.pc = .done (.ok e)) :
    (∃ l ∈ s.lines, lineEvent l = some e) ∧ e.id = some c.cmd.id ∧ c.cmd.id ≠ "" :=
  let ⟨h1, h2, h3⟩ := hs.inv.holds i c e hc (.inr hdone)
  ⟨h3, h1, h2⟩

/-- A working directory holding the daemon binary. -/
def devFs : FileSystem := ⟨fun p => if p = Path.rel ["daemon"] then some .file else none⟩

/-- `start_daemon` on Linux in that directory, the launch succeeding. -/
def devStart : Action := .startDaemon false devFs ⟨.linux, .x86_64⟩ none none none

def cmdA : DaemonCommand := DaemonCommand.new "dial" "a" (.object [])

def cmdB : DaemonCommand := DaemonCommand.new "list_sessions" "b" (.object [])

/-- The daemon's reply to `cmdA`. -/
def replyA : String := "\x7b\"type\":\"evt\",\"evt\":\"dialed\",\"id\":\"a\",\"data\":null\x7d"

def eventA : DaemonEvent := ⟨"evt", "dialed", some "a", .null⟩

/-- A call answered: registered, sent, its reply read, removed, and sent to it. -/
def answeredTrace : List Action :=
  [devStart, .call cmdA, .lockBridge 0, .lockPending 0, .insert 0, .send 0 .ok, .emit 0 replyA,
    .readLine 0, .tryLock 0, .remove 0, .reply 0, .forward 0, .recv 0]

def answered : Sys := (run Sys.init answeredTrace).getD Sys.init

theorem answered_ok_own_reply :
    (∃ l ∈ answered.lines, lineEvent l = some eventA) ∧ eventA.id = some cmdA.id ∧ cmdA.id ≠ "" :=
  sendCommandAsync_ok_own_reply (run_reachable .init (rfl : run Sys.init answeredTrace = some answered))
    (rfl : answered.callers 0 = some ⟨cmdA, .done (.ok eventA), .full (.ok eventA)⟩) rfl

/-- The reader's `try_write` fails while a second call holds the table's write guard to
register: the reply to the first call, read in time, only reaches the event channel, and
the call returns `Timeout`. -/
def raceTrace : List Action :=
  [devStart, .watch 0, .drain 0, .call cmdA, .lockBridge 0, .lockPending 0, .insert 0, .send 0 .ok,
    .call cmdB, .lockBridge 1, .lockPending 1, .emit 0 replyA, .readLine 0, .tryLock 0, .forward 0,
    .insert 1, .send 1 .ok, .elapse 0, .lockBridge 0, .lockPending 0, .expire 0]

/-- The shutdown monitor runs once the call has registered: it drains the table, and the call
returns `NotRunning` although its reply is read afterwards. -/
def lateMonitorTrace : List Action :=
  [devStart, .call cmdA, .lockBridge 0, .lockPending 0, .insert 0, .send 0 .ok, .watch 0, .drain 0,
    .emit 0 replyA, .readLine 0, .tryLock 0, .remove 0, .reply 0, .forward 0, .recv 0]

/-- Two runs in which a call's reply is read before its deadline, with no `stop`, and the call
does not return it. -/
theorem reply_read_in_time_lost :
    (run Sys.init raceTrace).map (fun s => ((s.callers 0).map (·.pc), (s.sinks 0).events)) =
      some (some (.done (.error .timeout)), [eventA]) ∧
    (run Sys.init lateMonitorTrace).map (fun s => ((s.callers 0).map (·.pc), (s.sinks 0).events)) =
      some (some (.done (.error .notRunning)), [eventA]) :=
  ⟨rfl, rfl⟩

/-- Over every run of the bridge, `stdin` is set exactly when `child` is, a launched process
is alive or unreaped exactly when it is `child`, and `send_command` writes to the stdin of no
other process; `spawn` launches nothing while `child` is set and changes nothing when it
fails, and when `start_daemon` launches, no process launched before is alive or unreaped. -/
theorem process_handles {s : Sys} (hs : Reachable s) :
    (s.host.bridge.stdin.isSome ↔ s.host.bridge.child.isSome) ∧
    (∀ p, s.host.isLive p = true ↔ s.host.bridge.child = some p) ∧
    (∀ c out p, s.host.bridge.child ≠ some p → (s.host.sendCommand c out).2.input p = s.host.input p) ∧
    (∀ eventTx launch, s.host.bridge.child.isSome →
      s.host.spawn eventTx launch = (.error .alreadyRunning, s.host)) ∧
    (∀ eventTx launch e, (s.host.spawn eventTx launch).1 = .error e →
      (s.host.spawn eventTx launch).2 = s.host) ∧
    (∀ waitErr fs plat currentExe resourceDir eventTx launch,
      (s.host.startDaemon waitErr fs plat currentExe resourceDir eventTx launch).2.procs.length ≠
        s.host.procs.length → ∀ p, (s.host.isRunning waitErr).2.isLive p = false) := by
  have hi := hs.inv.handles
  refine ⟨by rw [hi.stdin_eq_child], hi.live_iff, fun c out p hp => Host.input_sendCommand
    (hi.stdin_eq_child ▸ hp) c out, fun eventTx launch hc => Host.spawn_of_child hc eventTx launch,
    fun _ _ _ => Host.spawn_error,
    fun waitErr fs plat currentExe resourceDir eventTx launch hl p => ?_⟩
  have hg := hi.isRunning waitErr
  have hc : (s.host.isRunning waitErr).2.bridge.child = none := by
    rcases s.host.startDaemon_cases waitErr fs plat currentExe resourceDir eventTx launch with e | e <;>
      rw [e] at hl
    · exact absurd (Host.length_isRunning waitErr) hl
    · exact Host.child_of_launch (hl ∘ (·.trans (Host.length_isRunning waitErr)))
  simpa [hc] using hg.live_iff p

theorem answered_process_handles :
    Reachable answered ∧
    (answered.host.bridge.stdin.isSome ↔ answered.host.bridge.child.isSome) ∧
    (∀ p, answered.host.isLive p = true ↔ answered.host.bridge.child = some p) ∧
    (∀ c out p, answered.host.bridge.child ≠ some p →
      (answered.host.sendCommand c out).2.input p = answered.host.input p) ∧
    (∀ eventTx launch, answered.host.bridge.child.isSome →
      answered.host.spawn eventTx launch = (.error .alreadyRunning, answered.host)) ∧
    (∀ eventTx launch e, (answered.host.spawn eventTx launch).1 = .error e →
      (answered.host.spawn eventTx launch).2 = answered.host) ∧
    (∀ waitErr fs plat currentExe resourceDir eventTx launch,
      (answered.host.startDaemon waitErr fs plat currentExe resourceDir eventTx launch).2.procs.length ≠
        answered.host.procs.length → ∀ p, (answered.host.isRunning waitErr).2.isLive p = false) :=
  have hs : Reachable answered := run_reachable .init (rfl : run Sys.init answeredTrace = some answered)
  ⟨hs, process_handles hs⟩

end KamuneBridge
