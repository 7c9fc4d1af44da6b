import KamuneBridge.Invariant

/-!
# The pending table

What `pending_responses` holds in every reachable state: an id maps to a call registered under
it, whose channel is still empty, and which has not returned, except through the `?` after
`send_command`, which returns and leaves its entry behind. A call outstanding when
`stop_daemon` returns keeps its entry and later times out.
-/

namespace KamuneBridge

/-- How far a call is, as the table sees it: 0 before `pending.insert`; 1 from there on, and
after returning through the `?` after `send_command`; 2 once it returned from the final
`match`. -/
def CallerPc.stage : CallerPc → Nat
  | .lockBridge | .lockPending | .insert => 0
  | .done _ => 2
  | _ => 1

lemma CallerPc.stage_le (pc : CallerPc) : pc.stage ≤ 2 := by
  cases pc <;> simp [CallerPc.stage]

/-- The table's invariant: an entry names a registered call under its own id, with an empty
channel; a call not yet registered has an empty channel; the call the reader is about to send
to is registered and has no entry left. -/
structure Sys.TableInv (s : Sys) : Prop where
  entry : ∀ k i, s.pending.lookup k = some i →
    ∃ c, s.callers i = some c ∧ c.cmd.id = k ∧ c.chan = .empty ∧ c.pc.stage = 1
  unregistered : ∀ i c, s.callers i = some c → c.pc.stage = 0 → c.chan = .empty
  replying : ∀ p e i, s.readers p = .reply e (some i) →
    (∃ c, s.callers i = some c ∧ 0 < c.pc.stage) ∧ ∀ k, s.pending.lookup k ≠ some i

section
variable {s s' : Sys} {i p : Nat}

/-- An entry's call is registered under no other id. -/
lemma Sys.TableInv.lookup_eq (ht : s.TableInv) {k k' : String} (hk : s.pending.lookup k = some i)
    (hk' : s.pending.lookup k' = some i) : k' = k := by
  obtain ⟨c, hc, rfl, -⟩ := ht.entry k i hk
  obtain ⟨c', hc', rfl, -⟩ := ht.entry k' i hk'
  rw [hc] at hc'
  cases hc'
  rfl

lemma Sys.TableInv.congr (ht : s.TableInv) (hc : s'.callers = s.callers) (hp : s'.pending = s.pending)
    (hr : ∀ p e i, s'.readers p = .reply e (some i) → s.readers p = .reply e (some i)) :
    s'.TableInv := by
  refine ⟨fun k i h => ?_, fun i c h => ?_, fun p e i h => ?_⟩
  · rw [hp] at h
    rw [hc]
    exact ht.entry k i h
  · rw [hc] at h
    exact ht.unregistered i c h
  · rw [hc, hp]
    exact ht.replying p e i (hr p e i h)

lemma Sys.TableInv.setPc (ht : s.TableInv) {c : Caller} (hc : s.callers i = some c) (pc : CallerPc)
    (hmono : c.pc.stage ≤ pc.stage) (hdone : pc.stage = 2 → ∀ k, s.pending.lookup k ≠ some i) :
    (s.setCaller i { c with pc := pc }).TableInv := by
  refine ⟨fun k j hk => ?_, fun j d hd h0 => ?_, fun q e j hq => ?_⟩
  · obtain ⟨d, hd, hid, hch, h1⟩ := ht.entry k j hk
    by_cases hj : j = i
    · subst hj
      rw [hc] at hd
      cases hd
      have := pc.stage_le
      have : pc.stage ≠ 2 := fun h2 => hdone h2 k hk
      exact ⟨{ c with pc := pc }, by simp [Sys.setCaller], hid, hch, show pc.stage = 1 by omega⟩
    · exact ⟨d, by simp [Sys.setCaller, hj, hd], hid, hch, h1⟩
  · by_cases hj : j = i
    · subst hj
      simp only [Sys.setCaller, Function.update_same, Option.some.injEq] at hd
      subst hd
      exact ht.unregistered j c hc (by simp at h0; omega)
    · simp only [Sys.setCaller, Function.update_noteq hj] at hd
      exact ht.unregistered j d hd h0
  · obtain ⟨⟨d, hd, h0⟩, hk⟩ := ht.replying q e j hq
    refine ⟨?_, hk⟩
    by_cases hj : j = i
    · subst hj
      rw [hc] at hd
      cases hd
      exact ⟨{ c with pc := pc }, by simp [Sys.setCaller], by simp only; omega⟩
    · exact ⟨d, by simp [Sys.setCaller, hj, hd], h0⟩

/-- Sending to, or dropping, senders that have no entry and whose calls are registered. -/
lemma Sys.TableInv.mapChan (ht : s.TableInv) (js : List Nat) (f : Chan → Chan)
    (hjs : ∀ j ∈ js, (∀ k, s.pending.lookup k ≠ some j) ∧ ∀ c, s.callers j = some c → 0 < c.pc.stage) :
    (s.mapChan js f).TableInv := by
  refine ⟨fun k j hk => ?_, fun j c' hc' h0 => ?_, fun q e j hq => ?_⟩
  · have hj : j ∉ js := fun hj => (hjs j hj).1 k hk
    simpa [Sys.mapChan, hj] using ht.entry k j hk
  · by_cases hj : j ∈ js
    · simp only [Sys.mapChan, if_pos hj] at hc'
      obtain ⟨c, hc, rfl⟩ := Option.map_eq_some'.mp hc'
      exact absurd h0 (Nat.pos_iff_ne_zero.mp ((hjs j hj).2 c hc))
    · simp only [Sys.mapChan, if_neg hj] at hc'
      exact ht.unregistered j c' hc' h0
  · obtain ⟨⟨c, hc, h0⟩, hk⟩ := ht.replying q e j hq
    refine ⟨?_, hk⟩
    by_cases hj : j ∈ js
    · exact ⟨{ c with chan := f c.chan }, by simp [Sys.mapChan, hj, hc], h0⟩
    · exact ⟨c, by simp [Sys.mapChan, hj, hc], h0⟩

lemma Sys.TableInv.erase (ht : s.TableInv) (k : String) : (s.setPending (s.pending.erase k)).TableInv :=
  ⟨fun k' j h => ht.entry k' j (lookup_erase_eq_some h).1, ht.unregistered, fun q e j hq =>
    ⟨(ht.replying q e j hq).1, fun k' h => (ht.replying q e j hq).2 k' (lookup_erase_eq_some h).1⟩⟩

/-- Emptying the table, as `drain` does. -/
lemma Sys.TableInv.clear (ht : s.TableInv) : (s.setPending ∅).TableInv :=
  ⟨fun _ _ h => by simp [Sys.setPending, Sys.pending, AList.lookup_empty] at h, ht.unregistered,
    fun q e j hq => ⟨(ht.replying q e j hq).1, fun _ h => by
      simp [Sys.setPending, Sys.pending, AList.lookup_empty] at h⟩⟩

lemma Sys.TableInv.setReader (ht : s.TableInv) (p : Nat) (pc : ReaderPc)
    (h : ∀ e i, pc = .reply e (some i) →
      (∃ c, s.callers i = some c ∧ 0 < c.pc.stage) ∧ ∀ k, s.pending.lookup k ≠ some i) :
    (s.setReader p pc).TableInv := by
  refine ⟨ht.entry, ht.unregistered, fun q e j hq => ?_⟩
  by_cases hqp : q = p
  · subst hqp
    exact h e j (by simpa [Sys.setReader] using hq)
  · exact ht.replying q e j (by simpa [Sys.setReader, hqp] using hq)

/-- `pending.insert` together with the call moving on: the id's old sender, if any, loses its
entry, and the call holds it now. -/
lemma Sys.TableInv.register (ht : s.TableInv) {c : Caller} (hc : s.callers i = some c)
    (h0 : c.pc.stage = 0) (pc : CallerPc) (h1 : pc.stage = 1) :
    ((s.setPending (s.pending.insert c.cmd.id i)).setCaller i { c with pc := pc }).TableInv := by
  have notIn : ∀ k, s.pending.lookup k ≠ some i := fun k hk => by
    obtain ⟨d, hd, -, -, hd1⟩ := ht.entry k i hk
    rw [hc] at hd
    cases hd
    omega
  refine ⟨fun k j hk => ?_, fun j d hd hd0 => ?_, fun q e j hq => ?_⟩
  · rcases lookup_insert_eq_some (P := s.pending) hk with ⟨rfl, rfl⟩ | ⟨-, hk⟩
    · exact ⟨{ c with pc := pc }, by simp [Sys.setCaller], rfl, ht.unregistered i c hc h0, h1⟩
    · have hj : j ≠ i := fun e => notIn k (e ▸ hk)
      simpa [Sys.setCaller, Sys.setPending, hj] using ht.entry k j hk
  · by_cases hj : j = i
    · subst hj
      simp only [Sys.setCaller, Function.update_same, Option.some.injEq] at hd
      subst hd
      simp only at hd0
      omega
    · simp only [Sys.setCaller, Function.update_noteq hj] at hd
      exact ht.unregistered j d hd hd0
  · obtain ⟨⟨d, hd, hd0⟩, hk⟩ := ht.replying q e j hq
    have hj : j ≠ i := fun e => by
      subst e
      rw [hc] at hd
      cases hd
      omega
    refine ⟨⟨d, by simp [Sys.setCaller, Sys.setPending, hj, hd], hd0⟩, fun k hk' => ?_⟩
    rcases lookup_insert_eq_some (P := s.pending) hk' with ⟨-, rfl⟩ | ⟨-, hk'⟩
    exacts [hj rfl, hk k hk']

lemma Sys.TableInv.withLocks (ht : s.TableInv) (b : Option Nat) (l : Option Holder) :
    { s with bridgeLock := b, pendingLock := l }.TableInv :=
  ⟨ht.entry, ht.unregistered, ht.replying⟩

lemma Sys.TableInv.setWatcher (ht : s.TableInv) (p : Nat) (pc : WatcherPc) : (s.setWatcher p pc).TableInv :=
  ⟨ht.entry, ht.unregistered, ht.replying⟩

lemma Sys.TableInv.setHost (ht : s.TableInv) (h : Host) (hf : s.host.Frame h) :
    { s with host := h }.TableInv :=
  ht.congr rfl hf.1 fun _ _ _ => id

/-! ### One lemma per action -/

lemma Sys.TableInv.call (ht : s.TableInv) (hi : s.Inv) (cmd : DaemonCommand) : (s.call cmd).TableInv := by
  have hn : ∀ j c, s.callers j = some c → j ≠ s.nCallers := fun j c hc e => by
    rw [e, hi.fresh _ le_rfl] at hc
    cases hc
  refine ⟨fun k j hk => ?_, fun j c hc h0 => ?_, fun q e j hq => ?_⟩
  · obtain ⟨c, hc, h⟩ := ht.entry k j hk
    exact ⟨c, by simp [Sys.call, hn j c hc, hc], h⟩
  · by_cases hj : j = s.nCallers
    · subst hj
      simp only [Sys.call, Function.update_same, Option.some.injEq] at hc
      subst hc
      rfl
    · simp only [Sys.call, Function.update_noteq hj] at hc
      exact ht.unregistered j c hc h0
  · obtain ⟨⟨c, hc, h0⟩, hk⟩ := ht.replying q e j hq
    exact ⟨⟨c, by simp [Sys.call, hn j c hc, hc], h0⟩, hk⟩

lemma Sys.TableInv.lockBridge (ht : s.TableInv) (h : s.lockBridge i = some s') : s'.TableInv := by
  unfold Sys.lockBridge at h
  split at h
  · next c hc _ =>
    split at h
    · next hpc =>
      cases h
      exact (ht.setPc hc _ (by simp [hpc, CallerPc.stage]) (by simp [CallerPc.stage])).withLocks _ _
    · next hpc =>
      cases h
      exact (ht.setPc hc _ (by simp [hpc, CallerPc.stage]) (by simp [CallerPc.stage])).withLocks _ _
    · cases h
  · cases h

lemma Sys.TableInv.lockPending (ht : s.TableInv) (h : s.lockPending i = some s') : s'.TableInv := by
  unfold Sys.lockPending at h
  split at h
  · next c hc _ =>
    split at h
    · next hpc =>
      cases h
      exact (ht.setPc hc _ (by simp [hpc, CallerPc.stage]) (by simp [CallerPc.stage])).withLocks _ _
    · next hpc =>
      cases h
      exact (ht.setPc hc _ (by simp [hpc, CallerPc.stage]) (by simp [CallerPc.stage])).withLocks _ _
    · cases h
  · cases h

lemma Sys.TableInv.insert (ht : s.TableInv) (h : s.insert i = some s') : s'.TableInv := by
  unfold Sys.insert at h
  split at h
  · next c hc =>
    split at h
    · next hpc =>
      cases h
      refine ((ht.register hc (by simp [hpc, CallerPc.stage]) .send rfl).mapChan _ _ fun j hj => ?_).withLocks _ _
      obtain ⟨d, hd, hid, -, hd1⟩ := ht.entry _ j (Option.mem_toList.mp hj)
      have hji : j ≠ i := fun e => by
        subst e
        rw [hc] at hd
        cases hd
        simp [hpc, CallerPc.stage] at hd1
      refine ⟨fun k hk => ?_, fun d' hd' => ?_⟩
      · rcases lookup_insert_eq_some (P := s.pending) hk with ⟨-, rfl⟩ | ⟨hkc, hk⟩
        exacts [hji rfl, hkc (ht.lookup_eq (Option.mem_toList.mp hj) hk)]
      · simp only [Sys.setCaller, Function.update_noteq hji] at hd'
        change s.callers j = some d' at hd'
        rw [hd] at hd'
        cases hd'
        omega
    · cases h
  · cases h

lemma Sys.TableInv.send (ht : s.TableInv) {out : PipeOutcome} (h : s.send i out = some s') :
    s'.TableInv := by
  unfold Sys.send at h
  split at h
  · next c hc =>
    split at h
    · next hpc =>
      cases h
      refine ((ht.setHost _ (Host.frame_sendCommand _ _)).setPc hc _ ?_ ?_).withLocks _ _ <;>
        split <;> simp [hpc, CallerPc.stage]
    · cases h
  · cases h

lemma Sys.TableInv.recv (ht : s.TableInv) (h : s.recv i = some s') : s'.TableInv := by
  unfold Sys.recv at h
  split at h
  · next c hc =>
    have notIn : c.chan ≠ .empty → ∀ k, s.pending.lookup k ≠ some i := fun hne k hk => by
      obtain ⟨d, hd, -, hch, -⟩ := ht.entry k i hk
      rw [hc] at hd
      cases hd
      exact hne hch
    split at h
    · next r hpc hch =>
      cases h
      exact ht.setPc hc _ (by simp [hpc, CallerPc.stage]) fun _ => notIn (by simp [hch])
    · next hpc hch =>
      cases h
      exact ht.setPc hc _ (by simp [hpc, CallerPc.stage]) fun _ => notIn (by simp [hch])
    · cases h
  · cases h

lemma Sys.TableInv.elapse (ht : s.TableInv) (h : s.elapse i = some s') : s'.TableInv := by
  unfold Sys.elapse at h
  split at h
  · next c hc =>
    split at h
    · next hpc _ =>
      cases h
      exact ht.setPc hc _ (by simp [hpc, CallerPc.stage]) (by simp [CallerPc.stage])
    · cases h
  · cases h

lemma Sys.TableInv.expire (ht : s.TableInv) (h : s.expire i = some s') : s'.TableInv := by
  unfold Sys.expire at h
  split at h
  · next c hc =>
    split at h
    · next hpc =>
      cases h
      refine (((ht.erase c.cmd.id).setPc hc _ (by simp [hpc, CallerPc.stage]) fun _ k hk => ?_).mapChan _ _
        fun j hj => ⟨fun k hk => ?_, fun d hd => ?_⟩).withLocks _ _
      · obtain ⟨hk, hkc⟩ := lookup_erase_eq_some hk
        obtain ⟨d, hd, hid, -⟩ := ht.entry k i hk
        rw [hc] at hd
        cases hd
        exact hkc hid.symm
      · obtain ⟨hk, hkc⟩ := lookup_erase_eq_some hk
        exact hkc (ht.lookup_eq (Option.mem_toList.mp hj) hk)
      · by_cases hji : j = i
        · subst hji
          simp only [Sys.setCaller, Function.update_same, Option.some.injEq] at hd
          subst hd
          simp [CallerPc.stage]
        · simp only [Sys.setCaller, Function.update_noteq hji] at hd
          obtain ⟨d', hd', -, -, h1⟩ := ht.entry _ j (Option.mem_toList.mp hj)
          change s.callers j = some d at hd
          rw [hd] at hd'
          cases hd'
          omega
    · cases h
  · cases h

lemma Sys.TableInv.readLine (ht : s.TableInv) (h : s.readLine p = some s') : s'.TableInv := by
  unfold Sys.readLine at h
  split at h
  · split at h
    · cases h
      refine (ht.congr rfl rfl fun _ _ _ => id : (s.modifyProc p _).TableInv).setReader p _
        fun e j hpc => ?_
      unfold ReaderPc.ofLine at hpc
      split at hpc
      · split at hpc <;> cases hpc
      · cases hpc
    · split_ifs at h
      cases h
      exact ht.setReader p _ fun _ _ h => by cases h
  · cases h

lemma Sys.TableInv.readError (ht : s.TableInv) (h : s.readError p = some s') : s'.TableInv := by
  unfold Sys.readError at h
  split at h <;> cases h
  exact ht.setReader p _ fun _ _ h => by cases h

lemma Sys.TableInv.tryLock (ht : s.TableInv) (h : s.tryLock p = some s') : s'.TableInv := by
  unfold Sys.tryLock at h
  split at h
  · split_ifs at h <;> cases h
    · exact (ht.setReader p _ fun _ _ h => by cases h).withLocks _ _
    · exact ht.setReader p _ fun _ _ h => by cases h
  · cases h

lemma Sys.TableInv.remove (ht : s.TableInv) (h : s.remove p = some s') : s'.TableInv := by
  unfold Sys.remove at h
  split at h
  · next e k _ =>
    cases h
    refine ((ht.erase k).setReader p _ fun e' j hr => ?_).withLocks _ _
    obtain ⟨-, hk⟩ := ReaderPc.reply.inj hr
    obtain ⟨c, hc, -, -, h1⟩ := ht.entry k j hk
    refine ⟨⟨c, hc, by omega⟩, fun k' hk' => ?_⟩
    by_cases hkk : k' = k
    · subst hkk
      simp [Sys.setPending, Sys.pending, AList.lookup_erase] at hk'
    · change (s.pending.erase k).lookup k' = some j at hk'
      rw [AList.lookup_erase_ne hkk] at hk'
      exact hkk (ht.lookup_eq hk hk')
  · cases h

lemma Sys.TableInv.reply (ht : s.TableInv) (h : s.reply p = some s') : s'.TableInv := by
  unfold Sys.reply at h
  split at h
  · next e i hr =>
    cases h
    refine (ht.mapChan _ _ fun j hj => ?_).setReader p _ fun _ _ h => by cases h
    obtain rfl : i = some j := Option.mem_toList.mp hj
    obtain ⟨⟨c, hc, h0⟩, hk⟩ := ht.replying p e j hr
    exact ⟨hk, fun d hd => by rw [hc] at hd; cases hd; exact h0⟩
  · cases h

lemma Sys.TableInv.forward (ht : s.TableInv) (h : s.forward p = some s') : s'.TableInv := by
  unfold Sys.forward at h
  split at h
  · split_ifs at h <;> cases h
    · exact (ht.setReader p _ fun _ _ h => by cases h).congr rfl rfl fun _ _ _ => id
    · exact ht.setReader p _ fun _ _ h => by cases h
  · cases h

lemma Sys.TableInv.watch (ht : s.TableInv) (h : s.watch p = some s') : s'.TableInv := by
  unfold Sys.watch at h
  split at h
  · split_ifs at h <;> cases h
    · exact (ht.setWatcher p _).withLocks _ _
    · exact ht.setWatcher p _
  · cases h

lemma Sys.TableInv.drain (ht : s.TableInv) (h : s.drain p = some s') : s'.TableInv := by
  unfold Sys.drain at h
  split at h
  · cases h
    refine (((ht.clear.mapChan _ _ fun j hj => ⟨fun k hk => ?_, fun d hd => ?_⟩).setWatcher p _)).withLocks _ _
    · simp [Sys.setPending, Sys.pending, AList.lookup_empty] at hk
    · obtain ⟨⟨k, j'⟩, hm, rfl⟩ := List.mem_map.mp hj
      obtain ⟨c, hc, -, -, h1⟩ := ht.entry k _ (AList.mem_lookup_iff.mpr hm)
      change s.callers _ = some d at hd
      rw [hc] at hd
      cases hd
      omega
  · cases h

lemma Sys.TableInv.emit (ht : s.TableInv) {l : String} (h : s.emit p l = some s') : s'.TableInv := by
  unfold Sys.emit at h
  split at h
  · split_ifs at h
    cases h
    exact ht.congr rfl rfl fun _ _ _ => id
  · cases h

lemma Sys.TableInv.exit (ht : s.TableInv) (h : s.exit p = some s') : s'.TableInv := by
  unfold Sys.exit at h
  split at h
  · split_ifs at h
    cases h
    exact ht.congr rfl rfl fun _ _ _ => id
  · cases h

lemma Sys.TableInv.lifecycle (ht : s.TableInv) {h : Host} (hf : s.host.Frame h)
    (hs : s.lifecycle h = some s') : s'.TableInv := by
  unfold Sys.lifecycle at hs
  split_ifs at hs
  cases hs
  unfold Sys.withHost
  split_ifs
  · refine ht.congr rfl hf.1 fun q e j hq => ?_
    by_cases hqp : q = s.host.procs.length
    · subst hqp
      simp at hq
    · simpa [hqp] using hq
  · exact ht.setHost h hf

lemma Sys.TableInv.step (ht : s.TableInv) (hi : s.Inv) {a : Action} (h : step s a = some s') :
    s'.TableInv := by
  cases a with
  | call cmd => cases h; exact ht.call hi cmd
  | lockBridge i => exact ht.lockBridge h
  | lockPending i => exact ht.lockPending h
  | insert i => exact ht.insert h
  | send i out => exact ht.send h
  | recv i => exact ht.recv h
  | elapse i => exact ht.elapse h
  | expire i => exact ht.expire h
  | readLine p => exact ht.readLine h
  | readError p => exact ht.readError h
  | tryLock p => exact ht.tryLock h
  | remove p => exact ht.remove h
  | reply p => exact ht.reply h
  | forward p => exact ht.forward h
  | watch p => exact ht.watch h
  | drain p => exact ht.drain h
  | emit p l => exact ht.emit h
  | exit p => exact ht.exit h
  | dropReceiver p => cases h; exact ht.congr rfl rfl fun _ _ _ => id
  | startDaemon waitErr fs plat currentExe resourceDir launch =>
    exact ht.lifecycle (Host.frame_startDaemon _ _ _ _ _ _ _) h
  | stopDaemon waitErr shutdownId out => exact ht.lifecycle (Host.frame_stopDaemon _ _ _) h
  | daemonStatus waitErr => exact ht.lifecycle (Host.frame_isRunning _) h
  | spawn launch => exact ht.lifecycle (Host.frame_spawn _ _) h
  | isRunning waitErr => exact ht.lifecycle (Host.frame_isRunning _) h
  | stop shutdownId out => exact ht.lifecycle (Host.frame_stop _ _) h

end

lemma Sys.tableInv_init : Sys.init.TableInv :=
  ⟨fun _ _ h => by simp [Sys.init, Sys.pending, DaemonBridge.new, AList.lookup_empty] at h,
    fun _ _ h => (by cases h), fun _ _ _ h => by cases h⟩

lemma Reachable.tableInv {s : Sys} (hs : Reachable s) : s.TableInv := by
  induction hs with
  | init => exact Sys.tableInv_init
  | step a hs h ih => exact ih.step hs.inv h

/-- In every run the table maps an id only to a call registered under that id, whose channel
is still empty, and which is sending, waiting, timing out, or returned through the `?` after
`send_command`; a call that returned from the final `match` has no entry. -/
theorem pending_entries_registered {s : Sys} (hs : Reachable s) :
    (∀ k i, s.pending.lookup k = some i → ∃ c, s.callers i = some c ∧ c.cmd.id = k ∧
      c.chan = .empty ∧ (c.pc = .send ∨ c.pc = .wait ∨ c.pc = .expired ∨ c.pc = .expiredLocked ∨
        c.pc = .expiring ∨ ∃ e, c.pc = .sendFailed e)) ∧
    (∀ i c r, s.callers i = some c → c.pc = .done r → ∀ k, s.pending.lookup k ≠ some i) := by
  have ht := hs.tableInv
  refine ⟨fun k i hk => ?_, fun i c r hc hr k hk => ?_⟩
  · obtain ⟨c, hc, hid, hch, h1⟩ := ht.entry k i hk
    refine ⟨c, hc, hid, hch, ?_⟩
    cases hpc : c.pc <;> simp_all [CallerPc.stage]
  · obtain ⟨d, hd, -, -, h1⟩ := ht.entry k i hk
    rw [hc] at hd
    cases hd
    simp [hr, CallerPc.stage] at h1

/-- Call A registered and sent to the running daemon, whose monitor has run. -/
def registeredTrace : List Action :=
  [devStart, .watch 0, .drain 0, .call cmdA, .lockBridge 0, .lockPending 0, .insert 0, .send 0 .ok]

def registered : Sys := (run Sys.init registeredTrace).getD Sys.init

theorem registered_entries_registered :
    Reachable registered ∧
    (∀ k i, registered.pending.lookup k = some i → ∃ c, registered.callers i = some c ∧ c.cmd.id = k ∧
      c.chan = .empty ∧ (c.pc = .send ∨ c.pc = .wait ∨ c.pc = .expired ∨ c.pc = .expiredLocked ∨
        c.pc = .expiring ∨ ∃ e, c.pc = .sendFailed e)) ∧
    (∀ i c r, registered.callers i = some c → c.pc = .done r → ∀ k, registered.pending.lookup k ≠ some i) :=
  have hs : Reachable registered :=
    run_reachable .init (rfl : run Sys.init registeredTrace = some registered)
  ⟨hs, pending_entries_registered hs⟩

/-- `send_command` fails after the call registered: with no daemon running (`NotRunning`), or
writing to a daemon that has exited (`SendError`). The call returns, and its entry stays. -/
theorem send_error_leaves_entry :
    (run Sys.init [.call cmdA, .lockBridge 0, .lockPending 0, .insert 0, .send 0 .ok]).map
      (fun s => ((s.callers 0).map (·.pc), s.pending.lookup cmdA.id)) =
      some (some (.sendFailed .notRunning), some 0) ∧
    (run Sys.init [devStart, .exit 0, .call cmdA, .lockBridge 0, .lockPending 0, .insert 0,
      .send 0 (.writeFailed 0 "Broken pipe (os error 32)")]).map
      (fun s => ((s.callers 0).map (·.pc), s.pending.lookup cmdA.id)) =
      some (some (.sendFailed (.sendError "failed to write to stdin: Broken pipe (os error 32)")), some 0) :=
  ⟨rfl, rfl⟩

/-- `stop_daemon` while call A is outstanding. -/
def stopped : Sys := (step registered (.stopDaemon false "s" .ok)).getD registered

/-- After `stop_daemon` returns, the table still maps A's id to A, nothing was sent to A, and A
later returns `Timeout`. -/
theorem stop_leaves_call_outstanding :
    registered.pending.lookup cmdA.id = some 0 ∧ stopped.pending.lookup cmdA.id = some 0 ∧
    (stopped.callers 0).map (·.chan) = some .empty ∧ stopped.host.bridge.child = none ∧
    (run stopped [.elapse 0, .lockBridge 0, .lockPending 0, .expire 0]).map
      (fun s => (s.callers 0).map (·.pc)) = some (some (.done (.error .timeout))) :=
  ⟨rfl, rfl, rfl, rfl, rfl⟩

end KamuneBridge
