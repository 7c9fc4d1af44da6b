import KamuneBridge.PendingTable

/-!
# The reader thread refines the sequential loop

Left to itself, with the pending table's lock free and its event channel open, the reader
thread of `KamuneBridge.System` takes a fixed block of steps for each line of the pipe:
`lines()`, and for an event with an id `try_write`, `remove`, the reply and the send to the
event channel. Each block does what one iteration of `readStdout` does: it changes the table
as `resolve` does, puts the reply into the channel of the call it names, and sends the event
on. Over any lines, the run of these blocks ends in `readStdout`'s table, replies and events.
-/

namespace KamuneBridge

/-- The reader thread's own steps for one line, when no other thread runs in between. -/
def lineSteps (p : Nat) (l : String) : List Action :=
  match lineEvent l with
  | some e =>
    match replyId e with
    | some _ => [.readLine p, .tryLock p, .remove p, .reply p, .forward p]
    | none => [.readLine p, .forward p]
  | none => [.readLine p]

/-- One iteration of `readStdout` with room in the sink, on the pending table's side. -/
def resolveLine (st : Correlator) (l : String) : Correlator :=
  match lineEvent l with
  | some e => resolve st e
  | none => st

/-- The replies of the sequential loop, each put into the channel of the call it names. -/
def deliver (s : Sys) (rs : List (String × Nat × DaemonEvent)) : Sys :=
  rs.foldl (fun t r => t.mapChan [r.2.1] (.fill (.ok r.2.2))) s

/-- The reader `p` of `t` is back at `lines()` with the lock free, its event channel open and
`out` left in its pipe, and `t` holds what the sequential loop computed from `s`: its table
`st`, its replies in the callers' channels, and its events `evs` after those `s` had. -/
structure Tracks (s t : Sys) (p : Nat) (st : Correlator) (evs : List DaemonEvent)
    (out : List String) : Prop where
  reader : t.readers p = .next
  unlocked : t.pendingLock = none
  sinkOpen : (t.sinks p).isOpen = true
  output : t.host.output p = out
  pending : t.pending = st.pending
  callers : ∀ i, t.callers i = (deliver s st.replies).callers i
  events : (t.sinks p).events = (s.sinks p).events ++ evs

lemma run_append (s : Sys) (as bs : List Action) :
    run s (as ++ bs) = (run s as).bind (run · bs) := by
  induction as generalizing s with
  | nil => rfl
  | cons a as ih =>
    simp only [List.cons_append, run]
    cases step s a <;> simp [ih]

lemma deliver_append (s : Sys) (rs rs' : List (String × Nat × DaemonEvent)) :
    deliver s (rs ++ rs') = deliver (deliver s rs) rs' := List.foldl_append ..

/-- Removing under the event's id: the reader's `remove` erases even an absent id. -/
lemma resolve_pending {st : Correlator} {e : DaemonEvent} {k : String} (hk : replyId e = some k) :
    (resolve st e).pending = st.pending.erase k := by
  simp only [resolve, hk]
  cases hi : st.pending.lookup k with
  | none => exact (erase_of_lookup_eq_none hi).symm
  | some i => rfl

/-- The reply `resolve` adds fills the channel of the call registered under the event's id. -/
lemma deliver_resolve_callers (s : Sys) {st : Correlator} {e : DaemonEvent} {k : String}
    (hk : replyId e = some k) (i : Nat) :
    (deliver s (resolve st e).replies).callers i =
      if st.pending.lookup k = some i then
        ((deliver s st.replies).callers i).map fun c => { c with chan := c.chan.fill (.ok e) }
      else (deliver s st.replies).callers i := by
  simp only [resolve, hk]
  cases hi : st.pending.lookup k with
  | none => simp
  | some j => simp [deliver_append, deliver, Sys.mapChan_callers, eq_comm]

lemma foldl_resolveLine (ls : List String) (st : Correlator) :
    ls.foldl resolveLine st = (ls.filterMap lineEvent).foldl resolve st := by
  induction ls generalizing st with
  | nil => rfl
  | cons l ls ih =>
    simp only [List.foldl_cons, List.filterMap_cons, ih, resolveLine]
    cases lineEvent l <;> rfl

/-- One block of the reader's steps is one iteration of the sequential loop. -/
lemma Tracks.line {s t : Sys} {p : Nat} {st : Correlator} {evs : List DaemonEvent} {l : String}
    {out : List String} (ht : Tracks s t p st evs (l :: out)) :
    ∃ t', run t (lineSteps p l) = some t' ∧
      Tracks s t' p (resolveLine st l) (evs ++ (lineEvent l).toList) out := by
  obtain ⟨pr, hpr, hl⟩ : ∃ pr, t.host.procs[p]? = some pr ∧ pr.stdout = l :: out := by
    have := ht.output
    simp only [Host.output, List.getElem?_map] at this
    cases h : t.host.procs[p]? with
    | none => simp [h] at this
    | some pr => exact ⟨pr, rfl, by simpa [h] using this⟩
  have hread : t.readLine p = some ((t.modifyProc p fun pr =>
      { pr with stdout := pr.stdout.tail }).setReader p (.ofLine l)) := by
    simp only [Sys.readLine, ht.reader, hpr, hl]
  have hout : ((t.modifyProc p fun pr => { pr with stdout := pr.stdout.tail }).setReader p
      (.ofLine l)).host.output p = out := by
    simp [Sys.setReader, Sys.modifyProc, Host.output, List.getElem?_modify, hpr, hl]
  unfold lineSteps resolveLine
  cases he : lineEvent l with
  | none =>
    have hpc : ReaderPc.ofLine l = .next := by simp only [ReaderPc.ofLine, he]
    simp only [run, step, hread, Option.some_bind, Option.some.injEq, exists_eq_left']
    exact ⟨by simp [Sys.setReader, hpc], ht.unlocked, ht.sinkOpen, hout, ht.pending, ht.callers,
      by simpa using ht.events⟩
  | some e =>
    cases hk : replyId e with
    | none =>
      have hpc : ReaderPc.ofLine l = .forward e := by simp only [ReaderPc.ofLine, he, hk]
      simp only [hk, run, step, hread, Option.some_bind, Sys.forward, Sys.setReader_readers,
        Function.update_same, hpc, Sys.setReader_sinks, Sys.modifyProc_sinks, ht.sinkOpen, if_true,
        Option.some.injEq, exists_eq_left']
      rw [show resolve st e = st by simp only [resolve, hk]]
      exact ⟨by simp, ht.unlocked, by simp, hout, ht.pending, ht.callers, by simp [ht.events]⟩
    | some k =>
      have hpc : ReaderPc.ofLine l = .tryLock e k := by simp only [ReaderPc.ofLine, he, hk]
      have hP : t.host.bridge.pendingResponses = st.pending := ht.pending
      simp only [hk, run, step, hread, hpc, Sys.tryLock, Sys.remove, Sys.reply, Sys.forward, Sys.pending,
        Sys.setReader_host, Sys.setReader_nCallers, Sys.setReader_bridgeLock, Sys.setReader_lines,
        Sys.setReader_pendingLock, Sys.setReader_readers, Sys.setReader_sinks, Sys.setPending_nCallers,
        Sys.setPending_bridgeLock, Sys.setPending_lines, Sys.setPending_sinks, Sys.modifyProc_pendingLock,
        Sys.modifyProc_nCallers, Sys.modifyProc_bridgeLock, Sys.modifyProc_lines, Sys.modifyProc_host_bridge,
        Sys.modifyProc_sinks, Sys.mapChan_sinks, Sys.mapChan_host, Sys.mapChan_nCallers, Sys.mapChan_bridgeLock,
        Sys.mapChan_pendingLock, Sys.mapChan_lines, Function.update_same, Option.bind_some, Option.some_bind,
        ht.unlocked, ht.sinkOpen, hP, if_true, Option.some.injEq, Option.toList_some, exists_eq_left']
      exact ⟨by simp, by simp, by simp [ht.sinkOpen], by simp [Host.output, hpr, hl, List.getElem?_modify],
        by simp [Sys.pending, resolve_pending hk], fun i => by simp [deliver_resolve_callers s hk, ht.callers],
        by simp [ht.events]⟩
/-- The blocks of any lines, run one after another, are the sequential loop over those lines. -/
lemma Tracks.lines {s : Sys} {p : Nat} {out : List String} (ls : List String) :
    ∀ {t : Sys} {st : Correlator} {evs : List DaemonEvent}, Tracks s t p st evs (ls ++ out) →
      ∃ t', run t (ls.flatMap (lineSteps p)) = some t' ∧
        Tracks s t' p (ls.foldl resolveLine st) (evs ++ ls.filterMap lineEvent) out := by
  induction ls with
  | nil => exact fun ht => ⟨_, rfl, by simpa using ht⟩
  | cons l ls ih =>
    intro t st evs ht
    obtain ⟨t₁, h₁, ht₁⟩ := Tracks.line ht
    obtain ⟨t₂, h₂, ht₂⟩ := ih ht₁
    have hevs : (l :: ls).filterMap lineEvent = (lineEvent l).toList ++ ls.filterMap lineEvent := by
      rw [List.filterMap_cons]
      cases lineEvent l <;> rfl
    refine ⟨t₂, by rw [List.flatMap_cons, run_append, h₁]; exact h₂, ?_⟩
    rwa [hevs, ← List.append_assoc]

/-- With the table's lock free and the channel open, the reader's own steps over the lines `ls`
run to the end and leave what the sequential `readStdout` over `ls` computes. -/
theorem readerThread_refines_readStdout (s : Sys) (p : Nat) (ls rest : List String)
    (hr : s.readers p = .next) (hlock : s.pendingLock = none) (hsink : (s.sinks p).isOpen = true)
    (ho : s.host.output p = ls ++ rest) :
    let out := readStdout ls.length (ls.map .line) ⟨s.pending, []⟩ []
    ∃ s', run s (ls.flatMap (lineSteps p)) = some s' ∧ Tracks s s' p out.1 out.2 rest := by
  have hlen : (ls.filterMap lineEvent).length ≤ ls.length := List.length_filterMap_le ..
  simp only [readStdout_eq_foldl, reached, List.take_of_length_le hlen,
    List.take_of_length_le (Nat.le_succ_of_le hlen), ← foldl_resolveLine]
  have start : Tracks s s p ⟨s.pending, []⟩ [] (ls ++ rest) :=
    ⟨hr, hlock, hsink, ho, rfl, fun _ => rfl, (List.append_nil _).symm⟩
  obtain ⟨s', h, hs'⟩ := Tracks.lines ls start
  exact ⟨s', h, by simpa using hs'⟩

/-- Call A registered and sent, and the daemon's reply to it waiting in the pipe. -/
def replied : Sys := (step registered (.emit 0 replyA)).getD registered

theorem replied_refines_readStdout :
    replied.readers 0 = .next ∧ replied.pendingLock = none ∧ (replied.sinks 0).isOpen = true ∧
    replied.host.output 0 = [replyA] ++ [] ∧
    let out := readStdout [replyA].length ([replyA].map .line) ⟨replied.pending, []⟩ []
    ∃ s', run replied ([replyA].flatMap (lineSteps 0)) = some s' ∧ Tracks replied s' 0 out.1 out.2 [] :=
  ⟨rfl, rfl, rfl, rfl, readerThread_refines_readStdout replied 0 [replyA] [] rfl rfl rfl rfl⟩

end KamuneBridge
