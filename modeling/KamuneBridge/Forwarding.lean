import KamuneBridge.Invariant

/-!
# The event channels

The stdout reader of each process sends every event it decodes to the process's event
channel, `event_tx.send(event)`, whether or not the event was also a reply. Past the reader,
the events of a process are those its channel has received, then the one its reader holds,
then those of the lines still in its pipe. A daemon's line adds its event at the end, a
`forward` to a channel whose receiver is gone drops the event held, a launch starts the
process with none, and no other step changes them; only a launch opens a channel. So over
every run they stand, in order, among the events of the lines the process wrote, and while
its receiver is held and no read has failed they are all of them.
-/

namespace KamuneBridge

/-- The event the stdout reader holds between decoding its line and sending it on. -/
def ReaderPc.held : ReaderPc → List DaemonEvent
  | .tryLock e _ | .remove e _ | .reply e _ | .forward e => [e]
  | .next | .exited => []

/-- The events past the reader of process `p`: received by its channel, held by its reader,
and waiting in its pipe. -/
def Sys.stream (s : Sys) (p : Nat) : List DaemonEvent :=
  (s.sinks p).events ++ (s.readers p).held ++ (s.host.output p).filterMap lineEvent

/-- The line a step has process `p` write to its stdout, if any. -/
def Action.line (p : Nat) : Action → Option String
  | .emit q l => if q = p then some l else none
  | _ => none

/-- The lines process `p` writes to its stdout over the steps `as`. -/
def written (p : Nat) (as : List Action) : List String :=
  as.filterMap (Action.line p)

lemma written_append (p : Nat) (as bs : List Action) :
    written p (as ++ bs) = written p as ++ written p bs := by
  simp only [written, List.filterMap_append]

lemma ReaderPc.held_ofLine (l : String) : (ReaderPc.ofLine l).held = (lineEvent l).toList := by
  unfold ReaderPc.ofLine
  cases lineEvent l with
  | none => rfl
  | some e => dsimp only; cases replyId e <;> rfl

lemma filterMap_lineEvent_cons (l : String) (ls : List String) :
    (l :: ls).filterMap lineEvent = (lineEvent l).toList ++ ls.filterMap lineEvent := by
  rw [List.filterMap_cons]
  cases lineEvent l <;> rfl

/-- A step that, for process `p`, launches nothing, changes nothing past its reader and does
not open its channel. -/
structure Sys.Quiet (p : Nat) (s s' : Sys) : Prop where
  length : s.host.procs.length ≤ s'.host.procs.length
  stream : s'.stream p = s.stream p
  wasOpen : (s'.sinks p).isOpen → (s.sinks p).isOpen

section
variable {s s' : Sys} {i p q : Nat}

lemma Sys.stream_congr (hs : s'.sinks = s.sinks) (hr : s'.readers = s.readers)
    (ho : s'.host.output = s.host.output) : s'.stream p = s.stream p := by
  simp only [Sys.stream, hs, hr, ho]

/-- Moving the reader on to where it holds the same event. -/
lemma Sys.stream_setReader {pc : ReaderPc} (hr : s.readers q = pc) (pc' : ReaderPc)
    (h : pc'.held = pc.held) : (s.setReader q pc').stream p = s.stream p := by
  by_cases hp : p = q
  · subst hp
    simp only [Sys.stream, Sys.setReader_readers, Function.update_same, h, hr]
    rfl
  · simp only [Sys.stream, Sys.setReader_readers, Function.update_noteq hp]
    rfl

lemma Sys.output_modifyProc_eq (s : Sys) (f : Proc → Proc) {pr : Proc}
    (hpr : s.host.procs[p]? = some pr) (q : Nat) :
    (s.modifyProc p f).host.output q = if q = p then (f pr).stdout else s.host.output q := by
  simp only [Sys.modifyProc_host_procs, Host.output, List.getElem?_map, List.getElem?_modify]
  by_cases hq : q = p
  · subst hq
    simp [hpr]
  · simp [Ne.symm hq, hq]

/-! ### One lemma per action -/

lemma Sys.send_quiet {out : PipeOutcome} (h : s.send i out = some s') (p : Nat) : Sys.Quiet p s s' := by
  unfold Sys.send at h
  split at h
  · next c _ =>
    split at h <;> cases h
    have hf := Host.frame_sendCommand (h := s.host) c.cmd out
    exact ⟨hf.2.2, Sys.stream_congr rfl rfl hf.2.1, id⟩
  · cases h

lemma Sys.exit_quiet (h : s.exit q = some s') (p : Nat) : Sys.Quiet p s s' := by
  unfold Sys.exit at h
  split at h
  · next pr hpr =>
    split_ifs at h
    cases h
    refine ⟨by simp, ?_, id⟩
    simp only [Sys.stream, Sys.modifyProc_sinks, Sys.modifyProc_readers, s.output_modifyProc_eq _ hpr]
    split_ifs with hp
    · subst hp
      simp [Host.output, hpr]
    · rfl
  · cases h

/-- `lines()` moves the first line of the pipe to the reader, as the event it decodes to. -/
lemma Sys.readLine_quiet (h : s.readLine q = some s') (p : Nat) : Sys.Quiet p s s' := by
  unfold Sys.readLine at h
  split at h
  · next pr hr hpr =>
    split at h
    · next l ls hl =>
      cases h
      refine ⟨by simp, ?_, id⟩
      by_cases hp : p = q
      · subst hp
        simp only [Sys.stream, Sys.setReader_readers, Function.update_same, ReaderPc.held_ofLine,
          s.output_modifyProc_eq _ hpr, if_true, hl, List.tail_cons, hr, Host.output]
        simp [hpr, hl, filterMap_lineEvent_cons, ReaderPc.held]
      · simp only [Sys.stream, Sys.setReader_readers, Function.update_noteq hp, Sys.setReader_sinks,
          Sys.setReader_host, s.output_modifyProc_eq _ hpr, if_neg hp, Sys.modifyProc_sinks,
          Sys.modifyProc_readers]
    · split_ifs at h
      cases h
      exact ⟨le_rfl, Sys.stream_setReader hr _ rfl, id⟩
  · cases h

lemma Sys.readError_quiet (h : s.readError q = some s') (p : Nat) : Sys.Quiet p s s' := by
  unfold Sys.readError at h
  split at h
  · next hr =>
    cases h
    exact ⟨le_rfl, Sys.stream_setReader hr _ rfl, id⟩
  · cases h

lemma Sys.tryLock_quiet (h : s.tryLock q = some s') (p : Nat) : Sys.Quiet p s s' := by
  unfold Sys.tryLock at h
  split at h
  · next hr =>
    split_ifs at h <;> cases h <;> exact ⟨le_rfl, Sys.stream_setReader hr _ rfl, id⟩
  · cases h

lemma Sys.remove_quiet (h : s.remove q = some s') (p : Nat) : Sys.Quiet p s s' := by
  unfold Sys.remove at h
  split at h
  · next hr =>
    cases h
    exact ⟨le_rfl, Sys.stream_setReader (s := s.setPending _) hr _ rfl, id⟩
  · cases h

lemma Sys.reply_quiet (h : s.reply q = some s') (p : Nat) : Sys.Quiet p s s' := by
  unfold Sys.reply at h
  split at h
  · next hr =>
    cases h
    exact ⟨le_rfl, Sys.stream_setReader (s := s.mapChan _ _) hr _ rfl, id⟩
  · cases h

/-- `event_tx.send(event)` hands the event held to the channel; when the receiver is gone it
drops the event, and the channel stays closed. -/
lemma Sys.forward_quiet (h : s.forward q = some s') (p : Nat) :
    Sys.Quiet p s s' ∨
      s'.host = s.host ∧ (s'.stream p).Sublist (s.stream p) ∧ (s'.sinks p).isOpen = false := by
  unfold Sys.forward at h
  split at h
  · next e hr =>
    have hs : s.stream q = (s.sinks q).events ++ [e] ++ (s.host.output q).filterMap lineEvent := by
      rw [Sys.stream, hr, ReaderPc.held]
    split_ifs at h with ho <;> cases h
    · by_cases hp : p = q
      · subst hp
        exact .inl ⟨le_rfl, by rw [hs]; simp [Sys.stream, ReaderPc.held], by simp⟩
      · exact .inl ⟨le_rfl, by simp [Sys.stream, hp], by simp [hp]⟩
    · by_cases hp : p = q
      · subst hp
        exact .inr ⟨rfl, by rw [hs]; simp [Sys.stream, ReaderPc.held], by simpa using ho⟩
      · exact .inl ⟨le_rfl, by simp [Sys.stream, hp], id⟩
  · cases h

/-- A running daemon's line joins its pipe, and its event the end past the reader. -/
lemma Sys.emit_stream {l : String} (h : s.emit q l = some s') (p : Nat) :
    s'.host.procs.length = s.host.procs.length ∧ s'.sinks = s.sinks ∧
      s'.stream p = s.stream p ++ (written p [.emit q l]).filterMap lineEvent ∧
      (written p [.emit q l] ≠ [] → p < s.host.procs.length) := by
  unfold Sys.emit at h
  split at h
  · next pr hpr =>
    split_ifs at h
    cases h
    refine ⟨by simp, rfl, ?_, fun hw => ?_⟩
    · simp only [Sys.stream, Sys.modifyProc_sinks, Sys.modifyProc_readers, s.output_modifyProc_eq _ hpr]
      by_cases hp : p = q
      · subst hp
        simp [Host.output, hpr, written, Action.line, List.filterMap_append, filterMap_lineEvent_cons]
      · simp [written, Action.line, hp, Ne.symm hp]
    · have hp : q = p := by
        by_contra hp
        simp [written, Action.line, hp] at hw
      exact hp ▸ (List.getElem?_eq_some_iff.mp hpr).1
  · cases h

lemma Sys.dropReceiver_quiet (s : Sys) (q p : Nat) : Sys.Quiet p s (s.dropReceiver q) := by
  by_cases hp : p = q
  · subst hp
    exact ⟨le_rfl, by simp [Sys.stream], by simp⟩
  · exact ⟨le_rfl, by simp [Sys.stream, hp], by simp [hp]⟩

/-- A Tauri command changes nothing past a reader and opens no channel, except for a process
it launches, which starts with nothing past its reader. -/
lemma Sys.lifecycle_quiet {h : Host} (hf : s.host.Frame h) (hs : s.lifecycle h = some s') (p : Nat) :
    Sys.Quiet p s s' ∨ p = s.host.procs.length ∧ p < s'.host.procs.length ∧ s'.stream p = [] := by
  unfold Sys.lifecycle at hs
  split_ifs at hs
  cases hs
  unfold Sys.withHost
  split_ifs with hl
  · by_cases hp : p = s.host.procs.length
    · subst hp
      have hnil : s.host.output s.host.procs.length = [] := by simp [Host.output]
      exact .inr ⟨rfl, hl, by simp [Sys.stream, ReaderPc.held, hf.2.1, hnil]⟩
    · exact .inl ⟨hl.le, by simp [Sys.stream, hp, hf.2.1], by simp [hp]⟩
  · exact .inl ⟨hf.2.2, by simp [Sys.stream, hf.2.1], id⟩

end

/-! ### The invariant -/

/-- After the steps `as` from the start, the events past the reader of process `p` stand among
those of the lines `p` wrote, and are all of them while its receiver is held and no read has
failed; before `p` is launched it has written nothing. -/
structure Sys.StreamInv (s : Sys) (p : Nat) (as : List Action) : Prop where
  sublist : (s.stream p).Sublist ((written p as).filterMap lineEvent)
  held : (s.sinks p).isOpen → Action.readError p ∉ as → s.stream p = (written p as).filterMap lineEvent
  unlaunched : s.host.procs.length ≤ p → written p as = []

section
variable {s s' : Sys} {p : Nat} {as : List Action} {a : Action}

lemma Sys.streamInv_init (p : Nat) : Sys.init.StreamInv p [] := by
  have h0 : Sys.init.stream p = [] := by simp [Sys.stream, Sys.init, ReaderPc.held, Host.output]
  exact ⟨h0 ▸ .slnil, fun _ _ => h0, fun _ => rfl⟩

/-- A step that adds the events of the line it has `p` write at the end past the reader. -/
lemma Sys.StreamInv.extend (hi : s.StreamInv p as) (hl : s.host.procs.length ≤ s'.host.procs.length)
    (hs : s'.stream p = s.stream p ++ (written p [a]).filterMap lineEvent)
    (ho : (s'.sinks p).isOpen → (s.sinks p).isOpen) (hw : written p [a] ≠ [] → p < s.host.procs.length) :
    s'.StreamInv p (as ++ [a]) where
  sublist := by
    rw [hs, written_append, List.filterMap_append]
    exact hi.sublist.append (List.Sublist.refl _)
  held hopen herr := by
    rw [hs, hi.held (ho hopen) fun h => herr (List.mem_append_left _ h), written_append,
      List.filterMap_append]
  unlaunched hp := by
    have hw' : written p [a] = [] := by_contra fun h => absurd (hw h) (not_lt.mpr (hl.trans hp))
    rw [written_append, hi.unlaunched (hl.trans hp), hw', List.append_nil]

lemma Sys.StreamInv.quiet (hi : s.StreamInv p as) (hq : Sys.Quiet p s s') (ha : written p [a] = []) :
    s'.StreamInv p (as ++ [a]) :=
  hi.extend hq.length (by rw [ha, List.filterMap_nil, List.append_nil, hq.stream]) hq.wasOpen
    fun h => absurd ha h

/-- A step that drops an event past the reader, leaving its channel closed. -/
lemma Sys.StreamInv.drop (hi : s.StreamInv p as) (hl : s.host.procs.length ≤ s'.host.procs.length)
    (hs : (s'.stream p).Sublist (s.stream p)) (hc : (s'.sinks p).isOpen = false) (ha : written p [a] = []) :
    s'.StreamInv p (as ++ [a]) := by
  have hw : written p (as ++ [a]) = written p as := by rw [written_append, ha, List.append_nil]
  refine ⟨hw ▸ hs.trans hi.sublist, fun ho => absurd ho (by simp [hc]), fun hp => ?_⟩
  rw [hw]
  exact hi.unlaunched (hl.trans hp)

/-- Launching `p`, which has written nothing yet. -/
lemma Sys.StreamInv.launch (hi : s.StreamInv p as) (hp : p = s.host.procs.length)
    (hl : p < s'.host.procs.length) (hs : s'.stream p = []) (ha : written p [a] = []) :
    s'.StreamInv p (as ++ [a]) := by
  have hw : written p (as ++ [a]) = [] := by rw [written_append, hi.unlaunched hp.ge, ha]; rfl
  refine ⟨by rw [hs, hw]; exact .slnil, fun _ _ => by rw [hs, hw]; rfl, fun h => absurd hl (not_lt.mpr h)⟩

lemma Sys.StreamInv.lifecycle (hi : s.StreamInv p as) {h : Host} (hf : s.host.Frame h)
    (hs : s.lifecycle h = some s') (ha : written p [a] = []) : s'.StreamInv p (as ++ [a]) := by
  rcases Sys.lifecycle_quiet hf hs p with hq | ⟨hp, hl, hs⟩
  exacts [hi.quiet hq ha, hi.launch hp hl hs ha]

lemma Sys.StreamInv.step (hi : s.StreamInv p as) (h : step s a = some s') : s'.StreamInv p (as ++ [a]) := by
  cases a with
  | call cmd => cases h; exact hi.quiet ⟨le_rfl, rfl, id⟩ rfl
  | lockBridge i | lockPending i | insert i | recv i | elapse i | expire i | watch q | drain q =>
    -- the steps of the calls and of the shutdown monitor touch no channel, reader or pipe
    simp only [step, Sys.lockBridge, Sys.lockPending, Sys.insert, Sys.recv, Sys.elapse,
      Sys.expire, Sys.watch, Sys.drain] at h
    repeat' split at h
    all_goals first | (cases h; exact hi.quiet ⟨le_rfl, rfl, id⟩ rfl) | cases h
  | send i out => exact hi.quiet (Sys.send_quiet h p) rfl
  | exit q => exact hi.quiet (Sys.exit_quiet h p) rfl
  | readLine q => exact hi.quiet (Sys.readLine_quiet h p) rfl
  | readError q => exact hi.quiet (Sys.readError_quiet h p) rfl
  | tryLock q => exact hi.quiet (Sys.tryLock_quiet h p) rfl
  | remove q => exact hi.quiet (Sys.remove_quiet h p) rfl
  | reply q => exact hi.quiet (Sys.reply_quiet h p) rfl
  | forward q =>
    rcases Sys.forward_quiet h p with hq | ⟨hh, hs, hc⟩
    · exact hi.quiet hq rfl
    · exact hi.drop (hh ▸ le_rfl) hs hc rfl
  | emit q l =>
    obtain ⟨hl, ho, hs, hw⟩ := Sys.emit_stream h p
    exact hi.extend hl.ge hs (by rw [ho]; exact id) hw
  | dropReceiver q => cases h; exact hi.quiet (s.dropReceiver_quiet q p) rfl
  | startDaemon waitErr fs plat currentExe resourceDir launch =>
    exact hi.lifecycle (Host.frame_startDaemon _ _ _ _ _ _ _) h rfl
  | stopDaemon waitErr shutdownId out => exact hi.lifecycle (Host.frame_stopDaemon _ _ _) h rfl
  | daemonStatus waitErr => exact hi.lifecycle (Host.frame_isRunning _) h rfl
  | spawn launch => exact hi.lifecycle (Host.frame_spawn _ _) h rfl
  | isRunning waitErr => exact hi.lifecycle (Host.frame_isRunning _) h rfl
  | stop shutdownId out => exact hi.lifecycle (Host.frame_stop _ _) h rfl

lemma Sys.StreamInv.run (hi : s.StreamInv p as) {bs : List Action} (h : run s bs = some s') :
    s'.StreamInv p (as ++ bs) := by
  induction bs generalizing s as with
  | nil => cases h; rwa [List.append_nil]
  | cons b bs ih =>
    obtain ⟨t, ht, h⟩ := Option.bind_eq_some.mp h
    rw [List.append_cons]
    exact ih (hi.step ht) h

end

/-- Over every run, the events past the reader of `p` stand in order among those of the lines
`p` wrote, and are all of them while its receiver is held and no read failed. -/
theorem events_in_written_order {as : List Action} {s : Sys} (h : run Sys.init as = some s) (p : Nat) :
    ((s.sinks p).events ++ (s.readers p).held ++ (s.host.output p).filterMap lineEvent).Sublist
        ((written p as).filterMap lineEvent) ∧
      ((s.sinks p).isOpen → Action.readError p ∉ as →
        (s.sinks p).events ++ (s.readers p).held ++ (s.host.output p).filterMap lineEvent =
          (written p as).filterMap lineEvent) := by
  have hi := (Sys.streamInv_init p).run h
  rw [List.nil_append] at hi
  exact ⟨hi.sublist, hi.held⟩

theorem answered_events_in_written_order :
    (answered.sinks 0).events = [eventA] ∧
    (((answered.sinks 0).events ++ (answered.readers 0).held ++
        (answered.host.output 0).filterMap lineEvent).Sublist ((written 0 answeredTrace).filterMap lineEvent) ∧
      ((answered.sinks 0).isOpen → Action.readError 0 ∉ answeredTrace →
        (answered.sinks 0).events ++ (answered.readers 0).held ++
          (answered.host.output 0).filterMap lineEvent = (written 0 answeredTrace).filterMap lineEvent)) :=
  ⟨rfl, events_in_written_order (rfl : run Sys.init answeredTrace = some answered) 0⟩

end KamuneBridge
