import KamuneBridge.Wire
import Mathlib.Data.List.AList
import Mathlib.Data.String.Basic

/-!
# The stdout reader loop

`read_stdout` with the pending table's lock always free: every non-empty line that decodes
is offered to the pending table under its non-empty `id` and then sent to the event sink.
The sink's receiver accepts `room` more events; the first send after that fails and ends
the loop. A read error ends it too. Under contention the loop is the reader thread of
`KamuneBridge.System`, whose `try_write` may fail.
-/

namespace KamuneBridge

/-- `pending_responses`: each command id and the caller whose reply sender is stored. -/
abbrev PendingTable := AList fun _ : String => Nat

lemma lookup_erase_eq_some {P : PendingTable} {k k' : String} {j : Nat}
    (h : (P.erase k).lookup k' = some j) : P.lookup k' = some j ∧ k' ≠ k := by
  by_cases hk : k' = k
  · subst hk
    simp [AList.lookup_erase] at h
  · exact ⟨by rwa [AList.lookup_erase_ne hk] at h, hk⟩

lemma erase_of_lookup_eq_none {P : PendingTable} {k : String} (h : P.lookup k = none) :
    P.erase k = P :=
  AList.ext (List.kerase_of_not_mem_keys (mt AList.mem_keys.mpr (AList.lookup_eq_none.mp h)))

lemma lookup_insert_eq_some {P : PendingTable} {k k' : String} {i j : Nat}
    (h : (P.insert k i).lookup k' = some j) : k' = k ∧ i = j ∨ k' ≠ k ∧ P.lookup k' = some j := by
  by_cases hk : k' = k
  · subst hk
    rw [AList.lookup_insert, Option.some.injEq] at h
    exact .inl ⟨rfl, h⟩
  · rw [AList.lookup_insert_ne hk] at h
    exact .inr ⟨hk, h⟩

/-- One item of `reader.lines()`. -/
inductive LineRead
  | line (s : String)
  | ioError

/-- The event a line yields: empty lines are skipped, malformed ones are logged and dropped. -/
def lineEvent (l : String) : Option DaemonEvent :=
  if l.isEmpty then none else DaemonEvent.fromStr l

/-- The id a reply is looked up under: a present, non-empty `id`. -/
def replyId (e : DaemonEvent) : Option String :=
  match e.id with
  | some k => if k.isEmpty then none else some k
  | none => none

/-- The pending table and the replies sent from it, each with the id its sender was
registered under. -/
structure Correlator where
  pending : PendingTable
  replies : List (String × Nat × DaemonEvent)

/-- The pending-table part of one event: remove the sender under its id and reply to it. -/
def resolve (st : Correlator) (e : DaemonEvent) : Correlator :=
  match replyId e with
  | some k =>
    match st.pending.lookup k with
    | some i => ⟨st.pending.erase k, st.replies ++ [(k, i, e)]⟩
    | none => st
  | none => st

/-- `read_stdout` on the lines the pipe yields, with the events the sink accepted so far. -/
def readStdout : Nat → List LineRead → Correlator → List DaemonEvent →
    Correlator × List DaemonEvent
  | _, [], st, sink => (st, sink)
  | _, .ioError :: _, st, sink => (st, sink)
  | room, .line l :: rest, st, sink =>
    match lineEvent l with
    | none => readStdout room rest st sink
    | some e =>
      match room with
      | 0 => (resolve st e, sink)
      | room + 1 => readStdout room rest (resolve st e) (sink ++ [e])

lemma replyId_eq_some {e : DaemonEvent} {k : String} :
    replyId e = some k ↔ e.id = some k ∧ k ≠ "" := by
  unfold replyId
  cases e.id with
  | none => simp
  | some k' =>
    have := String.isEmpty_iff k'
    by_cases h : k'.isEmpty <;> simp only [h, if_true, if_false, Option.some.injEq] <;> aesop

/-- The events the loop gets to: all of them when the sink has room, otherwise those up to
the one whose send failed. -/
def reached (room : Nat) (evs : List DaemonEvent) : List DaemonEvent := evs.take (room + 1)

/-- The loop is a fold of `resolve` over the events it reaches. -/
lemma readStdout_eq_foldl (room : Nat) (ls : List String) (st : Correlator)
    (sink : List DaemonEvent) :
    readStdout room (ls.map .line) st sink =
      ((reached room (ls.filterMap lineEvent)).foldl resolve st,
        sink ++ (ls.filterMap lineEvent).take room) := by
  unfold reached
  induction ls generalizing room st sink with
  | nil => simp [readStdout]
  | cons l ls ih =>
    simp only [List.map_cons, readStdout, List.filterMap_cons]
    cases lineEvent l with
    | none => exact ih room st sink
    | some e =>
      cases room with
      | zero => simp
      | succ room => simp [ih]

lemma resolve_lookup (st : Correlator) (e : DaemonEvent) (k : String) :
    (resolve st e).pending.lookup k =
      if replyId e = some k then none else st.pending.lookup k := by
  unfold resolve
  cases h : replyId e with
  | none => simp
  | some k' =>
    by_cases hkk : k' = k
    · subst hkk
      cases hl : st.pending.lookup k' <;> simp [hl]
    · cases hl : st.pending.lookup k' <;> simp [hl, hkk, AList.lookup_erase_ne (Ne.symm hkk)]

/-- The reply a fold sends for `k`: to the sender `k` had, with the first event carrying `k`. -/
def firstReply (k : String) (es : List DaemonEvent) : Option Nat → List (String × Nat × DaemonEvent)
  | some i =>
    match es.find? (·.id == some k) with
    | some e => if k = "" then [] else [(k, i, e)]
    | none => []
  | none => []

lemma firstReply_empty (es : List DaemonEvent) (s : Option Nat) : firstReply "" es s = [] := by
  cases s with
  | none => rfl
  | some i => simp only [firstReply]; split <;> simp

lemma resolve_replies (st : Correlator) (e : DaemonEvent) (k : String) :
    (resolve st e).replies.filter (·.1 == k) = st.replies.filter (·.1 == k) ++
      if replyId e = some k then (st.pending.lookup k).toList.map (k, ·, e) else [] := by
  unfold resolve
  cases h : replyId e with
  | none => simp
  | some k' =>
    by_cases hkk : k' = k
    · subst hkk
      cases hl : st.pending.lookup k' <;> simp [hl]
    · cases hl : st.pending.lookup k' <;> simp [hl, hkk]

lemma foldl_resolve_lookup (es : List DaemonEvent) (st : Correlator) (k : String) :
    (es.foldl resolve st).pending.lookup k =
      if k ≠ "" ∧ ∃ e ∈ es, e.id = some k then none else st.pending.lookup k := by
  induction es generalizing st with
  | nil => simp
  | cons e es ih =>
    rw [List.foldl_cons, ih, resolve_lookup]
    by_cases he : replyId e = some k
    · obtain ⟨hid, hk⟩ := replyId_eq_some.mp he
      simp [he, hk, hid]
    · have : ¬(e.id = some k ∧ k ≠ "") := fun h => he (replyId_eq_some.mpr h)
      by_cases hk : k = "" <;> simp_all

lemma foldl_resolve_replies (es : List DaemonEvent) (st : Correlator) (k : String) :
    (es.foldl resolve st).replies.filter (·.1 == k) =
      st.replies.filter (·.1 == k) ++ firstReply k es (st.pending.lookup k) := by
  induction es generalizing st with
  | nil => cases st.pending.lookup k <;> simp [firstReply]
  | cons e es ih =>
    rw [List.foldl_cons, ih, resolve_replies, resolve_lookup, List.append_assoc]
    congr 1
    by_cases he : replyId e = some k
    · obtain ⟨hid, hk⟩ := replyId_eq_some.mp he
      cases st.pending.lookup k <;> simp [he, hid, hk, firstReply]
    · by_cases hid : e.id = some k
      · have hk : k = "" := by
          by_contra hk
          exact he (replyId_eq_some.mpr ⟨hid, hk⟩)
        subst hk
        simp [he, firstReply_empty]
      · cases st.pending.lookup k <;> simp [he, hid, firstReply]

lemma mem_firstReply {k : String} {es : List DaemonEvent} {s : Option Nat}
    {r : String × Nat × DaemonEvent} (h : r ∈ firstReply k es s) :
    r.1 = k ∧ k ≠ "" ∧ s = some r.2.1 ∧ r.2.2 ∈ es ∧ r.2.2.id = some k := by
  cases s with
  | none => simp [firstReply] at h
  | some i =>
    simp only [firstReply] at h
    split at h
    · next e he =>
      split_ifs at h with hk
      · simp at h
      · obtain rfl := List.mem_singleton.mp h
        exact ⟨rfl, hk, rfl, List.mem_of_find?_eq_some he, by simpa using List.find?_some he⟩
    · simp at h

/-- `read_stdout` with the lock free: the sink gets the decoded events in order until the send
that fails, and each registered id an event carries is answered once, with its first event. -/
theorem readStdout_correct (room : Nat) (ls : List String) (P : PendingTable) :
    let evs := ls.filterMap lineEvent
    let out := readStdout room (ls.map .line) ⟨P, []⟩ []
    out.2 = evs.take room ∧
    (∀ k : String, out.1.pending.lookup k =
      if k ≠ "" ∧ ∃ e ∈ reached room evs, e.id = some k then none else P.lookup k) ∧
    (∀ k : String, out.1.replies.filter (·.1 == k) = firstReply k (reached room evs) (P.lookup k)) ∧
    (∀ r ∈ out.1.replies, r.1 ≠ "" ∧ r.2.2.id = some r.1 ∧ P.lookup r.1 = some r.2.1) := by
  intro evs out
  have hout : out = ((reached room evs).foldl resolve ⟨P, []⟩, evs.take room) := by
    simpa using readStdout_eq_foldl room ls ⟨P, []⟩ []
  have hrep : ∀ k, out.1.replies.filter (·.1 == k) = firstReply k (reached room evs) (P.lookup k) := by
    intro k
    simpa [hout] using foldl_resolve_replies (reached room evs) ⟨P, []⟩ k
  refine ⟨by rw [hout], fun k => by rw [hout, foldl_resolve_lookup], hrep, fun r hr => ?_⟩
  have : r ∈ firstReply r.1 (reached room evs) (P.lookup r.1) := by
    rw [← hrep]
    simpa using hr
  obtain ⟨-, hk, hs, -, hid⟩ := mem_firstReply this
  exact ⟨hk, hid, hs⟩

end KamuneBridge
