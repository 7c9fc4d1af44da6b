import KamuneBridge.Calls

/-!
# The request handlers

`start_server`, `dial`, `send_message`, `list_sessions` and `close_session` each build one
command, pass it to `send_command_async`, and turn the result into a `CommandResponse`: the
event's data, or the error's text after the handler's own prefix. `send_message` sends its
text as standard base64. Over every run of the bridge, a response that reports success
carries the data of a line the daemon wrote in reply to that very command, and one that
reports failure names one of the five ways a call can fail.
-/

namespace KamuneBridge

/-! ## The payload of `send_message` -/

/-- The alphabet of `base64::engine::general_purpose::STANDARD`. -/
def base64Alphabet : List Char :=
  "ABCDEFGHIJKLMNOPQRSTUVWXYZabcdefghijklmnopqrstuvwxyz0123456789+/".toList

def base64Digit (n : Nat) : Char := base64Alphabet.getD n '='

/-- `STANDARD.encode`: each three bytes become four digits of six bits; one or two bytes left
at the end are padded with `=` to four digits. -/
def base64Encode : List UInt8 → List Char
  | a :: b :: c :: rest =>
    [base64Digit (a.toNat / 4), base64Digit (a.toNat % 4 * 16 + b.toNat / 16),
      base64Digit (b.toNat % 16 * 4 + c.toNat / 64), base64Digit (c.toNat % 64)] ++ base64Encode rest
  | [a, b] =>
    [base64Digit (a.toNat / 4), base64Digit (a.toNat % 4 * 16 + b.toNat / 16),
      base64Digit (b.toNat % 16 * 4), '=']
  | [a] => [base64Digit (a.toNat / 4), base64Digit (a.toNat % 4 * 16), '=', '=']
  | [] => []

example : base64Encode "foobar".toUTF8.data.toList = "Zm9vYmFy".toList := by decide

/-! ## The handlers -/

/-- What a request handler sends, and the text its error responses start with. -/
structure Request where
  cmd : String
  params : Value
  failure : String

/-- `DaemonCommand::new(cmd, params)`, with `id` the uuid it draws. -/
def Request.command (r : Request) (id : String) : DaemonCommand := DaemonCommand.new r.cmd id r.params

/-- The handler's `match` on what `send_command_async` returned. -/
def Request.respond (r : Request) : Except DaemonError DaemonEvent → CommandResponse
  | .ok e => .successWith e.data
  | .error e => .errorWith (r.failure ++ e.message)

/-- The `json!` object of `start_server` and `dial`, its keys in the sorted order of `Map`. -/
def serverParams (addr : String) (storagePath : Option String) (noPassphrase : Option Bool) : Value :=
  .object [("addr", .string addr), ("db_no_passphrase", .bool (noPassphrase.getD true)),
    ("storage_path", .string (storagePath.getD ""))]

def startServer (addr : String) (storagePath : Option String) (noPassphrase : Option Bool) : Request :=
  ⟨"start_server", serverParams addr storagePath noPassphrase, "Failed to start server: "⟩

def dial (addr : String) (storagePath : Option String) (noPassphrase : Option Bool) : Request :=
  ⟨"dial", serverParams addr storagePath noPassphrase, "Failed to dial: "⟩

/-- `send_message` sends the base64 of the text's UTF-8 bytes. -/
def sendMessage (sessionId message : String) : Request :=
  ⟨"send_message", .object [("data_base64", .string ⟨base64Encode message.toUTF8.data.toList⟩),
    ("session_id", .string sessionId)], "Failed to send message: "⟩

def listSessions : Request := ⟨"list_sessions", .object [], "Failed to list sessions: "⟩

def closeSession (sessionId : String) : Request :=
  ⟨"close_session", .object [("session_id", .string sessionId)], "Failed to close session: "⟩

/-! ## What a handler responds -/

/-- A handler's response is the data of a daemon's event carrying the call's id, or its prefix
and the text of `NotRunning`, the timeout, the dropped sender or a failed write. -/
theorem request_response {s : Sys} (hs : Reachable s) (r : Request) {i : Nat} {c : Caller}
    {id : String} {res : Except DaemonError DaemonEvent} (hc : s.callers i = some c)
    (hcmd : c.cmd = r.command id) (hres : c.pc.result = some res) :
    (∃ e, r.respond res = .successWith e.data ∧ e.id = some id ∧ id ≠ "" ∧
      ∃ l ∈ s.lines, lineEvent l = some e) ∨
    ∃ e, r.respond res = .errorWith (r.failure ++ e.message) ∧ CallError e := by
  cases res with
  | ok e =>
    have hpc : c.pc = .done (.ok e) := by
      cases hp : c.pc <;> simp_all [CallerPc.result]
    obtain ⟨h1, h2, h3⟩ := hs.inv.holds i c e hc (.inr hpc)
    rw [hcmd] at h1 h2
    exact .inl ⟨e, rfl, h1, h2, h3⟩
  | error e => exact .inr ⟨e, rfl, (hs.errorsOk hc).2 e hres⟩

/-- The daemon's reply to `list_sessions` sent with the uuid `b`. -/
def replyB : String := "\x7b\"type\":\"evt\",\"evt\":\"sessions\",\"id\":\"b\",\"data\":[]\x7d"

def eventB : DaemonEvent := ⟨"evt", "sessions", some "b", .array []⟩

/-- `list_sessions` answered by the daemon. -/
def listedTrace : List Action :=
  [devStart, .call (listSessions.command "b"), .lockBridge 0, .lockPending 0, .insert 0, .send 0 .ok,
    .emit 0 replyB, .readLine 0, .tryLock 0, .remove 0, .reply 0, .forward 0, .recv 0]

def listed : Sys := (run Sys.init listedTrace).getD Sys.init

theorem listed_response :
    (∃ e, listSessions.respond (.ok eventB) = .successWith e.data ∧ e.id = some "b" ∧ "b" ≠ "" ∧
      ∃ l ∈ listed.lines, lineEvent l = some e) ∨
    ∃ e, listSessions.respond (.ok eventB) = .errorWith (listSessions.failure ++ e.message) ∧
      CallError e :=
  request_response (run_reachable .init (rfl : run Sys.init listedTrace = some listed)) listSessions
    (rfl : listed.callers 0 = some ⟨listSessions.command "b", .done (.ok eventB), .full (.ok eventB)⟩)
    rfl rfl

end KamuneBridge
