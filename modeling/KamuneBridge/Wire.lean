import KamuneBridge.JsonRead

/-!
# Commands, events and line framing

`DaemonCommand` is written with the derived `Serialize` and `writeln!`; `DaemonEvent` is
read with the derived `Deserialize` through `serde_json::from_str`, which accepts a map
(unknown fields ignored, a repeated field refused, `id` defaulting to `None`) or a
four-element sequence. `lines` is `BufRead::lines` on the bytes of a pipe.
-/

namespace KamuneBridge

/-- `DaemonError`. `SpawnError` and `JsonError` carry the text of the error they wrap. -/
inductive DaemonError
  | notRunning
  | alreadyRunning
  | spawnError (e : String)
  | binaryNotFound (msg : String)
  | sendError (msg : String)
  | jsonError (e : String)
  | timeout
  | daemonError (msg : String)
  deriving DecidableEq, Repr

/-- The `#[error(...)]` text of each variant. -/
def DaemonError.message : DaemonError → String
  | .notRunning => "daemon not running"
  | .alreadyRunning => "daemon already running"
  | .spawnError e => "failed to spawn daemon: " ++ e
  | .binaryNotFound msg => "daemon binary not found: " ++ msg
  | .sendError msg => "failed to send command: " ++ msg
  | .jsonError e => "failed to parse JSON: " ++ e
  | .timeout => "command timeout"
  | .daemonError msg => "daemon error: " ++ msg

structure DaemonCommand where
  msgType : String
  cmd : String
  id : String
  params : Value

/-- `DaemonCommand::new`; `id` is the string of the `Uuid::new_v4` the constructor draws. -/
def DaemonCommand.new (cmd id : String) (params : Value) : DaemonCommand :=
  { msgType := "cmd", cmd := cmd, id := id, params := params }

/-- The derived `Serialize`: the fields in declaration order, `msg_type` renamed to `type`. -/
def DaemonCommand.toValue (c : DaemonCommand) : Value :=
  .object [("type", .string c.msgType), ("cmd", .string c.cmd), ("id", .string c.id),
    ("params", c.params)]

/-- `serde_json::to_string(&command)`, which cannot fail on a command. -/
def DaemonCommand.toJson (c : DaemonCommand) : String := toJsonString c.toValue

/-- The bytes `writeln!(stdin, "{}", json)` writes for a command. -/
def frame (c : DaemonCommand) : List Char := c.toJson.toList ++ ['\n']

structure DaemonEvent where
  msgType : String
  evt : String
  id : Option String
  data : Value

def asString : Value → Option String
  | .string s => some s
  | _ => none

/-- `Option<String>`: `null` is `None`. -/
def asOptString : Value → Option (Option String)
  | .null => some none
  | .string s => some (some s)
  | _ => none

/-- The fields the derived `visit_map` has seen so far. -/
structure EventFields where
  msgType : Option String := none
  evt : Option String := none
  id : Option (Option String) := none
  data : Option Value := none

/-- One entry of the map: a known field is refused when it was already seen. -/
def visitField (f : EventFields) (kv : String × Value) : Option EventFields :=
  if kv.1 = "type" then
    if f.msgType.isSome then none else (asString kv.2).map fun s => { f with msgType := some s }
  else if kv.1 = "evt" then
    if f.evt.isSome then none else (asString kv.2).map fun s => { f with evt := some s }
  else if kv.1 = "id" then
    if f.id.isSome then none else (asOptString kv.2).map fun s => { f with id := some s }
  else if kv.1 = "data" then
    if f.data.isSome then none else some { f with data := some kv.2 }
  else some f

/-- The derived `Deserialize` of `DaemonEvent` on a parsed value. -/
def DaemonEvent.ofValue : Value → Option DaemonEvent
  | .object kvs => do
    let f ← kvs.foldlM visitField {}
    let t ← f.msgType
    let e ← f.evt
    let d ← f.data
    pure ⟨t, e, f.id.getD none, d⟩
  | .array [t, e, i, d] => do
    let t ← asString t
    let e ← asString e
    let i ← asOptString i
    pure ⟨t, e, i, d⟩
  | _ => none

/-- `serde_json::from_str::<DaemonEvent>`. -/
def DaemonEvent.fromStr (line : String) : Option DaemonEvent :=
  (parse line.toList).bind DaemonEvent.ofValue

/-- The event of `test_daemon_event_deserialization`: no `id`, so `None`. -/
example : (DaemonEvent.fromStr
    "\x7b\"type\":\"evt\",\"evt\":\"ready\",\"data\":\x7b\"version\":\"1.0.0\"\x7d\x7d").map
    (fun e => (e.msgType, e.evt, e.id)) = some ("evt", "ready", none) := by decide

/-- The `\r` that `lines` drops before a `\n`; the line is reversed, so it is the head. -/
def dropCR : List Char → List Char
  | '\r' :: a => a
  | a => a

/-- `BufRead::lines` from a partial line `acc` (reversed): a line ends at `\n`, which is
dropped with one `\r` before it; a last line without `\n` is kept. -/
def linesAux (acc : List Char) : List Char → List (List Char)
  | [] => if acc.isEmpty then [] else [acc.reverse]
  | c :: r => if c = '\n' then (dropCR acc).reverse :: linesAux [] r else linesAux (c :: acc) r

def lines (cs : List Char) : List (List Char) := linesAux [] cs

/-- A command's JSON text holds no control character, so no line break. -/
lemma toJson_toNat (c : DaemonCommand) : ∀ d ∈ c.toJson.toList, 0x20 ≤ d.toNat :=
  write_toNat c.toValue

lemma parse_toJson (c : DaemonCommand) : parse c.toJson.toList = some c.toValue :=
  parse_write c.toValue

lemma dropCR_of_ne {a : List Char} (h : ∀ d ∈ a.head?, d ≠ '\r') : dropCR a = a := by
  cases a with
  | nil => rfl
  | cons d a => simp_all [dropCR]

lemma linesAux_line (acc l r : List Char) (hl : '\n' ∉ l) (hr : ∀ d ∈ acc ++ l, d ≠ '\r') :
    linesAux acc.reverse (l ++ '\n' :: r) = (acc ++ l) :: linesAux [] r := by
  induction l generalizing acc with
  | nil =>
    have : dropCR acc.reverse = acc.reverse :=
      dropCR_of_ne fun d hd => hr d (by simpa using List.mem_reverse.mp (List.mem_of_mem_head? hd))
    simp [linesAux, this]
  | cons c l ih =>
    have hc : c ≠ '\n' := fun h => hl (h ▸ List.mem_cons_self _ _)
    rw [List.cons_append, linesAux, if_neg hc, ← List.reverse_concat,
      ih (acc ++ [c]) (fun h => hl (List.mem_cons_of_mem _ h)) (by simpa using hr)]
    simp

/-- Splitting lines each followed by `\n` gives the lines back. -/
lemma lines_flatMap (ls : List (List Char)) (h : ∀ l ∈ ls, ∀ d ∈ l, 0x20 ≤ d.toNat) :
    lines (ls.flatMap (· ++ ['\n'])) = ls := by
  induction ls with
  | nil => rfl
  | cons l ls ih =>
    have hl : ∀ d ∈ l, 0x20 ≤ d.toNat := h l (List.mem_cons_self _ _)
    have := linesAux_line [] l (ls.flatMap (· ++ ['\n']))
      (fun hn => absurd (hl _ hn) (by decide))
      (fun d hd hr => absurd (hl d (by simpa using hd)) (by rw [hr]; decide))
    simp only [lines, List.flatMap_cons, List.append_assoc, List.singleton_append, List.reverse_nil,
      List.nil_append] at this ih ⊢
    rw [this, ih fun l' hl' => h l' (List.mem_cons_of_mem _ hl')]

end KamuneBridge
