import Mathlib.Data.List.Basic

/-!
# JSON values and the compact writer

`Value` is `serde_json::Value` and `write` is the compact formatter behind
`serde_json::to_string`: no whitespace, members in the order the map holds them, and
strings escaped as `format_escaped_str` does. A number is kept as the lexeme the formatter
prints for it (itoa for integers, ryu for floats); `Number` records that the lexeme is a
JSON number, which is all the bridge relies on.
-/

namespace KamuneBridge

/-- States of the automaton for `-? (0 | [1-9][0-9]*) (. [0-9]+)? ([eE] [+-]? [0-9]+)?`. -/
inductive NumState
  | start | sign | zero | int | dot | frac | exp | expSign | expDigits
  deriving DecidableEq, Repr

/-- After the integer part: a fraction or an exponent may start. -/
def expStart (c : Char) : Option NumState :=
  if c = 'e' ∨ c = 'E' then some .exp else none

def fracOrExp (c : Char) : Option NumState :=
  if c = '.' then some .dot else expStart c

def digitStart (c : Char) : Option NumState :=
  if c = '0' then some .zero else if c.isDigit then some .int else none

def numStep (q : NumState) (c : Char) : Option NumState :=
  match q with
  | .start => if c = '-' then some .sign else digitStart c
  | .sign => digitStart c
  | .zero => fracOrExp c
  | .int => if c.isDigit then some .int else fracOrExp c
  | .dot => if c.isDigit then some .frac else none
  | .frac => if c.isDigit then some .frac else expStart c
  | .exp => if c = '+' ∨ c = '-' then some .expSign else if c.isDigit then some .expDigits else none
  | .expSign => if c.isDigit then some .expDigits else none
  | .expDigits => if c.isDigit then some .expDigits else none

def NumState.accepting : NumState → Bool
  | .zero | .int | .frac | .expDigits => true
  | _ => false

/-- The JSON number grammar. -/
def isNumberLexeme (cs : List Char) : Bool :=
  match cs.foldlM numStep .start with
  | some q => q.accepting
  | none => false

/-- The characters a number lexeme is made of. -/
def numberChar (c : Char) : Bool :=
  c.isDigit || c = '-' || c = '+' || c = '.' || c = 'e' || c = 'E'

/-- A JSON number, as the lexeme `serde_json` prints for it. -/
structure Number where
  lexeme : List Char
  valid : isNumberLexeme lexeme = true

/-- `serde_json::Value`. Object members are kept in the order the map yields them. -/
inductive Value
  | null
  | bool (b : Bool)
  | number (n : Number)
  | string (s : String)
  | array (vs : List Value)
  | object (kvs : List (String × Value))

/-- The `ESCAPE` table of `format_escaped_str`: the letter after the backslash, `u` for a
control character without a short form, nothing for a character written as it is. -/
def escapeOf (c : Char) : Option Char :=
  if c = '"' then some '"'
  else if c = '\\' then some '\\'
  else if c.toNat < 0x20 then
    some (match c.toNat with
      | 8 => 'b'
      | 9 => 't'
      | 10 => 'n'
      | 12 => 'f'
      | 13 => 'r'
      | _ => 'u')
  else none

/-- What `format_escaped_str` writes for one character of a string. -/
def escapeChar (c : Char) : List Char :=
  match escapeOf c with
  | none => [c]
  | some 'u' => ['\\', 'u', '0', '0', Nat.digitChar (c.toNat / 16), Nat.digitChar (c.toNat % 16)]
  | some e => ['\\', e]

def writeString (s : String) : List Char :=
  '"' :: s.toList.flatMap escapeChar ++ ['"']

mutual
/-- The compact JSON text of a value. -/
def write : Value → List Char
  | .null => ['n', 'u', 'l', 'l']
  | .bool true => ['t', 'r', 'u', 'e']
  | .bool false => ['f', 'a', 'l', 's', 'e']
  | .number n => n.lexeme
  | .string s => writeString s
  | .array [] => ['[', ']']
  | .array (v :: vs) => '[' :: write v ++ writeElems vs
  | .object [] => ['{', '}']
  | .object ((k, v) :: kvs) => '{' :: writeString k ++ ':' :: write v ++ writeMembers kvs
/-- The elements after the first, each behind a comma, and the closing bracket. -/
def writeElems : List Value → List Char
  | [] => [']']
  | v :: vs => ',' :: write v ++ writeElems vs
def writeMembers : List (String × Value) → List Char
  | [] => ['}']
  | (k, v) :: kvs => ',' :: writeString k ++ ':' :: write v ++ writeMembers kvs
end

/-- `serde_json::to_string`. -/
def toJsonString (v : Value) : String := ⟨write v⟩

lemma isDigit_iff {c : Char} : c.isDigit = true ↔ 48 ≤ c.toNat ∧ c.toNat ≤ 57 := by
  simp only [Char.isDigit, Bool.and_eq_true, decide_eq_true_eq, ge_iff_le, UInt32.le_def,
    BitVec.le_def]
  rfl

lemma numberChar_toNat {c : Char} (h : numberChar c = true) : 0x20 ≤ c.toNat := by
  simp only [numberChar, Bool.or_eq_true, decide_eq_true_eq] at h
  rcases h with ((((h | rfl) | rfl) | rfl) | rfl) | rfl
  · have := (isDigit_iff.mp h).1
    omega
  all_goals decide

/-- Every transition of the number automaton reads a number character. -/
lemma numStep_numberChar {q q' : NumState} {c : Char} (h : numStep q c = some q') :
    numberChar c = true := by
  by_contra hc
  simp only [numberChar, Bool.or_eq_true, decide_eq_true_eq, not_or, Bool.not_eq_true] at hc
  obtain ⟨⟨⟨⟨⟨hd, h1⟩, h2⟩, h3⟩, h4⟩, h5⟩ := hc
  have h0 : c ≠ '0' := by rintro rfl; exact absurd hd (by decide)
  cases q <;> simp [numStep, digitStart, fracOrExp, expStart, hd, h0, h1, h2, h3, h4, h5] at h

lemma foldlM_numStep_numberChar : ∀ (cs : List Char) (q q' : NumState),
    cs.foldlM numStep q = some q' → ∀ c ∈ cs, numberChar c = true
  | [], _, _, _ => by simp
  | c :: cs, q, q', h => by
    simp only [List.foldlM_cons, Option.bind_eq_bind, Option.bind_eq_some] at h
    obtain ⟨q₁, h₁, h₂⟩ := h
    simpa [numStep_numberChar h₁] using foldlM_numStep_numberChar cs q₁ q' h₂

lemma Number.lexeme_numberChar (n : Number) : ∀ c ∈ n.lexeme, numberChar c = true := by
  have h := n.valid
  unfold isNumberLexeme at h
  split at h
  · exact foldlM_numStep_numberChar _ _ _ (by assumption)
  · cases h

lemma Number.lexeme_ne_nil (n : Number) : n.lexeme ≠ [] := by
  intro h
  have hv := n.valid
  simp [isNumberLexeme, h, NumState.accepting] at hv

lemma escapeOf_eq_none {c : Char} (h : escapeOf c = none) :
    c ≠ '"' ∧ c ≠ '\\' ∧ 0x20 ≤ c.toNat := by
  unfold escapeOf at h
  split_ifs at h with h1 h2 h3
  exact ⟨h1, h2, by omega⟩

lemma escapeOf_eq_some {c e : Char} (h : escapeOf c = some e) :
    e = '"' ∨ e = '\\' ∨ e = 'b' ∨ e = 't' ∨ e = 'n' ∨ e = 'f' ∨ e = 'r' ∨ e = 'u' := by
  unfold escapeOf at h
  split_ifs at h <;> cases h
  · simp
  · simp
  · split <;> simp

lemma escapeOf_eq_u {c : Char} (h : escapeOf c = some 'u') : c.toNat < 0x20 := by
  unfold escapeOf at h
  split_ifs at h with h1 h2 h3
  · cases h
  · cases h
  · exact h3

lemma escapeChar_toNat (c : Char) : ∀ d ∈ escapeChar c, 0x20 ≤ d.toNat := by
  have hex : ∀ n, n < 16 → 0x20 ≤ (Nat.digitChar n).toNat := by decide
  unfold escapeChar
  split
  · simpa using (escapeOf_eq_none (by assumption)).2.2
  · have hc := escapeOf_eq_u (by assumption)
    simp only [List.mem_cons, List.mem_singleton, List.not_mem_nil, or_false]
    rintro d (rfl | rfl | rfl | rfl | rfl | rfl)
    any_goals decide
    all_goals exact hex _ (by omega)
  · next _ e _ he =>
    simp only [List.mem_cons, List.mem_singleton, List.not_mem_nil, or_false]
    rintro d (rfl | rfl)
    · decide
    · rcases escapeOf_eq_some he with rfl | rfl | rfl | rfl | rfl | rfl | rfl | rfl <;> decide

lemma writeString_toNat (s : String) : ∀ d ∈ writeString s, 0x20 ≤ d.toNat := by
  simp only [writeString, List.cons_append, List.mem_cons, List.mem_append, List.mem_flatMap,
    List.mem_singleton, List.not_mem_nil, or_false]
  rintro d (rfl | ⟨c, -, hd⟩ | rfl)
  · decide
  · exact escapeChar_toNat c d hd
  · decide

mutual
/-- The compact writer emits no control character: every character is at least U+0020. -/
theorem write_toNat : ∀ v : Value, ∀ d ∈ write v, 0x20 ≤ d.toNat
  | .null | .bool true | .bool false | .array [] | .object [] => by decide
  | .number n => fun d hd => numberChar_toNat (n.lexeme_numberChar d hd)
  | .string s => writeString_toNat s
  | .array (v :: vs) => by
    simp only [write, List.cons_append, List.append_assoc, List.mem_cons, List.mem_append]
    rintro d (rfl | hd | hd)
    · decide
    · exact write_toNat v d hd
    · exact writeElems_toNat vs d hd
  | .object ((k, v) :: kvs) => by
    simp only [write, List.cons_append, List.append_assoc, List.mem_cons, List.mem_append]
    rintro d (rfl | hd | rfl | hd | hd)
    · decide
    · exact writeString_toNat k d hd
    · decide
    · exact write_toNat v d hd
    · exact writeMembers_toNat kvs d hd
theorem writeElems_toNat : ∀ vs : List Value, ∀ d ∈ writeElems vs, 0x20 ≤ d.toNat
  | [] => by decide
  | v :: vs => by
    simp only [writeElems, List.cons_append, List.mem_cons, List.mem_append]
    rintro d (rfl | hd | hd)
    · decide
    · exact write_toNat v d hd
    · exact writeElems_toNat vs d hd
theorem writeMembers_toNat : ∀ kvs : List (String × Value), ∀ d ∈ writeMembers kvs, 0x20 ≤ d.toNat
  | [] => by decide
  | (k, v) :: kvs => by
    simp only [writeMembers, List.cons_append, List.append_assoc, List.mem_cons,
      List.mem_append]
    rintro d (rfl | hd | rfl | hd | hd)
    · decide
    · exact writeString_toNat k d hd
    · decide
    · exact write_toNat v d hd
    · exact writeMembers_toNat kvs d hd
end

end KamuneBridge
