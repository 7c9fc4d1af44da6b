import KamuneBridge.Json

/-!
# Reading JSON text

The reader used for `serde_json::from_str`: whitespace between tokens, the short escapes
and `\uXXXX` (a leading surrogate must be followed by a trailing one), control characters
refused inside strings, numbers by the grammar of `isNumberLexeme`. `parse` gives the reader
one unit of fuel per input character, which no nesting exhausts: serde_json's limit of 128
levels is not modelled, nor the `f64` range, since a number is kept as its lexeme. Objects keep
their members in text order, duplicate keys included.
-/

namespace KamuneBridge

def isWs (c : Char) : Bool := c = ' ' || c = '\t' || c = '\n' || c = '\r'

def skipWs : List Char → List Char
  | [] => []
  | c :: r => if isWs c then skipWs r else c :: r

/-- `decode_hex_val`: both cases are accepted. -/
def hexVal (c : Char) : Option Nat :=
  if c.isDigit then some (c.toNat - '0'.toNat)
  else if 'a' ≤ c ∧ c ≤ 'f' then some (c.toNat - 'a'.toNat + 10)
  else if 'A' ≤ c ∧ c ≤ 'F' then some (c.toNat - 'A'.toNat + 10)
  else none

def hex4 (a b c d : Char) : Option Nat := do
  let a ← hexVal a
  let b ← hexVal b
  let c ← hexVal c
  let d ← hexVal d
  pure (((a * 16 + b) * 16 + c) * 16 + d)

def shortEscape : Char → Option Char
  | '"' => some '"'
  | '\\' => some '\\'
  | '/' => some '/'
  | 'b' => some '\x08'
  | 'f' => some '\x0c'
  | 'n' => some '\n'
  | 'r' => some '\r'
  | 't' => some '\t'
  | _ => none

def consChar (c : Char) : Option (List Char × List Char) → Option (List Char × List Char)
  | some (s, r) => some (c :: s, r)
  | none => none

mutual
/-- The body of a string up to its closing quote, unescaped, and the rest of the input. -/
def readString : List Char → Option (List Char × List Char)
  | [] => none
  | c :: r =>
    if c = '"' then some ([], r)
    else if c = '\\' then readEscape r
    else if c.toNat < 0x20 then none
    else consChar c (readString r)
def readEscape : List Char → Option (List Char × List Char)
  | 'u' :: a :: b :: c :: d :: r =>
    match hex4 a b c d with
    | none => none
    | some n =>
      if n < 0xD800 ∨ 0xE000 ≤ n then consChar (Char.ofNat n) (readString r)
      else if 0xDC00 ≤ n then none
      else readLowSurrogate n r
  | e :: r =>
    match shortEscape e with
    | some c => consChar c (readString r)
    | none => none
  | [] => none
def readLowSurrogate (n : Nat) : List Char → Option (List Char × List Char)
  | '\\' :: 'u' :: a :: b :: c :: d :: r =>
    match hex4 a b c d with
    | some m =>
      if 0xDC00 ≤ m ∧ m < 0xE000 then
        consChar (Char.ofNat (0x10000 + (n - 0xD800) * 0x400 + (m - 0xDC00))) (readString r)
      else none
    | none => none
  | _ => none
end

def readNumber (cs : List Char) : Option (Number × List Char) :=
  if h : isNumberLexeme (cs.takeWhile numberChar) = true then
    some (⟨_, h⟩, cs.dropWhile numberChar)
  else none

/-- A member's key and the colon after it. -/
def readKey (cs : List Char) : Option (String × List Char) :=
  match skipWs cs with
  | '"' :: r =>
    match readString r with
    | some (k, r) =>
      match skipWs r with
      | ':' :: r => some (⟨k⟩, r)
      | _ => none
    | none => none
  | _ => none

mutual
/-- `parse_value`: the first character after whitespace selects the kind of value. -/
def readValue : Nat → List Char → Option (Value × List Char)
  | 0, _ => none
  | n + 1, cs =>
    match skipWs cs with
    | [] => none
    | c :: r =>
      if c = 'n' then
        match r with
        | 'u' :: 'l' :: 'l' :: r => some (.null, r)
        | _ => none
      else if c = 't' then
        match r with
        | 'r' :: 'u' :: 'e' :: r => some (.bool true, r)
        | _ => none
      else if c = 'f' then
        match r with
        | 'a' :: 'l' :: 's' :: 'e' :: r => some (.bool false, r)
        | _ => none
      else if c = '"' then
        match readString r with
        | some (s, r) => some (.string ⟨s⟩, r)
        | none => none
      else if c = '[' then
        let r := skipWs r
        if r.head? = some ']' then some (.array [], r.tail)
        else
          match readValue n r with
          | some (v, r) =>
            match readElems n r with
            | some (vs, r) => some (.array (v :: vs), r)
            | none => none
          | none => none
      else if c = '{' then
        let r := skipWs r
        if r.head? = some '}' then some (.object [], r.tail)
        else
          match readKey r with
          | some (k, r) =>
            match readValue n r with
            | some (v, r) =>
              match readMembers n r with
              | some (kvs, r) => some (.object ((k, v) :: kvs), r)
              | none => none
            | none => none
          | none => none
      else
        match readNumber (c :: r) with
        | some (x, r) => some (.number x, r)
        | none => none
/-- The rest of an array after its first element. -/
def readElems : Nat → List Char → Option (List Value × List Char)
  | 0, _ => none
  | n + 1, cs =>
    match skipWs cs with
    | ']' :: r => some ([], r)
    | ',' :: r =>
      match readValue n r with
      | some (v, r) =>
        match readElems n r with
        | some (vs, r) => some (v :: vs, r)
        | none => none
      | none => none
    | _ => none
/-- The rest of an object after its first member. -/
def readMembers : Nat → List Char → Option (List (String × Value) × List Char)
  | 0, _ => none
  | n + 1, cs =>
    match skipWs cs with
    | '}' :: r => some ([], r)
    | ',' :: r =>
      match readKey r with
      | some (k, r) =>
        match readValue n r with
        | some (v, r) =>
          match readMembers n r with
          | some (kvs, r) => some ((k, v) :: kvs, r)
          | none => none
        | none => none
      | none => none
    | _ => none
end

/-- A whole text holding one JSON value, with whitespace around it. -/
def parse (cs : List Char) : Option Value :=
  match readValue (cs.length + 1) cs with
  | some (v, r) => if skipWs r = [] then some v else none
  | none => none

@[simp] lemma skipWs_cons {c : Char} {r : List Char} (h : isWs c = false) : skipWs (c :: r) = c :: r := by
  simp [skipWs, h]

lemma hexVal_digitChar : ∀ n, n < 16 → hexVal (Nat.digitChar n) = some n := by decide

lemma hex4_escape {c : Char} (h : c.toNat < 0x20) :
    hex4 '0' '0' (Nat.digitChar (c.toNat / 16)) (Nat.digitChar (c.toNat % 16)) = some c.toNat := by
  have h1 := hexVal_digitChar (c.toNat / 16) (by omega)
  have h2 := hexVal_digitChar (c.toNat % 16) (by omega)
  simp only [hex4, h1, h2, show hexVal '0' = some 0 from rfl, Option.pure_def, Option.bind_eq_bind,
    Option.some_bind, Option.some.injEq]
  omega

lemma eq_ofNat_of_toNat {c : Char} {n : Nat} (h : c.toNat = n) : c = Char.ofNat n := by
  rw [← h, Char.ofNat_toNat]

/-- A short escape reads back as the character it stands for. -/
lemma shortEscape_of_escapeOf {c e : Char} (h : escapeOf c = some e) (hu : e ≠ 'u') :
    shortEscape e = some c := by
  unfold escapeOf at h
  split_ifs at h with h1 h2
  · cases h; subst h1; rfl
  · cases h; subst h2; rfl
  · split at h <;> cases h
    all_goals first | exact absurd rfl hu | (rename_i heq; rw [eq_ofNat_of_toNat heq]; rfl)

lemma readEscape_cons {e : Char} (hu : e ≠ 'u') (r : List Char) :
    readEscape (e :: r) = match shortEscape e with
      | some c => consChar c (readString r)
      | none => none :=
  readEscape.eq_2 e r fun _ _ _ _ _ h _ => hu h

/-- Reading back one escaped character. -/
lemma readString_escapeChar (c : Char) (r : List Char) :
    readString (escapeChar c ++ r) = consChar c (readString r) := by
  unfold escapeChar
  split
  · next h =>
    obtain ⟨h1, h2, h3⟩ := escapeOf_eq_none h
    simp [readString, h1, h2, Nat.not_lt.mpr h3]
  · next h =>
    have hc := escapeOf_eq_u h
    simp only [List.cons_append, List.nil_append]
    rw [readString, if_neg (by decide), if_pos rfl, readEscape.eq_1, hex4_escape hc]
    simp [show c.toNat < 0xD800 by omega]
  · next e hu h =>
    simp [readString, readEscape_cons hu, shortEscape_of_escapeOf h hu]

lemma readString_escape (s r : List Char) :
    readString (s.flatMap escapeChar ++ '"' :: r) = some (s, r) := by
  induction s with
  | nil => simp [readString]
  | cons c s ih => rw [List.flatMap_cons, List.append_assoc, readString_escapeChar, ih]; rfl

lemma writeString_append (s : String) (r : List Char) :
    writeString s ++ r = '"' :: (s.toList.flatMap escapeChar ++ '"' :: r) := by
  simp [writeString]

/-- The text after a value: a number reads up to the first character that cannot continue it. -/
def StopsNumber (r : List Char) : Prop := ∀ c ∈ r.head?, numberChar c = false

lemma readNumber_lexeme (x : Number) {r : List Char} (hr : StopsNumber r) :
    readNumber (x.lexeme ++ r) = some (x, r) := by
  have hall := x.lexeme_numberChar
  have hstop : ∀ c t, r = c :: t → numberChar c = false := fun c t h => hr c (by simp [h])
  have ht : (x.lexeme ++ r).takeWhile numberChar = x.lexeme := by
    rw [List.takeWhile_append_of_pos hall]
    cases r with
    | nil => simp
    | cons c t => simp [hstop c t rfl]
  have hd : (x.lexeme ++ r).dropWhile numberChar = r := by
    rw [List.dropWhile_append_of_pos hall]
    cases r with
    | nil => simp
    | cons c t => simp [hstop c t rfl]
  unfold readNumber
  split
  · next h => cases x; simp only [ht, hd] at h ⊢
  · next h => exact absurd (by rw [ht]; exact x.valid) h

/-- A number character is none of the characters that select another kind of value. -/
lemma numberChar_ne {c : Char} (h : numberChar c = true) :
    isWs c = false ∧ c ≠ ']' ∧ c ≠ 'n' ∧ c ≠ 't' ∧ c ≠ 'f' ∧ c ≠ '"' ∧ c ≠ '[' ∧ c ≠ '{' := by
  refine ⟨?_, ?_, ?_, ?_, ?_, ?_, ?_, ?_⟩
  · cases hw : isWs c
    · rfl
    · simp only [isWs, Bool.or_eq_true, decide_eq_true_eq] at hw
      rcases hw with ((rfl | rfl) | rfl) | rfl <;> revert h <;> decide
  all_goals rintro rfl; revert h; decide

/-- What `write` starts with: never whitespace and never a closing bracket. -/
lemma write_head (v : Value) : ∃ c t, write v = c :: t ∧ isWs c = false ∧ c ≠ ']' := by
  cases v with
  | number x =>
    obtain ⟨c, t, hct⟩ := List.exists_cons_of_ne_nil x.lexeme_ne_nil
    obtain ⟨hw, hb, -⟩ := numberChar_ne (x.lexeme_numberChar c (by simp [hct]))
    exact ⟨c, t, by simp [write, hct], hw, hb⟩
  | bool b => cases b <;> exact ⟨_, _, rfl, rfl, by decide⟩
  | array vs => cases vs <;> exact ⟨_, _, rfl, rfl, by decide⟩
  | object kvs =>
    cases kvs with
    | nil => exact ⟨_, _, rfl, rfl, by decide⟩
    | cons kv kvs => exact ⟨'{', _, rfl, rfl, by decide⟩
  | string s => exact ⟨'"', _, rfl, rfl, by decide⟩
  | null => exact ⟨_, _, rfl, rfl, by decide⟩

lemma skipWs_write (v : Value) (r : List Char) : skipWs (write v ++ r) = write v ++ r := by
  obtain ⟨c, t, h, hw, -⟩ := write_head v
  simp [h, skipWs_cons hw]

lemma write_ne_nil (v : Value) : write v ≠ [] := by
  obtain ⟨c, t, h, -⟩ := write_head v
  simp [h]

lemma head_write (v : Value) : (write v).head? ≠ some ']' := by
  obtain ⟨c, t, h, -, hb⟩ := write_head v
  simpa [h] using hb

lemma skipWs_writeString (k : String) (r : List Char) :
    skipWs (writeString k ++ r) = writeString k ++ r := by
  simp [writeString_append, isWs]

lemma head_writeString (k : String) : (writeString k).head? = some '"' := rfl

lemma readKey_writeString (k : String) (r : List Char) :
    readKey (writeString k ++ ':' :: r) = some (k, r) := by
  simp [readKey, writeString_append, isWs, readString_escape]

lemma stops_writeElems (vs : List Value) (r : List Char) : StopsNumber (writeElems vs ++ r) := by
  cases vs <;> simp [StopsNumber, writeElems] <;> decide

lemma stops_writeMembers (kvs : List (String × Value)) (r : List Char) :
    StopsNumber (writeMembers kvs ++ r) := by
  cases kvs <;> simp [StopsNumber, writeMembers] <;> decide

mutual
/-- The fuel reading a value back needs: one unit per value, per element and per member. -/
def size : Value → Nat
  | .array (v :: vs) => size v + sizeElems vs + 1
  | .object ((_, v) :: kvs) => size v + sizeMembers kvs + 1
  | _ => 1
def sizeElems : List Value → Nat
  | [] => 1
  | v :: vs => size v + sizeElems vs + 1
def sizeMembers : List (String × Value) → Nat
  | [] => 1
  | (_, v) :: kvs => size v + sizeMembers kvs + 1
end

lemma size_pos : ∀ v : Value, 0 < size v
  | .array (_ :: _) | .object (_ :: _) => Nat.succ_pos _
  | .null | .bool _ | .number _ | .string _ | .array [] | .object [] => Nat.one_pos

mutual
/-- Reading back what `write` wrote gives the value and leaves the rest of the input. -/
theorem readValue_write : ∀ (v : Value) (n : Nat) (r : List Char), size v ≤ n → StopsNumber r →
    readValue n (write v ++ r) = some (v, r)
  | v, 0, _, h, _ => absurd h (by have := size_pos v; omega)
  | .null, n + 1, r, _, _ => rfl
  | .bool true, n + 1, r, _, _ => rfl
  | .bool false, n + 1, r, _, _ => rfl
  | .number x, n + 1, r, _, hr => by
    obtain ⟨c, t, hct⟩ := List.exists_cons_of_ne_nil x.lexeme_ne_nil
    obtain ⟨hw, -, h1, h2, h3, h4, h5, h6⟩ := numberChar_ne (x.lexeme_numberChar c (by simp [hct]))
    rw [write, hct, List.cons_append, readValue, skipWs_cons hw]
    dsimp only
    rw [if_neg h1, if_neg h2, if_neg h3, if_neg h4, if_neg h5, if_neg h6, ← List.cons_append, ← hct,
      readNumber_lexeme x hr]
  | .string s, n + 1, r, _, _ => by
    rw [write, writeString_append, readValue]
    simp [isWs, readString_escape]
  | .array [], n + 1, r, _, _ => rfl
  | .array (v :: vs), n + 1, r, h, _ => by
    simp only [size] at h
    have hv := readValue_write v n (writeElems vs ++ r) (by omega) (stops_writeElems vs r)
    have hvs := readElems_writeElems vs n r (by omega)
    simp only [write, List.cons_append, List.append_assoc]
    rw [readValue]
    simp [isWs, skipWs_write, head_write, write_ne_nil, hv, hvs]
  | .object [], n + 1, r, _, _ => rfl
  | .object ((k, v) :: kvs), n + 1, r, h, _ => by
    simp only [size] at h
    have hv := readValue_write v n (writeMembers kvs ++ r) (by omega) (stops_writeMembers kvs r)
    have hkvs := readMembers_writeMembers kvs n r (by omega)
    simp only [write, List.cons_append, List.append_assoc]
    rw [readValue]
    simp [isWs, skipWs_writeString, head_writeString, readKey_writeString, hv, hkvs]
theorem readElems_writeElems : ∀ (vs : List Value) (n : Nat) (r : List Char), sizeElems vs ≤ n →
    readElems n (writeElems vs ++ r) = some (vs, r)
  | _, 0, _, h => absurd h (by cases ‹List Value› <;> simp [sizeElems])
  | [], n + 1, r, _ => rfl
  | v :: vs, n + 1, r, h => by
    simp only [sizeElems] at h
    have hv := readValue_write v n (writeElems vs ++ r) (by omega) (stops_writeElems vs r)
    have hvs := readElems_writeElems vs n r (by omega)
    simp only [writeElems, List.cons_append, List.append_assoc]
    rw [readElems]
    simp [isWs, hv, hvs]
theorem readMembers_writeMembers : ∀ (kvs : List (String × Value)) (n : Nat) (r : List Char),
    sizeMembers kvs ≤ n → readMembers n (writeMembers kvs ++ r) = some (kvs, r)
  | _, 0, _, h => absurd h (by cases ‹List (String × Value)› <;> simp [sizeMembers])
  | [], n + 1, r, _ => rfl
  | (k, v) :: kvs, n + 1, r, h => by
    simp only [sizeMembers] at h
    have hv := readValue_write v n (writeMembers kvs ++ r) (by omega) (stops_writeMembers kvs r)
    have hkvs := readMembers_writeMembers kvs n r (by omega)
    simp only [writeMembers, List.cons_append, List.append_assoc]
    rw [readMembers]
    simp [isWs, readKey_writeString, hv, hkvs]
end

mutual
lemma size_le_length : ∀ v : Value, size v ≤ (write v).length
  | .number x => by
    have := List.length_pos.mpr x.lexeme_ne_nil
    simp only [size, write]
    omega
  | .array (v :: vs) => by
    have := size_le_length v
    have := sizeElems_le_length vs
    simp only [size, write, List.length_append, List.length_cons]
    omega
  | .object ((k, v) :: kvs) => by
    have := size_le_length v
    have := sizeMembers_le_length kvs
    simp only [size, write, List.length_append, List.length_cons]
    omega
  | .null | .bool true | .bool false | .array [] | .object [] => by decide
  | .string s => by simp [size, write, writeString]
lemma sizeElems_le_length : ∀ vs : List Value, sizeElems vs ≤ (writeElems vs).length
  | [] => by simp [sizeElems, writeElems]
  | v :: vs => by
    have := size_le_length v
    have := sizeElems_le_length vs
    simp only [sizeElems, writeElems, List.length_append, List.length_cons]
    omega
lemma sizeMembers_le_length : ∀ kvs : List (String × Value), sizeMembers kvs ≤ (writeMembers kvs).length
  | [] => by simp [sizeMembers, writeMembers]
  | (k, v) :: kvs => by
    have := size_le_length v
    have := sizeMembers_le_length kvs
    simp only [sizeMembers, writeMembers, List.length_append, List.length_cons]
    omega
end

/-- The compact text of a value parses back to the value. -/
lemma parse_write (v : Value) : parse (write v) = some v := by
  have h := readValue_write v ((write v).length + 1) [] (by have := size_le_length v; omega)
    (by simp [StopsNumber])
  rw [List.append_nil] at h
  simp [parse, h, skipWs]

end KamuneBridge
