import Pactra.Foundation.Json
import Pactra.Foundation.Text

/-!
# Serialized JSON is unambiguous

The compact serialization with sorted keys names one value: two values with the same text are equal
up to the order of the entries in their objects. The proof follows the text from left to right. The
text of a value, followed by what may follow it, determines the value and what is left; the first
character tells the kind of value, and a number ends where the next character belongs to no number.

## Main results

- `readChar_escapeChar` — an escaped character can be read back
- `quote_append_inj` — a string literal ends at its closing quote
- `text_append_inj` — the text of a value determines it and where it ends
- `canon_eq_of_dumps` — equal serializations are of equal values
-/

namespace Json

-- ════════════════════════════════════════════════════════════════════════
-- Bytes
-- ════════════════════════════════════════════════════════════════════════

/-- A character with plain bytes needs no escape. -/
lemma plain_of_bytes {c : Char} (h : ∀ b ∈ String.utf8EncodeChar c, plainByte b = true) :
    32 ≤ c.toNat ∧ c.toNat < 127 ∧ c.toNat ≠ 34 ∧ c.toNat ≠ 92 := by
  have hplain : ∀ n : Nat, n < 256 → plainByte (UInt8.ofNat n) = true →
      32 ≤ n ∧ n < 127 ∧ n ≠ 34 ∧ n ≠ 92 := by
    intro n hn hb
    simp only [plainByte, UInt8.toNat_ofNat', Bool.and_eq_true, Nat.ble_eq, Nat.blt_eq,
      bne_iff_ne] at hb
    omega
  unfold String.utf8EncodeChar at h
  dsimp only at h
  -- a lead byte of more than one is beyond the plain ones
  split at h
  · next hv => exact hplain c.val.toNat (by omega) (h _ List.mem_cons_self)
  split at h
  · have := hplain _ (by omega) (h _ List.mem_cons_self)
    omega
  split at h
  · have := hplain _ (by omega) (h _ List.mem_cons_self)
    omega
  · have := hplain _ (by omega) (h _ List.mem_cons_self)
    omega

-- ════════════════════════════════════════════════════════════════════════
-- Strings
-- ════════════════════════════════════════════════════════════════════════

/-- The number that a hexadecimal digit stands for. -/
def hexValue (c : Char) : Nat := if c.toNat < 58 then c.toNat - 48 else c.toNat - 87

lemma hexValue_hexDigit : ∀ {n : Nat}, n < 16 → hexValue (hexDigit n) = n := by decide

/-- Read four hexadecimal digits. -/
def readHex4 : List Char → Option (Nat × List Char)
  | a :: b :: c :: d :: r =>
    some (4096 * hexValue a + 256 * hexValue b + 16 * hexValue c + hexValue d, r)
  | _ => none

lemma readHex4_hex4 {n : Nat} (h : n < 65536) (r : List Char) :
    readHex4 ((hex4 n).toList ++ r) = some (n, r) := by
  have hdigits : 4096 * (n / 4096 % 16) + 256 * (n / 256 % 16) + 16 * (n / 16 % 16) + n % 16 = n := by
    omega
  simp [hex4, readHex4, hexValue_hexDigit, Nat.mod_lt, hdigits]

/-- Read the rest of an escape, after its backslash. -/
def readEscape : List Char → Option (Char × List Char)
  | '"' :: r => some ('"', r)
  | '\\' :: r => some ('\\', r)
  | 'n' :: r => some ('\n', r)
  | 'r' :: r => some ('\r', r)
  | 't' :: r => some ('\t', r)
  | 'b' :: r => some (Char.ofNat 8, r)
  | 'f' :: r => some (Char.ofNat 12, r)
  | 'u' :: r =>
    match readHex4 r with
    | none => none
    | some (n, r) =>
      -- a leading surrogate is followed by the other half of the pair
      if 55296 ≤ n ∧ n < 56320 then
        match readHex4 (r.drop 2) with
        | none => none
        | some (m, r) => some (Char.ofNat (65536 + (n - 55296) * 1024 + (m - 56320)), r)
      else some (Char.ofNat n, r)
  | _ => none

/-- Read one character of a string literal. -/
def readChar : List Char → Option (Char × List Char)
  | [] => none
  | '\\' :: r => readEscape r
  | c :: r => some (c, r)

/-- How a character appears in a string literal: as a backslash and one more character, as one
or two escaped code units, or as itself. -/
inductive Escaped (ensureAscii : Bool) (c : Char) : String → Prop
  | short (k : Char) (text : String) (ht : text.toList = ['\\', k])
    (hread : ∀ r, readEscape (k :: r) = some (c, r)) (hk : 32 ≤ k.toNat ∧ k.toNat < 127) :
    Escaped ensureAscii c text
  | unit (h : c.toNat < 65536) : Escaped ensureAscii c ("\\u" ++ hex4 c.toNat)
  | pair (hi lo : Nat) (hhi : 55296 ≤ hi ∧ hi < 56320) (hlo : lo < 65536)
    (hc : c.toNat = 65536 + (hi - 55296) * 1024 + (lo - 56320)) :
    Escaped ensureAscii c ("\\u" ++ hex4 hi ++ "\\u" ++ hex4 lo)
  | plain (h : 32 ≤ c.toNat) (hne : c ≠ '\\') (ha : ensureAscii = true → c.toNat < 127) :
    Escaped ensureAscii c c.toString

lemma escaped_escapeChar (ensureAscii : Bool) (c : Char) :
    Escaped ensureAscii c (escapeChar ensureAscii c) := by
  have hof : ∀ {n : Nat}, c.toNat = n → Char.ofNat n = c := by
    rintro _ rfl
    exact Char.ofNat_toNat c
  have hscalar : c.toNat < 55296 ∨ 57343 < c.toNat ∧ c.toNat < 1114112 := c.valid
  unfold escapeChar
  by_cases h₁ : c = '"'
  · rw [if_pos h₁, h₁]
    exact .short '"' _ rfl (fun _ => rfl) (by decide)
  by_cases h₂ : c = '\\'
  · rw [if_neg h₁, if_pos h₂, h₂]
    exact .short '\\' _ rfl (fun _ => rfl) (by decide)
  by_cases h₃ : c = '\n'
  · rw [if_neg h₁, if_neg h₂, if_pos h₃, h₃]
    exact .short 'n' _ rfl (fun _ => rfl) (by decide)
  by_cases h₄ : c = '\r'
  · rw [if_neg h₁, if_neg h₂, if_neg h₃, if_pos h₄, h₄]
    exact .short 'r' _ rfl (fun _ => rfl) (by decide)
  by_cases h₅ : c = '\t'
  · rw [if_neg h₁, if_neg h₂, if_neg h₃, if_neg h₄, if_pos h₅, h₅]
    exact .short 't' _ rfl (fun _ => rfl) (by decide)
  rw [if_neg h₁, if_neg h₂, if_neg h₃, if_neg h₄, if_neg h₅]
  by_cases h₆ : c.toNat = 8
  · rw [if_pos h₆]
    exact .short 'b' _ rfl (fun r => congrArg (fun c => some (c, r)) (hof h₆)) (by decide)
  by_cases h₇ : c.toNat = 12
  · rw [if_neg h₆, if_pos h₇]
    exact .short 'f' _ rfl (fun r => congrArg (fun c => some (c, r)) (hof h₇)) (by decide)
  rw [if_neg h₆, if_neg h₇]
  by_cases h₈ : c.toNat < 32
  · rw [if_pos h₈]
    exact .unit (by omega)
  rw [if_neg h₈]
  by_cases h₉ : (ensureAscii && decide (127 ≤ c.toNat)) = true
  · rw [if_pos h₉]
    by_cases h₁₀ : c.toNat < 65536
    · rw [if_pos h₁₀]
      exact .unit h₁₀
    · rw [if_neg h₁₀]
      exact .pair _ _ (by omega) (by omega) (by omega)
  · rw [if_neg h₉]
    refine .plain (by omega) h₂ fun ha => ?_
    by_contra hc
    exact h₉ (by rw [ha, Bool.true_and]; exact decide_eq_true (by omega))

/-- An escaped character can be read back. -/
theorem readChar_escapeChar (ensureAscii : Bool) (c : Char) (r : List Char) :
    readChar ((escapeChar ensureAscii c).toList ++ r) = some (c, r) := by
  have hof : ∀ {n : Nat}, c.toNat = n → Char.ofNat n = c := by
    rintro _ rfl
    exact Char.ofNat_toNat c
  have hscalar : c.toNat < 55296 ∨ 57343 < c.toNat ∧ c.toNat < 1114112 := c.valid
  have hu : ("\\u" : String).toList = ['\\', 'u'] := rfl
  have hread : ∀ l, readChar (['\\', 'u'] ++ l) = readEscape ('u' :: l) := fun _ => rfl
  have h := escaped_escapeChar ensureAscii c
  generalize escapeChar ensureAscii c = s at h
  cases h with
  | short k text ht hread =>
    rw [ht]
    exact hread r
  | unit hc =>
    have hlead : ¬(55296 ≤ c.toNat ∧ c.toNat < 56320) := by omega
    rw [String.toList_append, hu, List.append_assoc, hread]
    simp only [readEscape, readHex4_hex4 hc, hlead, if_false, hof]
  | pair hi lo hhi hlo hc =>
    rw [String.append_assoc, String.toList_append, String.toList_append, String.toList_append, hu]
    simp only [List.append_assoc, hread]
    simp only [readEscape, readHex4_hex4 (show hi < 65536 by omega), if_pos hhi,
      List.cons_append, List.nil_append, List.drop_succ_cons, List.drop_zero, readHex4_hex4 hlo]
    rw [hof hc]
  | plain _ hne => simp [readChar]

/-- The characters between the quotes of a string literal. -/
def escaped (ensureAscii : Bool) (s : List Char) : List Char :=
  s.flatMap fun c => (escapeChar ensureAscii c).toList

/-- A text of plain characters is its own escaped form. -/
lemma escapeChar_of_plain (ensureAscii : Bool) {c : Char}
    (h : 32 ≤ c.toNat ∧ c.toNat < 127 ∧ c.toNat ≠ 34 ∧ c.toNat ≠ 92) :
    escapeChar ensureAscii c = c.toString := by
  have hne : ∀ d : Char, c.toNat ≠ d.toNat → c ≠ d := fun d hd heq => hd (congrArg Char.toNat heq)
  have hquote : c ≠ '"' := hne _ (show c.toNat ≠ 34 by omega)
  have hbackslash : c ≠ '\\' := hne _ (show c.toNat ≠ 92 by omega)
  have hnewline : c ≠ '\n' := hne _ (show c.toNat ≠ 10 by omega)
  have hreturn : c ≠ '\r' := hne _ (show c.toNat ≠ 13 by omega)
  have htab : c ≠ '\t' := hne _ (show c.toNat ≠ 9 by omega)
  have hascii : ¬(ensureAscii && decide (127 ≤ c.toNat)) = true := by
    simp only [Bool.and_eq_true, decide_eq_true_eq, not_and]
    omega
  unfold escapeChar
  rw [if_neg hquote, if_neg hbackslash, if_neg hnewline, if_neg hreturn, if_neg htab,
    if_neg (by omega), if_neg (by omega), if_neg (by omega), if_neg hascii]

/-- A string literal is the escaped text between quotes. -/
theorem quote_toList (ensureAscii : Bool) (s : String) :
    (quote ensureAscii s).toList = '"' :: (escaped ensureAscii s.toList ++ ['"']) := by
  unfold quote
  split
  · next hplain =>
    have hsame : escaped ensureAscii s.toList = s.toList := by
      have heach : ∀ c ∈ s.toList, (escapeChar ensureAscii c).toList = [c] := by
        intro c hc
        rw [Text.utf8_eq_flatMap] at hplain
        have hbytes : ∀ b ∈ String.utf8EncodeChar c, plainByte b = true := fun b hb =>
          List.all_eq_true.mp hplain b (List.mem_flatMap.mpr ⟨c, hc, hb⟩)
        rw [escapeChar_of_plain ensureAscii (plain_of_bytes hbytes)]
        simp
      rw [escaped, List.flatMap_congr heach]
      simp
    simp [hsame]
  · have hjoin : ∀ l : List Char, (String.join (l.map (escapeChar ensureAscii))).toList =
        escaped ensureAscii l := by
      intro l
      induction l with
      | nil => rfl
      | cons c l ih => simp [escaped, ih]
    simp [hjoin]

/-- No escaped character starts with a quote. -/
lemma escapeChar_head (ensureAscii : Bool) (c : Char) (r : List Char) :
    ¬∃ t, (escapeChar ensureAscii c).toList ++ r = '"' :: t := by
  rintro ⟨t, h⟩
  have hread := readChar_escapeChar ensureAscii c r
  rw [h] at hread
  obtain ⟨rfl, -⟩ := Prod.mk.inj (Option.some.inj hread)
  have hquote : escapeChar ensureAscii '"' = "\\\"" := rfl
  simp [hquote] at h

/-- A string literal ends at its closing quote. -/
lemma escaped_append_inj {ensureAscii : Bool} {s s' r r' : List Char}
    (h : escaped ensureAscii s ++ '"' :: r = escaped ensureAscii s' ++ '"' :: r') :
    s = s' ∧ r = r' := by
  induction s generalizing s' with
  | nil =>
    cases s' with
    | nil => exact ⟨rfl, (List.cons.inj h).2⟩
    | cons c' s' =>
      refine absurd ⟨r, ?_⟩ (escapeChar_head ensureAscii c' (escaped ensureAscii s' ++ '"' :: r'))
      simpa [escaped] using h.symm
  | cons c s ih =>
    cases s' with
    | nil =>
      refine absurd ⟨r', ?_⟩ (escapeChar_head ensureAscii c (escaped ensureAscii s ++ '"' :: r))
      simpa [escaped] using h
    | cons c' s' =>
      have h' : (escapeChar ensureAscii c).toList ++ (escaped ensureAscii s ++ '"' :: r) =
          (escapeChar ensureAscii c').toList ++ (escaped ensureAscii s' ++ '"' :: r') := by
        simpa [escaped] using h
      have hread := congrArg readChar h'
      rw [readChar_escapeChar, readChar_escapeChar] at hread
      obtain ⟨rfl, hrest⟩ := Prod.mk.inj (Option.some.inj hread)
      obtain ⟨rfl, rfl⟩ := ih hrest
      exact ⟨rfl, rfl⟩

theorem quote_append_inj {ensureAscii : Bool} {s s' : String} {r r' : List Char}
    (h : (quote ensureAscii s).toList ++ r = (quote ensureAscii s').toList ++ r') :
    s = s' ∧ r = r' := by
  rw [quote_toList, quote_toList] at h
  have htail : escaped ensureAscii s.toList ++ '"' :: r =
      escaped ensureAscii s'.toList ++ '"' :: r' := by simpa using h
  obtain ⟨hs, hr⟩ := escaped_append_inj htail
  exact ⟨String.toList_inj.mp hs, hr⟩

-- ════════════════════════════════════════════════════════════════════════
-- Numbers
-- ════════════════════════════════════════════════════════════════════════

/-- The characters of a number. -/
def numeric (c : Char) : Bool := c.isDigit || c = '-' || c = '+' || c = '.' || c = 'e'

/-- A number may end here. -/
abbrev Stops (r : List Char) : Prop := Text.Ends numeric r

lemma numeric_toString (n : Int) : ∀ c ∈ (toString n).toList, numeric c = true := by
  have hdigit : ∀ m, ∀ c ∈ (Nat.repr m).toList, numeric c = true := fun m c hc => by
    simp [numeric, Text.isDigit_repr m c hc]
  rcases Text.toString_int_cases n with ⟨-, h⟩ | ⟨-, h⟩
  · rw [h]
    exact hdigit _
  · rw [h, String.toList_append]
    intro c hc
    rcases List.mem_append.mp hc with hc | hc
    · simp at hc
      subst hc
      rfl
    · exact hdigit _ c hc

-- ════════════════════════════════════════════════════════════════════════
-- Values
-- ════════════════════════════════════════════════════════════════════════

/-- Entries in the order of their keys. -/
def sortFields (fields : List (String × Json)) : List (String × Json) :=
  fields.insertionSort (fun a b => a.1 ≤ b.1)

mutual

/-- A value with the entries of all its objects in the order of their keys. -/
def canon : Json → Json
  | .null => .null
  | .bool b => .bool b
  | .int n => .int n
  | .float q => .float q
  | .str s => .str s
  | .arr items => .arr (canonItems items)
  | .obj fields => .obj (sortFields (canonFields fields))

/-- The items of an array, each in that form. -/
def canonItems : List Json → List Json
  | [] => []
  | v :: vs => canon v :: canonItems vs

/-- The entries of an object, each value in that form. -/
def canonFields : List (String × Json) → List (String × Json)
  | [] => []
  | (k, v) :: fs => (k, canon v) :: canonFields fs

end

section Text

variable (floatRepr : Rat → String) (ensureAscii : Bool)

mutual

/-- The characters of a value, with the entries of its objects in the order they have. -/
def text : Json → List Char
  | .null => "null".toList
  | .bool true => "true".toList
  | .bool false => "false".toList
  | .int n => (toString n).toList
  | .float q => (floatRepr q).toList
  | .str s => (quote ensureAscii s).toList
  | .arr items => '[' :: ((textItems items).drop 1 ++ [']'])
  | .obj fields => '\x7b' :: ((textFields fields).drop 1 ++ ['\x7d'])

/-- The items of an array, each after a comma. -/
def textItems : List Json → List Char
  | [] => []
  | v :: vs => ',' :: (text v ++ textItems vs)

/-- The entries of an object, each after a comma. -/
def textFields : List (String × Json) → List Char
  | [] => []
  | (k, v) :: fs => ',' :: ((quote ensureAscii k).toList ++ ':' :: (text v ++ textFields fs))

end

end Text

section Dumps

variable {floatRepr : Rat → String} {ensureAscii : Bool}

lemma commaJoin_toList (ss : List String) :
    (commaJoin ss).toList = (ss.flatMap fun s => ',' :: s.toList).drop 1 := by
  induction ss with
  | nil => rfl
  | cons s ss ih =>
    cases ss with
    | nil => simp [commaJoin]
    | cons t rest => simp [commaJoin, ih]

/-- One entry of an object, after a comma. -/
def entryText (ensureAscii : Bool) (entry : String × List Char) : List Char :=
  ',' :: ((quote ensureAscii entry.1).toList ++ ':' :: entry.2)

lemma textFields_eq (fields : List (String × Json)) :
    textFields floatRepr ensureAscii fields =
      (fields.map fun p => (p.1, text floatRepr ensureAscii p.2)).flatMap
        (entryText ensureAscii) := by
  induction fields with
  | nil => rfl
  | cons p fields ih => simp [textFields, entryText, ih]

lemma canonFields_eq (fields : List (String × Json)) :
    canonFields fields = fields.map fun p => (p.1, canon p.2) := by
  induction fields with
  | nil => rfl
  | cons p fields ih => simp [canonFields, ih]

/-- Sorting by keys does not look at the values. -/
lemma sort_map_snd {α β : Type} (f : α → β) (fields : List (String × α)) :
    (fields.map fun p => (p.1, f p.2)).insertionSort (fun a b => a.1 ≤ b.1) =
      (fields.insertionSort (fun a b => a.1 ≤ b.1)).map fun p => (p.1, f p.2) :=
  (List.map_insertionSort _ _ (fun p : String × α => (p.1, f p.2)) fields
    (fun _ _ _ _ => Iff.rfl)).symm

mutual

/-- The serialization writes the value with sorted entries. -/
theorem dumps_toList : ∀ v : Json,
    (dumps floatRepr ensureAscii v).toList = text floatRepr ensureAscii (canon v)
  | .null => rfl
  | .bool true => rfl
  | .bool false => rfl
  | .int _ => rfl
  | .float _ => rfl
  | .str _ => rfl
  | .arr items => by
    simp [dumps, canon, text, commaJoin_toList, dumpsItems_flatMap items]
  | .obj fields => by
    -- sorting looks at the keys only, so the values may be written before or after it
    have hentries : ((sortKeys (dumpsFields floatRepr ensureAscii fields)).map fun p =>
        quote ensureAscii p.1 ++ ":" ++ p.2).flatMap (fun s => ',' :: s.toList) =
        textFields floatRepr ensureAscii (sortFields (canonFields fields)) := by
      rw [textFields_eq, sortFields, ← sort_map_snd, ← dumpsFields_map fields, sort_map_snd,
        sortKeys, List.flatMap_map, List.flatMap_map]
      simp [entryText]
    simp [dumps, canon, text, commaJoin_toList, hentries]

lemma dumpsItems_flatMap : ∀ items : List Json,
    (dumpsItems floatRepr ensureAscii items).flatMap (fun s => ',' :: s.toList) =
      textItems floatRepr ensureAscii (canonItems items)
  | [] => rfl
  | v :: vs => by simp [dumpsItems, canonItems, textItems, dumps_toList v, dumpsItems_flatMap vs]

lemma dumpsFields_map : ∀ fields : List (String × Json),
    (dumpsFields floatRepr ensureAscii fields).map (fun p => (p.1, p.2.toList)) =
      (canonFields fields).map fun p => (p.1, text floatRepr ensureAscii p.2)
  | [] => rfl
  | (k, v) :: fs => by simp [dumpsFields, canonFields, dumps_toList v, dumpsFields_map fs]

end

end Dumps

-- ════════════════════════════════════════════════════════════════════════
-- Unambiguity
-- ════════════════════════════════════════════════════════════════════════

mutual

/-- Every number with a fraction in a value has a property. -/
def Floats (P : Rat → Prop) : Json → Prop
  | .float q => P q
  | .arr items => FloatsItems P items
  | .obj fields => FloatsFields P fields
  | _ => True

def FloatsItems (P : Rat → Prop) : List Json → Prop
  | [] => True
  | v :: vs => Floats P v ∧ FloatsItems P vs

def FloatsFields (P : Rat → Prop) : List (String × Json) → Prop
  | [] => True
  | (_, v) :: fs => Floats P v ∧ FloatsFields P fs

end

/-- A rendering of floating-point numbers that can be read back: it is a number, and not that of an
integer or of another floating-point number. -/
structure FloatText (P : Rat → Prop) (floatRepr : Rat → String) : Prop where
  numeric : ∀ q, P q → ∀ c ∈ (floatRepr q).toList, Json.numeric c = true
  nonempty : ∀ q, P q → floatRepr q ≠ ""
  ne_int : ∀ q n, P q → floatRepr q ≠ toString (n : Int)
  injective : ∀ q q', P q → P q' → floatRepr q = floatRepr q' → q = q'

/-- The kind of value that a first character announces. -/
def announces (c : Char) : Nat :=
  if c = 'n' then 0 else if c = 't' then 1 else if c = 'f' then 2 else if c = '"' then 3
  else if c = '[' then 4 else if c = '\x7b' then 5 else if numeric c then 6 else 7

/-- The kind of a value. -/
def kind : Json → Nat
  | .null => 0
  | .bool true => 1
  | .bool false => 2
  | .str _ => 3
  | .arr _ => 4
  | .obj _ => 5
  | .int _ => 6
  | .float _ => 6

section Unambiguity

variable {P : Rat → Prop} {floatRepr : Rat → String} {ensureAscii : Bool}

lemma announces_numeric {c : Char} (h : numeric c = true) : announces c = 6 := by
  unfold announces
  split_ifs with h₁ h₂ h₃ h₄ h₅ h₆
  · subst h₁; cases h
  · subst h₂; cases h
  · subst h₃; cases h
  · subst h₄; cases h
  · subst h₅; cases h
  · subst h₆; cases h
  · rfl

section Heads

variable (hf : FloatText P floatRepr)

include hf

/-- The first character of a text announces its kind. -/
lemma text_head (ensureAscii : Bool) (v : Json) (hv : Floats P v) :
    ∃ c t, text floatRepr ensureAscii v = c :: t ∧ announces c = kind v := by
  have hnumber : ∀ s : String, s ≠ "" → (∀ c ∈ s.toList, numeric c = true) →
      ∃ c t, s.toList = c :: t ∧ announces c = 6 := by
    intro s hne hs
    cases hl : s.toList with
    | nil => exact absurd (String.toList_inj.mp hl) hne
    | cons c t => exact ⟨c, t, rfl, announces_numeric (hs c (by simp [hl]))⟩
  cases v with
  | null => exact ⟨_, _, rfl, rfl⟩
  | bool b => cases b <;> exact ⟨_, _, rfl, rfl⟩
  | int n =>
    refine hnumber (toString n) ?_ (numeric_toString n)
    rcases Text.toString_int_cases n with ⟨-, h⟩ | ⟨-, h⟩
    · rw [h]
      exact Nat.repr_ne_empty
    · rw [h]
      simp
  | float q => exact hnumber (floatRepr q) (hf.nonempty q hv) (hf.numeric q hv)
  | str s => exact ⟨_, _, quote_toList ensureAscii s, rfl⟩
  | arr items => exact ⟨_, _, rfl, rfl⟩
  | obj fields => exact ⟨_, _, rfl, rfl⟩

/-- Two values whose texts start one text are of one kind. -/
lemma kind_eq_of_append {v w : Json} {r r' : List Char} (hv : Floats P v) (hw : Floats P w)
    (h : text floatRepr ensureAscii v ++ r = text floatRepr ensureAscii w ++ r') :
    kind v = kind w := by
  obtain ⟨c, t, hc, hkind⟩ := text_head hf ensureAscii v hv
  obtain ⟨c', t', hc', hkind'⟩ := text_head hf ensureAscii w hw
  rw [hc, hc'] at h
  rw [← hkind, ← hkind', (List.cons.inj h).1]

/-- The text of a value that holds no others. -/
lemma scalar_append_inj {v w : Json} {r r' : List Char} (hv : Floats P v) (hw : Floats P w)
    (hr : Stops r) (hr' : Stops r') (harr : kind v ≠ 4) (hobj : kind v ≠ 5)
    (h : text floatRepr ensureAscii v ++ r = text floatRepr ensureAscii w ++ r') :
    v = w ∧ r = r' := by
  have hk := kind_eq_of_append hf hv hw h
  have hnumber : ∀ {s s' : String}, (∀ c ∈ s.toList, numeric c = true) →
      (∀ c ∈ s'.toList, numeric c = true) → s.toList ++ r = s'.toList ++ r' → s = s' ∧ r = r' := by
    intro s s' hs hs' heq
    obtain ⟨hsame, hrest⟩ := Text.run_append_inj hs hs' hr hr' heq
    exact ⟨String.toList_inj.mp hsame, hrest⟩
  cases v with
  | null =>
    cases w with
    | null => exact ⟨rfl, List.append_cancel_left h⟩
    | bool b => cases b <;> cases hk
    | _ => cases hk
  | bool b =>
    cases w with
    | bool b' =>
      cases b <;> cases b'
      · exact ⟨rfl, List.append_cancel_left h⟩
      · cases hk
      · cases hk
      · exact ⟨rfl, List.append_cancel_left h⟩
    | _ => cases b <;> cases hk
  | int n =>
    cases w with
    | int n' =>
      obtain ⟨hsame, hrest⟩ := hnumber (numeric_toString n) (numeric_toString n') h
      exact ⟨congrArg Json.int (Text.toString_int_injective hsame), hrest⟩
    | float q =>
      obtain ⟨hsame, -⟩ := hnumber (numeric_toString n) (hf.numeric q hw) h
      exact absurd hsame.symm (hf.ne_int q n hw)
    | bool b => cases b <;> cases hk
    | _ => cases hk
  | float q =>
    cases w with
    | int n =>
      obtain ⟨hsame, -⟩ := hnumber (hf.numeric q hv) (numeric_toString n) h
      exact absurd hsame (hf.ne_int q n hv)
    | float q' =>
      obtain ⟨hsame, hrest⟩ := hnumber (hf.numeric q hv) (hf.numeric q' hw) h
      exact ⟨congrArg Json.float (hf.injective q q' hv hw hsame), hrest⟩
    | bool b => cases b <;> cases hk
    | _ => cases hk
  | str s =>
    cases w with
    | str s' =>
      obtain ⟨rfl, hrest⟩ := quote_append_inj h
      exact ⟨rfl, hrest⟩
    | bool b => cases b <;> cases hk
    | _ => cases hk
  | arr items => exact absurd rfl harr
  | obj fields => exact absurd rfl hobj

end Heads

/-- The first comma of a list of items can be restored: what follows it is not a closing bracket. -/
lemma restore_comma {xs ys r r' : List Char} {close : Char}
    (hx : xs = [] ∨ ∃ c t, xs = ',' :: c :: t ∧ announces c ≠ 7)
    (hy : ys = [] ∨ ∃ c t, ys = ',' :: c :: t ∧ announces c ≠ 7) (hclose : announces close = 7)
    (h : xs.drop 1 ++ close :: r = ys.drop 1 ++ close :: r') :
    xs ++ close :: r = ys ++ close :: r' := by
  rcases hx with rfl | ⟨c, t, rfl, hc⟩ <;> rcases hy with rfl | ⟨c', t', rfl, hc'⟩
  · exact h
  · exact absurd (((List.cons.inj h).1 ▸ hclose : announces c' = 7)) hc'
  · exact absurd (((List.cons.inj h).1 ▸ hclose : announces c = 7)) hc
  · exact congrArg (',' :: ·) h

lemma textItems_head (hf : FloatText P floatRepr) (vs : List Json) (hvs : FloatsItems P vs) :
    textItems floatRepr ensureAscii vs = [] ∨
      ∃ c t, textItems floatRepr ensureAscii vs = ',' :: c :: t ∧ announces c ≠ 7 := by
  cases vs with
  | nil => exact .inl rfl
  | cons v vs =>
    obtain ⟨c, t, hc, hkind⟩ := text_head hf ensureAscii v hvs.1
    refine .inr ⟨c, t ++ textItems floatRepr ensureAscii vs, by simp [textItems, hc], ?_⟩
    rw [hkind]
    cases v with
    | bool b => cases b <;> decide
    | _ => simp [kind]

lemma textFields_head (fs : List (String × Json)) :
    textFields floatRepr ensureAscii fs = [] ∨
      ∃ c t, textFields floatRepr ensureAscii fs = ',' :: c :: t ∧ announces c ≠ 7 := by
  cases fs with
  | nil => exact .inl rfl
  | cons p fs =>
    right
    rw [textFields, quote_toList]
    exact ⟨'"', _, rfl, by decide⟩

mutual

/-- The text of a value, followed by what may follow a number, determines the value and where its
text ends. -/
theorem text_append_inj (hf : FloatText P floatRepr) : ∀ (v w : Json) (r r' : List Char),
    Floats P v → Floats P w → Stops r → Stops r' →
    text floatRepr ensureAscii v ++ r = text floatRepr ensureAscii w ++ r' →
    v = w ∧ r = r'
  | .null, _, _, _, hv, hw, hr, hr', h => scalar_append_inj hf hv hw hr hr' nofun nofun h
  | .bool b, _, _, _, hv, hw, hr, hr', h =>
    scalar_append_inj hf hv hw hr hr' (by cases b <;> nofun) (by cases b <;> nofun) h
  | .int _, _, _, _, hv, hw, hr, hr', h => scalar_append_inj hf hv hw hr hr' nofun nofun h
  | .float _, _, _, _, hv, hw, hr, hr', h => scalar_append_inj hf hv hw hr hr' nofun nofun h
  | .str _, _, _, _, hv, hw, hr, hr', h => scalar_append_inj hf hv hw hr hr' nofun nofun h
  | .arr items, w, r, r', hv, hw, _, _, h => by
    have hk := kind_eq_of_append hf hv hw h
    cases w with
    | arr items' =>
      have hinner : textItems floatRepr ensureAscii items ++ ']' :: r =
          textItems floatRepr ensureAscii items' ++ ']' :: r' :=
        restore_comma (textItems_head hf items hv) (textItems_head hf items' hw) (by decide)
          (by simpa [text] using h)
      obtain ⟨rfl, hrest⟩ := items_append_inj hf items items' r r' hv hw hinner
      exact ⟨rfl, hrest⟩
    | bool b => cases b <;> cases hk
    | _ => cases hk
  | .obj fields, w, r, r', hv, hw, _, _, h => by
    have hk := kind_eq_of_append hf hv hw h
    cases w with
    | obj fields' =>
      have hinner : textFields floatRepr ensureAscii fields ++ '\x7d' :: r =
          textFields floatRepr ensureAscii fields' ++ '\x7d' :: r' :=
        restore_comma (textFields_head fields) (textFields_head fields') (by decide)
          (by simpa [text] using h)
      obtain ⟨rfl, hrest⟩ := fields_append_inj hf fields fields' r r' hv hw hinner
      exact ⟨rfl, hrest⟩
    | bool b => cases b <;> cases hk
    | _ => cases hk

lemma items_append_inj (hf : FloatText P floatRepr) : ∀ (vs ws : List Json) (r r' : List Char),
    FloatsItems P vs → FloatsItems P ws →
    textItems floatRepr ensureAscii vs ++ ']' :: r =
      textItems floatRepr ensureAscii ws ++ ']' :: r' → vs = ws ∧ r = r'
  | [], [], _, _, _, _, h => ⟨rfl, (List.cons.inj h).2⟩
  | [], _ :: _, _, _, _, _, h => by cases (List.cons.inj h).1
  | _ :: _, [], _, _, _, _, h => by cases (List.cons.inj h).1
  | v :: vs, w :: ws, r, r', hvs, hws, h => by
    have hstops : ∀ (us : List Json) (r : List Char),
        Stops (textItems floatRepr ensureAscii us ++ ']' :: r) := by
      intro us r
      cases us <;> exact .cons rfl _
    have htext : text floatRepr ensureAscii v ++ (textItems floatRepr ensureAscii vs ++ ']' :: r) =
        text floatRepr ensureAscii w ++ (textItems floatRepr ensureAscii ws ++ ']' :: r') := by
      simpa [textItems] using h
    obtain ⟨rfl, hrest⟩ := text_append_inj hf v w _ _ hvs.1 hws.1 (hstops vs r) (hstops ws r') htext
    obtain ⟨rfl, hr⟩ := items_append_inj hf vs ws r r' hvs.2 hws.2 hrest
    exact ⟨rfl, hr⟩

lemma fields_append_inj (hf : FloatText P floatRepr) :
    ∀ (fs gs : List (String × Json)) (r r' : List Char),
    FloatsFields P fs → FloatsFields P gs →
    textFields floatRepr ensureAscii fs ++ '\x7d' :: r =
      textFields floatRepr ensureAscii gs ++ '\x7d' :: r' → fs = gs ∧ r = r'
  | [], [], _, _, _, _, h => ⟨rfl, (List.cons.inj h).2⟩
  | [], _ :: _, _, _, _, _, h => by cases (List.cons.inj h).1
  | _ :: _, [], _, _, _, _, h => by cases (List.cons.inj h).1
  | (k, v) :: fs, (l, w) :: gs, r, r', hfs, hgs, h => by
    have hstops : ∀ (us : List (String × Json)) (r : List Char),
        Stops (textFields floatRepr ensureAscii us ++ '\x7d' :: r) := by
      intro us r
      cases us <;> exact .cons rfl _
    have hkey : (quote ensureAscii k).toList ++ ':' :: (text floatRepr ensureAscii v ++
          (textFields floatRepr ensureAscii fs ++ '\x7d' :: r)) =
        (quote ensureAscii l).toList ++ ':' :: (text floatRepr ensureAscii w ++
          (textFields floatRepr ensureAscii gs ++ '\x7d' :: r')) := by
      simpa [textFields] using h
    obtain ⟨rfl, hvalue⟩ := quote_append_inj hkey
    obtain ⟨rfl, hrest⟩ := text_append_inj hf v w _ _ hfs.1 hgs.1 (hstops fs r) (hstops gs r')
      (List.cons.inj hvalue).2
    obtain ⟨rfl, hr⟩ := fields_append_inj hf fs gs r r' hfs.2 hgs.2 hrest
    exact ⟨rfl, hr⟩

end

lemma perm_sortFields (fields : List (String × Json)) : (sortFields fields).Perm fields :=
  List.perm_insertionSort _ _

lemma floatsFields_iff {fields : List (String × Json)} :
    FloatsFields P fields ↔ ∀ p ∈ fields, Floats P p.2 := by
  induction fields with
  | nil => simp [FloatsFields]
  | cons p fields ih => simp [FloatsFields, ih]

mutual

lemma floats_canon : ∀ v : Json, Floats P v → Floats P (canon v)
  | .null, h => h
  | .bool _, h => h
  | .int _, h => h
  | .float _, h => h
  | .str _, h => h
  | .arr items, h => floats_canonItems items h
  | .obj fields, h => by
    have hsorted := floatsFields_iff.mp (floats_canonFields fields h)
    refine floatsFields_iff.mpr fun p hp => hsorted p ?_
    exact (perm_sortFields _).subset hp

lemma floats_canonItems : ∀ items : List Json, FloatsItems P items →
    FloatsItems P (canonItems items)
  | [], h => h
  | v :: vs, h => ⟨floats_canon v h.1, floats_canonItems vs h.2⟩

lemma floats_canonFields : ∀ fields : List (String × Json), FloatsFields P fields →
    FloatsFields P (canonFields fields)
  | [], h => h
  | (_, v) :: fs, h => ⟨floats_canon v h.1, floats_canonFields fs h.2⟩

end

/-- Equal serializations are of equal values, up to the order of entries. -/
theorem canon_eq_of_dumps (hf : FloatText P floatRepr) {v w : Json} (hv : Floats P v)
    (hw : Floats P w) (h : dumps floatRepr ensureAscii v = dumps floatRepr ensureAscii w) :
    canon v = canon w := by
  have htext : text floatRepr ensureAscii (canon v) ++ [] =
      text floatRepr ensureAscii (canon w) ++ [] := by
    rw [← dumps_toList, ← dumps_toList, h]
  exact (text_append_inj hf _ _ [] [] (floats_canon v hv) (floats_canon w hw) nofun nofun htext).1

/-- Objects with the same sorted entries have the same entries. -/
lemma perm_of_canon_obj {fields fields' : List (String × Json)}
    (h : canon (.obj fields) = canon (.obj fields')) :
    (fields.map fun p => (p.1, canon p.2)).Perm (fields'.map fun p => (p.1, canon p.2)) := by
  have hsorted : sortFields (canonFields fields) = sortFields (canonFields fields') :=
    Json.obj.inj h
  rw [← canonFields_eq, ← canonFields_eq]
  have hperm := perm_sortFields (canonFields fields)
  rw [hsorted] at hperm
  exact hperm.symm.trans (perm_sortFields (canonFields fields'))

-- ════════════════════════════════════════════════════════════════════════
-- ASCII
-- ════════════════════════════════════════════════════════════════════════

/-- A printable ASCII character. -/
def Printable (c : Char) : Prop := 32 ≤ c.toNat ∧ c.toNat < 127

instance : DecidablePred Printable := fun c => by unfold Printable; infer_instance

lemma printable_of_all {s : String} (h : s.toList.all (fun c => decide (Printable c)) = true) :
    ∀ c ∈ s.toList, Printable c := fun c hc => of_decide_eq_true (List.all_eq_true.mp h c hc)

lemma printable_of_numeric {c : Char} (h : numeric c = true) : Printable c := by
  simp only [numeric, Bool.or_eq_true, decide_eq_true_eq] at h
  rcases h with (((h | rfl) | rfl) | rfl) | rfl
  · simp only [Char.isDigit, Bool.and_eq_true, decide_eq_true_eq] at h
    have hlow : (48 : UInt32).toNat ≤ c.val.toNat := UInt32.le_iff_toNat_le.mp h.1
    have hhigh : c.val.toNat ≤ (57 : UInt32).toNat := UInt32.le_iff_toNat_le.mp h.2
    exact ⟨hlow.trans' (by decide), hhigh.trans_lt (by decide)⟩
  all_goals decide

lemma printable_hexDigit : ∀ {n : Nat}, n < 16 → Printable (hexDigit n) := by decide

lemma printable_hex4 (n : Nat) : ∀ c ∈ (hex4 n).toList, Printable c := by
  intro c hc
  simp only [hex4, String.toList_ofList, List.mem_cons, List.not_mem_nil, or_false] at hc
  rcases hc with rfl | rfl | rfl | rfl
  all_goals exact printable_hexDigit (Nat.mod_lt _ (by decide))

/-- An escaped text is printable. -/
lemma printable_escapeChar (c : Char) : ∀ d ∈ (escapeChar true c).toList, Printable d := by
  have hunit : ∀ n, ∀ d ∈ ("\\u" ++ hex4 n).toList, Printable d := by
    intro n d hd
    rw [String.toList_append] at hd
    rcases List.mem_append.mp hd with hd | hd
    · simp at hd
      rcases hd with rfl | rfl <;> decide
    · exact printable_hex4 n d hd
  have h := escaped_escapeChar true c
  generalize escapeChar true c = s at h
  cases h with
  | short k text ht _ hk =>
    intro d hd
    rw [ht] at hd
    rcases List.mem_cons.mp hd with rfl | hd
    · decide
    · rwa [List.mem_singleton.mp hd]
  | unit => exact hunit _
  | pair =>
    intro d hd
    rw [String.append_assoc, String.toList_append] at hd
    rcases List.mem_append.mp hd with hd | hd
    · exact hunit _ d hd
    · exact hunit _ d hd
  | plain h _ ha =>
    intro d hd
    simp at hd
    subst hd
    exact ⟨h, ha rfl⟩

lemma printable_quote (s : String) : ∀ c ∈ (quote true s).toList, Printable c := by
  intro c hc
  rw [quote_toList] at hc
  simp only [List.mem_cons, List.mem_append, List.not_mem_nil, or_false, escaped,
    List.mem_flatMap] at hc
  rcases hc with rfl | ⟨d, -, hd⟩ | rfl
  · decide
  · exact printable_escapeChar d c hd
  · decide

mutual

/-- With everything beyond ASCII escaped, a serialized value is printable. -/
theorem printable_text (hf : FloatText P floatRepr) : ∀ v : Json, Floats P v →
    ∀ c ∈ text floatRepr true v, Printable c
  | .null, _ => printable_of_all (s := "null") rfl
  | .bool true, _ => printable_of_all (s := "true") rfl
  | .bool false, _ => printable_of_all (s := "false") rfl
  | .int n, _ => fun c hc => printable_of_numeric (numeric_toString n c hc)
  | .float q, hq => fun c hc => printable_of_numeric (hf.numeric q hq c hc)
  | .str s, _ => printable_quote s
  | .arr items, h => by
    intro c hc
    simp only [text, List.mem_cons, List.mem_append, List.not_mem_nil, or_false] at hc
    rcases hc with rfl | hc | rfl
    · decide
    · exact printable_textItems hf items h c (List.mem_of_mem_drop hc)
    · decide
  | .obj fields, h => by
    intro c hc
    simp only [text, List.mem_cons, List.mem_append, List.not_mem_nil, or_false] at hc
    rcases hc with rfl | hc | rfl
    · decide
    · exact printable_textFields hf fields h c (List.mem_of_mem_drop hc)
    · decide

lemma printable_textItems (hf : FloatText P floatRepr) : ∀ items : List Json, FloatsItems P items →
    ∀ c ∈ textItems floatRepr true items, Printable c
  | [], _ => nofun
  | v :: vs, h => by
    intro c hc
    simp only [textItems, List.mem_cons, List.mem_append] at hc
    rcases hc with rfl | hc | hc
    · decide
    · exact printable_text hf v h.1 c hc
    · exact printable_textItems hf vs h.2 c hc

lemma printable_textFields (hf : FloatText P floatRepr) : ∀ fields : List (String × Json),
    FloatsFields P fields → ∀ c ∈ textFields floatRepr true fields, Printable c
  | [], _ => nofun
  | (k, v) :: fs, h => by
    intro c hc
    simp only [textFields, List.mem_cons, List.mem_append] at hc
    rcases hc with rfl | hc | rfl | hc | hc
    · decide
    · exact printable_quote k c hc
    · decide
    · exact printable_text hf v h.1 c hc
    · exact printable_textFields hf fs h.2 c hc

end

end Unambiguity

end Json
