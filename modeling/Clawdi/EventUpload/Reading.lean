import Clawdi.SessionEvents.Canonical
import Mathlib.Tactic.IntervalCases

namespace Clawdi.EventUpload
open SessionEvents

/-! ## Reading JSON: texts in ASCII without white space, floats, repeated keys and deep nesting -/

variable (byte : UInt8) (bytes : Bytes)

def hexValue : Option Nat :=
  if 0x30 ≤ byte ∧ byte ≤ 0x39 then some (byte.toNat - 0x30)
  else if 0x61 ≤ byte ∧ byte ≤ 0x66 then some (byte.toNat - 0x57)
  else if 0x41 ≤ byte ∧ byte ≤ 0x46 then some (byte.toNat - 0x37)
  else none

def readUnit : Bytes → Option (Nat × Bytes)
  | a :: b :: c :: d :: rest => do
    let a ← hexValue a
    let b ← hexValue b
    let c ← hexValue c
    let d ← hexValue d
    return (a * 4096 + b * 256 + c * 16 + d, rest)
  | _ => none

/-- A code point written with `\u`, or with two of them if it is a pair of surrogates. -/
def readUnicode : Option (Nat × Bytes) := do
  let (unit, rest) ← readUnit bytes
  if 0xd800 ≤ unit ∧ unit < 0xdc00 then
    match rest with
    | 0x5c :: 0x75 :: more =>
      let (low, rest) ← readUnit more
      if 0xdc00 ≤ low ∧ low < 0xe000 then
        return (0x10000 + (unit - 0xd800) * 0x400 + (low - 0xdc00), rest)
      else none
    | _ => none
  else if 0xdc00 ≤ unit ∧ unit < 0xe000 then none
  else return (unit, rest)

def readCodePoint : Bytes → Option (Nat × Bytes)
  | 0x5c :: 0x75 :: rest => readUnicode rest
  | 0x5c :: 0x22 :: rest => some (0x22, rest)
  | 0x5c :: 0x5c :: rest => some (0x5c, rest)
  | 0x5c :: 0x2f :: rest => some (0x2f, rest)
  | 0x5c :: 0x62 :: rest => some (0x08, rest)
  | 0x5c :: 0x66 :: rest => some (0x0c, rest)
  | 0x5c :: 0x6e :: rest => some (0x0a, rest)
  | 0x5c :: 0x72 :: rest => some (0x0d, rest)
  | 0x5c :: 0x74 :: rest => some (0x09, rest)
  | byte :: rest => if 0x20 ≤ byte ∧ byte ≤ 0x7e ∧ byte ≠ 0x22 ∧ byte ≠ 0x5c then some (byte.toNat, rest) else none
  | [] => none

def readCharacters : Nat → Bytes → Option (List Char × Bytes)
  | _, 0x22 :: rest => some ([], rest)
  | 0, _ => none
  | fuel + 1, bytes => do
    let (point, rest) ← readCodePoint bytes
    let (chars, rest) ← readCharacters fuel rest
    return (Char.ofNat point :: chars, rest)

def readText : Option (String × Bytes) := do
  let (chars, rest) ← readCharacters bytes.length bytes
  return (String.ofList chars, rest)

def isDigit : Bool := 0x30 ≤ byte && byte ≤ 0x39

def readNat : Option (Nat × Bytes) :=
  let digits := bytes.takeWhile isDigit
  let v := Nat.ofDigitChars 10 (digits.map fun digit => Char.ofNat digit.toNat) 0
  if digits = [] ∨ (digits.head? = some 0x30 ∧ digits.length ≠ 1) ∨ 2 ^ 53 - 1 < v then none
  else some (v, bytes.dropWhile isDigit)

def readInt : Bytes → Option (Int × Bytes)
  | 0x2d :: rest => do
    let (v, rest) ← readNat rest
    if v = 0 then none else return (-v, rest)
  | bytes => do
    let (v, rest) ← readNat bytes
    return (v, rest)

section
variable (readValue : Bytes → Option (JsonValue × Bytes))

def readItems : Nat → Bytes → Option (List JsonValue × Bytes)
  | 0, _ => none
  | fuel + 1, bytes => do
    let (item, rest) ← readValue bytes
    match rest with
    | 0x2c :: rest =>
      let (items, rest) ← readItems fuel rest
      return (item :: items, rest)
    | 0x5d :: rest => return ([item], rest)
    | _ => none

def readMembers : Nat → Bytes → Option (List (String × JsonValue) × Bytes)
  | 0, _ => none
  | fuel + 1, bytes => do
    let 0x22 :: bytes := bytes | none
    let (name, rest) ← readText bytes
    let 0x3a :: rest := rest | none
    let (v, rest) ← readValue rest
    match rest with
    | 0x2c :: rest =>
      let (mems, rest) ← readMembers fuel rest
      return ((name, v) :: mems, rest)
    | 0x7d :: rest => return ([(name, v)], rest)
    | _ => none

end

def readLiteral (literal : String) (v : JsonValue) (bytes : Bytes) : Option (JsonValue × Bytes) :=
  if (ascii literal).isPrefixOf bytes then some (v, bytes.drop literal.length) else none

def readValue : Nat → Bytes → Option (JsonValue × Bytes)
  | 0, _ => none
  | _, [] => none
  | depth + 1, first :: rest =>
    if first = 0x6e then readLiteral "null" .null (first :: rest)
    else if first = 0x74 then readLiteral "true" (.bool true) (first :: rest)
    else if first = 0x66 then readLiteral "false" (.bool false) (first :: rest)
    else if first = 0x22 then (readText rest).map fun read => (.text read.1, read.2)
    else if first = 0x5b then
      if rest.head? = some 0x5d then some (.list [], rest.tail)
      else (readItems (readValue depth) rest.length rest).map fun read => (.list read.1, read.2)
    else if first = 0x7b then
      if rest.head? = some 0x7d then some (.object [], rest.tail)
      else
        match readMembers (readValue depth) rest.length rest with
        | some (mems, rest) => if (mems.map Prod.fst).Nodup then some (.object mems, rest) else none
        | none => none
    else (readInt (first :: rest)).map fun read => (.int read.1, read.2)

def maxDepth : Nat := 16

def readJson (text : Bytes) : Option JsonValue :=
  match readValue maxDepth text with
  | some (v, []) => some v
  | _ => none

open SessionEvents List Option Nat
section
variable {point unit : Nat} {rest : Bytes}

lemma hexValue_hexDigit : ∀ digit < 16, hexValue (hexDigit digit) = some digit := by decide

lemma readUnit_escape (small : unit < 0x10000) :
    readUnit (hexDigit (unit / 4096 % 16) :: hexDigit (unit / 256 % 16) :: hexDigit (unit / 16 % 16) ::
      hexDigit (unit % 16) :: rest) = some (unit, rest) := by
  have back (num : Nat) : hexValue (hexDigit (num % 16)) = some (num % 16) :=
    hexValue_hexDigit _ (mod_lt _ (by decide))
  have whole : unit / 4096 % 16 * 4096 + unit / 256 % 16 * 256 + unit / 16 % 16 * 16 + unit % 16 = unit := by omega
  simp only [readUnit, back, bind_eq_bind, bind_some, whole]
  rfl

def Scalar (point : Nat) : Prop := point < 0xd800 ∨ (0xe000 ≤ point ∧ point < 0x110000)

lemma char_scalar (ch : Char) : Scalar ch.toNat := by
  have valid : ch.toNat < 0xd800 ∨ (0xdfff < ch.toNat ∧ ch.toNat < 0x110000) := ch.valid
  unfold Scalar
  omega

lemma readUnicode_escape (scalar : Scalar point) (small : point < 0x10000) :
    readCodePoint (unicodeEscape point ++ rest) = some (point, rest) := by
  have noHigh : ¬(0xd800 ≤ point ∧ point < 0xdc00) := by rcases scalar with below | above <;> omega
  have noLow : ¬(0xdc00 ≤ point ∧ point < 0xe000) := by rcases scalar with below | above <;> omega
  have unit := @readUnit_escape point rest small
  show readUnicode (_ :: _ :: _ :: _ :: rest) = _
  unfold readUnicode
  rw [unit, bind_eq_bind, bind_some]
  simp only [if_neg noHigh, if_neg noLow]
  rfl

lemma readUnicode_pair (large : 0x10000 ≤ point) (scalar : Scalar point) :
    readCodePoint (unicodeEscape (0xd800 + (point - 0x10000) / 0x400) ++
      unicodeEscape (0xdc00 + (point - 0x10000) % 0x400) ++ rest) = some (point, rest) := by
  have most : point < 0x110000 := by unfold Scalar at scalar; omega
  have high : 0xd800 ≤ 0xd800 + (point - 0x10000) / 0x400 ∧ 0xd800 + (point - 0x10000) / 0x400 < 0xdc00 := by omega
  have low : 0xdc00 ≤ 0xdc00 + (point - 0x10000) % 0x400 ∧ 0xdc00 + (point - 0x10000) % 0x400 < 0xe000 := by omega
  have whole : 0x10000 + (0xd800 + (point - 0x10000) / 0x400 - 0xd800) * 0x400 +
      (0xdc00 + (point - 0x10000) % 0x400 - 0xdc00) = point := by omega
  let pair := unicodeEscape (0xdc00 + (point - 0x10000) % 0x400) ++ rest
  have first := @readUnit_escape (0xd800 + (point - 0x10000) / 0x400) pair (by omega)
  have snd := @readUnit_escape (0xdc00 + (point - 0x10000) % 0x400) rest (by omega)
  show readUnicode (_ :: _ :: _ :: _ :: pair) = _
  unfold readUnicode
  rw [first, bind_eq_bind, bind_some]
  simp only [if_pos high]
  show (readUnit (_ :: _ :: _ :: _ :: rest)).bind _ = _
  rw [snd, bind_some]
  simp only [if_pos low]
  rw [whole]
  rfl

lemma readCodePoint_printable (low : 0x20 ≤ point) (high : point ≤ 0x7e) (quote : point ≠ 0x22)
    (backslash : point ≠ 0x5c) : readCodePoint (UInt8.ofNat point :: rest) = some (point, rest) := by
  have v : (UInt8.ofNat point).toNat = point := by
    rw [UInt8.toNat_ofNat']
    omega
  have printable : 0x20 ≤ UInt8.ofNat point ∧ UInt8.ofNat point ≤ 0x7e ∧ UInt8.ofNat point ≠ 0x22 ∧
      UInt8.ofNat point ≠ 0x5c := by
    simp only [UInt8.le_iff_toNat_le, ← UInt8.toNat_inj, ne_eq, v]
    exact ⟨low, high, quote, backslash⟩
  unfold readCodePoint
  split
  case h_10 heads =>
    obtain ⟨rfl, rfl⟩ := List.cons.inj heads
    rw [if_pos printable, v]
  case h_11 heads => cases heads
  all_goals
    rename_i heads
    exact absurd (List.cons.inj heads).1 printable.2.2.2

lemma readCodePoint_escape (scalar : Scalar point) :
    readCodePoint (escapeCodePoint point ++ rest) = some (point, rest) := by
  unfold escapeCodePoint
  iterate 7
    split
    · subst_vars; rfl
  split
  · rename_i printable
    exact readCodePoint_printable printable.1 printable.2 (by assumption) (by assumption)
  split
  · exact readUnicode_escape scalar (by assumption)
  · exact readUnicode_pair (by omega) scalar

lemma escapeCodePoint_head (point : Nat) : ∃ byte more, escapeCodePoint point = byte :: more ∧ byte ≠ 0x22 := by
  unfold escapeCodePoint
  iterate 7
    split
    · exact ⟨_, _, rfl, by decide⟩
  split
  · refine ⟨_, _, rfl, ?_⟩
    rw [ne_eq, ← UInt8.toNat_inj, UInt8.toNat_ofNat']
    simp only [UInt8.reduceToNat]
    omega
  split <;> exact ⟨_, _, rfl, by decide⟩

lemma readCharacters_text (chars : List Char) {fuel : Nat} (enough : chars.length ≤ fuel) :
    readCharacters fuel ((chars.map Char.toNat).flatMap escapeCodePoint ++ 0x22 :: rest) = some (chars, rest) := by
  induction chars generalizing fuel with
  | nil => cases fuel <;> rfl
  | cons ch chars ih =>
    obtain ⟨fuel, rfl⟩ : ∃ less, fuel = less + 1 := ⟨fuel - 1, by simp at enough; omega⟩
    obtain ⟨byte, more, escape, plain⟩ := escapeCodePoint_head ch.toNat
    have head := @readCodePoint_escape ch.toNat
      ((chars.map Char.toNat).flatMap escapeCodePoint ++ 0x22 :: rest) (char_scalar ch)
    have others := @ih fuel (by simpa using enough)
    rw [escape, cons_append] at head
    rw [map_cons, flatMap_cons, append_assoc, escape, cons_append]
    unfold readCharacters
    split
    · rename_i heads
      exact absurd (List.cons.inj heads).1 plain
    · rename_i noFuel _
      cases noFuel
    · rename_i less noQuote someFuel
      obtain rfl : fuel = less := by omega
      simp [head, others]

lemma length_le_escapes (points : List Nat) : points.length ≤ (points.flatMap escapeCodePoint).length := by
  induction points with
  | nil => exact le_rfl
  | cons point points ih =>
    obtain ⟨_, _, escape, _⟩ := escapeCodePoint_head point
    simp only [flatMap_cons, length_append, escape, length_cons]
    omega

lemma readText_jsonString (text : String) :
    ∃ bytes, jsonString text = 0x22 :: bytes ∧ readText (bytes ++ rest) = some (text, rest) := by
  refine ⟨(codePoints text).flatMap escapeCodePoint ++ [0x22], rfl, ?_⟩
  have enough : text.toList.length ≤ ((codePoints text).flatMap escapeCodePoint ++ 0x22 :: rest).length := by
    have least := length_le_escapes (codePoints text)
    rw [codePoints, length_map] at least
    rw [length_append]
    exact least.trans (le_add_right _ _)
  have read := @readCharacters_text rest text.toList _ enough
  have same : (text.toList.map Char.toNat).flatMap escapeCodePoint = (codePoints text).flatMap escapeCodePoint := rfl
  rw [same] at read
  rw [append_assoc, singleton_append, readText, read, bind_eq_bind, bind_some]
  show some (String.ofList text.toList, rest) = _
  rw [String.ofList_toList]

end

section

def Delimited (rest : Bytes) : Prop := ∀ byte ∈ rest.head?, isDigit byte = false

variable {rest : Bytes} {num : Nat}

def digits (num : Nat) : Bytes := (Nat.toDigits 10 num).map fun digit => UInt8.ofNat digit.toNat

lemma ascii_toString (num : Nat) : ascii (toString num) = digits num := by
  rw [toString_eq_ofList_toDigits, ascii, String.toList_ofList]
  rfl

lemma digit_byte {digit : Char} (decimal : digit.isDigit = true) :
    isDigit (UInt8.ofNat digit.toNat) = true ∧ Char.ofNat (UInt8.ofNat digit.toNat).toNat = digit := by
  have range : 48 ≤ digit.toNat ∧ digit.toNat ≤ 57 := by simpa [Char.isDigit, UInt32.le_iff_toNat_le] using decimal
  have byte : (UInt8.ofNat digit.toNat).toNat = digit.toNat := by
    rw [UInt8.toNat_ofNat']
    omega
  constructor
  · simp only [isDigit, Bool.and_eq_true, decide_eq_true_eq, UInt8.le_iff_toNat_le, byte]
    exact range
  · rw [byte, Char.ofNat_toNat]

lemma toDigits_head (positive : 0 < num) : (Nat.toDigits 10 num).head? ≠ some '0' := by
  induction num using Nat.strong_induction_on with
  | _ num ih =>
    rw [Nat.toDigits_eq_if (by decide)]
    split
    · interval_cases num <;> decide
    · have front := ih (num / 10) (by omega) (by omega)
      cases first : Nat.toDigits 10 (num / 10) with
      | nil => simp at first
      | cons digit others => simpa [first] using front

lemma digits_isDigit (num : Nat) : ∀ byte ∈ digits num, isDigit byte = true := by
  intro byte mem
  obtain ⟨digit, isIn, rfl⟩ := mem_map.mp mem
  exact (digit_byte (isDigit_of_mem_toDigits (by decide) (by decide) isIn)).1

lemma digits_value (num : Nat) :
    Nat.ofDigitChars 10 ((digits num).map fun digit => Char.ofNat digit.toNat) 0 = num := by
  have same : (digits num).map (fun digit => Char.ofNat digit.toNat) = Nat.toDigits 10 num := by
    rw [digits, List.map_map]
    conv_rhs => rw [← List.map_id (Nat.toDigits 10 num)]
    apply List.map_congr_left
    intro digit isIn
    exact (digit_byte (isDigit_of_mem_toDigits (by decide) (by decide) isIn)).2
  rw [same, ofDigitChars_ten_toDigits]

lemma digits_head (num : Nat) : ¬((digits num).head? = some 0x30 ∧ (digits num).length ≠ 1) := by
  rintro ⟨zero, long⟩
  rcases Nat.eq_zero_or_pos num with rfl | positive
  · exact long rfl
  · apply toDigits_head positive
    rw [digits, List.head?_map] at zero
    obtain ⟨digit, first, isZero⟩ := map_eq_some_iff.mp zero
    have back := (digit_byte (isDigit_of_mem_toDigits (b := 10) (by decide) (by decide) (mem_of_head? first))).2
    rw [first, ← back, isZero]
    rfl

lemma readNat_digits (small : num ≤ 2 ^ 53 - 1) (delimited : Delimited rest) :
    readNat (digits num ++ rest) = some (num, rest) := by
  have nothing : rest.takeWhile isDigit = [] ∧ rest.dropWhile isDigit = rest := by
    cases rest with
    | nil => exact ⟨rfl, rfl⟩
    | cons byte rest =>
      have stop := delimited byte rfl
      simp [stop]
  have taken : (digits num ++ rest).takeWhile isDigit = digits num := by
    rw [takeWhile_append_of_pos (digits_isDigit num), nothing.1, append_nil]
  have dropped : (digits num ++ rest).dropWhile isDigit = rest := by
    rw [dropWhile_append_of_pos (digits_isDigit num), nothing.2]
  have some_digit : digits num ≠ [] := by simp [digits]
  simp only [readNat, taken, dropped, digits_value]
  rw [if_neg]
  rintro (none | zero | large)
  · exact some_digit none
  · exact digits_head num zero
  · omega

lemma digits_cons (num : Nat) : ∃ byte more, digits num = byte :: more ∧ isDigit byte = true := by
  cases first : digits num with
  | nil => simp [digits] at first
  | cons byte more => exact ⟨byte, more, rfl, digits_isDigit num byte (by simp [first])⟩

lemma ascii_negSucc (num : Nat) : ascii (toString (Int.negSucc num)) = 0x2d :: digits (num + 1) := by
  rw [← ascii_toString]
  show ascii ("-" ++ toString (num + 1)) = _
  rw [ascii, String.toList_append, map_append]
  rfl

lemma readInt_ascii {v : Int} (small : v.natAbs ≤ 2 ^ 53 - 1) (delimited : Delimited rest) :
    readInt (ascii (toString v) ++ rest) = some (v, rest) := by
  cases v with
  | ofNat num =>
    have text : ascii (toString (Int.ofNat num)) = digits num := ascii_toString num
    obtain ⟨byte, more, first, decimal⟩ := digits_cons num
    have read : readNat (digits num ++ rest) = some (num, rest) := readNat_digits small delimited
    rw [text]
    rw [first, cons_append] at read ⊢
    unfold readInt
    split
    · rename_i heads
      rw [(List.cons.inj heads).1] at decimal
      cases decimal
    · rw [read]
      rfl
  | negSucc num =>
    have read := @readNat_digits rest (num + 1) small delimited
    rw [ascii_negSucc, cons_append]
    show (readNat (digits (num + 1) ++ rest)).bind _ = _
    rw [read]
    rfl

end

section
variable {rest : Bytes} {v : Bytes → Option (JsonValue × Bytes)}

lemma separated_cons (part next : Bytes) (parts : List Bytes) :
    separated (part :: next :: parts) = part ++ 0x2c :: separated (next :: parts) := by
  simp [separated, List.intercalate]

lemma separated_singleton (part : Bytes) : separated [part] = part := by simp [separated, List.intercalate]

lemma separated_head {byte more} (parts : List Bytes) :
    ∃ tail, separated ((byte :: more) :: parts) = byte :: tail := by
  cases parts with
  | nil => exact ⟨more, separated_singleton _⟩
  | cons next parts => exact ⟨_, separated_cons _ next parts⟩

lemma length_le_separated (parts : List Bytes) : parts.length ≤ (separated parts).length + 1 := by
  induction parts with
  | nil => simp
  | cons part parts ih =>
    cases parts with
    | nil => simp
    | cons next parts =>
      simp only [separated_cons, length_append, length_cons] at ih ⊢
      omega

lemma canonicalItems_eq (items : List JsonValue) : canonicalItems items = items.map canonicalEventJson := by
  induction items with
  | nil => rfl
  | cons item items ih => rw [canonicalItems, ih, map_cons]

lemma canonicalMembers_eq (mems : List (String × JsonValue)) :
    canonicalMembers mems = mems.map fun mem => (mem.1, canonicalEventJson mem.2) := by
  induction mems with
  | nil => rfl
  | cons mem mems ih => rw [canonicalMembers, ih, map_cons]

def ReadsBack (v : Bytes → Option (JsonValue × Bytes)) (item : JsonValue) : Prop :=
  ∀ rest, Delimited rest → v (canonicalEventJson item ++ rest) = some (item, rest)

lemma delimited_cons {byte} (stop : isDigit byte = false) : Delimited (byte :: rest) := by
  rintro _ ⟨⟩
  exact stop

lemma readItems_separated {items} {fuel : Nat} (reads : ∀ item ∈ items, ReadsBack v item)
    (some_item : items ≠ []) (enough : items.length ≤ fuel) :
    readItems v fuel (separated (items.map canonicalEventJson) ++ 0x5d :: rest) = some (items, rest) := by
  induction items generalizing fuel with
  | nil => exact absurd rfl some_item
  | cons item items ih =>
    obtain ⟨fuel, rfl⟩ : ∃ less, fuel = less + 1 := ⟨fuel - 1, by simp at enough; omega⟩
    have own := reads item mem_cons_self
    cases items with
    | nil =>
      have read := own (0x5d :: rest) (delimited_cons (by decide))
      simp [readItems, separated_singleton, read]
    | cons next items =>
      have others := @ih fuel (fun alt mem => reads alt (mem_cons_of_mem item mem))
        (by simp) (by simpa using enough)
      have read := own (0x2c :: (separated ((next :: items).map canonicalEventJson) ++ 0x5d :: rest))
        (delimited_cons (by decide))
      rw [map_cons, map_cons, separated_cons, append_assoc]
      simp only [map_cons, cons_append] at others read ⊢
      simp [readItems, read, others]

def memberJson (mem : String × JsonValue) : Bytes := jsonMember (mem.1, canonicalEventJson mem.2)

lemma memberJson_name (mem : String × JsonValue) : ∃ bytes, memberJson mem ++ rest = 0x22 :: bytes ∧
    readText bytes = some (mem.1, 0x3a :: (canonicalEventJson mem.2 ++ rest)) := by
  obtain ⟨bytes, quoted, read⟩ := @readText_jsonString (0x3a :: (canonicalEventJson mem.2 ++ rest)) mem.1
  refine ⟨_, ?_, read⟩
  simp [memberJson, jsonMember, quoted]

lemma readMembers_separated {mems} {fuel : Nat}
    (reads : ∀ mem ∈ mems, ReadsBack v mem.2) (some_member : mems ≠ []) (enough : mems.length ≤ fuel) :
    readMembers v fuel (separated (mems.map memberJson) ++ 0x7d :: rest) = some (mems, rest) := by
  induction mems generalizing fuel with
  | nil => exact absurd rfl some_member
  | cons mem mems ih =>
    obtain ⟨fuel, rfl⟩ : ∃ less, fuel = less + 1 := ⟨fuel - 1, by simp at enough; omega⟩
    have own := reads mem mem_cons_self
    cases mems with
    | nil =>
      obtain ⟨bytes, quoted, name⟩ := @memberJson_name (0x7d :: rest) mem
      have read := own (0x7d :: rest) (delimited_cons (by decide))
      simp [readMembers, separated_singleton, quoted, name, read]
    | cons next mems =>
      have others := @ih fuel (fun alt isIn => reads alt (mem_cons_of_mem mem isIn))
        (by simp) (by simpa using enough)
      rw [map_cons, map_cons, separated_cons, append_assoc, cons_append, ← map_cons]
      generalize separated ((next :: mems).map memberJson) ++ 0x7d :: rest = tail at others ⊢
      obtain ⟨bytes, quoted, name⟩ := @memberJson_name (0x2c :: tail) mem
      have read := own (0x2c :: tail) (delimited_cons (by decide))
      simp [readMembers, quoted, name, read, others]

def Readable : Nat → JsonValue → Prop
  | 0, _ => False
  | _, .null => True
  | _, .bool _ => True
  | _, .int v => v.natAbs ≤ 2 ^ 53 - 1
  | _, .float _ => False
  | _, .text _ => True
  | depth + 1, .list items => ∀ item ∈ items, Readable depth item
  | depth + 1, .object mems =>
    (mems.map Prod.fst).Nodup ∧ mems.Pairwise (fun first snd => codePoints first.1 ≤ codePoints snd.1) ∧
        ∀ mem ∈ mems, Readable depth mem.2

lemma canonicalObject_sorted {mems : List (String × JsonValue)}
    (sorted : mems.Pairwise fun first snd => codePoints first.1 ≤ codePoints snd.1) :
    canonicalEventJson (.object mems) = 0x7b :: separated (mems.map memberJson) ++ [0x7d] := by
  have ordered : (canonicalMembers mems).Pairwise fun first snd =>
      codePoints first.1 ≤ codePoints snd.1 := by
    rw [canonicalMembers_eq, pairwise_map]
    exact sorted
  rw [canonicalEventJson, sortKeys, ordered.insertionSort_eq, canonicalMembers_eq, List.map_map]
  rfl

variable {depth : Nat} {item : JsonValue}

lemma int_head (num : Int) : ∃ byte more, ascii (toString num) = byte :: more ∧
    (isDigit byte = true ∨ byte = 0x2d) := by
  cases num with
  | ofNat num =>
    obtain ⟨byte, more, first, decimal⟩ := digits_cons num
    exact ⟨byte, more, (ascii_toString num).trans first, .inl decimal⟩
  | negSucc num => exact ⟨0x2d, _, ascii_negSucc num, .inr rfl⟩

lemma canonical_head (readable : Readable depth item) :
    ∃ byte more, canonicalEventJson item = byte :: more ∧ byte ≠ 0x5d := by
  cases depth with
  | zero => cases item <;> exact readable.elim
  | succ depth =>
    cases item with
    | null => exact ⟨0x6e, _, rfl, by decide⟩
    | bool v => cases v <;> exact ⟨_, _, rfl, by decide⟩
    | int num =>
      obtain ⟨byte, more, first, leading⟩ := int_head num
      refine ⟨byte, more, first, ?_⟩
      rintro rfl
      simp [isDigit] at leading
    | float repr => exact readable.elim
    | text content => exact ⟨0x22, _, rfl, by decide⟩
    | list items => exact ⟨0x5b, _, rfl, by decide⟩
    | object mems => exact ⟨0x7b, _, rfl, by decide⟩

lemma readValue_canonical (readable : Readable depth item) : ReadsBack (readValue depth) item := by
  induction depth generalizing item with
  | zero => cases item <;> exact readable.elim
  | succ depth ih =>
    intro rest delimited
    cases item with
    | null => rfl
    | bool v => cases v <;> rfl
    | int num =>
      obtain ⟨byte, more, first, leading⟩ := int_head num
      have read := readInt_ascii readable delimited
      have others : byte ≠ 0x6e ∧ byte ≠ 0x74 ∧ byte ≠ 0x66 ∧ byte ≠ 0x22 ∧ byte ≠ 0x5b ∧ byte ≠ 0x7b := by
        refine ⟨?_, ?_, ?_, ?_, ?_, ?_⟩ <;> rintro rfl <;> simp [isDigit] at leading
      rw [first, cons_append] at read
      rw [canonicalEventJson, first, cons_append]
      simp [readValue, others, read]
    | float repr => exact readable.elim
    | text content =>
      obtain ⟨bytes, quoted, read⟩ := @readText_jsonString rest content
      rw [canonicalEventJson, quoted, cons_append]
      simp [readValue, read]
    | list items =>
      cases items with
      | nil => rfl
      | cons item items =>
        have least := length_le_separated ((item :: items).map canonicalEventJson)
        have read := @readItems_separated rest _ (item :: items)
          (separated ((item :: items).map canonicalEventJson) ++ 0x5d :: rest).length
          (fun alt isIn => ih (readable alt isIn)) (by simp)
          (by simp only [length_map, length_append, length_cons] at least ⊢; omega)
        obtain ⟨byte, more, first, noEnd⟩ := canonical_head (readable item mem_cons_self)
        obtain ⟨tail, separatedIs⟩ := @separated_head byte more (items.map canonicalEventJson)
        rw [map_cons, first, separatedIs] at read
        rw [canonicalEventJson, canonicalItems_eq, map_cons, first, separatedIs]
        simp at read
        simp [readValue, noEnd, read]
    | object mems =>
      rw [canonicalObject_sorted readable.2.1]
      cases mems with
      | nil => rfl
      | cons mem mems =>
        have least := length_le_separated ((mem :: mems).map memberJson)
        have read := @readMembers_separated rest _ (mem :: mems)
          (separated ((mem :: mems).map memberJson) ++ 0x7d :: rest).length
          (fun alt isIn => ih (readable.2.2 alt isIn)) (by simp)
          (by simp only [length_map, length_append, length_cons] at least ⊢; omega)
        obtain ⟨more, first⟩ : ∃ more, memberJson mem = 0x22 :: more := ⟨_, rfl⟩
        obtain ⟨tail, separatedIs⟩ := @separated_head 0x22 more (mems.map memberJson)
        rw [map_cons, first, separatedIs] at read ⊢
        simp at read
        simp [readValue, read]
        simpa using readable.1

lemma readJson_canonical (readable : Readable maxDepth item) : readJson (canonicalEventJson item) = some item := by
  have read := readValue_canonical readable [] (by rintro _ ⟨⟩)
  rw [append_nil] at read
  rw [readJson, read]

def Printable (bytes : Bytes) : Prop := ∀ byte ∈ bytes, 0x20 ≤ byte
instance (bytes : Bytes) : Decidable (Printable bytes) := decidableBAll _ bytes

lemma printable_append {first snd} (left : Printable first) (right : Printable snd) :
    Printable (first ++ snd) := forall_mem_append.mpr ⟨left, right⟩

lemma printable_separated {parts} (each : ∀ part ∈ parts, Printable part) : Printable (separated parts) := by
  induction parts with
  | nil => simp [separated, Printable]
  | cons part parts ih =>
    have own := each part mem_cons_self
    have others := ih fun alt mem => each alt (mem_cons_of_mem part mem)
    cases parts with
    | nil =>
      rw [separated_singleton]
      exact own
    | cons next parts => exact printable_append own (forall_mem_cons.mpr ⟨by decide, others⟩)

lemma printable_unicode (unit : Nat) : Printable (unicodeEscape unit) := by
  have digit : ∀ num < 16, 0x20 ≤ hexDigit num := by decide
  simp [Printable, unicodeEscape, digit, mod_lt]

lemma printable_escape (point : Nat) : Printable (escapeCodePoint point) := by
  unfold escapeCodePoint
  repeat' split
  any_goals decide
  · rename_i visible
    have v : (UInt8.ofNat point).toNat = point := by
      rw [UInt8.toNat_ofNat']
      omega
    simp [Printable, UInt8.le_iff_toNat_le, v, visible.1]
  · exact printable_unicode point
  · exact printable_append (printable_unicode _) (printable_unicode _)

lemma printable_jsonString (text : String) : Printable (jsonString text) := by
  have inside : Printable ((codePoints text).flatMap escapeCodePoint) := by
    intro byte mem
    obtain ⟨point, _, escaped⟩ := mem_flatMap.mp mem
    exact printable_escape point byte escaped
  exact printable_append (printable_append (by decide) inside) (by decide)

lemma printable_digits (num : Nat) : Printable (digits num) := by
  intro byte mem
  have decimal := digits_isDigit num byte mem
  simp only [isDigit, Bool.and_eq_true, decide_eq_true_eq] at decimal
  exact UInt8.le_trans (by decide) decimal.1

lemma canonical_printable (readable : Readable depth item) : Printable (canonicalEventJson item) := by
  induction depth generalizing item with
  | zero => cases item <;> exact readable.elim
  | succ depth ih =>
    cases item with
    | null => decide
    | bool v => cases v <;> decide
    | int num =>
      cases num with
      | ofNat num =>
        show Printable (ascii (toString num))
        rw [ascii_toString]
        exact printable_digits num
      | negSucc num =>
        rw [canonicalEventJson, ascii_negSucc]
        exact forall_mem_cons.mpr ⟨by decide, printable_digits _⟩
    | float repr => exact readable.elim
    | text content => exact printable_jsonString content
    | list items =>
      have inside : Printable (separated (items.map canonicalEventJson)) :=
        printable_separated (forall_mem_map.mpr fun item mem => ih (readable item mem))
      rw [canonicalEventJson, canonicalItems_eq]
      exact printable_append (printable_append (by decide) inside) (by decide)
    | object mems =>
      have inside : Printable (separated (mems.map memberJson)) := by
        apply printable_separated
        refine forall_mem_map.mpr fun mem isIn => ?_
        exact printable_append (printable_append (printable_jsonString _) (by decide)) (ih (readable.2.2 _ isIn))
      rw [canonicalObject_sorted readable.2.1]
      exact printable_append (forall_mem_cons.mpr ⟨by decide, inside⟩) (by decide)

end
end Clawdi.EventUpload
