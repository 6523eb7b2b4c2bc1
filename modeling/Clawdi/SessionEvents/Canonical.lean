import Clawdi.Lib.Outcome
import Clawdi.Lib.Sha256
import Mathlib.Data.List.Sort
import Mathlib.Data.List.Lex

namespace Clawdi.SessionEvents

/-- A JSON value as the parser hands it over; a float is kept as the text that Python prints for it. -/
inductive JsonValue
  | null
  | bool (v : Bool)
  | int (v : Int)
  | float (repr : String)
  | text (v : String)
  | list (items : List JsonValue)
  | object (mems : List (String × JsonValue))

abbrev RawSessionEvent := List (String × JsonValue)

variable (adapter : EventAdapter) (text : String) (line data : Bytes) (baseHeadHash : Digest)

def ascii : Bytes := text.toList.map fun ch => UInt8.ofNat ch.toNat
def codePoints : List Nat := text.toList.map Char.toNat
def hexDigit (digit : Nat) : UInt8 := UInt8.ofNat (if digit < 10 then 48 + digit else 87 + digit)

def unicodeEscape (unit : Nat) : Bytes :=
  [0x5c, 0x75, hexDigit (unit / 4096 % 16), hexDigit (unit / 256 % 16), hexDigit (unit / 16 % 16),
    hexDigit (unit % 16)]

/-- One code point of a string, escaped as `ensure_ascii` asks. -/
def escapeCodePoint (point : Nat) : Bytes :=
  if point = 0x22 then [0x5c, 0x22]
  else if point = 0x5c then [0x5c, 0x5c]
  else if point = 0x08 then ascii "\\b"
  else if point = 0x0c then ascii "\\f"
  else if point = 0x0a then ascii "\\n"
  else if point = 0x0d then ascii "\\r"
  else if point = 0x09 then ascii "\\t"
  else if 0x20 ≤ point ∧ point ≤ 0x7e then [UInt8.ofNat point]
  else if point < 0x10000 then unicodeEscape point
  else
    unicodeEscape (0xd800 + (point - 0x10000) / 0x400) ++ unicodeEscape (0xdc00 + (point - 0x10000) % 0x400)

def jsonString : Bytes := [0x22] ++ (codePoints text).flatMap escapeCodePoint ++ [0x22]
def separated (parts : List Bytes) : Bytes := [0x2c].intercalate parts

def sortKeys (mems : List (String × Bytes)) : List (String × Bytes) :=
  mems.insertionSort fun first snd => codePoints first.1 ≤ codePoints snd.1

def jsonMember (mem : String × Bytes) : Bytes := jsonString mem.1 ++ [0x3a] ++ mem.2

mutual

def canonicalEventJson : JsonValue → Bytes
  | .null => ascii "null"
  | .bool v => ascii (if v then "true" else "false")
  | .int v => ascii (toString v)
  | .float repr => ascii repr
  | .text v => jsonString v
  | .list items => [0x5b] ++ separated (canonicalItems items) ++ [0x5d]
  | .object mems => [0x7b] ++ separated ((sortKeys (canonicalMembers mems)).map jsonMember) ++ [0x7d]

def canonicalItems : List JsonValue → List Bytes
  | [] => []
  | item :: items => canonicalEventJson item :: canonicalItems items

def canonicalMembers : List (String × JsonValue) → List (String × Bytes)
  | [] => []
  | (name, v) :: mems => (name, canonicalEventJson v) :: canonicalMembers mems

end

/-- An event that its schema has accepted, with the fields the chunk checks read. -/
structure SessionEvent where
  seq : Nat
  eventId : Digest

/-- The two JSON validators of a chunk line. -/
structure EventAdapter where
  rawEvent : Bytes → Option RawSessionEvent
  event : Bytes → Except String SessionEvent

def EMPTY_EVENT_HEAD : Digest := sha256 (ascii "clawdi-events-v1\n")

/-- `SessionEventChunkInvalid`, or the `KeyError` of a raw event without the field. -/
inductive ChunkFault
  | invalid (msg : String)
  | keyError (name : String)

structure ValidatedEventChunk where
  events : List SessionEvent
  rawEvents : List RawSessionEvent
  contentHash : Digest
  resultHeadHash : Digest

def advanceEventHead (rawEvents : List RawSessionEvent) : Digest :=
  rawEvents.foldl (fun head ev => sha256 (head.bytes ++ (sha256 (canonicalEventJson (.object ev))).bytes))
    baseHeadHash

def splitLinesFrom : Bytes → Bytes → List Bytes
  | [], [] => []
  | line, [] => [line.reverse]
  | line, 0x0d :: 0x0a :: rest => line.reverse :: splitLinesFrom [] rest
  | line, 0x0d :: rest => line.reverse :: splitLinesFrom [] rest
  | line, 0x0a :: rest => line.reverse :: splitLinesFrom [] rest
  | line, byte :: rest => splitLinesFrom (byte :: line) rest

def splitLines : List Bytes := splitLinesFrom [] data

def rawMember (raw : RawSessionEvent) (name : String) : Except ChunkFault JsonValue :=
  match raw.lookup name with
  | some v => .ok v
  | none => .error (.keyError name)

def validateLine (seq : Nat) (line : Bytes) : Except ChunkFault (RawSessionEvent × SessionEvent) := do
  raiseIf (line = []) (.invalid "event chunks cannot contain blank lines")
  match adapter.rawEvent line, adapter.event line with
  | none, _ => throw (.invalid "each event must be a valid JSON object")
  | some _, .error issues => throw (.invalid s!"event does not match events-v1 at seq {seq}: {issues}")
  | some raw, .ok ev =>
    raiseIf (ev.seq ≠ seq) (.invalid "event seq must be continuous")
    let src ← rawMember raw "source"
    let type ← rawMember raw "type"
    let expectedId := sha256 (canonicalEventJson (.object [("source", src), ("type", type)]))
    raiseIf (ev.eventId ≠ expectedId) (.invalid "event_id does not match source identity")
    return (raw, ev)

def validateLines (adapter : EventAdapter) :
    Nat → List Bytes → Except ChunkFault (List (RawSessionEvent × SessionEvent))
  | _, [] => .ok []
  | seq, line :: lines => do
    let first ← validateLine adapter seq line
    let rest ← validateLines adapter (seq + 1) lines
    return first :: rest

def validateEventChunk (startSeq : Nat) (baseHeadHash : Digest) : Except ChunkFault ValidatedEventChunk := do
  raiseIf (data = [] ∨ data.getLast? ≠ some 0x0a)
    (.invalid "event chunks must be non-empty newline-terminated NDJSON")
  let lines ← validateLines adapter startSeq (splitLines data)
  return {
    events := lines.map Prod.snd
    rawEvents := lines.map Prod.fst
    contentHash := sha256 data
    resultHeadHash := advanceEventHead baseHeadHash (lines.map Prod.fst) }

lemma splitLinesFrom_nonempty (content : line ≠ [] ∨ data ≠ []) : splitLinesFrom line data ≠ [] := by
  fun_induction splitLinesFrom line data with
  | case1 => simp at content
  | case2 | case3 | case4 | case5 => simp
  | case6 line byte rest => simp_all

lemma validateLines_length {adapter} {seq : Nat} {lines validated}
    (valid : validateLines adapter seq lines = .ok validated) : validated.length = lines.length := by
  induction lines generalizing seq validated with
  | nil =>
    cases valid
    rfl
  | cons line lines ih =>
    rw [validateLines, bind_eq_ok] at valid
    obtain ⟨first, _, valid⟩ := valid
    rw [bind_eq_ok] at valid
    obtain ⟨rest, validRest, valid⟩ := valid
    rw [pure_eq_ok] at valid
    rw [← valid, List.length_cons, List.length_cons, ih validRest]

lemma validateEventChunk_spec {adapter data} {startSeq : Nat} {baseHeadHash validated}
    (valid : validateEventChunk adapter data startSeq baseHeadHash = .ok validated) :
    0 < validated.events.length ∧ validated.contentHash = sha256 data := by
  unfold validateEventChunk at valid
  rw [bind_eq_ok] at valid
  obtain ⟨_, terminated, valid⟩ := valid
  rw [raiseIf_eq_ok, not_or] at terminated
  rw [bind_eq_ok] at valid
  obtain ⟨lines, validLines, valid⟩ := valid
  rw [pure_eq_ok] at valid
  subst valid
  have someLine : splitLines data ≠ [] := splitLinesFrom_nonempty [] data (.inr terminated.1)
  refine ⟨?_, rfl⟩
  rw [List.length_map, validateLines_length validLines]
  exact List.length_pos_of_ne_nil someLine

example : canonicalEventJson (.object [("b", .int (-1)), ("a", .list [.text "é\n", .null])]) =
    ascii "\x7b\"a\":[\"\\u00e9\\n\",null],\"b\":-1\x7d" := by decide +kernel

end Clawdi.SessionEvents
