import Clawdi.EventUpload.Chunks

namespace Clawdi.EventUpload
open SessionEvents

structure SafeInteger where
  value : Int
  safe : value.natAbs ≤ 2 ^ 53 - 1

/-- A value of the client; a field is `none` where it is undefined. -/
inductive TsValue
  | null
  | boolean (value : Bool)
  | number (value : SafeInteger)
  | string (value : String)
  | array (items : List TsValue)
  | object (fields : List (String × Option TsValue))

def charUnits (point : Nat) : List Nat :=
  if point < 0x10000 then [point]
  else [0xd800 + (point - 0x10000) / 0x400, 0xdc00 + (point - 0x10000) % 0x400]

def units (text : String) : List Nat := (codePoints text).flatMap charUnits

variable (name : String) (unit : Nat)

/-- `JSON.stringify` of one unit of a well-formed string, as units. -/
def stringifyUnit : List Nat :=
  if unit = 0x22 then [0x5c, 0x22]
  else if unit = 0x5c then [0x5c, 0x5c]
  else if unit = 0x08 then [0x5c, 0x62]
  else if unit = 0x0c then [0x5c, 0x66]
  else if unit = 0x0a then [0x5c, 0x6e]
  else if unit = 0x0d then [0x5c, 0x72]
  else if unit = 0x09 then [0x5c, 0x74]
  else if unit < 0x20 then (unicodeEscape unit).map UInt8.toNat
  else [unit]

def asciiUnit : Bytes :=
  if 0x20 ≤ unit ∧ unit ≤ 0x7e then [UInt8.ofNat unit] else unicodeEscape unit

def asciiJsonString (value : String) : Bytes :=
  ([0x22] ++ (units value).flatMap stringifyUnit ++ [0x22]).flatMap asciiUnit

def sortFields {α : Type} (fields : List (String × α)) : List (String × α) :=
  fields.insertionSort fun first snd => units first.1 ≤ units snd.1

def present {α : Type} (fields : List (String × Option α)) : List (String × α) :=
  fields.filterMap fun field => field.2.map fun item => (field.1, item)

mutual

def canonicalJson : TsValue → Bytes
  | .null => ascii "null"
  | .boolean value => ascii (if value then "true" else "false")
  | .string value => asciiJsonString value
  | .number value => ascii (toString value.value)
  | .array items => [0x5b] ++ separated (canonicalJsons items) ++ [0x5d]
  | .object fields =>
    [0x7b] ++ separated ((present (sortFields (canonicalFields fields))).map fun field =>
      asciiJsonString field.1 ++ [0x3a] ++ field.2) ++ [0x7d]

def canonicalJsons : List TsValue → List Bytes
  | [] => []
  | item :: items => canonicalJson item :: canonicalJsons items

def canonicalFields : List (String × Option TsValue) → List (String × Option Bytes)
  | [] => []
  | (name, some item) :: fields => (name, some (canonicalJson item)) :: canonicalFields fields
  | (name, none) :: fields => (name, none) :: canonicalFields fields

end

/-! ## The events of the schema -/

inductive Adapter
  | claudeCode | codex | hermes | openclaw | pi | opencode

def Adapter.text : Adapter → String
  | .claudeCode => "claude_code"
  | .codex => "codex"
  | .hermes => "hermes"
  | .openclaw => "openclaw"
  | .pi => "pi"
  | .opencode => "opencode"

structure SessionEventSource where
  adapter : Adapter
  sessionKey : String
  recordId : String
  recordSeq : Option SafeInteger
  partIndex : Option SafeInteger

inductive Availability
  | external | metadataOnly

def Availability.text : Availability → String
  | .external => "external"
  | .metadataOnly => "metadata_only"

inductive SessionContentPart
  | text (text : String)
  | attachment (attachmentId : String) (availability : Availability) (uri name mediaType : Option String)
      (sizeBytes : Option SafeInteger) (sha256 : Option String)

structure SessionEventReaction where
  emoji : String
  author : String
  at? : Option String
  seen : Option Bool

structure SessionEventDisplayMetadata where
  taskCount : Option SafeInteger
  attempt : Option SafeInteger
  reactions : Option (List SessionEventReaction)

inductive Lifecycle
  | active | compacted | inactive

def Lifecycle.text : Lifecycle → String
  | .active => "active"
  | .compacted => "compacted"
  | .inactive => "inactive"

inductive Display
  | message | event | hidden

def Display.text : Display → String
  | .message => "message"
  | .event => "event"
  | .hidden => "hidden"

structure SessionEventSemantics where
  lifecycle : Lifecycle
  display : Display
  compressedSummary : Bool
  displayKind : Option String
  displayMetadata : Option SessionEventDisplayMetadata

inductive Role
  | user | assistant | system | developer

def Role.text : Role → String
  | .user => "user"
  | .assistant => "assistant"
  | .system => "system"
  | .developer => "developer"

inductive Status
  | completed | error

def Status.text : Status → String
  | .completed => "completed"
  | .error => "error"

inductive ReasoningKind
  | thinking | reasoning | redacted

def ReasoningKind.text : ReasoningKind → String
  | .thinking => "thinking"
  | .reasoning => "reasoning"
  | .redacted => "redacted"

inductive EventBody
  | message (role : Role) (parts : List SessionContentPart) (model : Option String)
  | toolCall (callId name : String) (argumentsJson model : Option String)
  | toolResult (callId : String) (name : Option String) (status : Status) (parts : List SessionContentPart)
      (resultJson : Option String)
  | reasoning (kind : ReasoningKind) (parts : List String) (payloadJson model : Option String)

structure SessionEvent where
  seq : SafeInteger
  eventId : String
  source : SessionEventSource
  timestamp : Option String
  semantics : Option SessionEventSemantics
  body : EventBody

def textField (value : Option String) : String × Option TsValue := (name, value.map .string)
def numberField (value : Option SafeInteger) : String × Option TsValue := (name, value.map .number)

def SessionEventSource.value (source : SessionEventSource) : TsValue :=
  .object [textField "adapter" source.adapter.text, textField "session_key" source.sessionKey,
    textField "record_id" source.recordId, numberField "record_seq" source.recordSeq,
    numberField "part_index" source.partIndex]

def SessionContentPart.value : SessionContentPart → TsValue
  | .text content => .object [textField "type" "text", textField "text" content]
  | .attachment attachmentId availability uri name mediaType sizeBytes sha256 =>
    .object [textField "type" "attachment", textField "attachment_id" attachmentId,
      textField "availability" availability.text, textField "uri" uri, textField "name" name,
      textField "media_type" mediaType, numberField "size_bytes" sizeBytes, textField "sha256" sha256]

def SessionEventReaction.value (reaction : SessionEventReaction) : TsValue :=
  .object [textField "emoji" reaction.emoji, textField "author" reaction.author,
    textField "at" reaction.at?, ("seen", reaction.seen.map .boolean)]

def SessionEventDisplayMetadata.value (metadata : SessionEventDisplayMetadata) : TsValue :=
  .object [numberField "task_count" metadata.taskCount, numberField "attempt" metadata.attempt,
    ("reactions", metadata.reactions.map fun reactions =>
      .array (reactions.map SessionEventReaction.value))]

def SessionEventSemantics.value (semantics : SessionEventSemantics) : TsValue :=
  .object [textField "lifecycle" semantics.lifecycle.text, textField "display" semantics.display.text,
    ("compressed_summary", some (.boolean semantics.compressedSummary)),
    textField "display_kind" semantics.displayKind,
    ("display_metadata", semantics.displayMetadata.map SessionEventDisplayMetadata.value)]

def partsField (parts : List SessionContentPart) : String × Option TsValue :=
  ("parts", some (.array (parts.map SessionContentPart.value)))

def EventBody.type : EventBody → String
  | .message .. => "message"
  | .toolCall .. => "tool_call"
  | .toolResult .. => "tool_result"
  | .reasoning .. => "reasoning"

def EventBody.fields : EventBody → List (String × Option TsValue)
  | .message role parts model => [textField "role" role.text, partsField parts, textField "model" model]
  | .toolCall callId name argumentsJson model =>
    [textField "call_id" callId, textField "name" name, textField "arguments_json" argumentsJson,
      textField "model" model]
  | .toolResult callId name status parts resultJson =>
    [textField "call_id" callId, textField "name" name, textField "status" status.text, partsField parts,
      textField "result_json" resultJson]
  | .reasoning kind parts payloadJson model =>
    [textField "kind" kind.text,
      ("parts", some (.array (parts.map fun text => (SessionContentPart.text text).value))),
      textField "payload_json" payloadJson, textField "model" model]

namespace SessionEvent
variable (event : SessionEvent)

def value : TsValue :=
  .object ([numberField "seq" event.seq, textField "event_id" event.eventId,
    ("source", some event.source.value), textField "timestamp" event.timestamp,
    ("semantics", event.semantics.map SessionEventSemantics.value), textField "type" event.body.type] ++
      event.body.fields)

def identity : TsValue := .object [("source", some event.source.value), textField "type" event.body.type]
def encoded : Bytes := canonicalJson event.value

end SessionEvent

def advanceEventHead (baseHead : Digest) (events : List SessionEvent) : Digest :=
  events.foldl (fun head event => advanceCanonicalEventHead head event.encoded) baseHead

end Clawdi.EventUpload
