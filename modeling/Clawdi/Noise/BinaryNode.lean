import Clawdi.Noise.Frames

namespace Clawdi.Noise

/-- The exceptions of the codec; `UnicodeDecodeError` is a `ValueError`. -/
inductive Raised where
  | valueError
  | overflowError
  | indexError
  | recursionError
deriving DecidableEq

inductive Content (α : Type) where
  | absent
  | text (v : String)
  | bytes (v : List UInt8)
  | nodes (children : List α)

inductive BinaryNode where
  | node (tag : String) (attrs : List (String × String)) (content : Content BinaryNode)

def utf8 (v : String) : List UInt8 := v.toUTF8.data.toList
def decodeUtf8 (v : List UInt8) : Option String := String.fromUTF8? ⟨v.toArray⟩
lemma decodeUtf8_utf8 (v : String) : decodeUtf8 (utf8 v) = some v := dif_pos v.isValidUTF8

def toBytes : ℕ → ℕ → List UInt8
  | 0, _ => []
  | bytes + 1, num => toBytes bytes (num / 256) ++ [UInt8.ofNat num]

def fromBytes (bytes : List UInt8) : ℕ := bytes.foldl (fun num b => num * 256 + b.toNat) 0

section

def writeListStart (size : ℕ) : Except Raised (List UInt8) :=
  if size = 0 then .ok [0]
  else if size < 256 then .ok [248, UInt8.ofNat size]
  else if size < 2 ^ 16 then .ok (249 :: toBytes 2 size)
  else .error .overflowError

def writeBytes (v : List UInt8) : Except Raised (List UInt8) :=
  let length := v.length
  if 2 ^ 20 ≤ length then
    if length < 2 ^ 32 then .ok (254 :: toBytes 4 length ++ v) else .error .overflowError
  else if 256 ≤ length then
    let first := UInt8.ofNat (length >>> 16) &&& (0x0F : UInt8)
    .ok ([253, first, UInt8.ofNat (length >>> 8), UInt8.ofNat length] ++ v)
  else .ok ([252, UInt8.ofNat length] ++ v)

def writeStringRaw (v : String) : Except Raised (List UInt8) := writeBytes (utf8 v)

def writeEach {α : Type} (write : α → Except Raised (List UInt8)) : List α → Except Raised (List UInt8)
  | [] => .ok []
  | item :: items => do
    let first ← write item
    let rest ← writeEach write items
    return first ++ rest

def writeAttr (attr : String × String) : Except Raised (List UInt8) := do
  let key ← writeStringRaw attr.1
  let v ← writeStringRaw attr.2
  return key ++ v

def Content.count {α : Type} : Content α → ℕ
  | .absent => 0
  | _ => 1

def listSize (attrs : List (String × String)) (content : Content BinaryNode) : ℕ :=
  1 + 2 * attrs.length + content.count

/-- `_write_binary_node`, with `frames` more calls of itself on the interpreter's stack. -/
def writeBinaryNode : ℕ → BinaryNode → Except Raised (List UInt8)
  | 0, _ => .error .recursionError
  | frames + 1, .node tag attrs content => do
    let start ← writeListStart (listSize attrs content)
    let tag ← writeStringRaw tag
    let attrs ← writeEach writeAttr attrs
    let content ← match content with
      | .absent => pure []
      | .text v => writeStringRaw v
      | .bytes v => writeBytes v
      | .nodes children => do
        let start ← writeListStart children.length
        let wrote ← writeEach (writeBinaryNode frames) children
        pure (start ++ wrote)
    return start ++ tag ++ attrs ++ content

def encodeBinaryNodeMinimal (frames : ℕ) (node : BinaryNode) : Except Raised (List UInt8) := do
  let wrote ← writeBinaryNode frames node
  return 0 :: wrote

end

section

/-- A method of `_BinaryNodeDecoder`, from the bytes that are not read yet. -/
abbrev Reader := StateT (List UInt8) (Except Raised)
def raise {α : Type} (e : Raised) : Reader α := fun _ => .error e

def readByte : Reader UInt8
  | [] => .error .valueError
  | b :: rest => .ok (b, rest)

def peekByte : Reader UInt8
  | [] => .error .valueError
  | b :: rest => .ok (b, b :: rest)

def readBytes (length : ℕ) : Reader (List UInt8) := fun data =>
  if data.length < length then .error .valueError else .ok (data.take length, data.drop length)

def readMany {α : Type} (read : Reader α) : ℕ → Reader (List α)
  | 0 => pure []
  | count + 1 => do
    let first ← read
    let rest ← readMany read count
    return first :: rest

def readListSize : Reader ℕ := do
  let tag ← readByte
  if tag = 0 then return 0
  else if tag = 248 then return (← readByte).toNat
  else if tag = 249 then return fromBytes (← readBytes 2)
  else raise .valueError

def readInt20 : Reader ℕ := do
  let first ← readByte
  let snd ← readByte
  let third ← readByte
  return int24 (first &&& 0x0F) snd third

structure Dictionary where
  single : ℕ → Option String
  double : ℕ → ℕ → Option String

def unpackPackedNibble (tag : UInt8) (v : ℕ) : Option Char :=
  if tag = 251 then
    if v ≤ 9 then some (Char.ofNat ('0'.toNat + v))
    else if v ≤ 15 then some (Char.ofNat ('A'.toNat + v - 10))
    else none
  else if tag = 255 then
    if v ≤ 9 then some (Char.ofNat ('0'.toNat + v))
    else if v = 10 then some '-'
    else if v = 11 then some '.'
    else if v = 15 then some (Char.ofNat 0)
    else none
  else none

def ofOption {α : Type} : Option α → Reader α
  | none => raise .valueError
  | some a => pure a

def readNibbles (tag : UInt8) : Reader (List Char) := do
  let v ← readByte
  let high ← ofOption (unpackPackedNibble tag (v.toNat / 16))
  let low ← ofOption (unpackPackedNibble tag (v.toNat % 16))
  return [high, low]

def pop : List Char → Reader (List Char)
  | [] => raise .indexError
  | chars => pure chars.dropLast

def readPacked8 (tag : UInt8) : Reader String := do
  let start ← readByte
  let chars ← readMany (readNibbles tag) (start.toNat % 128)
  let chars ← if 128 ≤ start.toNat then pop chars.flatten else pure chars.flatten
  return String.ofList chars

/-- A string of the dictionary or of a packed form, or the bytes of a raw one. -/
inductive Text where
  | text (v : String)
  | bytes (v : List UInt8)

def Text.decode : Text → Reader String
  | .text v => pure v
  | .bytes v => ofOption (decodeUtf8 v)

def readDictionary (dict : Dictionary) (tag : UInt8) : Reader Text :=
  if 236 ≤ tag.toNat ∧ tag.toNat ≤ 239 then do
    let idx ← readByte
    let token ← ofOption (dict.double (tag.toNat - 236) idx.toNat)
    return .text token
  else if 1 ≤ tag.toNat ∧ tag.toNat < 236 then do
    let token ← ofOption (dict.single tag.toNat)
    return .text token
  else raise .valueError

def jidPair (user server : String) : Reader String :=
  if server = "" then raise .valueError else pure (user ++ "@" ++ server)

def adJidServer (domainType : UInt8) : String :=
  if domainType = 1 then "lid"
  else if domainType = 128 then "hosted"
  else if domainType = 129 then "hosted.lid"
  else "s.whatsapp.net"

def adJid (domainType device : UInt8) (user : String) : String :=
  if device ≠ 0 then user ++ ":" ++ toString device.toNat ++ "@" ++ adJidServer domainType
  else user ++ "@" ++ adJidServer domainType

mutual

/-- `_read_string`. -/
def readString (dict : Dictionary) : ℕ → Reader String
  | 0 => raise .recursionError
  | frames + 1 => do
    let v ← readStringOrBytes dict frames
    v.decode

def readStringOrBytes (dict : Dictionary) : ℕ → Reader Text
  | 0 => raise .recursionError
  | frames + 1 => do
    let tag ← readByte
    if tag = 0 then return .text ""
    else if tag = 252 then
      let length ← readByte
      return .bytes (← readBytes length.toNat)
    else if tag = 253 then
      let length ← readInt20
      return .bytes (← readBytes length)
    else if tag = 254 then
      let length ← readBytes 4
      return .bytes (← readBytes (fromBytes length))
    else if tag = 250 then return .text (← readJidPair dict frames)
    else if tag = 247 then return .text (← readAdJid dict frames)
    else if tag = 251 ∨ tag = 255 then return .text (← readPacked8 tag)
    else readDictionary dict tag

def readJidPair (dict : Dictionary) : ℕ → Reader String
  | 0 => raise .recursionError
  | frames + 1 => do
    let user ← readString dict frames
    let server ← readString dict frames
    jidPair user server

def readAdJid (dict : Dictionary) : ℕ → Reader String
  | 0 => raise .recursionError
  | frames + 1 => do
    let domainType ← readByte
    let device ← readByte
    let user ← readString dict frames
    return adJid domainType device user

end

def setAttr (attrs : List (String × String)) (key v : String) : List (String × String) :=
  if key ∈ attrs.map Prod.fst then attrs.map fun attr => if attr.1 = key then (key, v) else attr
  else attrs ++ [(key, v)]

def readAttrs (dict : Dictionary) (frames : ℕ) : ℕ → List (String × String) → Reader (List (String × String) × ℕ)
  | remaining + 2, attrs => do
    let key ← readString dict frames
    let v ← readString dict frames
    readAttrs dict frames remaining (setAttr attrs key v)
  | remaining, attrs => return (attrs, remaining)

def Text.content {α : Type} : Text → Content α
  | .text v => .text v
  | .bytes v => .bytes v

mutual

def readNode (dict : Dictionary) : ℕ → Reader BinaryNode
  | 0 => raise .recursionError
  | frames + 1 => do
    let size ← readListSize
    if size = 0 then raise .valueError
    else
      let tag ← readString dict frames
      let (attrs, remaining) ← readAttrs dict frames (size - 1) []
      if remaining = 1 then return .node tag attrs (← readContent dict frames)
      else return .node tag attrs .absent

def readContent (dict : Dictionary) : ℕ → Reader (Content BinaryNode)
  | 0 => raise .recursionError
  | frames + 1 => do
    let tag ← peekByte
    if tag = 0 ∨ tag = 248 ∨ tag = 249 then
      let count ← readListSize
      return .nodes (← readMany (readNode dict frames) count)
    else
      let v ← readStringOrBytes dict frames
      return v.content

end

def decodeBinaryNodeMinimal (dict : Dictionary) (frames : ℕ) : Reader BinaryNode := do
  let compression ← readByte
  if compression ≠ 0 then raise .valueError
  else readNode dict frames

end
end Clawdi.Noise
