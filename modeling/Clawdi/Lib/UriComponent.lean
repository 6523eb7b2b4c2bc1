import Mathlib.Data.List.Basic
import Mathlib.Data.UInt

namespace Clawdi.UriComponent

def unreserved (code : Nat) : Bool :=
  (0x30 ≤ code && code ≤ 0x39) || (0x41 ≤ code && code ≤ 0x5a) || (0x61 ≤ code && code ≤ 0x7a) ||
    code ∈ [0x2d, 0x5f, 0x2e, 0x21, 0x7e, 0x2a, 0x27, 0x28, 0x29]

def hexDigit (value : Nat) : Char := Char.ofNat (if value < 10 then 0x30 + value else 0x37 + value)

def encodeByte (byte : UInt8) : List Char :=
  if unreserved byte.toNat then [Char.ofNat byte.toNat]
  else ['%', hexDigit (byte.toNat / 16), hexDigit (byte.toNat % 16)]

def encodeBytes (bytes : List UInt8) : List Char := bytes.flatMap encodeByte
def encode (text : String) : List Char := encodeBytes text.toUTF8.data.toList

end Clawdi.UriComponent
