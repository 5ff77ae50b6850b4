import NabuCharger.Logic.Text

/-!
# `Wdf.HubPath`: the path of a Resource Hub connection

A connection is opened by a path: a fixed prefix and the id of the connection, as sixteen
hexadecimal digits. There are two builders. That of the shared crate pushes the characters into a
buffer of forty. That of the driver writes them into an array of just the right length, and turns
the slashes of its prefix round.
-/

set_option autoImplicit false

namespace Wdf

open Effectful

/-- A character of a UTF-16 string. -/
abbrev WideChar : Type := BitVec 16

/-- The bytes of an ASCII text. -/
def asciiBytes (text : String) : List Byte := text.toList.map fun c => BitVec.ofNat 8 c.toNat

/-- The four bits of an id at a shift. -/
def nibbleAt (id : BitVec 64) (shift : Nat) : Byte := ((id >>> shift) &&& 0xF).setWidth 8

/-! ### The shared crate -/

/-- The prefix as one driver spells it, ready for a device path. -/
def hubPathPrefix : List Byte := asciiBytes "\\Device\\RESOURCE_HUB\\"

/-- Number of characters in the buffer. -/
def hubPathChars : Nat := 40

/-- A path in its buffer. -/
structure HubPath where
  chars : List WideChar
  len : Nat
  deriving DecidableEq, Repr

namespace HubPath

/-- The empty path. -/
def empty : HubPath where
  chars := List.replicate hubPathChars 0
  len := 0

/-- Puts a character behind the others, if the buffer has room for it. -/
def pushChar (path : HubPath) (character : WideChar) : HubPath :=
  if path.len < path.chars.length then
    { chars := path.chars.set path.len character
      len := satAdd 64 path.len 1 }
  else path

/-- The characters in use. -/
def characters (path : HubPath) : List WideChar := path.chars.take path.len

end HubPath

/-- The digit of a value below 16. -/
def hexCharacter (digit : Byte) : Byte :=
  BitVec.ofNat 8
    (if digit < 10 then satAdd 8 0x30 digit.toNat else satAdd 8 0x61 (digit.toNat - 10))

/-- Pushes the digits of the lowest `nibbles` nibbles, the highest first. -/
def pushNibbles (id : BitVec 64) : Nat → HubPath → HubPath
  | 0, path => path
  | nibble + 1, path =>
      let digit := nibbleAt id (satMul 32 nibble 4)
      pushNibbles id nibble (path.pushChar ((hexCharacter digit).setWidth 16))

/-- Builds the device path for a connection id. -/
def resourceHubPath (id : BitVec 64) : HubPath :=
  pushNibbles id 16
    (hubPathPrefix.foldl (fun path byte => path.pushChar (byte.setWidth 16)) .empty)

end Wdf

namespace Kmdf

open Effectful Wdf

/-! ### The driver -/

/-- The prefix as the other driver spells it, with slashes. -/
def resourceHubPrefix : List Byte := asciiBytes "/Device/RESOURCE_HUB/"

/-- Writes the characters into the slots from `index` on. A slot that is not there is skipped. -/
def writeSlots : List WideChar → Nat → List WideChar → List WideChar
  | chars, _, [] => chars
  | chars, index, character :: rest => writeSlots (chars.set index character) (index + 1) rest

/-- The symbol of a nibble. -/
def hexSymbol (nibble : Byte) : Byte := if nibble ≤ 9 then 0x30 + nibble else 0x61 + (nibble - 10)

/-- The path to the node of a peripheral. -/
def resourceHubPath (peripheralId : BitVec 64) : List WideChar :=
  let chars := List.replicate (resourceHubPrefix.length + 16) 0
  let chars := writeSlots chars 0
    (resourceHubPrefix.map fun byte => if byte = 0x2F then 0x5C else byte.setWidth 16)
  writeSlots chars resourceHubPrefix.length
    ((List.range 16).map fun position =>
      (hexSymbol (nibbleAt peripheralId (60 - satMul 32 position 4))).setWidth 16)

end Kmdf
