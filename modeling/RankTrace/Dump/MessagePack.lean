import RankTrace.Bytes
import RankTrace.Dump.Value

/-!
# Dumps as MessagePack

Binary form of a dump tree. Every number and every length takes the smallest form that holds it,
so a tree has one encoding. Strings, lists and dictionaries have fewer than `2 ^ 32` parts.
-/

namespace RankTrace.MessagePack

def integer (i : Int) : List UInt8 :=
  if 0 ≤ i then
    let n := i.toNat
    if n < 0x80 then bigEndian 1 n
    else if n < 0x100 then 0xcc :: bigEndian 1 n
    else if n < 0x10000 then 0xcd :: bigEndian 2 n
    else if n < 0x100000000 then 0xce :: bigEndian 4 n
    else 0xcf :: bigEndian 8 n
  else if -0x20 ≤ i then bigEndian 1 (i + 0x100).toNat
  else if -0x80 ≤ i then 0xd0 :: bigEndian 1 (i + 0x100).toNat
  else if -0x8000 ≤ i then 0xd1 :: bigEndian 2 (i + 0x10000).toNat
  else if -0x80000000 ≤ i then 0xd2 :: bigEndian 4 (i + 0x100000000).toNat
  else 0xd3 :: bigEndian 8 (i + 0x10000000000000000).toNat

def stringHeader (n : Nat) : List UInt8 :=
  if n < 0x20 then bigEndian 1 (0xa0 + n)
  else if n < 0x100 then 0xd9 :: bigEndian 1 n
  else if n < 0x10000 then 0xda :: bigEndian 2 n
  else 0xdb :: bigEndian 4 n

def listHeader (n : Nat) : List UInt8 :=
  if n < 0x10 then bigEndian 1 (0x90 + n)
  else if n < 0x10000 then 0xdc :: bigEndian 2 n
  else 0xdd :: bigEndian 4 n

def dictHeader (n : Nat) : List UInt8 :=
  if n < 0x10 then bigEndian 1 (0x80 + n)
  else if n < 0x10000 then 0xde :: bigEndian 2 n
  else 0xdf :: bigEndian 4 n

def string (s : String) : List UInt8 :=
  let bytes := s.toUTF8.toList
  stringHeader bytes.length ++ bytes

def scalar : Value → List UInt8
  | .null => [0xc0]
  | .bool false => [0xc2]
  | .bool true => [0xc3]
  | .int i => integer i.toInt
  | .float f => 0xcb :: bigEndian 8 f.bits.toNat
  | .str s => string s
  | .list _ => []
  | .dict _ => []

mutual

def write : Value → List UInt8 → List UInt8
  | .list items, rest => listHeader items.length ++ writeItems items rest
  | .dict fields, rest => dictHeader fields.length ++ writeFields fields rest
  | value, rest => scalar value ++ rest

def writeItems : List Value → List UInt8 → List UInt8
  | [], rest => rest
  | item :: items, rest => write item (writeItems items rest)

def writeFields : List (String × Value) → List UInt8 → List UInt8
  | [], rest => rest
  | (key, value) :: fields, rest => string key ++ write value (writeFields fields rest)

end

def encode (v : Value) : List UInt8 := write v []

end RankTrace.MessagePack
