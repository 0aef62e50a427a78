import RankTrace.Bytes

/-!
# Unique ids

The opaque identity that all ranks of one communicator share: 128 bytes, of which the first 16
are shown.
-/

namespace RankTrace

structure UniqueId where
  bytes : List UInt8
  size_eq : bytes.length = 128
  deriving DecidableEq

namespace UniqueId

def size : Nat := 128

def ofBytes? (bytes : List UInt8) : Option UniqueId :=
  if h : bytes.length = 128 then some ⟨bytes, h⟩ else none

def ofNat (n : Nat) : UniqueId :=
  ⟨littleEndian 8 n ++ List.replicate 120 0, by simp⟩

instance : Inhabited UniqueId := ⟨ofNat 0⟩

/-- The first 16 bytes, which tell communicators apart in dumps. -/
def text (id : UniqueId) : String := Hex.encode (id.bytes.take 16)

@[simp] theorem ofBytes?_bytes (id : UniqueId) : ofBytes? id.bytes = some id := by
  simp [ofBytes?, id.size_eq]

end UniqueId

end RankTrace
