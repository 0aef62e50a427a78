import RankTrace.Communicator.Basic

/-!
# Bootstrap data

Rank 0 draws a unique id and ships it with the world size to its peers, in 136 bytes: the world
size as a little-endian word, then the id. Every rank then joins with the same data.
-/

namespace RankTrace

structure Bootstrap where
  uniqueId : UniqueId
  worldSize : UInt64
  deriving DecidableEq

namespace Bootstrap

variable {σ : Type}

def headerSize : Nat := 8

def encodedSize : Nat := headerSize + UniqueId.size

def generate (lib : Library σ) (worldSize : UInt64) (host : Host σ) :
    Except CommError Bootstrap × Host σ :=
  let (answer, host) := host.call lib .uniqueId
  match answer with
  | .ok uniqueId => (.ok ⟨uniqueId, worldSize⟩, host)
  | .error status => (.error (host.nativeError lib .uniqueId status none none), host)

def encode (b : Bootstrap) : List UInt8 :=
  littleEndian headerSize b.worldSize.toNat ++ b.uniqueId.bytes

/-- Only the size can be wrong: any id and any world size is taken. -/
def decode (bytes : List UInt8) : Except CommError Bootstrap :=
  if h : bytes.length = encodedSize then
    .ok {
      uniqueId := ⟨bytes.drop headerSize, by
        simp [h, encodedSize, headerSize, UniqueId.size]⟩
      worldSize := UInt64.ofNat (ofLittleEndian (bytes.take headerSize)) }
  else .error (.invalidBootstrap (.size encodedSize bytes.length))

def maxInt32 : Nat := 2147483647

def toInt32? (n : UInt64) : Option Int32 :=
  if n.toNat ≤ maxInt32 then some (Int32.ofNat n.toNat) else none

/-- Join as `rank`. World sizes and ranks beyond 32 bits are refused before any call. -/
def join (lib : Library σ) (b : Bootstrap) (settings : CommSettings) (rank : UInt64)
    (config : InitConfig) (host : Host σ) : Except CommError Communicator × Host σ :=
  match toInt32? b.worldSize with
  | none => (.error (.invalidBootstrap (.worldSize b.worldSize)), host)
  | some worldSize =>
    match toInt32? rank with
    | none => (.error (.invalidRank (Int32.ofNat maxInt32) worldSize), host)
    | some rank =>
      match Communicator.create lib settings worldSize rank b.uniqueId config host with
      | (.error e, host) => (.error e, host)
      | (.ok comm, host) =>
        (.ok comm, host.emit ⟨.debug, "dynamo_comm::bootstrap", "communicator bootstrapped",
          [("rank", toString rank.toInt), ("world_size", toString b.worldSize),
            ("comm_id", comm.commId)]⟩)

end Bootstrap

end RankTrace
