import Usque.Packet

/-! CONNECT-IP DATAGRAM framing (`api/masque/connect_ip.rs`): quarter stream id,
context id zero, then the whole IP packet. The two varint functions are the
`octets` reader and writer, which follow RFC 9000 section 16. -/
namespace Usque.ConnectIp

/-- Big-endian digits of `value` on `size` bytes. -/
def beBytes : ℕ → ℕ → Bytes
  | 0, _ => []
  | size + 1, value => UInt8.ofNat (value / 256 ^ size) :: beBytes size value

/-- The number a byte string denotes in network order. -/
def beNat (bytes : Bytes) : ℕ := bytes.foldl (fun number byte => number * 256 + byte.toNat) 0

/-- The length class of a value, none above the largest encodable one. -/
def varintClass (value : ℕ) : Option ℕ :=
  if value < 2 ^ 6 then some 0
  else if value < 2 ^ 14 then some 1
  else if value < 2 ^ 30 then some 2
  else if value < 2 ^ 62 then some 3
  else none

/-- `put_varint`: the two top bits carry the length class. -/
def putVarint (value : ℕ) : Option Bytes :=
  (varintClass value).map fun kind =>
    beBytes (2 ^ kind) (kind * 2 ^ (8 * 2 ^ kind - 2) + value)

/-- `get_varint`: the value and what follows it, none when bytes are missing. -/
def getVarint (bytes : Bytes) : Option (ℕ × Bytes) :=
  match bytes with
  | [] => none
  | first :: _ =>
    let size := 2 ^ (first.toNat / 64)
    if bytes.length < size then none
    else some (beNat (bytes.take size) % 2 ^ (8 * size - 2), bytes.drop size)

def buildFlowPrefix (flowId : UInt64) : Except String Bytes :=
  match putVarint flowId.toNat with
  | some varint => .ok (varint ++ [0x00])
  | none => .error "encode flow_id varint"

def parseDatagram (dgram : Bytes) (expectedFlowId : UInt64) : Option Bytes :=
  match getVarint dgram with
  | none => none
  | some (flowId, afterFlow) =>
    if flowId ≠ expectedFlowId.toNat then none
    else match getVarint afterFlow with
      | none => none
      | some (contextId, payload) =>
        if contextId ≠ 0 then none else if payload = [] then none else some payload

/-- A quarter stream id always has an encoding, so the prefix of an opened
stream can be built. -/
theorem buildFlowPrefix_quarter_stream (streamId : UInt64) :
    ∃ flowPrefix, buildFlowPrefix (streamId / 4) = .ok flowPrefix := by
  have quarter : (streamId / 4).toNat < 2 ^ 62 := by
    have bound := streamId.toNat_lt
    simp only [UInt64.toNat_div, UInt64.reduceToNat]
    omega
  have encodable : ∃ kind, varintClass (streamId / 4).toNat = some kind := by
    simp only [varintClass, if_pos quarter]
    split_ifs <;> exact ⟨_, rfl⟩
  obtain ⟨kind, found⟩ := encodable
  simp only [buildFlowPrefix, putVarint, found, Option.map_some]
  exact ⟨_, rfl⟩

end Usque.ConnectIp
