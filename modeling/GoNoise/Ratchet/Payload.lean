import GoNoise.Oops
import GoNoise.Library.Bytes

/-!
# `ratchet/payload.go`, `ratchet/payload_builder.go`: payload blocks

The plaintext of a garlic message is a sequence of blocks `[type:1][size:2][data:size]`.
-/

namespace GoNoise.Ratchet

open BigEndian

abbrev Key := FixedBytes 32

abbrev Tag := FixedBytes 8

def blockDateTime : UInt8 := 0
def blockTermination : UInt8 := 4
def blockMessageNumber : UInt8 := 6
def blockNextKey : UInt8 := 7
def blockAck : UInt8 := 8
def blockAckRequest : UInt8 := 9

def blockHeaderSize : ℕ := 3

def maxBlockDataSize : ℕ := 65516

def nextKeyFlagKeyPresent : UInt8 := 1
def nextKeyFlagReverse : UInt8 := 2
def nextKeyFlagRequestReverse : UInt8 := 4

structure PayloadBlock where
  type : UInt8
  data : Bytes
  deriving DecidableEq

/-! ## Next Key -/

def newNextKeyBlock (keyID : UInt16) (pubKey : Option Key) (reverse requestReverse : Bool) :
    PayloadBlock :=
  let flags : UInt8 := if pubKey.isSome then nextKeyFlagKeyPresent else 0
  let flags :=
    if reverse then flags ||| nextKeyFlagReverse
    else if requestReverse then flags ||| nextKeyFlagRequestReverse
    else flags
  ⟨blockNextKey, flags :: (putUint16 keyID ++ (pubKey.map Subtype.val).getD [])⟩

structure NextKeyInfo where
  keyPresent : Bool
  reverse : Bool
  requestReverse : Bool
  keyID : UInt16
  /-- only valid if `keyPresent` -/
  publicKey : Key
  deriving DecidableEq

def PayloadBlock.nextKey (b : PayloadBlock) : Except Oops NextKeyInfo :=
  if b.type ≠ blockNextKey then .error (.errorf s!"block type {b.type} is not NextKey")
  else if b.data.length ≠ 3 ∧ b.data.length ≠ 35 then
    .error (.errorf s!"NextKey block data length {b.data.length}, expected 3 or 35")
  else
    let flags := b.data.headD 0
    let info : NextKeyInfo := {
      keyPresent := flags &&& nextKeyFlagKeyPresent ≠ 0
      reverse := flags &&& nextKeyFlagReverse ≠ 0
      requestReverse := flags &&& nextKeyFlagRequestReverse ≠ 0
      keyID := uint16 ((b.data.drop 1).take 2)
      publicKey := .copyFrom 32 [] }
    if info.keyPresent then
      if b.data.length < 35 then
        .error (.errorf s!"NextKey block has key-present flag but only {b.data.length} bytes")
      else .ok { info with publicKey := .copyFrom 32 (b.data.drop 3) }
    else .ok info

/-! ## Acknowledgements and message numbers -/

structure AckEntry where
  tagSetID : UInt16
  n : UInt16
  deriving DecidableEq

def newAckBlock (acks : List AckEntry) : PayloadBlock :=
  ⟨blockAck, acks.flatMap fun ack => putUint16 ack.tagSetID ++ putUint16 ack.n⟩

def ackEntries : Bytes → List AckEntry
  | a :: b :: c :: d :: rest => ⟨uint16 [a, b], uint16 [c, d]⟩ :: ackEntries rest
  | _ => []

def PayloadBlock.acks (b : PayloadBlock) : Except Oops (List AckEntry) :=
  if b.type ≠ blockAck then .error (.errorf s!"block type {b.type} is not Ack")
  else if b.data.length % 4 ≠ 0 ∨ b.data.length < 4 then
    .error (.errorf s!"Ack block data length {b.data.length} is not a positive multiple of 4")
  else .ok (ackEntries b.data)

def PayloadBlock.messageNumber (b : PayloadBlock) : Except Oops UInt16 :=
  if b.type ≠ blockMessageNumber then
    .error (.errorf s!"block type {b.type} is not MessageNumber")
  else if b.data.length ≠ 2 then
    .error (.errorf s!"MessageNumber block data length {b.data.length}, expected 2")
  else .ok (uint16 b.data)

def PayloadBlock.dateTime (b : PayloadBlock) : Except Oops Time :=
  if b.type ≠ blockDateTime then .error (.errorf s!"block type {b.type} is not DateTime")
  else if b.data.length ≠ 4 then
    .error (.errorf s!"DateTime block data length {b.data.length}, expected 4")
  else .ok ((uint32 b.data).toNat * second)

/-! ## Blocks on the wire -/

def PayloadBlock.serializeSize (b : PayloadBlock) : ℕ := blockHeaderSize + b.data.length

/-- `Serialize`, into a buffer with that much room: the bytes written. -/
def PayloadBlock.serialize (room : ℕ) (b : PayloadBlock) : Except Oops Bytes :=
  let needed := b.serializeSize
  if room < needed then
    .error (.errorf s!"destination buffer too small: need {needed}, have {room}")
  else if maxBlockDataSize < b.data.length then
    .error (.errorf
      s!"block data size {b.data.length} exceeds maximum {maxBlockDataSize}")
  else .ok (b.type :: (putUint16 (UInt16.ofNat b.data.length) ++ b.data))

/-- The loop of `ParsePayload` from an offset on. A turn consumes a block header, so the length of
the payload bounds the turns. -/
def parseFrom : ℕ → ℕ → Bytes → Except Oops (List PayloadBlock)
  | 0, _, _ => .ok []
  | fuel + 1, offset, data =>
    if data.length = 0 then .ok []
    else if data.length < blockHeaderSize then
      .error <| .errorf <| s!"truncated block header at offset {offset}: " ++
        s!"{data.length} bytes remaining, need {blockHeaderSize}"
    else
      let blockType := data.headD 0
      let blockLen := (uint16 ((data.drop 1).take 2)).toNat
      let rest := data.drop blockHeaderSize
      if rest.length < blockLen then
        .error <| .errorf <| s!"block type {blockType} at offset {offset}: " ++
          s!"data length {blockLen} exceeds remaining {rest.length} bytes"
      else
        match parseFrom fuel (offset + blockHeaderSize + blockLen) (rest.drop blockLen) with
        | .error e => .error e
        | .ok blocks => .ok (⟨blockType, rest.take blockLen⟩ :: blocks)

def parsePayload (data : Bytes) : Except Oops (List PayloadBlock) := parseFrom data.length 0 data

def validateNewSessionPayload (payload : Bytes) : Except Oops Unit :=
  if payload.length = 0 then
    .error (.errorf ("new session payload must not be empty: spec requires a DateTime block as " ++
      "the first block (ratchet.md §1b)"))
  else
    match parsePayload payload with
    | .error e => .error (e.wrapf "new session payload is malformed")
    | .ok [] =>
      .error (.errorf
        ("new session payload contains no blocks: spec requires a DateTime block as " ++
        "the first block (ratchet.md §1b)"))
    | .ok (block :: _) =>
      if block.type ≠ blockDateTime then
        .error (.errorf (s!"new session payload first block is type {block.type}, want " ++
          "BlockDateTime (type 0): spec requires DateTime as first block (ratchet.md §1b)"))
      else .ok ()

end GoNoise.Ratchet
