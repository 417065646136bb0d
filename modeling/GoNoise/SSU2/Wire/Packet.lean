import GoNoise.Oops
import GoNoise.Library.Bytes
import Mathlib.Data.List.GetD

/-!
# `ssu2/wire/packet.go`: packets

A packet is a header, an ephemeral key in the two session messages that carry one, a payload and an
authentication tag. `Serialize` checks the sizes of the parts, puts the message type in the header
and concatenates.
-/

namespace GoNoise.SSU2

/-- The UDP address of a peer. -/
structure UDPAddr where
  ip : Bytes
  port : ℕ
  deriving DecidableEq

/-- A packet. An empty list stands for a nil slice. -/
structure SSU2Packet where
  header : Bytes
  ephemeralKey : Bytes
  payload : Bytes
  mac : Bytes
  messageType : UInt8
  packetNumber : UInt32
  timestamp : Time
  deriving DecidableEq

def messageTypeSessionRequest : UInt8 := 0
def messageTypeSessionCreated : UInt8 := 1
def messageTypeSessionConfirmed : UInt8 := 2
def messageTypeData : UInt8 := 6
def messageTypePeerTest : UInt8 := 7
def messageTypeRetry : UInt8 := 9
def messageTypeTokenRequest : UInt8 := 10
def messageTypeHolePunch : UInt8 := 11

def shortHeaderSize : ℕ := 16
def longHeaderSize : ℕ := 32
def ephemeralKeySize : ℕ := 32
def macSize : ℕ := 16
def minPacketSize : ℕ := 40
def ssu2ProtocolVersion : UInt8 := 2
def ssu2NetworkID : UInt8 := 2
def maxPacketSizeIPv4 : ℕ := 1472
def maxPacketSizeIPv6 : ℕ := 1452

namespace SSU2Packet

def newSSU2Packet (msgType : UInt8) (packetNum : UInt32) (now : Time) : SSU2Packet :=
  ⟨[], [], [], [], msgType, packetNum, now⟩

/-- Only the first two session messages carry an ephemeral key. -/
def hasEphemeralKey (p : SSU2Packet) : Bool :=
  p.messageType = messageTypeSessionRequest ∨ p.messageType = messageTypeSessionCreated

/-- 16 bytes for SessionConfirmed and Data, 32 for every other message. -/
def getHeaderSize (p : SSU2Packet) : ℕ :=
  if p.messageType = messageTypeSessionConfirmed ∨ p.messageType = messageTypeData then
    shortHeaderSize
  else longHeaderSize

/-- The length of the parts together; the ephemeral key counts only where the type has one. -/
def totalSize (p : SSU2Packet) : ℕ :=
  p.header.length + p.payload.length + p.mac.length +
    if p.hasEphemeralKey then p.ephemeralKey.length else 0

def validate (p : SSU2Packet) : Except Oops Unit :=
  let expectedHeaderSize := p.getHeaderSize
  if p.header.length ≠ expectedHeaderSize then
    .error <| .errorf <| s!"invalid header size: got {p.header.length}, " ++
      s!"expected {expectedHeaderSize} for message type {p.messageType}"
  else if p.hasEphemeralKey ∧ p.ephemeralKey.length ≠ ephemeralKeySize then
    .error <| .errorf <| s!"invalid ephemeral key size: got {p.ephemeralKey.length}, " ++
      s!"expected {ephemeralKeySize}"
  else if ¬ p.hasEphemeralKey ∧ p.ephemeralKey.length > 0 then
    .error <| .errorf s!"ephemeral key present for message type {p.messageType} (should be empty)"
  else if p.mac.length ≠ macSize then
    .error <| .errorf s!"invalid MAC size: got {p.mac.length}, expected {macSize}"
  else if p.totalSize > maxPacketSizeIPv6 then
    .error <| .errorf <|
      s!"packet too large: {p.totalSize} bytes (maximum {maxPacketSizeIPv6} for " ++
      s!"IPv6, {maxPacketSizeIPv4} for IPv4)"
  else .ok ()

/-- The sizes that `validate` asks for. -/
structure Valid (p : SSU2Packet) : Prop where
  header : p.header.length = p.getHeaderSize
  ephemeralKey : p.ephemeralKey.length = if p.hasEphemeralKey then ephemeralKeySize else 0
  mac : p.mac.length = macSize
  totalSize : p.totalSize ≤ maxPacketSizeIPv6

theorem validate_eq_ok_iff (p : SSU2Packet) : p.validate = .ok () ↔ p.Valid := by
  have herr : ∀ e : Oops, ¬ (.error e : Except Oops Unit) = .ok () := fun e h => by cases h
  rw [validate]
  by_cases hh : p.header.length ≠ p.getHeaderSize
  · rw [if_pos hh]
    exact iff_of_false (herr _) fun hv => hh hv.header
  rw [if_neg hh]
  by_cases he : p.hasEphemeralKey ∧ p.ephemeralKey.length ≠ ephemeralKeySize
  · rw [if_pos he]
    refine iff_of_false (herr _) fun hv => he.2 ?_
    rw [hv.ephemeralKey, if_pos he.1]
  rw [if_neg he]
  by_cases hn : ¬ p.hasEphemeralKey ∧ p.ephemeralKey.length > 0
  · rw [if_pos hn]
    refine iff_of_false (herr _) fun hv => ?_
    have hlen := hv.ephemeralKey
    rw [if_neg hn.1] at hlen
    exact absurd hn.2 (by rw [hlen]; exact Nat.lt_irrefl 0)
  rw [if_neg hn]
  by_cases hm : p.mac.length ≠ macSize
  · rw [if_pos hm]
    exact iff_of_false (herr _) fun hv => hm hv.mac
  rw [if_neg hm]
  by_cases ht : p.totalSize > maxPacketSizeIPv6
  · rw [if_pos ht]
    exact iff_of_false (herr _) fun hv => Nat.not_le.mpr ht hv.totalSize
  rw [if_neg ht]
  refine iff_of_true rfl ⟨not_not.mp hh, ?_, not_not.mp hm, Nat.not_lt.mp ht⟩
  split_ifs with hk
  · exact not_not.mp fun hne => he ⟨hk, hne⟩
  · exact Nat.eq_zero_of_not_pos fun hpos => hn ⟨hk, hpos⟩

/-- `Serialize`: the bytes, and the packet with its type written at header byte 12. -/
def serialize (p : SSU2Packet) : Except Oops (Bytes × SSU2Packet) :=
  match p.validate with
  | .error e => .error (e.wrapf "invalid packet")
  | .ok () =>
    let p := { p with header := p.header.set 12 p.messageType }
    .ok (p.header ++ (if p.hasEphemeralKey then p.ephemeralKey else []) ++ p.payload ++ p.mac, p)

/-- A packet with sizes `validate` accepts is serialized, and no other. -/
theorem serialize_eq_ok_iff (p q : SSU2Packet) (data : Bytes) :
    p.serialize = .ok (data, q) ↔
      p.Valid ∧ q = { p with header := p.header.set 12 p.messageType } ∧
        data = q.header ++ (if p.hasEphemeralKey then p.ephemeralKey else []) ++ p.payload ++
          p.mac := by
  rw [← validate_eq_ok_iff, serialize]
  cases hv : p.validate with
  | error e => simp
  | ok u =>
    constructor
    · intro h
      cases h
      exact ⟨rfl, rfl, rfl⟩
    · rintro ⟨-, rfl, rfl⟩
      rfl

variable {p : SSU2Packet}

theorem Valid.set_header (h : p.Valid) (i : ℕ) (b : UInt8) :
    Valid { p with header := p.header.set i b } := by
  have hlen : (p.header.set i b).length = p.header.length := List.length_set
  refine ⟨hlen.trans h.header, h.ephemeralKey, h.mac, ?_⟩
  have hsize := h.totalSize
  rw [SSU2Packet.totalSize] at hsize ⊢
  rw [hlen]
  exact hsize

/-! ## Parsing -/

def validateLongHeader (data : Bytes) (headerSize : ℕ) : Except Oops Unit :=
  let version := data.getD 13 0
  let netID := data.getD 14 0
  if headerSize ≠ longHeaderSize then .ok ()
  else if version ≠ ssu2ProtocolVersion then
    .error <| .errorf s!"unsupported protocol version: {version} (expected {ssu2ProtocolVersion})"
  else if netID ≠ ssu2NetworkID then
    .error <| .errorf s!"wrong network ID: {netID} (expected {ssu2NetworkID})"
  else .ok ()

/-- `parsePacketSections`: header, ephemeral key, payload and tag. -/
def parsePacketSections (p : SSU2Packet) (data : Bytes) (headerSize : ℕ) :
    Except Oops SSU2Packet :=
  let minSize := headerSize + macSize + if p.hasEphemeralKey then ephemeralKeySize else 0
  if data.length < minSize then
    .error <| .errorf s!"packet too short: {data.length} bytes (expected at least {minSize})"
  else
    let p := { p with header := data.take headerSize }
    let p := if p.hasEphemeralKey then
      { p with ephemeralKey := (data.drop headerSize).take ephemeralKeySize } else p
    let offset := headerSize + if p.hasEphemeralKey then ephemeralKeySize else 0
    let macStart := data.length - macSize
    if macStart < offset then
      .error <| .errorf s!"invalid packet structure: MAC position {macStart} < offset {offset}"
    else
      let p := if macStart - offset > 0 then
        { p with payload := (data.drop offset).take (macStart - offset) } else p
      .ok { p with mac := data.drop macStart }

def deserialize (p : SSU2Packet) (now : Time) (data : Bytes) : Except Oops SSU2Packet :=
  if data.length < minPacketSize then
    .error <| .errorf s!"packet too short: {data.length} bytes (minimum {minPacketSize})"
  else
    let p := { p with messageType := data.getD 12 0 }
    match validateLongHeader data p.getHeaderSize with
    | .error e => .error e
    | .ok () =>
      match p.parsePacketSections data p.getHeaderSize with
      | .error e => .error e
      | .ok p =>
        .ok { p with
          packetNumber := BigEndian.uint32 ((p.header.drop 8).take 4)
          timestamp := now }

/-- The parts of a packet, one after the other. -/
def sections (p : SSU2Packet) : Bytes :=
  p.header ++ (if p.hasEphemeralKey then p.ephemeralKey else []) ++ p.payload ++ p.mac

theorem length_sections (p : SSU2Packet) : p.sections.length = p.totalSize := by
  rw [sections, totalSize]
  split_ifs <;> simp only [List.length_append, List.length_nil] <;> omega

/-- What the header of a packet says about itself: the type, and for long headers the version and
the network. -/
structure Described (p : SSU2Packet) : Prop where
  messageType : p.header.getD 12 0 = p.messageType
  long : p.getHeaderSize = longHeaderSize →
    p.header.getD 13 0 = ssu2ProtocolVersion ∧ p.header.getD 14 0 = ssu2NetworkID

theorem shortHeaderSize_le_getHeaderSize (p : SSU2Packet) : shortHeaderSize ≤ p.getHeaderSize := by
  rw [getHeaderSize, shortHeaderSize, longHeaderSize]
  split_ifs <;> omega

/-- A byte of the header is found at the same place of the whole packet. -/
theorem getD_sections (hv : p.Valid) {i : ℕ} (hi : i < shortHeaderSize) :
    p.sections.getD i 0 = p.header.getD i 0 := by
  have hle := p.shortHeaderSize_le_getHeaderSize
  have hlt : i < p.header.length := by rw [hv.header]; omega
  rw [sections, List.append_assoc, List.append_assoc, List.getD_append _ _ _ _ hlt]

theorem validateLongHeader_sections (hv : p.Valid) (hd : p.Described) :
    validateLongHeader p.sections p.getHeaderSize = .ok () := by
  rw [validateLongHeader]
  by_cases hlong : p.getHeaderSize = longHeaderSize
  · obtain ⟨hversion, hnet⟩ := hd.long hlong
    rw [if_neg (not_not.mpr hlong), getD_sections hv (by decide), getD_sections hv (by decide),
      if_neg (not_not.mpr hversion), if_neg (not_not.mpr hnet)]
  · rw [if_pos hlong]

theorem parsePacketSections_sections {q : SSU2Packet} (hv : p.Valid)
    (htype : q.messageType = p.messageType) (hkey : q.ephemeralKey = [])
    (hpayload : q.payload = []) :
    q.parsePacketSections p.sections p.getHeaderSize =
      .ok { q with
        header := p.header, ephemeralKey := p.ephemeralKey, payload := p.payload, mac :=
          p.mac } := by
  have heph : q.hasEphemeralKey = p.hasEphemeralKey := by rw [hasEphemeralKey, hasEphemeralKey,
    htype]
  have hkeylen := hv.ephemeralKey
  have hlen : p.sections.length =
      p.getHeaderSize + p.ephemeralKey.length + p.payload.length + macSize := by
    rw [length_sections, totalSize, hv.header, hv.mac]
    split_ifs at hkeylen ⊢ <;> omega
  have hsec : p.sections = p.header ++ (p.ephemeralKey ++ (p.payload ++ p.mac)) := by
    rw [sections, List.append_assoc, List.append_assoc]
    split_ifs with hk
    · rfl
    · rw [if_neg hk] at hkeylen
      rw [List.eq_nil_of_length_eq_zero hkeylen]
  have hhead : p.sections.take p.getHeaderSize = p.header := by
    rw [hsec, ← hv.header, List.take_left]
  have hrest : p.sections.drop p.getHeaderSize = p.ephemeralKey ++ (p.payload ++ p.mac) := by
    rw [hsec, ← hv.header, List.drop_left]
  have hbody : p.sections.drop (p.getHeaderSize + p.ephemeralKey.length) = p.payload ++ p.mac := by
    rw [← List.drop_drop, hrest, List.drop_left]
  have hmac : p.sections.drop (p.sections.length - macSize) = p.mac := by
    have : p.sections.length - macSize =
        p.getHeaderSize + p.ephemeralKey.length + p.payload.length := by omega
    rw [this, ← List.drop_drop, hbody, List.drop_left]
  -- the packet after the ephemeral key has been read
  have hkeyed : (if SSU2Packet.hasEphemeralKey { q with header := p.header } then
      { q with
        header := p.header
        ephemeralKey := (p.ephemeralKey ++ (p.payload ++ p.mac)).take ephemeralKeySize }
      else { q with header := p.header }) =
        { q with header := p.header, ephemeralKey := p.ephemeralKey } := by
    show (if q.hasEphemeralKey = true then _ else _) = _
    rw [heph]
    split_ifs at hkeylen ⊢
    · rw [← hkeylen, List.take_left]
    · rw [List.eq_nil_of_length_eq_zero hkeylen, hkey]
  have hstart : p.sections.length - macSize - (p.getHeaderSize + p.ephemeralKey.length) =
      p.payload.length := by omega
  rw [parsePacketSections, hhead, hrest]
  simp only [hkeyed]
  have heph' : SSU2Packet.hasEphemeralKey
      { q with header := p.header, ephemeralKey := p.ephemeralKey } = p.hasEphemeralKey := heph
  rw [heph, heph', ← hkeylen, if_neg (by omega), if_neg (by omega), hstart, hbody, hmac]
  split_ifs with hpos
  · rw [List.take_left]
  · rw [List.eq_nil_of_length_eq_zero (Nat.eq_zero_of_not_pos hpos), hpayload]

/-- Parsing gives back what was serialized: the parts, and the number that the header holds. -/
theorem deserialize_sections_of_empty {r : SSU2Packet} (hkey : r.ephemeralKey = [])
    (hpayload : r.payload = []) (hv : p.Valid) (hd : p.Described)
    (hmin : minPacketSize ≤ p.totalSize) (now : Time) :
    r.deserialize now p.sections =
      .ok { p with
        packetNumber := BigEndian.uint32 ((p.header.drop 8).take 4)
        timestamp := now } := by
  have htype : p.sections.getD 12 0 = p.messageType := by
    rw [getD_sections hv (by decide), hd.messageType]
  have hparse := parsePacketSections_sections (q := { r with messageType := p.messageType }) hv rfl
    hkey hpayload
  rw [deserialize, length_sections, if_neg (Nat.not_lt.mpr hmin), htype]
  have hsize : SSU2Packet.getHeaderSize { r with messageType := p.messageType } =
      p.getHeaderSize := rfl
  dsimp only
  rw [hsize, validateLongHeader_sections hv hd, hparse]

theorem deserialize_sections (hv : p.Valid) (hd : p.Described) (hmin : minPacketSize ≤ p.totalSize)
    (now : Time) :
    (newSSU2Packet 0 0 0).deserialize now p.sections =
      .ok { p with
        packetNumber := BigEndian.uint32 ((p.header.drop 8).take 4)
        timestamp := now } :=
  deserialize_sections_of_empty rfl rfl hv hd hmin now

/-- Where the smallest packet that `Deserialize` takes is reached: always with a long header, and
with 8 bytes of payload with a short one. -/
theorem Valid.minPacketSize_le_iff (hv : p.Valid) :
    minPacketSize ≤ p.totalSize ↔
      (p.getHeaderSize = shortHeaderSize → 8 ≤ p.payload.length) := by
  have hsizes : shortHeaderSize = 16 ∧ longHeaderSize = 32 ∧ macSize = 16 ∧ minPacketSize = 40 := by
    decide
  have hheader : p.getHeaderSize = 16 ∧ p.hasEphemeralKey = false ∨ p.getHeaderSize = 32 := by
    unfold getHeaderSize hasEphemeralKey
    split_ifs with h
    · rcases h with h | h <;> rw [h] <;> exact .inl (by decide)
    · exact .inr (by decide)
  rw [SSU2Packet.totalSize, hv.header, hv.mac]
  rcases hheader with ⟨hsize, hnone⟩ | hsize
  · rw [hsize, hnone, if_neg Bool.false_ne_true]
    omega
  · rw [hsize]
    omega

theorem described_serialized (hv : p.Valid)
    (hlong : p.getHeaderSize = longHeaderSize →
      p.header.getD 13 0 = ssu2ProtocolVersion ∧ p.header.getD 14 0 = ssu2NetworkID) :
    Described { p with header := p.header.set 12 p.messageType } := by
  have hle := p.shortHeaderSize_le_getHeaderSize
  rw [shortHeaderSize] at hle
  have hlen : 12 < p.header.length := by
    rw [hv.header]
    omega
  refine ⟨?_, fun h => ?_⟩
  · simp [List.getD_eq_getElem?_getD, hlen]
  · obtain ⟨hversion, hnet⟩ := hlong h
    rw [← hversion, ← hnet]
    simp [List.getD_eq_getElem?_getD]

/-- **The packet codec.** A packet that `Serialize` accepts, whose header holds its number and, if
it is long, the version and the network, is given back by `Deserialize` exactly if it has a long
header or at least 8 bytes of payload. -/
theorem deserialize_serialize_iff {p q r : SSU2Packet} {data : Bytes}
    (hserialize : p.serialize = .ok (data, q))
    (hnumber : BigEndian.uint32 ((p.header.drop 8).take 4) = p.packetNumber)
    (hlong : p.getHeaderSize = longHeaderSize →
      p.header.getD 13 0 = ssu2ProtocolVersion ∧ p.header.getD 14 0 = ssu2NetworkID)
    (hkey : r.ephemeralKey = []) (hpayload : r.payload = []) (now : Time) :
    r.deserialize now data = .ok { p with header := q.header, timestamp := now } ↔
      (p.getHeaderSize = shortHeaderSize → 8 ≤ p.payload.length) := by
  obtain ⟨hv, rfl, hdata⟩ := (serialize_eq_ok_iff p q data).mp hserialize
  have hv' := hv.set_header 12 p.messageType
  obtain rfl : data = sections { p with header := p.header.set 12 p.messageType } := hdata
  have hd := described_serialized hv hlong
  have hnumber' : BigEndian.uint32 (((p.header.set 12 p.messageType).drop 8).take 4) =
      p.packetNumber := by
    rw [List.drop_set, if_neg (by decide), List.take_set, List.set_eq_of_length_le (by simp)]
    exact hnumber
  rw [← show _ ↔ (p.getHeaderSize = shortHeaderSize → _) from hv'.minPacketSize_le_iff]
  constructor
  · intro h
    by_contra hsmall
    rw [deserialize, length_sections, if_pos (Nat.not_le.mp hsmall)] at h
    cases h
  · intro hmin
    rw [deserialize_sections_of_empty hkey hpayload hv' hd hmin now]
    rw [hnumber']

def dataPacketSeven (payload : Bytes) : SSU2Packet :=
  { newSSU2Packet messageTypeData 7 0 with
    header := [0, 0, 0, 0, 0, 0, 0, 0, 0, 0, 0, 7, 0, 0, 0, 0]
    payload := payload
    mac := List.replicate 16 1 }

theorem deserialize_serialize_iff_eight :
    ∃ data q, (dataPacketSeven [1, 2, 3, 4, 5, 6, 7, 8]).serialize = .ok (data, q) ∧
      (newSSU2Packet 0 0 0).deserialize 5 data =
        .ok { dataPacketSeven [1, 2, 3, 4, 5, 6, 7, 8] with header := q.header, timestamp := 5 } :=
  ⟨_, _, rfl, (deserialize_serialize_iff rfl (by decide) (by decide) rfl rfl 5).mpr fun _ => by
    decide⟩

/-- With 7 bytes of payload the datagram has 39 bytes, which `Deserialize` refuses. -/
theorem deserialize_seven_bytes :
    ∃ data q, (dataPacketSeven [1, 2, 3, 4, 5, 6, 7]).serialize = .ok (data, q) ∧
      ((newSSU2Packet 0 0 0).deserialize 5 data).toOption = none :=
  ⟨_, _, rfl, rfl⟩

def size (p : SSU2Packet) : ℕ := p.totalSize

end SSU2Packet
end GoNoise.SSU2
