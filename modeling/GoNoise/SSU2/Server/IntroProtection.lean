import GoNoise.SSU2.Wire.HeaderProtection

/-!
# `ssu2/server/intro_protection.go`: the first packet of a session

The listener reads a datagram as it is, and only if that fails takes off the header protection. The
first attempt looks at bytes that are masked in a protected datagram: the type in byte 12 and, for
long headers, version and network in bytes 13 and 14. Whatever the mask makes of them is taken for
plaintext if it fits.
-/

namespace GoNoise.SSU2

open HeaderProtector SSU2Packet

/-! ## The code -/

/-- `initHeaderProtection`: without an intro key there is no protector. -/
def initHeaderProtection (introKey : Bytes) : Except Oops (Option HeaderProtector) :=
  if introKey.length ≠ 32 then .ok none
  else
    match newHeaderProtectorFromIntroKey introKey .sessionRequest with
    | .error e => .error (e.wrapf "failed to build inbound header protector")
    | .ok hp => .ok (some hp)

def parseInboundPacket (chacha20 : ChaCha20) (introHeaderProtector : Option HeaderProtector)
    (now : Time) (data : Bytes) : Option SSU2Packet :=
  match (newSSU2Packet 0 0 0).deserialize now data with
  | .ok packet => some packet
  | .error _ =>
    match introHeaderProtector with
    | none => none
    | some hp =>
      match hp.decryptHeader chacha20 data with
      | .error _ => none
      | .ok decrypted => ((newSSU2Packet 0 0 0).deserialize now decrypted).toOption

variable {introKey : Bytes}

theorem initHeaderProtection_eq (h : introKey.length = headerKeySize) :
    initHeaderProtection introKey = .ok (some ⟨introKey, introKey, .sessionRequest, h, h⟩) := by
  have h32 : ¬ introKey.length ≠ 32 := not_not.mpr h
  rw [initHeaderProtection, if_neg h32, newHeaderProtectorFromIntroKey,
    newHeaderProtector, dif_pos h, dif_pos h]

theorem minSize_of_initHeaderProtection {hp : HeaderProtector}
    (h : initHeaderProtection introKey = .ok (some hp)) : hp.minSize = longHeaderSize + 24 := by
  by_cases hkey : introKey.length = headerKeySize
  · rw [initHeaderProtection_eq hkey] at h
    obtain rfl := Option.some.inj (Except.ok.inj h)
    rfl
  · have hne : introKey.length ≠ 32 := hkey
    rw [initHeaderProtection, if_pos hne] at h
    cases h

namespace SSU2Packet

/-! ## What a packet says about its session -/

def destConnectionID (header : Bytes) : UInt64 := BigEndian.uint64 (header.take 8)

def sourceConnectionID (header : Bytes) : UInt64 := BigEndian.uint64 ((header.drop 16).take 8)

/-- The packet number, `Header[8:12]`. -/
def headerNumber (header : Bytes) : UInt32 := BigEndian.uint32 ((header.drop 8).take 4)

/-- The same type, connection IDs, number and payload. -/
structure SameMessage (p q : SSU2Packet) : Prop where
  messageType : q.messageType = p.messageType
  destConnectionID : destConnectionID q.header = destConnectionID p.header
  sourceConnectionID : sourceConnectionID q.header = sourceConnectionID p.header
  packetNumber : q.packetNumber = p.packetNumber
  payload : q.payload = p.payload

theorem sameIDs_take (data : Bytes) :
    destConnectionID (data.take longHeaderSize) = destConnectionID data ∧
      sourceConnectionID (data.take longHeaderSize) = sourceConnectionID data := by
  rw [destConnectionID, List.take_take, sourceConnectionID, List.drop_take, List.take_take]
  exact ⟨rfl, rfl⟩

/-! ## The first attempt -/

theorem getHeaderSize_le (p : SSU2Packet) : p.getHeaderSize ≤ longHeaderSize := by
  rw [getHeaderSize]
  split_ifs <;> decide

/-- The bytes pass for a plaintext header: a short one, or a long one of this protocol. -/
def LooksPlain (data : Bytes) : Prop :=
  data.getD 12 0 = messageTypeSessionConfirmed ∨ data.getD 12 0 = messageTypeData ∨
    data.getD 13 0 = ssu2ProtocolVersion ∧ data.getD 14 0 = ssu2NetworkID

instance (data : Bytes) : Decidable (LooksPlain data) :=
  inferInstanceAs (Decidable (_ ∨ _ ∨ _))

variable {data : Bytes}

theorem deserialize_of_not_looksPlain (h : ¬ LooksPlain data) (p : SSU2Packet)
    (now : Time) : ∃ e, p.deserialize now data = .error e := by
  rw [LooksPlain, not_or, not_or] at h
  obtain ⟨hconfirmed, hdata, hversion⟩ := h
  rw [deserialize]
  split_ifs with hlen
  · exact ⟨_, rfl⟩
  have hsize : getHeaderSize { p with messageType := data.getD 12 0 } =
      longHeaderSize := by grind [getHeaderSize]
  have hlong : ∃ e, validateLongHeader data longHeaderSize = .error e := by
    rw [validateLongHeader, if_neg (not_not.mpr rfl)]
    split_ifs with hv hn
    · exact ⟨_, rfl⟩
    · exact ⟨_, rfl⟩
    · exact absurd ⟨not_not.mp hv, not_not.mp hn⟩ hversion
  obtain ⟨e, he⟩ := hlong
  dsimp only
  rw [hsize, he]
  exact ⟨e, rfl⟩

section
variable (hlen : longHeaderSize + ephemeralKeySize + macSize ≤ data.length)
include hlen

/-- A datagram that has room for every part is cut up. -/
theorem parsePacketSections_of_long {p : SSU2Packet} {headerSize : ℕ}
    (hsize : headerSize ≤ longHeaderSize) (hpayload : p.payload = []) :
    ∃ r, p.parsePacketSections data headerSize = .ok r ∧ r.messageType = p.messageType ∧
      r.header = data.take headerSize ∧
      r.payload = (data.drop (headerSize + if p.hasEphemeralKey then ephemeralKeySize else 0)).take
        (data.length - macSize - (headerSize + if p.hasEphemeralKey then ephemeralKeySize else
          0)) := by
  rw [longHeaderSize] at hsize
  rw [longHeaderSize, ephemeralKeySize, macSize] at hlen
  have hkey : ∀ header, hasEphemeralKey { p with header := header } =
      p.hasEphemeralKey := fun _ => rfl
  have hkey' : ∀ header key, hasEphemeralKey
      { p with header := header, ephemeralKey := key } = p.hasEphemeralKey := fun _ _ => rfl
  cases heph : p.hasEphemeralKey <;>
    simp only [parsePacketSections, heph, hkey, hkey', if_true, if_false, Bool.false_eq_true,
      ephemeralKeySize, macSize]
  all_goals
    rw [if_neg (by omega), if_neg (by omega)]
    refine ⟨_, rfl, ?_, ?_, ?_⟩
    · split_ifs <;> rfl
    · split_ifs <;> rfl
    · split_ifs with hpos
      · rfl
      · rw [Nat.eq_zero_of_not_pos hpos, List.take_zero]
        exact hpayload

theorem deserialize_of_looksPlain (h : LooksPlain data) (now : Time) :
    ∃ r, (newSSU2Packet 0 0 0).deserialize now data = .ok r ∧
      r.messageType = data.getD 12 0 ∧
      (data.getD 12 0 = messageTypeSessionRequest →
        r.header = data.take longHeaderSize ∧ r.packetNumber = headerNumber data ∧
        r.payload = (data.drop (longHeaderSize + ephemeralKeySize)).take
          (data.length - macSize - (longHeaderSize + ephemeralKeySize))) := by
  have hmin : ¬ data.length < minPacketSize := by
    rw [longHeaderSize, ephemeralKeySize, macSize] at hlen
    rw [minPacketSize]
    omega
  have hvalidate : validateLongHeader data
      (getHeaderSize { newSSU2Packet 0 0 0 with messageType := data.getD 12 0 }) =
        .ok () := by
    rw [validateLongHeader, getHeaderSize]
    rcases h with h | h | ⟨hversion, hnet⟩
    · rw [if_pos (Or.inl h), if_pos (by decide)]
    · rw [if_pos (Or.inr h), if_pos (by decide)]
    · rw [if_neg (not_not.mpr hversion), if_neg (not_not.mpr hnet), ite_self]
  obtain ⟨r, hparse, htype, hheader, hpayload⟩ := parsePacketSections_of_long
    (p := { newSSU2Packet 0 0 0 with messageType := data.getD 12 0 }) hlen
    (getHeaderSize_le _) rfl
  refine ⟨{ r with packetNumber := BigEndian.uint32 ((r.header.drop 8).take 4), timestamp := now },
    ?_, htype, fun hrequest => ?_⟩
  · rw [deserialize, if_neg hmin]
    dsimp only
    rw [hvalidate, hparse]
  · rw [hrequest] at hheader hpayload
    refine ⟨hheader, ?_, hpayload⟩
    rw [hheader, List.drop_take, List.take_take]
    rfl

end

/-! ## The second attempt -/

theorem sameIDs_set (header : Bytes) (t : UInt8) :
    destConnectionID (header.set 12 t) = destConnectionID header ∧
      sourceConnectionID (header.set 12 t) = sourceConnectionID header ∧
      headerNumber (header.set 12 t) = headerNumber header := by
  refine ⟨?_, ?_, ?_⟩
  · rw [destConnectionID, List.take_set_of_le (by decide), destConnectionID]
  · rw [sourceConnectionID, List.drop_set_of_lt (by decide), sourceConnectionID]
  · rw [headerNumber, List.take_drop, List.take_set_of_le (by decide), ← List.take_drop,
      headerNumber]

end SSU2Packet

theorem HeaderProtector.drop_protected (chacha20 : ChaCha20) (hp : HeaderProtector) (data : Bytes) :
    (hp.masked chacha20 (hp.extended chacha20 data)).drop (longHeaderSize + ephemeralKeySize) =
      data.drop (longHeaderSize + ephemeralKeySize) := by
  have hmasked : ∀ packet, (hp.masked chacha20 packet).drop (longHeaderSize + ephemeralKeySize) =
      packet.drop (longHeaderSize + ephemeralKeySize) := by
    intro packet
    have h := congrArg (List.drop 48) (hp.drop_masked chacha20 packet)
    rwa [List.drop_drop, List.drop_drop] at h
  rw [hmasked, extended]
  split_ifs
  · refine Keystream.drop_xorRange _ _ _ ?_ _
    rw [extensionEnd]
    split_ifs <;> decide
  · rfl

/-! ## The listener -/

namespace SSU2Packet

/-- Header protection happens to leave alone what the plaintext reading uses. -/
structure Unmasked (p : SSU2Packet) (datagram : Bytes) : Prop where
  messageType : datagram.getD 12 0 = messageTypeSessionRequest
  destConnectionID : destConnectionID datagram = destConnectionID p.header
  sourceConnectionID : sourceConnectionID datagram = sourceConnectionID p.header
  headerNumber : headerNumber datagram = p.packetNumber

variable {p : SSU2Packet} {data datagram : Bytes} {r : SSU2Packet} (t : UInt8)

theorem sizes_of_valid (hv : p.Valid) (htype : p.messageType = messageTypeSessionRequest) :
    p.hasEphemeralKey = true ∧ p.header.length = longHeaderSize ∧
      p.ephemeralKey.length = ephemeralKeySize := by
  have heph : p.hasEphemeralKey = true := by rw [hasEphemeralKey, htype]; rfl
  have hkey := hv.ephemeralKey
  rw [if_pos heph] at hkey
  exact ⟨heph, by rw [hv.header, getHeaderSize, htype]; rfl, hkey⟩

theorem length_serialized (hv : p.Valid) (htype : p.messageType = messageTypeSessionRequest) :
    p.sections.length = longHeaderSize + ephemeralKeySize + p.payload.length + macSize := by
  obtain ⟨heph, hsize, hkey⟩ := sizes_of_valid hv htype
  rw [length_sections, totalSize, if_pos heph, hsize, hkey, hv.mac]
  omega

theorem drop_sections (hv : p.Valid) (htype : p.messageType = messageTypeSessionRequest) :
    p.sections.drop (longHeaderSize + ephemeralKeySize) = p.payload ++ p.mac := by
  obtain ⟨heph, hsize, hkey⟩ := sizes_of_valid hv htype
  rw [sections, if_pos heph, List.append_assoc, List.drop_left']
  rw [List.length_append, hsize, hkey]

/-- The plaintext reading of a protected SessionRequest has its payload. -/
theorem sameMessage_iff_unmasked (hv : p.Valid) (htype : p.messageType = messageTypeSessionRequest)
    (hlen : datagram.length = p.sections.length)
    (hdrop : datagram.drop (longHeaderSize + ephemeralKeySize) =
      p.sections.drop (longHeaderSize + ephemeralKeySize))
    (hmessage : r.messageType = datagram.getD 12 0)
    (hrequest : datagram.getD 12 0 = messageTypeSessionRequest →
      r.header = datagram.take longHeaderSize ∧ r.packetNumber = headerNumber datagram ∧
        r.payload = (datagram.drop (longHeaderSize + ephemeralKeySize)).take
          (datagram.length - macSize - (longHeaderSize + ephemeralKeySize))) :
    p.SameMessage r ↔ p.Unmasked datagram := by
  obtain ⟨hdest, hsource⟩ := sameIDs_take datagram
  have hpayload : (datagram.drop (longHeaderSize + ephemeralKeySize)).take
      (datagram.length - macSize - (longHeaderSize + ephemeralKeySize)) = p.payload := by
    have hcount : datagram.length - macSize - (longHeaderSize + ephemeralKeySize) =
        p.payload.length := by
      rw [hlen, length_serialized hv htype]
      omega
    rw [hcount, hdrop, drop_sections hv htype, List.take_left]
  constructor
  · intro h
    have htag : datagram.getD 12 0 = messageTypeSessionRequest := by
      rw [← hmessage, h.messageType, htype]
    obtain ⟨hheader, hnumber, -⟩ := hrequest htag
    have hd := h.destConnectionID
    have hs := h.sourceConnectionID
    rw [hheader, hdest] at hd
    rw [hheader, hsource] at hs
    exact ⟨htag, hd, hs, hnumber.symm.trans h.packetNumber⟩
  · intro h
    obtain ⟨hheader, hnumber, hpay⟩ := hrequest h.messageType
    refine ⟨?_, ?_, ?_, hnumber.trans h.headerNumber, hpay.trans hpayload⟩
    · rw [hmessage, h.messageType, htype]
    · rw [hheader, hdest, h.destConnectionID]
    · rw [hheader, hsource, h.sourceConnectionID]

theorem sameMessage_set_iff :
    SameMessage { p with header := p.header.set 12 t } r ↔ p.SameMessage r := by
  obtain ⟨hdest, hsource, -⟩ := sameIDs_set p.header t
  constructor
  · intro h
    exact ⟨h.messageType, h.destConnectionID.trans hdest, h.sourceConnectionID.trans hsource,
      h.packetNumber, h.payload⟩
  · intro h
    exact ⟨h.messageType, h.destConnectionID.trans hdest.symm,
      h.sourceConnectionID.trans hsource.symm, h.packetNumber, h.payload⟩

theorem unmasked_set_iff :
    Unmasked { p with header := p.header.set 12 t } datagram ↔ p.Unmasked datagram := by
  obtain ⟨hdest, hsource, -⟩ := sameIDs_set p.header t
  constructor
  · intro h
    exact ⟨h.messageType, h.destConnectionID.trans hdest, h.sourceConnectionID.trans hsource,
      h.headerNumber⟩
  · intro h
    exact ⟨h.messageType, h.destConnectionID.trans hdest.symm,
      h.sourceConnectionID.trans hsource.symm, h.headerNumber⟩

end SSU2Packet

open SSU2Packet in
/-- **Listener parsing.** The listener returns the SessionRequest that was sent exactly if the
protected bytes do not pass for plaintext, and the header holds the number of the packet, or if they
do and are the same where it matters. -/
theorem parseInboundPacket_sessionRequest_iff (chacha20 : ChaCha20) {introKey : Bytes}
    {hp : HeaderProtector} (hinit : initHeaderProtection introKey = .ok (some hp))
    {p q : SSU2Packet} {data datagram : Bytes} (htype : p.messageType = messageTypeSessionRequest)
    (hversion : p.header.getD 13 0 = ssu2ProtocolVersion)
    (hnet : p.header.getD 14 0 = ssu2NetworkID) (hdata : p.serialize = .ok (data, q))
    (hdatagram : hp.encryptHeader chacha20 data = .ok datagram) (now : Time) :
    (∃ r, parseInboundPacket chacha20 (some hp) now datagram = some r ∧ p.SameMessage r) ↔
      (LooksPlain datagram → p.Unmasked datagram) ∧
        (¬ LooksPlain datagram → headerNumber p.header = p.packetNumber) := by
  obtain ⟨hv, rfl, hsections⟩ := (p.serialize_eq_ok_iff q data).mp hdata
  set q : SSU2Packet := { p with header := p.header.set 12 p.messageType } with hq
  replace hsections : data = q.sections := hsections
  have hqv : q.Valid := by
    refine ⟨?_, hv.ephemeralKey, hv.mac, ?_⟩
    · exact (List.length_set ..).trans hv.header
    · rw [totalSize, hq, List.length_set]
      exact hv.totalSize
  have hlen := length_serialized hqv htype
  have hmin : hp.minSize ≤ data.length := by
    rw [minSize_of_initHeaderProtection hinit, hsections, hlen, ephemeralKeySize]
    omega
  rw [hp.encryptHeader_eq chacha20 hmin] at hdatagram
  obtain rfl := Except.ok.inj hdatagram
  set datagram := hp.masked chacha20 (hp.extended chacha20 data) with hmask
  have hlength : datagram.length = q.sections.length := by
    rw [hmask, length_masked, length_extended, hsections]
  have hdrop := hp.drop_protected chacha20 data
  rw [← hmask, hsections] at hdrop
  by_cases hplain : LooksPlain datagram
  · obtain ⟨r, hr, hmessage, hrequest⟩ := deserialize_of_looksPlain (by omega) hplain now
    have hparse : parseInboundPacket chacha20 (some hp) now datagram = some r := by
      rw [parseInboundPacket, hr]
    have hiff := sameMessage_iff_unmasked hqv htype hlength hdrop hmessage hrequest
    rw [sameMessage_set_iff, unmasked_set_iff] at hiff
    rw [hparse]
    constructor
    · rintro ⟨_, ⟨⟩, hsame⟩
      exact ⟨fun _ => hiff.mp hsame, fun h => absurd hplain h⟩
    · rintro ⟨h, -⟩
      exact ⟨r, rfl, hiff.mpr (h hplain)⟩
  · obtain ⟨e, he⟩ := deserialize_of_not_looksPlain hplain (newSSU2Packet 0 0 0) now
    have hmin' : minPacketSize ≤ q.totalSize := by
      rw [← length_sections, hlen, minPacketSize, longHeaderSize, ephemeralKeySize]
      omega
    have hparse : parseInboundPacket chacha20 (some hp) now datagram =
        some { q with packetNumber := headerNumber q.header, timestamp := now } := by
      rw [parseInboundPacket, he]
      dsimp only
      rw [hmask, hp.decryptHeader_encrypted chacha20 hmin, hsections]
      dsimp only
      rw [deserialize_sections hqv (described_serialized hv fun _ => ⟨hversion, hnet⟩) hmin' now]
      rfl
    obtain ⟨hdest, hsource, hnumber⟩ := sameIDs_set p.header p.messageType
    rw [hparse]
    constructor
    · rintro ⟨_, ⟨⟩, hsame⟩
      exact ⟨fun h => absurd h hplain, fun _ => hnumber.symm.trans hsame.packetNumber⟩
    · rintro ⟨-, h⟩
      exact ⟨_, rfl, rfl, hdest, hsource, hnumber.trans (h hplain), rfl⟩

/-- A SessionRequest with a payload of one byte. -/
def demoRequest : SSU2Packet where
  header := List.replicate 13 0 ++ [2, 2] ++ List.replicate 17 0
  ephemeralKey := List.replicate 32 9
  payload := [5]
  mac := List.replicate 16 0
  messageType := messageTypeSessionRequest
  packetNumber := 0
  timestamp := 0

/-- A protector with a key of sevens. -/
def demoProtector : HeaderProtector :=
  ⟨List.replicate 32 7, List.replicate 32 7, .sessionRequest, rfl, rfl⟩

/-- A mask that changes the version is seen through. -/
theorem parseInboundPacket_sessionRequest_masked :
    ∃ data q datagram, demoRequest.serialize = .ok (data, q) ∧
      demoProtector.encryptHeader ⟨fun _ _ i => if i = 5 then 1 else 0⟩ data = .ok datagram ∧
      ∃ r, parseInboundPacket ⟨fun _ _ i => if i = 5 then 1 else 0⟩ (some demoProtector) 0
        datagram = some r ∧ demoRequest.SameMessage r := by
  have hdata : demoRequest.serialize = .ok (demoRequest.sections, demoRequest) := rfl
  have hdatagram : demoProtector.encryptHeader ⟨fun _ _ i => if i = 5 then 1 else 0⟩
      demoRequest.sections = .ok ((demoRequest.sections.set 5 1).set 13 3) := by
    decide +kernel
  refine ⟨_, _, _, hdata, hdatagram, ?_⟩
  refine (parseInboundPacket_sessionRequest_iff _ (initHeaderProtection_eq rfl) rfl rfl rfl hdata
    hdatagram 0).mpr ⟨fun h => absurd h (by decide), fun _ => rfl⟩

/-- A mask that turns the type into that of Data: the listener returns a Data packet. -/
theorem sessionRequest_taken_for_data :
    ∃ data q datagram r, demoRequest.serialize = .ok (data, q) ∧
      demoProtector.encryptHeader ⟨fun _ _ i => if i = 4 then 6 else 0⟩ data = .ok datagram ∧
      parseInboundPacket ⟨fun _ _ i => if i = 4 then 6 else 0⟩ (some demoProtector) 0 datagram =
        some r ∧ r.messageType = messageTypeData ∧ ¬ demoRequest.SameMessage r := by
  refine ⟨_, _, _, _, rfl, rfl, rfl, rfl, fun h => ?_⟩
  exact absurd h.messageType (by decide)

end GoNoise.SSU2
