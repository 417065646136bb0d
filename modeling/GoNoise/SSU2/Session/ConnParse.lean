import GoNoise.SSU2.Session.Conn
import GoNoise.SSU2.Wire.HeaderProtection

/-!
# `ssu2/session`: datagrams

What `sendPacketDirect` writes to the socket and how `parseInboundPacket` reads it. The payload is
sealed with the short header as associated data; then bytes 14 and 15 of the header are overwritten
with the obfuscated length, the packet is serialized and the header is protected. The receiver
undoes these steps from the last to the first, and sets bytes 14 and 15 to zero before it opens the
payload.
-/

namespace GoNoise.SSU2

open BigEndian

/-! ## The parts outside the modelled state -/

/-- The third-party cryptography, with an AEAD that opens what it has sealed. Sealing adds a tag
of 16 bytes and does not fail: nonces are packet numbers, far from the end of the nonce space. -/
structure Aead where
  /-- `CipherState.Encrypt`: key, nonce, associated data, plaintext -/
  encrypt : Bytes → UInt64 → Bytes → Bytes → Bytes
  /-- `CipherState.Decrypt`: key, nonce, associated data, ciphertext -/
  decrypt : Bytes → UInt64 → Bytes → Bytes → Except Oops Bytes
  /-- `HKDF(key, ZEROLEN, "WrapCipherKey", 32)` -/
  hkdf : Bytes → Except Oops Bytes
  decrypt_encrypt : ∀ key nonce ad plaintext,
    decrypt key nonce ad (encrypt key nonce ad plaintext) = .ok plaintext
  length_encrypt : ∀ key nonce ad plaintext,
    (encrypt key nonce ad plaintext).length = plaintext.length + macSize

/-- What the send path uses of it. -/
def Aead.toCrypto (aead : Aead) : Crypto :=
  ⟨fun key nonce ad plaintext => .ok (aead.encrypt key nonce ad plaintext), aead.hkdf⟩

/-- An AEAD that appends a zero tag, for concrete runs. -/
def Aead.zeroTag : Aead where
  encrypt _ _ _ plaintext := plaintext ++ List.replicate macSize 0
  decrypt _ _ _ ciphertext := .ok (ciphertext.take (ciphertext.length - macSize))
  hkdf := .ok
  decrypt_encrypt _ _ _ plaintext := by simp
  length_encrypt _ _ _ plaintext := by simp

/-- The fields of `SSU2Conn` that header protection and parsing read. -/
structure HeaderContext where
  chacha20 : ChaCha20
  /-- nil if the configuration has no intro key -/
  headerProtector : Option HeaderProtectorManager
  initiator : Bool
  remoteAddr : UDPAddr
  pathValidator : Bool

/-- What a call of `parseInboundPacket` meets outside the modelled state. -/
structure RecvEnv where
  now : Time
  /-- the next inbound mask of the SipHash modifier, if one is installed -/
  mask : Option UInt16

def messageTypeToHeaderType (msgType : UInt8) : HeaderType :=
  if msgType = messageTypeSessionRequest then .sessionRequest
  else if msgType = messageTypeSessionCreated then .sessionCreated
  else if msgType = messageTypeSessionConfirmed then .sessionConfirmed
  else if msgType = messageTypeRetry then .retry
  else if msgType = messageTypeTokenRequest then .tokenRequest
  else if msgType = messageTypePeerTest then .peerTest
  else if msgType = messageTypeHolePunch then .holePunch
  else .data

namespace HeaderContext

def applyOutboundHeaderProtection (ctx : HeaderContext) (messageType : UInt8) (data : Bytes) :
    Except Oops Bytes :=
  match ctx.headerProtector with
  | none => .ok data
  | some hpm =>
    match hpm.encryptOutboundHeader ctx.chacha20 data (messageTypeToHeaderType messageType) with
    | .error e => .error (e.wrapf "failed to encrypt header")
    | .ok data => .ok data

/-- The environment of a call that sends a Data packet. -/
def sendEnv (ctx : HeaderContext) (now : Time) (rto : Duration) (mask : Option UInt16)
    (writeTo : Bytes → Except Oops Unit) : SendEnv :=
  ⟨now, rto, mask, ctx.applyOutboundHeaderProtection messageTypeData, writeTo⟩

def expectedInboundHeaderType (ctx : HeaderContext) (state : ConnState) : HeaderType :=
  if state = .established then .data
  else if ctx.initiator then .sessionCreated
  else .sessionRequest

def decryptHeader (ctx : HeaderContext) (state : ConnState) (data : Bytes) : Except Oops Bytes :=
  match ctx.headerProtector with
  | none => .ok data
  | some hpm => hpm.decryptInboundHeader ctx.chacha20 data (ctx.expectedInboundHeaderType state)

def zeroKeys : HeaderContext where
  chacha20 := ⟨fun _ _ _ => 0⟩
  headerProtector := some
    ⟨List.replicate 32 0, List.replicate 32 0, List.replicate 32 0, List.replicate 32 0, [], [],
      false⟩
  initiator := false
  remoteAddr := ⟨[], 0⟩
  pathValidator := false

end HeaderContext

namespace SSU2Conn

/-! ## The code -/

/-- `Serialize` and header protection: the bytes for the socket, if there are any. -/
def wireData (env : SendEnv) (packet : SSU2Packet) : Option Bytes :=
  match (applySipHashObfuscation env.mask packet).serialize with
  | .error _ => none
  | .ok (data, _) => (env.protectHeader data).toOption

def datagram (crypto : Crypto) (env : SendEnv) (h : SSU2Conn) (packet : SSU2Packet) :
    Option Bytes :=
  match (h.encryptDataPayload crypto packet).1 with
  | .error _ => none
  | .ok (packet, _) => wireData env packet

def setLength (x : UInt16) (data : Bytes) : Bytes := data.take 14 ++ putUint16 x ++ data.drop 16

def deobfuscateLength (mask : Option UInt16) (data : Bytes) : Bytes :=
  match mask with
  | none => data
  | some mask =>
    if data.length ≥ shortHeaderSize then
      setLength (uint16 ((data.drop 14).take 2) ^^^ mask) data
    else data

def decryptDataPayload (aead : Aead) (h : SSU2Conn) (packet : SSU2Packet) :
    Except Oops SSU2Packet × SSU2Conn :=
  match h.recvCipher with
  | none => (.ok packet, h)
  | some cipher =>
    if packet.messageType = messageTypeData ∧ packet.payload.length > 0 then
      let packet := { packet with header := setLength 0 packet.header }
      let nonce := UInt64.ofNat packet.packetNumber.toNat
      let h := { h with recvCipher := some { cipher with nonce := nonce } }
      match aead.decrypt cipher.key nonce (packet.header.take shortHeaderSize) packet.payload with
      | .error e => (.error e, h)
      | .ok decrypted => (.ok { packet with payload := decrypted }, h)
    else (.ok packet, h)

/-- `parseInboundPacket`. `addr` is `none` if it is not a UDP address. The second component is the
address whose validation is started, if any. -/
def parseInboundPacket (aead : Aead) (ctx : HeaderContext) (env : RecvEnv) (h : SSU2Conn)
    (data : Bytes) (addr : Option UDPAddr) : Option SSU2Packet × Option UDPAddr × SSU2Conn :=
  match addr with
  | none => (none, none, h)
  | some udpAddr =>
    match ctx.decryptHeader h.state data with
    | .error _ => (none, none, h)
    | .ok data =>
      match (SSU2Packet.newSSU2Packet 0 0 0).deserialize env.now
          (deobfuscateLength env.mask data) with
      | .error _ => (none, none, h)
      | .ok packet =>
        match h.decryptDataPayload aead packet with
        | (.error _, h) => (none, none, h)
        | (.ok packet, h) =>
          (some packet,
            if udpAddr ≠ ctx.remoteAddr ∧ ctx.pathValidator then some udpAddr else none,
            { h with lastActivity := env.now })

/-! ## Bytes 14 and 15 -/

section setLength
variable (x y : UInt16) {l : Bytes}

section
variable (h : 16 ≤ l.length)
include h

theorem length_setLength : (setLength x l).length = l.length := by
  rw [setLength, List.length_append, List.length_append, length_putUint16, List.length_take,
    List.length_drop]
  omega

theorem setLength_append (r : Bytes) : setLength x (l ++ r) = setLength x l ++ r := by
  rw [setLength, setLength, List.take_append_of_le_length (by omega),
    List.drop_append_of_le_length h, List.append_assoc, List.append_assoc, List.append_assoc]

theorem take_setLength {n : ℕ} (hn : n ≤ 14) : (setLength x l).take n = l.take n := by
  have hlen : n ≤ (l.take 14).length := by rw [List.length_take]; omega
  rw [setLength, List.append_assoc, List.take_append_of_le_length hlen, List.take_take,
    Nat.min_eq_left hn]

theorem drop_setLength : (setLength x l).drop 16 = l.drop 16 := by
  refine List.drop_left' ?_
  rw [List.length_append, List.length_take, length_putUint16]
  omega

theorem setLength_setLength : setLength x (setLength y l) = setLength x l := by
  rw [setLength, take_setLength y h (Nat.le_refl 14), drop_setLength y h, setLength]

theorem getD_setLength {i : ℕ} (hi : i < 14) : (setLength x l).getD i 0 = l.getD i 0 := by
  have hlt : i < (l.take 14).length := by rw [List.length_take]; omega
  rw [setLength, List.append_assoc, List.getD_append _ _ _ _ hlt, List.getD_eq_getElem?_getD,
    List.getElem?_take_of_lt hi, List.getD_eq_getElem?_getD]

end

end setLength

/-! ## The layout of a Data packet -/

/-- The header that is the associated data: connection ID, number, type. -/
def sealedHeader (h : SSU2Conn) (pktNum : UInt32) : Bytes :=
  putUint64 h.remoteConnectionID ++ putUint32 pktNum ++ [messageTypeData, 0, 0, 0]

section layout
variable (h : SSU2Conn) (pktNum : UInt32)

@[simp] theorem length_sealedHeader : (h.sealedHeader pktNum).length = shortHeaderSize := by
  simp [sealedHeader, shortHeaderSize]

theorem shortHeader_set : (h.shortHeader pktNum).set 12 messageTypeData = h.sealedHeader
    pktNum := by
  rw [shortHeader, List.set_append_right _ _ (by simp), sealedHeader]
  simp

theorem setLength_zero_sealedHeader :
    setLength 0 (h.sealedHeader pktNum) = h.sealedHeader pktNum := by
  have hlen : (putUint64 h.remoteConnectionID ++ putUint32 pktNum).length = 12 := by simp
  rw [setLength, sealedHeader, List.take_append, List.drop_append, List.take_of_length_le
    (by omega),
    List.drop_of_length_le (by omega), hlen]
  rfl

theorem getD_sealedHeader : (h.sealedHeader pktNum).getD 12 0 = messageTypeData := by
  rw [sealedHeader, List.getD_append_right _ _ _ _ (by simp)]
  simp

theorem uint64_sealedHeader :
    uint64 ((h.sealedHeader pktNum).take 8) = h.remoteConnectionID := by
  rw [sealedHeader, List.append_assoc, List.take_left' (length_putUint64 _), uint64_putUint64]

theorem uint32_sealedHeader : uint32 (((h.sealedHeader pktNum).drop 8).take 4) = pktNum := by
  rw [sealedHeader, List.append_assoc, List.drop_left' (length_putUint64 _),
    take_putUint32_append, uint32_putUint32]

end layout

/-- The AEAD output for a Data packet. -/
def sealedPayload (aead : Aead) (key : Bytes) (h : SSU2Conn) (pktNum : UInt32) (payload : Bytes) :
    Bytes :=
  aead.encrypt key (UInt64.ofNat pktNum.toNat) (h.sealedHeader pktNum) payload

/-- A serialized Data packet, with the bytes `x` in the place of the length. -/
def plainDatagram (h : SSU2Conn) (pktNum : UInt32) (x : UInt16) (payload : Bytes) : Bytes :=
  setLength x (h.sealedHeader pktNum) ++ payload ++ List.replicate macSize 0

def wirePacket (header payload : Bytes) (pktNum : UInt32) (now : Time) : SSU2Packet :=
  ⟨header, [], payload, List.replicate macSize 0, messageTypeData, pktNum, now⟩

section
variable (aead : Aead) {h : SSU2Conn} {cipher : CipherState} (pktNum : UInt32) {payload : Bytes}
  (env : SendEnv)

@[simp] theorem length_sealedPayload (key : Bytes) :
    (h.sealedPayload aead key pktNum payload).length = payload.length + macSize :=
  aead.length_encrypt _ _ _ _

theorem length_plainDatagram (x : UInt16) :
    (h.plainDatagram pktNum x payload).length = shortHeaderSize + payload.length + macSize := by
  rw [plainDatagram, List.length_append, List.length_append, List.length_replicate,
    length_setLength x (by simp [shortHeaderSize]), length_sealedHeader]

theorem encryptDataPayload_dataPacket (hcipher : h.sendCipher = some cipher)
    (hpayload : payload ≠ []) :
    h.encryptDataPayload aead.toCrypto (h.dataPacket pktNum payload) =
      (.ok (wirePacket (h.sealedHeader pktNum) (h.sealedPayload aead cipher.key pktNum payload)
        pktNum 0, payload), [⟨cipher.key, UInt64.ofNat pktNum.toNat⟩],
        { h with sendCipher := some ⟨cipher.key, UInt64.ofNat pktNum.toNat⟩ }) := by
  have hlen : payload.length ≠ 0 := fun h0 => hpayload (List.eq_nil_of_length_eq_zero h0)
  have hno : ¬ ((h.dataPacket pktNum payload).messageType ≠ messageTypeData ∨
      (h.dataPacket pktNum payload).payload.length = 0) := by
    rintro (htype | h0)
    · exact htype rfl
    · exact hlen h0
  rw [encryptDataPayload, hcipher]
  dsimp only
  rw [if_neg hno]
  have hset : (h.dataPacket pktNum payload).header.set 12
    (h.dataPacket pktNum payload).messageType =
      h.sealedHeader pktNum := h.shortHeader_set pktNum
  have htake : (h.sealedHeader pktNum).take shortHeaderSize = h.sealedHeader pktNum :=
    List.take_of_length_le (by rw [length_sealedHeader])
  rw [hset, htake]
  rfl

theorem length_setLength_sealedHeader (x : UInt16) :
    (setLength x (h.sealedHeader pktNum)).length = shortHeaderSize := by
  rw [length_setLength x (by simp [shortHeaderSize]), length_sealedHeader]

theorem totalSize_wirePacket (payload : Bytes) (x : UInt16) (now : Time) :
    (wirePacket (setLength x (h.sealedHeader pktNum)) payload pktNum now).totalSize =
      payload.length + 32 := by
  show (setLength x (h.sealedHeader pktNum)).length + payload.length +
    (List.replicate macSize (0 : UInt8)).length + 0 = _
  rw [length_setLength_sealedHeader, List.length_replicate, shortHeaderSize, macSize]
  omega

/-- A packet whose header has `setLength` applied is serialized as it is. -/
theorem serialize_wirePacket (payload : Bytes) (x : UInt16)
    (hsize : payload.length + 32 ≤ maxPacketSizeIPv6) :
    ∃ q, (wirePacket (setLength x (h.sealedHeader pktNum)) payload pktNum 0).serialize =
      .ok (h.plainDatagram pktNum x payload, q) := by
  have hlen := length_setLength_sealedHeader (h := h) pktNum x
  have hvalid : (wirePacket (setLength x (h.sealedHeader pktNum)) payload pktNum 0).Valid :=
    ⟨hlen, rfl, List.length_replicate, (totalSize_wirePacket pktNum payload x 0).trans_le hsize⟩
  have hset : (setLength x (h.sealedHeader pktNum)).set 12 messageTypeData =
      setLength x (h.sealedHeader pktNum) := by
    have hget : (setLength x (h.sealedHeader pktNum)).getD 12 0 = messageTypeData := by
      rw [getD_setLength x (by simp [shortHeaderSize]) (by omega), getD_sealedHeader]
    rw [← hget, List.getD_eq_getElem _ _ (by rw [hlen, shortHeaderSize]; omega),
      List.set_getElem_self]
  refine ⟨_, (SSU2Packet.serialize_eq_ok_iff _ _ _).mpr ⟨hvalid, rfl, ?_⟩⟩
  show _ = (setLength x (h.sealedHeader pktNum)).set 12 messageTypeData ++ [] ++ payload ++
    List.replicate macSize 0
  rw [hset, List.append_nil]
  rfl

theorem applySipHashObfuscation_wirePacket (payload : Bytes) (mask : Option UInt16) :
    ∃ x, applySipHashObfuscation mask (wirePacket (h.sealedHeader pktNum) payload pktNum 0) =
      wirePacket (setLength x (h.sealedHeader pktNum)) payload pktNum 0 := by
  cases mask with
  | none => exact ⟨0, by rw [setLength_zero_sealedHeader]; rfl⟩
  | some mask =>
    have htype : (wirePacket (h.sealedHeader pktNum) payload pktNum 0).messageType =
        messageTypeData := rfl
    refine ⟨UInt16.ofNat payload.length ^^^ mask, ?_⟩
    rw [applySipHashObfuscation]
    rw [if_neg (not_not.mpr htype)]
    rfl

/-- What goes to the socket is the header with some length bytes, the payload and the zero bytes of
the packet's own tag, with the header protected. -/
theorem wireData_wirePacket {env : SendEnv} {payload data : Bytes}
    (hdata : wireData env (wirePacket (h.sealedHeader pktNum) payload pktNum 0) = some data) :
    payload.length + 32 ≤ maxPacketSizeIPv6 ∧
      ∃ x, env.protectHeader (h.plainDatagram pktNum x payload) = .ok data := by
  obtain ⟨x, hx⟩ := applySipHashObfuscation_wirePacket (h := h) pktNum payload env.mask
  rw [wireData, hx] at hdata
  cases hser : (wirePacket (setLength x (h.sealedHeader pktNum)) payload pktNum 0).serialize with
  | error e => grind
  | ok result =>
    have hvalid := ((SSU2Packet.serialize_eq_ok_iff _ result.2 result.1).mp hser).1
    have hsize := hvalid.totalSize
    rw [totalSize_wirePacket] at hsize
    obtain ⟨q, hq⟩ := serialize_wirePacket (h := h) pktNum payload x hsize
    rw [hq] at hdata
    dsimp only at hdata
    refine ⟨hsize, x, ?_⟩
    cases hp : env.protectHeader (h.plainDatagram pktNum x payload) with
    | error e =>
      rw [hp] at hdata
      cases hdata
    | ok data' =>
      rw [hp] at hdata
      rw [Option.some.inj hdata]

theorem wireData_eq (payload : Bytes) (hsize : payload.length + 32 ≤ maxPacketSizeIPv6) :
    ∃ x, wireData env (wirePacket (h.sealedHeader pktNum) payload pktNum 0) =
      (env.protectHeader (h.plainDatagram pktNum x payload)).toOption := by
  obtain ⟨x, hx⟩ := applySipHashObfuscation_wirePacket (h := h) pktNum payload env.mask
  obtain ⟨q, hq⟩ := serialize_wirePacket (h := h) pktNum payload x hsize
  refine ⟨x, ?_⟩
  rw [wireData, hx, hq]

/-- The layout of a datagram before the header is protected: the header with some length bytes,
the AEAD output, and the zero bytes of the packet's own tag. -/
theorem datagram_eq (hcipher : h.sendCipher = some cipher) (hpayload : payload ≠ [])
    (hsize : payload.length + 48 ≤ maxPacketSizeIPv6) :
    ∃ x, h.datagram aead.toCrypto env (h.dataPacket pktNum payload) =
      (env.protectHeader (h.plainDatagram pktNum x
        (h.sealedPayload aead cipher.key pktNum payload))).toOption := by
  rw [datagram, encryptDataPayload_dataPacket aead pktNum hcipher hpayload]
  exact wireData_eq pktNum env (h.sealedPayload aead cipher.key pktNum payload)
    (by rw [length_sealedPayload, macSize]; omega)

end

/-! ## The way back -/

/-- The header keys of the sender are those that the receiver uses for Data packets. -/
structure MatchingHeaders (ctx ctx' : HeaderContext) : Prop where
  chacha20 : ctx'.chacha20 = ctx.chacha20
  headerKeys : ∃ hpm hpm', ctx.headerProtector = some hpm ∧ ctx'.headerProtector = some hpm' ∧
    hpm'.introKey = hpm.remoteIntroKey ∧ hpm'.recvDataHeader2 = hpm.sendDataHeader2 ∧
    hpm.remoteIntroKey.length = headerKeySize ∧ hpm.sendDataHeader2.length = headerKeySize

/-- And the two sides have the same AEAD key. -/
structure MatchingKeys (ctx ctx' : HeaderContext) (h h' : SSU2Conn) (key : Bytes) : Prop extends
    MatchingHeaders ctx ctx' where
  sendCipher : ∃ cipher, h.sendCipher = some cipher ∧ cipher.key = key
  recvCipher : ∃ cipher, h'.recvCipher = some cipher ∧ cipher.key = key

variable {cipher : CipherState} {ctx ctx' : HeaderContext} {data key payload : Bytes}
  {h h' : SSU2Conn} (aead : Aead)

theorem MatchingKeys.zeroKeys {nonce nonce' : UInt64} (hsend : h.sendCipher = some ⟨key, nonce⟩)
    (hrecv : h'.recvCipher = some ⟨key, nonce'⟩) : MatchingKeys .zeroKeys .zeroKeys h h' key :=
  ⟨⟨rfl, _, _, rfl, rfl, rfl, rfl, rfl, rfl⟩, ⟨_, hsend, rfl⟩, _, hrecv, rfl⟩

/-- The protector of Data packets from one side to the other. -/
theorem MatchingHeaders.protector (hm : MatchingHeaders ctx ctx') :
    ∃ hp : HeaderProtector, hp.headerType = .data ∧
      (∀ data, minPacketSize ≤ data.length →
        ctx.applyOutboundHeaderProtection messageTypeData data =
          .ok (hp.masked ctx.chacha20 data)) ∧
      ∀ data, minPacketSize ≤ data.length →
        ctx'.decryptHeader .established (hp.masked ctx.chacha20 data) = .ok data := by
  obtain ⟨hpm, hpm', hctx, hctx', hintro, hdata, hlen₁, hlen₂⟩ := hm.headerKeys
  set hp : HeaderProtector := ⟨hpm.remoteIntroKey, hpm.sendDataHeader2, .data, hlen₁, hlen₂⟩ with
    hhp
  have hext : ∀ data, hp.extended ctx.chacha20 data = data := fun data => rfl
  refine ⟨hp, rfl, fun data hmin => ?_, fun data hmin => ?_⟩
  · have hsize : hp.minSize ≤ data.length := hmin
    have henc := hp.encryptHeader_eq ctx.chacha20 hsize
    rw [hext] at henc
    have htype : messageTypeToHeaderType messageTypeData = .data := rfl
    rw [HeaderContext.applyOutboundHeaderProtection, hctx]
    dsimp only
    rw [htype, HeaderProtectorManager.encryptOutboundHeader_data ctx.chacha20 hlen₁ hlen₂, henc]
  · have hsize : hp.minSize ≤ data.length := hmin
    have hdec := hp.decryptHeader_encrypted ctx.chacha20 hsize
    rw [hext] at hdec
    have hlen₁' : hpm'.introKey.length = headerKeySize := hintro ▸ hlen₁
    have hlen₂' : hpm'.recvDataHeader2.length = headerKeySize := hdata ▸ hlen₂
    have hp' : (⟨hpm'.introKey, hpm'.recvDataHeader2, .data, hlen₁', hlen₂'⟩ : HeaderProtector) =
        hp := by grind
    rw [HeaderContext.decryptHeader, hctx']
    dsimp only
    rw [HeaderContext.expectedInboundHeaderType, if_pos rfl,
      HeaderProtectorManager.decryptInboundHeader_data ctx'.chacha20 hlen₁' hlen₂', hp',
      hm.chacha20, hdec]

theorem deobfuscateLength_plainDatagram (h : SSU2Conn) (pktNum : UInt32) (x : UInt16)
    (mask : Option UInt16) (payload : Bytes) :
    ∃ y, deobfuscateLength mask (h.plainDatagram pktNum x payload) =
      h.plainDatagram pktNum y payload := by
  cases mask with
  | none => exact ⟨x, rfl⟩
  | some mask =>
    have hlen : shortHeaderSize ≤ (h.plainDatagram pktNum x payload).length := by
      rw [length_plainDatagram]
      omega
    have hheader : 16 ≤ (setLength x (h.sealedHeader pktNum)).length := by
      rw [length_setLength x (by simp [shortHeaderSize])]
      simp [shortHeaderSize]
    refine ⟨uint16 (((h.plainDatagram pktNum x payload).drop 14).take 2) ^^^ mask, ?_⟩
    rw [deobfuscateLength, if_pos hlen]
    generalize uint16 (((h.plainDatagram pktNum x payload).drop 14).take 2) ^^^ mask = y
    rw [plainDatagram, List.append_assoc, setLength_append y hheader,
      setLength_setLength y x (by simp [shortHeaderSize]), plainDatagram, List.append_assoc]

theorem deserialize_plainDatagram (h : SSU2Conn) (pktNum : UInt32) (x : UInt16) (payload : Bytes)
    (hmin : 8 ≤ payload.length) (hsize : payload.length + 32 ≤ maxPacketSizeIPv6) (now : Time) :
    (SSU2Packet.newSSU2Packet 0 0 0).deserialize now (h.plainDatagram pktNum x payload) =
      .ok (wirePacket (setLength x (h.sealedHeader pktNum)) payload pktNum now) := by
  have h16 : 16 ≤ (h.sealedHeader pktNum).length := by simp [shortHeaderSize]
  set p := wirePacket (setLength x (h.sealedHeader pktNum)) payload pktNum now
  have htotal : p.totalSize = payload.length + 32 := totalSize_wirePacket pktNum payload x now
  have hvalid : p.Valid := ⟨length_setLength_sealedHeader pktNum x, rfl, List.length_replicate,
    htotal.trans_le hsize⟩
  have hshort : p.getHeaderSize = shortHeaderSize := rfl
  have hdesc : p.Described := by
    refine ⟨?_, fun hlong => ?_⟩
    · show (setLength x (h.sealedHeader pktNum)).getD 12 0 = messageTypeData
      rw [getD_setLength x h16 (by omega), getD_sealedHeader]
    · exact absurd (hshort.symm.trans hlong) (by decide)
  have hsec : h.plainDatagram pktNum x payload = p.sections := by
    show _ = setLength x (h.sealedHeader pktNum) ++ [] ++ payload ++ List.replicate macSize 0
    rw [List.append_nil]
    rfl
  have hnum : uint32 ((p.header.drop 8).take 4) = pktNum := by
    show uint32 (((setLength x (h.sealedHeader pktNum)).drop 8).take 4) = pktNum
    rw [List.take_drop, take_setLength x h16 (by omega), ← List.take_drop, uint32_sealedHeader]
  rw [hsec, SSU2Packet.deserialize_sections hvalid hdesc (by rw [htotal, minPacketSize]; omega),
    hnum]
  rfl

theorem opened_of_decryptDataPayload (hcipher : h.recvCipher = some cipher)
    {packet packet' : SSU2Packet} (htype : packet.messageType = messageTypeData)
    (hpos : packet.payload.length > 0) (hok : (h.decryptDataPayload aead packet).1 = .ok packet') :
    aead.decrypt cipher.key (UInt64.ofNat packet.packetNumber.toNat)
      ((setLength 0 packet.header).take shortHeaderSize) packet.payload = .ok packet'.payload := by
  rw [decryptDataPayload, hcipher] at hok
  dsimp only at hok
  rw [if_pos ⟨htype, hpos⟩] at hok
  split at hok
  · cases hok
  · rename_i plaintext hopen
    obtain rfl := Except.ok.inj hok
    exact hopen

theorem decryptDataPayload_sealed (h : SSU2Conn) (hcipher : h'.recvCipher = some cipher)
    (pktNum : UInt32) (x : UInt16) (payload : Bytes) (now : Time) :
    h'.decryptDataPayload aead (wirePacket (setLength x (h.sealedHeader pktNum))
        (h.sealedPayload aead cipher.key pktNum payload) pktNum now) =
      (.ok (wirePacket (h.sealedHeader pktNum) payload pktNum now),
        { h' with recvCipher := some ⟨cipher.key, UInt64.ofNat pktNum.toNat⟩ }) := by
  have hpos : (h.sealedPayload aead cipher.key pktNum payload).length > 0 := by
    rw [length_sealedPayload, macSize]
    omega
  have hheader : setLength 0 (setLength x (h.sealedHeader pktNum)) = h.sealedHeader pktNum := by
    rw [setLength_setLength 0 x (by simp [shortHeaderSize]), setLength_zero_sealedHeader]
  have htake : (h.sealedHeader pktNum).take shortHeaderSize = h.sealedHeader pktNum :=
    List.take_of_length_le (by rw [length_sealedHeader])
  have hopen : aead.decrypt cipher.key (UInt64.ofNat pktNum.toNat) (h.sealedHeader pktNum)
      (h.sealedPayload aead cipher.key pktNum payload) = .ok payload := by
    rw [sealedPayload, aead.decrypt_encrypt]
  rw [decryptDataPayload, hcipher]
  dsimp only
  rw [if_pos ⟨rfl, hpos⟩]
  dsimp only [wirePacket]
  rw [hheader, htake, hopen]

theorem minPacketSize_le_sealed (h : SSU2Conn) (key : Bytes) (pktNum : UInt32) (x : UInt16)
    (hpayload : payload ≠ []) :
    minPacketSize ≤
      (h.plainDatagram pktNum x (h.sealedPayload aead key pktNum payload)).length := by
  have hpos := List.length_pos_iff.mpr hpayload
  rw [length_plainDatagram, length_sealedPayload, shortHeaderSize, macSize, minPacketSize]
  omega

theorem parseInboundPacket_protected (hm : MatchingHeaders ctx ctx')
    (hstate : h'.state = .established) (pktNum : UInt32) (x : UInt16) (hmin : 8 ≤ payload.length)
    (hsize : payload.length + 32 ≤ maxPacketSizeIPv6) (env' : RecvEnv) (addr : UDPAddr)
    (hdata : ctx.applyOutboundHeaderProtection messageTypeData
      (h.plainDatagram pktNum x payload) = .ok data) :
    ∃ y, h'.parseInboundPacket aead ctx' env' data (some addr) =
      match h'.decryptDataPayload aead
          (wirePacket (setLength y (h.sealedHeader pktNum)) payload pktNum env'.now) with
      | (.error _, h) => (none, none, h)
      | (.ok packet, h) =>
        (some packet,
          if addr ≠ ctx'.remoteAddr ∧ ctx'.pathValidator then some addr else none,
          { h with lastActivity := env'.now }) := by
  obtain ⟨hp, -, hprotect, hunprotect⟩ := hm.protector
  have hlen : minPacketSize ≤ (h.plainDatagram pktNum x payload).length := by
    rw [length_plainDatagram, shortHeaderSize, macSize, minPacketSize]
    omega
  rw [hprotect _ hlen] at hdata
  obtain rfl := Except.ok.inj hdata
  obtain ⟨y, hy⟩ := deobfuscateLength_plainDatagram h pktNum x env'.mask payload
  have hheader := hunprotect _ hlen
  rw [← hstate] at hheader
  refine ⟨y, ?_⟩
  rw [parseInboundPacket, hheader]
  dsimp only
  rw [hy, deserialize_plainDatagram h pktNum y payload hmin hsize env'.now]

/-- The receiver reads a datagram that is sealed with its key: number, connection ID and
payload. -/
theorem parseInboundPacket_sealed (hm : MatchingHeaders ctx ctx')
    (hcipher : h'.recvCipher = some cipher) (hstate : h'.state = .established) (pktNum : UInt32)
    (x : UInt16) (hsize : payload.length + 48 ≤ maxPacketSizeIPv6) (env' : RecvEnv) (addr : UDPAddr)
    (hdata : ctx.applyOutboundHeaderProtection messageTypeData
      (h.plainDatagram pktNum x (h.sealedPayload aead cipher.key pktNum payload)) = .ok data) :
    (h'.parseInboundPacket aead ctx' env' data (some addr)).1 =
        some (wirePacket (h.sealedHeader pktNum) payload pktNum env'.now) ∧
      (h'.parseInboundPacket aead ctx' env' data (some addr)).2.2 =
        { h' with
          recvCipher := some ⟨cipher.key, UInt64.ofNat pktNum.toNat⟩
          lastActivity := env'.now } := by
  have hlen : (h.sealedPayload aead cipher.key pktNum payload).length = payload.length + 16 :=
    length_sealedPayload aead pktNum cipher.key
  obtain ⟨y, hparse⟩ := parseInboundPacket_protected aead hm hstate pktNum x
    (by rw [hlen]; omega) (by rw [hlen]; omega) env' addr hdata
  rw [hparse, decryptDataPayload_sealed aead h hcipher pktNum y payload env'.now]
  exact ⟨rfl, rfl⟩

theorem parseInboundPacket_datagram (hm : MatchingKeys ctx ctx' h h' key)
    (hstate : h'.state = .established) (now : Time) (rto : Duration) (mask : Option UInt16)
    (writeTo : Bytes → Except Oops Unit) (pktNum : UInt32) (hpayload : payload ≠ [])
    (hsize : payload.length + 48 ≤ maxPacketSizeIPv6) (env' : RecvEnv) (addr : UDPAddr) :
    ∃ data,
      h.datagram aead.toCrypto (ctx.sendEnv now rto mask writeTo) (h.dataPacket pktNum payload) =
          some data ∧
        (h'.parseInboundPacket aead ctx' env' data (some addr)).1 =
          some (wirePacket (h.sealedHeader pktNum) payload pktNum env'.now) ∧
        (h'.parseInboundPacket aead ctx' env' data (some addr)).2.2 =
          { h' with
            recvCipher := some ⟨key, UInt64.ofNat pktNum.toNat⟩, lastActivity := env'.now } := by
  obtain ⟨cipher, hsend, hkey⟩ := hm.sendCipher
  obtain ⟨cipher', hrecv, rfl⟩ := hm.recvCipher
  obtain ⟨hp, -, hprotect, -⟩ := hm.toMatchingHeaders.protector
  obtain ⟨x, hx⟩ := datagram_eq aead pktNum (ctx.sendEnv now rto mask writeTo) hsend hpayload hsize
  rw [hkey] at hx
  have hdata := hprotect _ (minPacketSize_le_sealed aead h cipher'.key pktNum x hpayload)
  refine ⟨_, ?_, parseInboundPacket_sealed aead hm.toMatchingHeaders hrecv hstate pktNum x hsize
    env' addr
    hdata⟩
  rw [hx]
  show (ctx.applyOutboundHeaderProtection messageTypeData _).toOption = _
  rw [hdata]
  rfl

/-- The packet comes back with its number, connection ID and payload. -/
def RoundTrips (aead : Aead) (ctx ctx' : HeaderContext) (h h' : SSU2Conn) (env : SendEnv)
    (pktNum : UInt32) (payload : Bytes) (env' : RecvEnv) (addr : UDPAddr) : Prop :=
  ∃ data packet,
    h.datagram aead.toCrypto { env with
      protectHeader := ctx.applyOutboundHeaderProtection messageTypeData }
      (h.dataPacket pktNum payload) = some data ∧
    (h'.parseInboundPacket aead ctx' env' data (some addr)).1 = some packet ∧
    packet.messageType = messageTypeData ∧ packet.packetNumber = pktNum ∧
    uint64 (packet.header.take 8) = h.remoteConnectionID ∧ packet.payload = payload

/-- Outside of the data phase a long header is expected, and a short datagram is dropped. -/
theorem not_roundTrips_of_ne_established (hm : MatchingKeys ctx ctx' h h' key)
    (hstate : h'.state ≠ .established) (env : SendEnv) (pktNum : UInt32) (payload : Bytes)
    (hpayload : payload ≠ []) (hshort : payload.length < 8) (env' : RecvEnv) (addr : UDPAddr) :
    ¬ RoundTrips aead ctx ctx' h h' env pktNum payload env' addr := by
  rintro ⟨data, packet, hdata, hparse, -⟩
  obtain ⟨cipher, hsend, -⟩ := hm.sendCipher
  obtain ⟨hpm, hpm', hctx, hctx', -, -, hlen₁, hlen₂⟩ := hm.headerKeys
  obtain ⟨hp, -, hprotect, -⟩ := hm.toMatchingHeaders.protector
  obtain ⟨x, hx⟩ := datagram_eq aead pktNum { env with
    protectHeader := ctx.applyOutboundHeaderProtection messageTypeData } hsend hpayload
    (by rw [maxPacketSizeIPv6]; omega)
  have hlen : (h.plainDatagram pktNum x (h.sealedPayload aead cipher.key pktNum payload)).length =
      payload.length + 48 := by
    rw [length_plainDatagram, length_sealedPayload, shortHeaderSize, macSize]
    omega
  rw [hdata] at hx
  dsimp only at hx
  rw [hprotect _ (by rw [hlen, minPacketSize]; omega)] at hx
  obtain rfl := Option.some.inj hx
  have htype : ctx'.expectedInboundHeaderType h'.state = .sessionRequest ∨
      ctx'.expectedInboundHeaderType h'.state = .sessionCreated := by
    rw [HeaderContext.expectedInboundHeaderType, if_neg hstate]
    split_ifs
    · exact Or.inr rfl
    · exact Or.inl rfl
  have hsmall : (hp.masked ctx.chacha20 (h.plainDatagram pktNum x
      (h.sealedPayload aead cipher.key pktNum payload))).length < longHeaderSize + 24 := by
    rw [HeaderProtector.length_masked, hlen, longHeaderSize]
    omega
  obtain ⟨e, he⟩ := hpm'.decryptInboundHeader_of_short ctx'.chacha20 htype hsmall
  rw [parseInboundPacket, HeaderContext.decryptHeader, hctx'] at hparse
  dsimp only at hparse
  rw [he] at hparse
  cases hparse

/-- **Data packets round trip exactly while the receiver is established.** The type of header that
the receiver removes is chosen by its state. -/
theorem data_packet_round_trip_iff (aead : Aead) {ctx ctx' : HeaderContext} {h h' : SSU2Conn}
    {key : Bytes} (hm : MatchingKeys ctx ctx' h h' key) :
    (∀ (env : SendEnv) (pktNum : UInt32) (payload : Bytes) (env' : RecvEnv) (addr : UDPAddr),
      payload ≠ [] → payload.length + shortHeaderSize + 2 * macSize ≤ maxPacketSizeIPv6 →
        RoundTrips aead ctx ctx' h h' env pktNum payload env' addr) ↔
      h'.state = .established := by
  constructor
  · intro hall
    by_contra hstate
    refine not_roundTrips_of_ne_established aead hm hstate .openSocket 0 [0]
      (by decide) (by decide) ⟨0, none⟩ ⟨[], 0⟩ ?_
    exact hall _ _ _ _ _ (by decide) (by decide)
  · intro hstate env pktNum payload env' addr hpayload hsize
    obtain ⟨data, hdata, hparse, -⟩ := parseInboundPacket_datagram aead hm hstate env.now env.rto
      env.mask env.writeTo pktNum hpayload hsize env' addr
    exact ⟨data, _, hdata, hparse, rfl, rfl, h.uint64_sealedHeader pktNum, rfl⟩

theorem data_packet_round_trip_established :
    ∃ (aead : Aead) (ctx : HeaderContext) (h : SSU2Conn) (key : Bytes),
      MatchingKeys ctx ctx h h key ∧ h.state = .established ∧
        ∀ (env : SendEnv) (pktNum : UInt32) (payload : Bytes) (env' : RecvEnv) (addr : UDPAddr),
          payload ≠ [] → payload.length + shortHeaderSize + 2 * macSize ≤ maxPacketSizeIPv6 →
            RoundTrips aead ctx ctx h h env pktNum payload env' addr :=
  let h := (assembleSSU2Conn .newSSU2Config 0).establish [1] [1] 7
  have hm : MatchingKeys .zeroKeys .zeroKeys h h [1] := MatchingKeys.zeroKeys rfl rfl
  ⟨.zeroTag, .zeroKeys, h, [1], hm, rfl, (data_packet_round_trip_iff .zeroTag hm).mpr rfl⟩

/-- A peer that has sent its Termination block waits for an answer, but drops what comes: here a
Data packet with an I2NP block of one byte. -/
theorem data_packet_dropped_while_closing :
    ∃ (aead : Aead) (ctx ctx' : HeaderContext) (h h' : SSU2Conn) (key : Bytes) (env : SendEnv)
      (pktNum : UInt32) (payload : Bytes) (env' : RecvEnv) (addr : UDPAddr),
      MatchingKeys ctx ctx' h h' key ∧ h'.state = .closing ∧ payload ≠ [] ∧
        payload.length + shortHeaderSize + 2 * macSize ≤ maxPacketSizeIPv6 ∧
        ¬ RoundTrips aead ctx ctx' h h' env pktNum payload env' addr :=
  let h := (assembleSSU2Conn .newSSU2Config 0).establish [1] [1] 7
  let h' := (h.terminationPacket 0 []).2.2
  have hm : MatchingKeys .zeroKeys .zeroKeys h h' [1] := MatchingKeys.zeroKeys rfl rfl
  ⟨.zeroTag, .zeroKeys, .zeroKeys, h, h', [1], .openSocket, 1, [3, 0, 1, 42], ⟨0, none⟩, ⟨[], 0⟩,
    hm, rfl, by decide, by decide,
    not_roundTrips_of_ne_established .zeroTag hm (by decide) .openSocket 1 [3, 0, 1, 42] (by decide)
      (by decide) ⟨0, none⟩ ⟨[], 0⟩⟩

end SSU2Conn
end GoNoise.SSU2
