import GoNoise.SSU2.Session.ConnParse
import GoNoise.SSU2.Session.Nonce

/-!
# Data packets on the wire

A connection hands Data packets to the socket on three paths: `sendPacketDirect`,
`sendNextNonceInline` and `SendToAddress`. All three serialize a packet whose own tag is 16 zero
bytes; on the first two the payload ends with the tag of the AEAD, so that a datagram has both.
-/

namespace GoNoise.SSU2

open BigEndian

namespace SSU2Conn

def nextNoncePayload : Bytes := SSU2Block.wire ⟨blockTypeNextNonce, putUint64 0⟩

def nextNonceDatagram (crypto : Crypto) (env : SendEnv) (h : SSU2Conn) (cipher : CipherState) :
    Option Bytes :=
  let pktNum := h.sendSequence
  match crypto.encrypt cipher.key (UInt64.ofNat pktNum.toNat)
      ((h.sealedHeader pktNum).take shortHeaderSize) nextNoncePayload with
  | .error _ => none
  | .ok encrypted =>
    match (applySipHashObfuscation env.mask
        (wirePacket (h.sealedHeader pktNum) encrypted pktNum 0)).serialize with
    | .error _ => none
    | .ok (data, _) => some ((env.protectHeader data).toOption.getD data)

theorem nextNonceDatagram_eq (aead : Aead) (env : SendEnv) (h : SSU2Conn) (cipher : CipherState) :
    ∃ x, h.nextNonceDatagram aead.toCrypto env cipher =
      some ((env.protectHeader (h.plainDatagram h.sendSequence x (h.sealedPayload aead cipher.key
          h.sendSequence nextNoncePayload))).toOption.getD
        (h.plainDatagram h.sendSequence x (h.sealedPayload aead cipher.key h.sendSequence
          nextNoncePayload))) := by
  have htake : (h.sealedHeader h.sendSequence).take shortHeaderSize =
      h.sealedHeader h.sendSequence := List.take_of_length_le (by rw [length_sealedHeader])
  have hsize : nextNoncePayload.length + 48 ≤ maxPacketSizeIPv6 := by decide
  obtain ⟨x, hx⟩ := applySipHashObfuscation_wirePacket (h := h) h.sendSequence
    (h.sealedPayload aead cipher.key h.sendSequence nextNoncePayload) env.mask
  obtain ⟨q, hq⟩ := serialize_wirePacket (h := h) h.sendSequence
    (h.sealedPayload aead cipher.key h.sendSequence nextNoncePayload) x
    (by rw [length_sealedPayload, macSize]; omega)
  refine ⟨x, ?_⟩
  rw [nextNonceDatagram, htake]
  show (match (applySipHashObfuscation env.mask (wirePacket (h.sealedHeader h.sendSequence)
      (h.sealedPayload aead cipher.key h.sendSequence nextNoncePayload)
      h.sendSequence 0)).serialize with
    | .error _ => none
    | .ok (data, _) => some ((env.protectHeader data).toOption.getD data)) = _
  rw [hx, hq]

/-- `sendNextNonceInline` hands this datagram, and nothing else, to the socket. -/
theorem sendNextNonceInline_of_datagram (crypto : Crypto) (env : SendEnv) (h : SSU2Conn)
    (cipher : CipherState) :
    (h.sendNextNonceInline crypto env cipher).1 = .ok () ↔
      ∃ data, h.nextNonceDatagram crypto env cipher = some data ∧ env.writeTo data = .ok () := by
  have hset : (SSU2Conn.dataPacket { h with sendSequence := h.sendSequence + 1 } h.sendSequence
      nextNoncePayload).header.set 12 messageTypeData = h.sealedHeader h.sendSequence :=
    h.shortHeader_set h.sendSequence
  rw [sendNextNonceInline, serializeBlocks_nextNonce, nextNonceDatagram]
  dsimp only
  rw [← nextNoncePayload, hset]
  cases crypto.encrypt cipher.key (UInt64.ofNat h.sendSequence.toNat)
      ((h.sealedHeader h.sendSequence).take shortHeaderSize) nextNoncePayload with
  | error e => simp
  | ok encrypted =>
    have hpacket : { SSU2Conn.dataPacket { h with sendSequence := h.sendSequence + 1 }
        h.sendSequence nextNoncePayload with
          header := h.sealedHeader h.sendSequence, payload := encrypted } =
        wirePacket (h.sealedHeader h.sendSequence) encrypted h.sendSequence 0 := rfl
    dsimp only at hpacket ⊢
    rw [hpacket]
    cases (applySipHashObfuscation env.mask
        (wirePacket (h.sealedHeader h.sendSequence) encrypted h.sendSequence 0)).serialize with
    | error e => simp
    | ok result => grind

/-- The datagram that `SendToAddress` hands to the socket. -/
def addressDatagram (h : SSU2Conn) (block : SSU2Block) : Option Bytes :=
  match serializeBlocks [block] with
  | .error _ => none
  | .ok payload =>
    match (h.dataPacket h.sendSequence payload).serialize with
    | .error _ => none
    | .ok (data, _) => some data

end SSU2Conn

/-! ## The three paths -/

/-- A Data packet on its way to the socket. -/
inductive DataSend
  /-- `sendPacketDirect` -/
  | direct (pktNum : UInt32) (payload : Bytes)
  | nextNonce
  | toAddress (block : SSU2Block)

namespace DataSend

def datagram (crypto : Crypto) (env : SendEnv) (h : SSU2Conn) (cipher : CipherState) :
    DataSend → Option Bytes
  | .direct pktNum payload =>
    SSU2Conn.datagram crypto env { h with sendCipher := some cipher } (h.dataPacket pktNum payload)
  | .nextNonce => h.nextNonceDatagram crypto env cipher
  | .toAddress block => h.addressDatagram block

/-- The output of the AEAD in the datagram; there is none if the payload is not sealed. -/
def aeadOutput (aead : Aead) (h : SSU2Conn) (cipher : CipherState) : DataSend → Bytes
  | .direct pktNum payload =>
    if payload = [] then [] else h.sealedPayload aead cipher.key pktNum payload
  | .nextNonce => h.sealedPayload aead cipher.key h.sendSequence SSU2Conn.nextNoncePayload
  | .toAddress _ => []

end DataSend

/-- A change of a datagram that keeps everything after the short header. -/
def KeepsBody (protect : Bytes → Except Oops Bytes) : Prop :=
  ∀ data data', protect data = .ok data' →
    data'.length = data.length ∧ data'.drop shortHeaderSize = data.drop shortHeaderSize

theorem HeaderContext.keepsBody (ctx : HeaderContext) :
    KeepsBody (ctx.applyOutboundHeaderProtection messageTypeData) := by
  intro data data' h
  rw [applyOutboundHeaderProtection] at h
  cases hctx : ctx.headerProtector with
  | none => grind
  | some hpm =>
    rw [hctx] at h
    cases henc : hpm.encryptOutboundHeader ctx.chacha20 data .data with
    | error e =>
      have htype : messageTypeToHeaderType messageTypeData = .data := rfl
      dsimp only at h
      rw [htype, henc] at h
      cases h
    | ok encrypted =>
      have htype : messageTypeToHeaderType messageTypeData = .data := rfl
      dsimp only at h
      rw [htype, henc] at h
      cases h
      exact hpm.encryptOutboundHeader_keeps ctx.chacha20 henc

/-! ## Layout -/

/-- After a short header come a body and the 16 zero bytes of the packet's own tag. -/
structure Layout (data body : Bytes) : Prop where
  header : shortHeaderSize ≤ data.length
  body : data.drop shortHeaderSize = body ++ List.replicate macSize 0

namespace Layout

variable {data body : Bytes}

theorem length (hl : Layout data body) : data.length = body.length + 32 := by
  have h := congrArg List.length hl.body
  have hheader := hl.header
  rw [List.length_drop, List.length_append, List.length_replicate, macSize] at h
  rw [shortHeaderSize] at h hheader
  omega

theorem protect {f : Bytes → Except Oops Bytes} (hf : KeepsBody f) (hl : Layout data body)
    {data' : Bytes} (h : f data = .ok data') : Layout data' body := by
  obtain ⟨hlen, hdrop⟩ := hf data data' h
  exact ⟨hlen ▸ hl.header, hdrop.trans hl.body⟩

theorem of_serialize {p q : SSU2Packet} (htype : p.messageType = messageTypeData)
    (hmac : p.mac = List.replicate macSize 0) (h : p.serialize = .ok (data, q)) :
    Layout data p.payload := by
  obtain ⟨hvalid, rfl, rfl⟩ := (p.serialize_eq_ok_iff q data).mp h
  have heph : p.hasEphemeralKey = false := by
    rw [SSU2Packet.hasEphemeralKey, htype]
    rfl
  have hheader : (p.header.set 12 p.messageType).length = shortHeaderSize := by
    rw [List.length_set, hvalid.header, SSU2Packet.getHeaderSize, if_pos (Or.inr htype)]
  rw [heph, hmac]
  refine ⟨?_, ?_⟩
  · simp only [List.length_append, hheader]
    omega
  · rw [if_neg (by decide), List.append_nil, List.append_assoc]
    exact List.drop_left' hheader

theorem iv2_eq (hl : Layout data body) : HeaderProtector.iv2 data = List.replicate 12 0 := by
  have hlen := hl.length
  have hdrop : data.drop (data.length - 12) = List.replicate 12 0 := by
    have : data.length - 12 = shortHeaderSize + (body.length + 4) := by rw [shortHeaderSize]; omega
    rw [this, ← List.drop_drop, hl.body, List.drop_append, List.drop_of_length_le (by omega),
      Nat.add_sub_cancel_left, List.drop_replicate, List.nil_append, macSize]
  rw [HeaderProtector.iv2, hdrop]
  rfl

/-- The first nonce has the last eight bytes of the body, and four zero bytes. -/
theorem iv1_eq (hl : Layout data body) (h : 8 ≤ body.length) :
    HeaderProtector.iv1 data = body.drop (body.length - 8) ++ List.replicate 4 0 := by
  have hlen := hl.length
  have hdrop : data.drop (data.length - 24) =
      body.drop (body.length - 8) ++ List.replicate macSize 0 := by
    have : data.length - 24 = shortHeaderSize + (body.length - 8) := by rw [shortHeaderSize]; omega
    rw [this, ← List.drop_drop, hl.body, List.drop_append_of_le_length (by omega)]
  have h8 : (body.drop (body.length - 8)).length = 8 := by rw [List.length_drop]; omega
  rw [HeaderProtector.iv1, hdrop, List.take_append, h8, List.take_of_length_le (by omega),
    List.take_replicate]
  rfl

end Layout

variable {data : Bytes}

theorem SSU2Conn.layout_of_serialize {mask : Option UInt16} {packet q : SSU2Packet}
    (htype : packet.messageType = messageTypeData) (hmac : packet.mac = List.replicate macSize 0)
    (h : (applySipHashObfuscation mask packet).serialize = .ok (data, q)) :
    Layout data packet.payload := by
  obtain ⟨header, heq, -⟩ := applySipHashObfuscation_eq mask packet
  rw [heq] at h
  exact Layout.of_serialize (p := { packet with header := header }) htype hmac h

theorem SSU2Conn.layout_of_wireData {env : SendEnv} (hprotect : KeepsBody env.protectHeader)
    (packet : SSU2Packet) (htype : packet.messageType = messageTypeData)
    (hmac : packet.mac = List.replicate macSize 0)
    (h : SSU2Conn.wireData env packet = some data) : Layout data packet.payload := by
  rw [wireData] at h
  cases hser : (applySipHashObfuscation env.mask packet).serialize with
  | error e => grind
  | ok result =>
    have hl := layout_of_serialize htype hmac hser
    rw [hser] at h
    dsimp only at h
    cases hp : env.protectHeader result.1 with
    | error e =>
      rw [hp] at h
      cases h
    | ok data' =>
      rw [hp] at h
      cases h
      exact hl.protect hprotect hp

/-! ## The nonces of header protection -/

/-- The last 24 bytes of the datagram, which the nonces are read from, lie in the output of the AEAD
that follows the short header. -/
def IVsFromAEAD (aeadOutput data : Bytes) : Prop :=
  ∀ i, data.length - 24 ≤ i → i < data.length →
    shortHeaderSize ≤ i ∧ i < shortHeaderSize + aeadOutput.length

namespace DataSend

variable (aead : Aead) (ctx : HeaderContext) (h : SSU2Conn) (cipher : CipherState) (now : Time)
  (rto : Duration) (mask : Option UInt16) (writeTo : Bytes → Except Oops Unit)

/-- On every path the output of the AEAD, if there is one, is the body of the datagram. -/
theorem layout {send : DataSend} {data : Bytes}
    (hdata : send.datagram aead.toCrypto (ctx.sendEnv now rto mask writeTo) h cipher = some data) :
    ∃ body, Layout data body ∧ (send.aeadOutput aead h cipher = [] ∨
      send.aeadOutput aead h cipher = body ∧ macSize ≤ body.length) := by
  have htag : ∀ pktNum payload,
      macSize ≤ (h.sealedPayload aead cipher.key pktNum payload).length := by
    intro pktNum payload
    rw [SSU2Conn.length_sealedPayload]
    omega
  have hkeeps : KeepsBody (ctx.sendEnv now rto mask writeTo).protectHeader := ctx.keepsBody
  cases send with
  | direct pktNum payload =>
    by_cases hpayload : payload = []
    · subst hpayload
      exact ⟨[], SSU2Conn.layout_of_wireData hkeeps (h.dataPacket pktNum []) rfl rfl hdata,
        Or.inl rfl⟩
    · have hseal : SSU2Conn.encryptDataPayload aead.toCrypto { h with sendCipher := some cipher }
          (h.dataPacket pktNum payload) = _ :=
        SSU2Conn.encryptDataPayload_dataPacket aead pktNum rfl hpayload
      rw [datagram, SSU2Conn.datagram, hseal] at hdata
      exact ⟨_, SSU2Conn.layout_of_wireData hkeeps _ rfl rfl hdata,
        Or.inr ⟨if_neg hpayload, htag _ _⟩⟩
  | nextNonce =>
    have htake : (h.sealedHeader h.sendSequence).take shortHeaderSize =
        h.sealedHeader h.sendSequence :=
      List.take_of_length_le (by rw [SSU2Conn.length_sealedHeader])
    rw [datagram, SSU2Conn.nextNonceDatagram, htake] at hdata
    dsimp only [Aead.toCrypto] at hdata
    refine ⟨h.sealedPayload aead cipher.key h.sendSequence SSU2Conn.nextNoncePayload, ?_,
      Or.inr ⟨rfl, htag _ _⟩⟩
    rw [← SSU2Conn.sealedPayload] at hdata
    split at hdata
    · cases hdata
    · rename_i plain q hser
      have hl := SSU2Conn.layout_of_serialize rfl rfl hser
      obtain rfl := Option.some.inj hdata
      -- an error of the header protector leaves the datagram as it is
      cases hp : (ctx.sendEnv now rto mask writeTo).protectHeader plain with
      | error e => exact hl
      | ok data => exact hl.protect hkeeps hp
  | toAddress block =>
    rw [datagram, SSU2Conn.addressDatagram] at hdata
    cases hblock : serializeBlocks [block] with
    | error e => grind
    | ok payload =>
      rw [hblock] at hdata
      dsimp only at hdata
      cases hser : (h.dataPacket h.sendSequence payload).serialize with
      | error e => grind
      | ok result =>
        rw [hser] at hdata
        cases hdata
        exact ⟨payload, Layout.of_serialize rfl rfl hser, Or.inl rfl⟩

/-- **The nonces of header protection are not the AEAD's**: the last 16 bytes of a datagram are
always zero, so the second nonce is the same for all packets, and the first one has eight bytes of
the AEAD output. -/
theorem header_ivs_not_from_aead (send : DataSend) (data : Bytes)
    (hdata : send.datagram aead.toCrypto (ctx.sendEnv now rto mask writeTo) h cipher = some data) :
    ¬ IVsFromAEAD (send.aeadOutput aead h cipher) data ∧
      HeaderProtector.iv2 data = List.replicate 12 0 ∧
      (send.aeadOutput aead h cipher ≠ [] → HeaderProtector.iv1 data =
        (send.aeadOutput aead h cipher).drop ((send.aeadOutput aead h cipher).length - 8) ++
          List.replicate 4 0) := by
  obtain ⟨body, hl, hbody⟩ := layout aead ctx h cipher now rto mask writeTo hdata
  have hlen := hl.length
  refine ⟨fun hivs => ?_, hl.iv2_eq, fun hne => ?_⟩
  · -- the last byte of the datagram comes after every body
    obtain ⟨-, hlt⟩ := hivs (data.length - 1) (by omega) (by omega)
    rw [shortHeaderSize] at hlt
    rcases hbody with hnil | ⟨heq, -⟩
    · rw [hnil, List.length_nil] at hlt
      omega
    · rw [heq] at hlt
      omega
  · rcases hbody with hnil | ⟨heq, htag⟩
    · exact absurd hnil hne
    · rw [macSize] at htag
      rw [heq, hl.iv1_eq (by omega)]

end DataSend

/-- A connection with a send cipher, for concrete runs. -/
def SSU2Conn.demo : SSU2Conn := (assembleSSU2Conn .newSSU2Config 0).establish [1] [1] 7

/-- A Data packet with the given payload, of that connection. -/
theorem DataSend.datagram_demo (payload : Bytes) (hpayload : payload ≠ [])
    (hsize : payload.length + 48 ≤ maxPacketSizeIPv6) :
    ∃ data, (DataSend.direct 1 payload).datagram Aead.zeroTag.toCrypto
        (HeaderContext.zeroKeys.sendEnv 0 0 none fun _ => .ok ()) .demo ⟨[1], 0⟩ = some data := by
  have hm : SSU2Conn.MatchingKeys .zeroKeys .zeroKeys .demo .demo [1] := .zeroKeys rfl rfl
  obtain ⟨data, hdata, -⟩ := SSU2Conn.parseInboundPacket_datagram .zeroTag hm rfl 0 0 none
    (fun _ => .ok ()) 1 hpayload hsize ⟨0, none⟩ ⟨[], 0⟩
  exact ⟨data, hdata⟩

theorem header_ivs_not_from_aead_demo :
    ∃ (aead : Aead) (send : DataSend) (cipher : CipherState) (data : Bytes),
      send.aeadOutput aead .demo cipher ≠ [] ∧
        ¬ IVsFromAEAD (send.aeadOutput aead .demo cipher) data ∧
        HeaderProtector.iv2 data = List.replicate 12 0 := by
  obtain ⟨data, hdata⟩ := DataSend.datagram_demo [42] (by decide) (by decide)
  have hivs := DataSend.header_ivs_not_from_aead .zeroTag .zeroKeys .demo ⟨[1], 0⟩ 0 0 none
    (fun _ => .ok ()) (.direct 1 [42]) data hdata
  exact ⟨.zeroTag, .direct 1 [42], ⟨[1], 0⟩, data, by decide, hivs.1, hivs.2.1⟩

theorem DataSend.ivs_demo {payload : Bytes} (hpayload : payload ≠ [])
    (hdata : (DataSend.direct 1 payload).datagram Aead.zeroTag.toCrypto
      (HeaderContext.zeroKeys.sendEnv 0 0 none fun _ => .ok ()) .demo ⟨[1], 0⟩ = some data) :
    HeaderProtector.ivs data = (List.replicate 12 0, List.replicate 12 0) := by
  have hout : (DataSend.direct 1 payload).aeadOutput .zeroTag .demo ⟨[1], 0⟩ =
      payload ++ List.replicate macSize 0 := if_neg hpayload
  obtain ⟨body, hl, hnil | ⟨heq, htag⟩⟩ :=
    DataSend.layout .zeroTag .zeroKeys .demo ⟨[1], 0⟩ 0 0 none (fun _ => .ok ()) hdata
  · rw [hout] at hnil
    exact absurd (List.append_eq_nil_iff.mp hnil).1 hpayload
  · have h8 : body.drop (body.length - 8) = List.replicate 8 0 := by
      rw [← heq, hout, List.length_append, List.length_replicate, macSize, List.drop_append,
        List.drop_of_length_le (by omega), List.nil_append, List.drop_replicate]
      congr 1
      omega
    rw [HeaderProtector.ivs, hl.iv2_eq, hl.iv1_eq (by rw [macSize] at htag; omega), h8]
    rfl

/-- Two Data packets whose AEAD outputs differ in their last 24 bytes, but that are masked with the
same nonces. -/
theorem header_ivs_repeat :
    ∃ (aead : Aead) (ctx : HeaderContext) (send send' : DataSend) (cipher : CipherState)
      (data data' : Bytes),
      send.datagram aead.toCrypto (ctx.sendEnv 0 0 none fun _ => .ok ()) .demo cipher =
          some data ∧
        send'.datagram aead.toCrypto (ctx.sendEnv 0 0 none fun _ => .ok ()) .demo cipher =
          some data' ∧
        (send.aeadOutput aead .demo cipher).length = 24 ∧
        (send'.aeadOutput aead .demo cipher).length = 24 ∧
        send.aeadOutput aead .demo cipher ≠ send'.aeadOutput aead .demo cipher ∧
        HeaderProtector.ivs data = HeaderProtector.ivs data' := by
  set p : Bytes := List.replicate 8 1
  set p' : Bytes := List.replicate 8 2
  obtain ⟨data, hdata⟩ := DataSend.datagram_demo p (by decide) (by decide)
  obtain ⟨data', hdata'⟩ := DataSend.datagram_demo p' (by decide) (by decide)
  refine ⟨.zeroTag, .zeroKeys, .direct 1 p, .direct 1 p', ⟨[1], 0⟩, data, data', hdata, hdata',
    by decide, by decide, by decide, ?_⟩
  rw [DataSend.ivs_demo (by decide) hdata, DataSend.ivs_demo (by decide) hdata']

end GoNoise.SSU2
