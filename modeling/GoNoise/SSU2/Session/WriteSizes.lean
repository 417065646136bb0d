import GoNoise.SSU2.Session.ConnWrite

/-!
# `Write`: the sizes of its packets

`Write` fills a packet up to the MTU less 83 bytes: the IP and UDP headers, the short header, one
tag and the block header. When the packet is sent, the cipher adds its tag to the payload and the
packet has a field for a tag besides, so it is 16 bytes longer than was planned; `Serialize` refuses
more than 1452 bytes.
-/

namespace GoNoise.SSU2

open BigEndian SSU2Conn

def validateUDPConfiguration (mtu maxPacketSize : ℤ) : Except Oops Unit :=
  if mtu < 1280 ∨ 1500 < mtu then
    .error ⟨"INVALID_MTU", "ssu2", [("mtu", mtu)], "MTU must be between 1280 and 1500 bytes"⟩
  else if maxPacketSize ≤ 0 then
    .error ⟨"INVALID_MAX_PACKET_SIZE", "ssu2", [("max_size", maxPacketSize)],
      "max packet size must be positive"⟩
  else if maxPacketSize < mtu then
    .error ⟨"PACKET_SIZE_LESS_THAN_MTU", "ssu2",
      [("max_packet_size", maxPacketSize), ("mtu", mtu)], "max packet size must be >= MTU"⟩
  else .ok ()

/-- The cipher works and adds a tag of 16 bytes. -/
def Crypto.AddsTag (crypto : Crypto) : Prop :=
  ∀ key nonce ad plaintext, ∃ ciphertext,
    crypto.encrypt key nonce ad plaintext = .ok ciphertext ∧
      ciphertext.length = plaintext.length + macSize

/-- Whenever `sendPacketDirect` sends the packet, on a connection that has its cipher, it is
encrypted and `Serialize` accepts it. -/
def Serialized (crypto : Crypto) (packet : SSU2Packet) : Prop :=
  ∀ (h : SSU2Conn) (mask : Option UInt16), h.sendCipher.isSome →
    ∃ sent plaintext encryptions h', h.encryptDataPayload crypto packet =
        (.ok (sent, plaintext), encryptions, h') ∧
      ∃ out, (applySipHashObfuscation mask sent).serialize = .ok out

/-! ## One packet -/

structure Packed (block : SSU2Block) (packet : SSU2Packet) : Prop where
  header : packet.header.length = shortHeaderSize
  ephemeralKey : packet.ephemeralKey = []
  mac : packet.mac.length = macSize
  messageType : packet.messageType = messageTypeData
  payload : packet.payload = block.wire

variable {b : Bytes} {block : SSU2Block} {h : SSU2Conn} {p packet : SSU2Packet} {sel : ℕ → Select}

theorem writeBlock_eq_ok {h' : SSU2Conn} {sel : Select} {spawned : List Spawn}
    (hwrite : h.writeBlock sel block = (.ok packet, spawned, h')) : Packed block packet := by
  unfold writeBlock newDataPacket at hwrite
  cases hpayload : serializeBlocks [block] with
  | error e =>
    rw [hpayload] at hwrite
    cases hwrite
  | ok payload =>
    obtain ⟨-, rfl⟩ := serializeBlocks_singleton_iff.mp hpayload
    rw [hpayload] at hwrite
    cases sel with
    | enqueued =>
      cases hwrite
      exact ⟨by simp [dataPacket, shortHeader, shortHeaderSize], rfl,
        List.length_replicate, rfl, rfl⟩
    | closed => cases hwrite
    | deadline => cases hwrite

/-- `Serialize` looks at the length of the payload, for a data packet with the right parts. -/
theorem exists_serialize_iff (htype : p.messageType = messageTypeData)
    (hheader : p.header.length = shortHeaderSize) (hkey : p.ephemeralKey = [])
    (hmac : p.mac.length = macSize) :
    (∃ out, p.serialize = .ok out) ↔
      shortHeaderSize + p.payload.length + macSize ≤ maxPacketSizeIPv6 := by
  have heph : p.hasEphemeralKey = false := by
    rw [SSU2Packet.hasEphemeralKey, htype]
    decide
  have hsize : p.getHeaderSize = shortHeaderSize := by
    rw [SSU2Packet.getHeaderSize, htype, if_pos (Or.inr rfl)]
  have htotal : p.totalSize = shortHeaderSize + p.payload.length + macSize := by
    rw [SSU2Packet.totalSize, heph, hheader, hmac, if_neg Bool.false_ne_true, Nat.add_zero]
  constructor
  · rintro ⟨⟨data, q⟩, hout⟩
    rw [← htotal]
    exact ((p.serialize_eq_ok_iff q data).mp hout).1.totalSize
  · intro hle
    have hvalid : p.Valid := by
      refine ⟨hheader.trans hsize.symm, ?_, hmac, htotal.trans_le hle⟩
      rw [heph, hkey]
      rfl
    exact ⟨_, (p.serialize_eq_ok_iff _ _).mpr ⟨hvalid, rfl, rfl⟩⟩

/-- One packet. 16 bytes of header, 3 of block header, the data, 16 of tag and 16 of the tag
field are at most 1452. -/
theorem serialized_iff {crypto : Crypto} (hcrypto : crypto.AddsTag)
    (hpacked : Packed block packet) :
    Serialized crypto packet ↔ block.data.length ≤ 1401 := by
  have hpayload : packet.payload.length = 3 + block.data.length := by
    rw [hpacked.payload, block.length_wire, SSU2Block.size, minBlockHeaderSize]
  have hcond : ¬ (packet.messageType ≠ messageTypeData ∨ packet.payload.length = 0) := by
    rintro (hne | hempty)
    · exact hne hpacked.messageType
    · omega
  -- what is sent, on any connection with a cipher
  have hsent : ∀ (h : SSU2Conn) (cipher : CipherState) (mask : Option UInt16),
      h.sendCipher = some cipher → ∃ sent plaintext encryptions h',
        h.encryptDataPayload crypto packet = (.ok (sent, plaintext), encryptions, h') ∧
        ((∃ out, (applySipHashObfuscation mask sent).serialize = .ok out) ↔
          block.data.length ≤ 1401) := by
    intro h cipher mask hcipher
    obtain ⟨ciphertext, hencrypt, hlength⟩ := hcrypto cipher.key
      (UInt64.ofNat packet.packetNumber.toNat)
      ((packet.header.set 12 packet.messageType).take shortHeaderSize) packet.payload
    refine ⟨{ packet with
        header := packet.header.set 12 packet.messageType
        payload := ciphertext }, packet.payload,
      [⟨cipher.key, UInt64.ofNat packet.packetNumber.toNat⟩],
      { h with sendCipher := some { cipher with
          nonce := UInt64.ofNat packet.packetNumber.toNat } }, ?_, ?_⟩
    · rw [encryptDataPayload, hcipher]
      dsimp only
      rw [if_neg hcond, hencrypt]
    · obtain ⟨header, heq, hheader⟩ := applySipHashObfuscation_eq mask { packet with
        header := packet.header.set 12 packet.messageType
        payload := ciphertext }
      have hset : (packet.header.set 12 packet.messageType).length = shortHeaderSize :=
        List.length_set.trans hpacked.header
      rw [heq, exists_serialize_iff (p := { packet with header := header, payload := ciphertext })
        hpacked.messageType ((hheader (le_of_eq hset.symm)).trans hset) hpacked.ephemeralKey
        hpacked.mac]
      rw [hlength, hpayload, shortHeaderSize, macSize, maxPacketSizeIPv6]
      omega
  constructor
  · intro hserialized
    obtain ⟨sent, plaintext, encryptions, h', hencrypt, hiff⟩ := hsent
      ((assembleSSU2Conn .newSSU2Config 0).establish [] [] 0) ⟨[], 0⟩ none rfl
    obtain ⟨sent', plaintext', encryptions', h'', hencrypt', hout⟩ := hserialized
      ((assembleSSU2Conn .newSSU2Config 0).establish [] [] 0) none rfl
    rw [hencrypt] at hencrypt'
    cases hencrypt'
    exact hiff.mp hout
  · intro hle h mask hcipher
    obtain ⟨cipher, hcipher⟩ := Option.isSome_iff_exists.mp hcipher
    obtain ⟨sent, plaintext, encryptions, h', hencrypt, hiff⟩ := hsent h cipher mask hcipher
    exact ⟨sent, plaintext, encryptions, h', hencrypt, hiff.mpr hle⟩

/-! ## All packets of a `Write` -/

theorem packed_of_mem_writeBlocksFrom {blocks : List SSU2Block} {i : ℕ}
    (hmem : packet ∈ (writeBlocksFrom sel i h blocks).2.1) :
    ∃ block ∈ blocks, Packed block packet := by
  induction blocks generalizing i h with
  | nil => cases hmem
  | cons block blocks ih =>
    rw [writeBlocksFrom] at hmem
    rcases hwrite : h.writeBlock (sel i) block with ⟨_ | first, spawned, h'⟩
    · rw [hwrite] at hmem
      cases hmem
    · rw [hwrite] at hmem
      rcases List.mem_cons.mp hmem with rfl | hmem
      · exact ⟨block, List.mem_cons_self, writeBlock_eq_ok hwrite⟩
      · obtain ⟨block', hblock', hpacked⟩ := ih hmem
        exact ⟨block', List.mem_cons_of_mem _ hblock', hpacked⟩

theorem packed_of_mem_write (hmax : 9 < h.maxBlockData) {random : Except Oops UInt32} {now : Time}
    (hmem : packet ∈ (h.write random now sel b).2.1) :
    ∃ block, Packed block packet ∧ (block.data.length : ℤ) ≤ h.maxBlockData ∧
      ((b.length : ℤ) ≤ h.maxBlockData → block.data = b) := by
  rw [write] at hmem
  cases hready : h.validateReadyForIO with
  | error e =>
    rw [hready] at hmem
    cases hmem
  | ok _ =>
    rw [hready] at hmem
    split_ifs at hmem with hfits
    · rcases hwrite : h.writeBlock (sel 0) ⟨blockTypeI2NPMessage, b⟩ with ⟨_ | first, spawned, h'⟩
      · rw [hwrite] at hmem
        cases hmem
      · rw [hwrite] at hmem
        obtain rfl := List.mem_singleton.mp hmem
        exact ⟨_, writeBlock_eq_ok hwrite, by simpa using hfits, fun _ => rfl⟩
    · cases random with
      | error e => cases hmem
      | ok messageID =>
        rw [buildI2NPFragmentBlocks_eq hmax] at hmem
        dsimp only at hmem
        rw [writeBlocks, hready] at hmem
        obtain ⟨block, hblock, hpacked⟩ := packed_of_mem_writeBlocksFrom hmem
        exact ⟨block, hpacked, length_data_le hmax messageID now b block hblock,
          fun hle => absurd hle (by omega)⟩

/-- A `Write` of data that is too long for one packet at a large MTU: with room in the send queue,
the first packet is too long. -/
theorem exists_packed_long (hstate : h.state = .established)
    (hmax : h.maxBlockData ≤ maxBlockLength) (hlarge : 1401 < h.maxBlockData)
    (hlong : 1401 < b.length) :
    ∃ packet ∈ (h.write (.ok 0) 0 (fun _ => .enqueued) b).2.1,
      ∃ block, Packed block packet ∧ 1401 < block.data.length := by
  by_cases hfits : (b.length : ℤ) ≤ h.maxBlockData
  · obtain ⟨packet, spawned, h', -, -, hwrite⟩ :=
      writeBlock_of_valid (valid_i2npMessage (b := b) (by omega)) h .enqueued
    refine ⟨packet, ?_, _, writeBlock_eq_ok hwrite, hlong⟩
    have hready : h.validateReadyForIO = .ok () := if_neg (not_not.mpr hstate)
    rw [write, hready]
    rw [if_pos (by omega), hwrite]
    exact List.mem_singleton_self packet
  · obtain ⟨packets, spawned, h', hall, hwrite⟩ :=
      write_of_lt hstate (not_le.mp hfits) (by omega) hmax 0 0
    cases hall with
    | @cons _ packet _ packets hfirst hrest =>
      have hmem : packet ∈ (h.write (.ok 0) 0 (fun _ => .enqueued) b).2.1 := by
        rw [hwrite]
        exact List.mem_cons_self
      obtain ⟨block, hpacked, -, -⟩ := packed_of_mem_write (by omega) hmem
      refine ⟨packet, hmem, block, hpacked, ?_⟩
      -- the payload is the first fragment, which is as long as was planned
      have hlength := congrArg List.length (hpacked.payload.symm.trans hfirst.payload)
      rw [block.length_wire, SSU2Block.length_wire, SSU2Block.size, SSU2Block.size, firstBlock,
        List.length_append, List.length_cons, List.length_append, length_putUint32,
        length_putUint32, List.length_take] at hlength
      omega

/-- **Sizes, exactly.** Whatever is drawn and whenever, all packets that `Write` puts in the send
queue of an established connection are serialized, exactly if the MTU is at most 1484 or at most
1401 bytes are written. -/
theorem write_serialized_iff {crypto : Crypto} (hcrypto : crypto.AddsTag) {h : SSU2Conn}
    {maxPacketSize : ℤ} (hconfig : validateUDPConfiguration h.config.mtu maxPacketSize = .ok ())
    (hstate : h.state = .established) (b : Bytes) :
    (∀ random now sel, ∀ packet ∈ (h.write random now sel b).2.1, Serialized crypto packet) ↔
      h.config.mtu ≤ 1484 ∨ b.length ≤ 1401 := by
  obtain ⟨hmin, hmax⟩ : 1280 ≤ h.config.mtu ∧ h.config.mtu ≤ 1500 := by
    unfold validateUDPConfiguration at hconfig
    split_ifs at hconfig with hmtu
    omega
  have hplanned : h.maxBlockData = h.config.mtu - 83 := by
    rw [maxBlockData]
    ring
  constructor
  · intro hall
    by_contra hno
    obtain ⟨packet, hmem, block, hpacked, hlong⟩ := exists_packed_long (b := b) hstate
      (by rw [maxBlockLength]; omega) (by omega) (by omega)
    have hle := (serialized_iff hcrypto hpacked).mp (hall _ _ _ packet hmem)
    omega
  · intro hsmall random now sel packet hmem
    obtain ⟨block, hpacked, hle, hwhole⟩ := packed_of_mem_write (by omega) hmem
    refine (serialized_iff hcrypto hpacked).mpr ?_
    rcases hsmall with hmtu | hlen
    · omega
    · by_cases hfits : (b.length : ℤ) ≤ h.maxBlockData
      · rw [hwhole hfits]
        exact hlen
      · omega

def Crypto.zeroTag : Crypto :=
  ⟨fun _ _ _ plaintext => .ok (plaintext ++ List.replicate macSize 0), .ok⟩

theorem Crypto.addsTag_zeroTag : Crypto.zeroTag.AddsTag := fun _ _ _ plaintext =>
  ⟨plaintext ++ List.replicate macSize 0, rfl, by rw [List.length_append, List.length_replicate]⟩

def SSU2Conn.withMTU (mtu : ℤ) : SSU2Conn :=
  (assembleSSU2Conn { SSU2Config.newSSU2Config with mtu := mtu } 0).establish [] [] 0

theorem write_serialized_iff_default :
    (SSU2Conn.withMTU 1280).config.mtu = 1280 ∧ ∀ random now sel,
      ∀ packet ∈ ((SSU2Conn.withMTU 1280).write random now sel (List.replicate 5000 7)).2.1,
        Serialized .zeroTag packet :=
  ⟨rfl, (write_serialized_iff Crypto.addsTag_zeroTag
    (show validateUDPConfiguration (withMTU 1280).config.mtu 1500 = .ok () from rfl) rfl
    (List.replicate 5000 7)).mpr (Or.inl (by decide))⟩

/-- At an MTU of 1500, 1402 bytes are put in one packet, and `Serialize` refuses it. -/
theorem write_not_serialized :
    ∃ packet spawned h',
      (SSU2Conn.withMTU 1500).write (.ok 0) 0 (fun _ => .enqueued) (List.replicate 1402 7) =
        (.ok 1402, [packet], spawned, h') ∧ ¬ Serialized .zeroTag packet := by
  obtain ⟨packet, spawned, h', -, -, hwrite⟩ := writeBlock_of_valid
    (valid_i2npMessage (b := List.replicate 1402 7)
      (by rw [List.length_replicate, maxBlockLength]; omega)) (.withMTU 1500) .enqueued
  refine ⟨packet, spawned, h', ?_, fun hserialized => ?_⟩
  · have hready : validateReadyForIO (withMTU 1500) = .ok () := rfl
    have hmax : (withMTU 1500).maxBlockData = 1417 := rfl
    rw [write, hready]
    rw [hmax, List.length_replicate, if_pos (by decide), hwrite]
  · have hle := (serialized_iff Crypto.addsTag_zeroTag (writeBlock_eq_ok hwrite)).mp hserialized
    rw [List.length_replicate] at hle
    omega

end GoNoise.SSU2
