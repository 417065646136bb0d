import GoNoise.SSU2.Session.EndpointKeys

/-!
# Before and after the NextNonce packet

After the NextNonce packet the sender has a new key and counts from 0 again. The receiver installs
the new key when it handles the block, but its receive window still expects the number after that of
the NextNonce packet. The new numbers are ahead of it, by the few numbers that were left, so the
window takes them and buffers them, and it never releases them: each packet takes a place, until the
window is full.
-/

namespace GoNoise.SSU2

open Serial Trace SSU2Conn

/-! ## Blocks and keys -/

/-- The payload is one block, and not a NextNonce block. -/
def Ordinary (payload : Bytes) : Prop :=
  ∃ block : SSU2Block, block.Valid ∧ block.type ≠ blockTypeNextNonce ∧ payload = block.wire

theorem Ordinary.ne_nextNoncePayload {payload : Bytes} (h : Ordinary payload) :
    payload ≠ nextNoncePayload := by
  obtain ⟨block, -, htype, rfl⟩ := h
  intro heq
  rw [nextNoncePayload] at heq
  exact htype (List.cons.inj heq).1

def SSU2Conn.recvKey (h : SSU2Conn) : Option Bytes := h.recvCipher.map CipherState.key

theorem SSU2Conn.RecvFrame.recvKey {h h' : SSU2Conn} (hf : RecvFrame h h') :
    h'.recvKey = h.recvKey := by
  rw [SSU2Conn.recvKey, hf.recvCipher, SSU2Conn.recvKey]

def Callback.KeepsKeys : Callback → Prop
  | .onNextNonce _ => False
  | _ => True

theorem Callback.KeepsKeys.eq {c : Callback} (hc : c.KeepsKeys) (aead : Aead) (h : SSU2Conn) :
    Endpoint.callback aead h c = h := by
  cases c with
  | onNextNonce newNonce => exact hc.elim
  | onTermination | onNewToken | onFirstPacketNumber | onCongestion | onDateTime | onBlock
  | onSigned => rfl

theorem keepsKeys_of_ne_nextNonce {block : SSU2Block} (htype : block.type ≠ blockTypeNextNonce)
    (d : DataHandler) (now : Time) : ∀ c ∈ (d.processBlock now block).2.1, c.KeepsKeys := by
  intro c hc
  have hasked := d.askedBy_processBlock now block c hc
  cases c with
  | onNextNonce newNonce => exact absurd hasked htype
  | onTermination | onNewToken | onFirstPacketNumber | onCongestion | onDateTime | onBlock
  | onSigned => trivial

namespace SSU2Conn.RecvFrame

theorem trans {h₁ h₂ h₃ : SSU2Conn} (h : RecvFrame h₁ h₂) (h' : RecvFrame h₂ h₃) :
    RecvFrame h₁ h₃ :=
  ⟨h'.config.trans h.config, h'.recvWindow.trans h.recvWindow, h'.recvCipher.trans h.recvCipher⟩

theorem foldl_retireACK (blocks : List SSU2Block) (h : SSU2Conn) :
    RecvFrame h (blocks.foldl retireACK h) := by
  induction blocks generalizing h with
  | nil => exact .refl h
  | cons block rest ih =>
    refine trans ?_ (ih (h.retireACK block))
    rw [retireACK]
    split_ifs <;> exact ⟨rfl, rfl, rfl⟩

end SSU2Conn.RecvFrame

namespace Endpoint

variable {packet : SSU2Packet} (aead : Aead) (now : Time)

/-- The receive loop handles its packet: the receive side is that after the data handler. -/
theorem process_frame {s : Endpoint} {inbound : Inbound} (hreceiving : s.receiving = some inbound) :
    SSU2Conn.RecvFrame (handled aead now s.conn inbound.packet) (s.process aead now).conn ∧
      (s.process aead now).receiving = none := by
  rw [Endpoint.process, hreceiving]
  dsimp only
  split
  · exact ⟨.refl _, rfl⟩
  · exact ⟨.foldl_retireACK _ _, rfl⟩

theorem handled_of_block {block : SSU2Block} (hvalid : block.Valid) (aead : Aead) (now : Time)
    (h : SSU2Conn) (htype : packet.messageType = messageTypeData)
    (hpayload : packet.payload = block.wire) :
    handled aead now h packet =
      (h.dataHandler.countBlock.processBlock now block).2.1.toList.foldl (callback aead)
        { h with dataHandler := (h.dataHandler.countBlock.processBlock now block).2.2 } := by
  rw [handled, snd_processDataPacket_of_block hvalid h.dataHandler now htype hpayload]

theorem handled_ordinary (h : SSU2Conn) (htype : packet.messageType = messageTypeData)
    (hpayload : Ordinary packet.payload) : SSU2Conn.RecvFrame h (handled aead now h packet) := by
  obtain ⟨block, hvalid, hne, hpayload⟩ := hpayload
  rw [handled_of_block hvalid aead now h htype hpayload]
  have hkeeps := keepsKeys_of_ne_nextNonce hne h.dataHandler.countBlock now
  cases hc : (h.dataHandler.countBlock.processBlock now block).2.1 with
  | none => exact ⟨rfl, rfl, rfl⟩
  | some c =>
    rw [Option.toList_some, List.foldl_cons, List.foldl_nil, (hkeeps c hc).eq]
    exact ⟨rfl, rfl, rfl⟩

theorem handled_nextNonce {aead : Aead} {key newKey : Bytes} (hhkdf : aead.hkdf key = .ok newKey)
    (now : Time) {h : SSU2Conn} (hon : h.config.enableNextNonce = true)
    (hkey : h.recvKey = some key) (htype : packet.messageType = messageTypeData)
    (hpayload : packet.payload = nextNoncePayload) :
    (handled aead now h packet).config = h.config ∧
      (handled aead now h packet).recvWindow = h.recvWindow ∧
      (handled aead now h packet).recvKey = some newKey := by
  have hvalid : SSU2Block.Valid ⟨blockTypeNextNonce, BigEndian.putUint64 0⟩ :=
    (serializeBlocks_singleton_iff.mp serializeBlocks_nextNonce).1
  have hcallback : ∀ d : DataHandler,
      d.processBlock now ⟨blockTypeNextNonce, BigEndian.putUint64 0⟩ =
        (.ok (), some (.onNextNonce 0), d) := fun d => rfl
  obtain ⟨cipher, hcipher, rfl⟩ := Option.map_eq_some_iff.mp hkey
  rw [handled_of_block hvalid aead now h htype hpayload, hcallback, Option.toList_some,
    List.foldl_cons, List.foldl_nil, callback, if_pos hon, handlePeerNextNonce, hcipher]
  dsimp only [Aead.toCrypto]
  rw [hhkdf]
  exact ⟨rfl, rfl, rfl⟩

end Endpoint

/-! ## Where a side is -/

/-- How far a side is: the next number, and after the NextNonce packet also the number of that. -/
inductive Epoch
  | first (next : ℕ)
  | second (last next : ℕ)

def Epoch.next : Epoch → ℕ
  | .first m => m
  | .second _ m => m

namespace ReceiveWindow

/-- Number `m` is expected, and nothing is buffered. -/
structure Level (w : ReceiveWindow) (m : ℕ) : Prop where
  expected : w.expected = UInt32.ofNat m
  window : w.window = ∅

/-- The window is behind: it expects the number after `n`, that of the NextNonce packet, and has
buffered the packets from 0 to `m`. -/
structure Behind (w : ReceiveWindow) (n m : ℕ) : Prop where
  threshold : rekeyThreshold.toNat ≤ n
  max : n + 1 < 2 ^ 32
  expected : w.expected = UInt32.ofNat (n + 1)
  window : ∀ k, k ∈ w.window ↔ k.toNat < m
  size : w.window.size = m

variable {w : ReceiveWindow} {packet : SSU2Packet} {m n : ℕ}

theorem Level.insert (hw : w.Level m) (hnum : packet.packetNumber.toNat = m) :
    ∃ w' ready, w.insert (some packet) = (.ok ready, w') ∧ w'.Level (m + 1) ∧
      w'.maxSize = w.maxSize := by
  have heq : packet.packetNumber = w.expected := by
    rw [hw.expected, ← hnum, UInt32.ofNat_toNat]
  rcases w.insert_cases packet with ⟨e, -, hahead | hmem | ⟨hne, -⟩⟩ |
    ⟨-, -, ready, expected, window, hrelease, hinsert⟩ | ⟨hne, -⟩
  · rw [heq, ahead_self] at hahead
    omega
  · rw [hw.window] at hmem
    exact absurd hmem (AList.notMem_empty _)
  · exact absurd heq hne
  · rw [hw.window] at hrelease
    obtain ⟨-, rfl, rfl⟩ : [] = ready ∧ w.expected + 1 = expected ∧ ∅ = window := by
      simpa [releaseBuffered, GoMap.size] using hrelease
    refine ⟨_, _, hinsert, ⟨?_, rfl⟩, rfl⟩
    rw [hw.expected, UInt32.ofNat_add]
    rfl
  · exact absurd heq hne

/-- The number is ahead of the expected one, which is near the end of the number space. -/
theorem Behind.ahead_lt (hw : w.Behind n m) (hm : m ≤ 2 ^ 30)
    (hnum : packet.packetNumber.toNat = m) :
    packet.packetNumber ≠ w.expected ∧ ahead packet.packetNumber w.expected < 2 ^ 31 ∧
      packet.packetNumber ∉ w.window := by
  have hthreshold := hw.threshold
  have hvalue : rekeyThreshold.toNat = 2 ^ 32 - 2 ^ 8 := by decide
  have hsucc : w.expected.toNat = n + 1 := by
    rw [hw.expected]
    exact UInt32.toNat_ofNat_of_lt' hw.max
  refine ⟨fun heq => ?_, ?_, fun hmem => ?_⟩
  · rw [← heq, hnum] at hsucc
    omega
  · grind [ahead_eq]
  · have hlt := (hw.window _).mp hmem
    omega

theorem Behind.insert (hw : w.Behind n m) (hm : w.maxSize ≤ 2 ^ 30)
    (hroom : w.window.size < w.maxSize) (hnum : packet.packetNumber.toNat = m) :
    ∃ w' ready, w.insert (some packet) = (.ok ready, w') ∧ w'.Behind n (m + 1) ∧
      w'.maxSize = w.maxSize := by
  have hsize := hw.size
  obtain ⟨hne, hahead, hnotMem⟩ := hw.ahead_lt (by omega) hnum
  rcases w.insert_cases packet with ⟨e, -, hfar | hmem | ⟨-, hfull⟩⟩ | ⟨heq, -⟩ |
    ⟨-, -, -, -, hinsert⟩
  · omega
  · exact absurd hmem hnotMem
  · omega
  · exact absurd heq hne
  · refine ⟨_, _, hinsert, ⟨hw.threshold, hw.max, hw.expected, fun k => ?_, ?_⟩, rfl⟩
    · rw [AList.mem_insert, hw.window, ← UInt32.toNat_inj, hnum]
      omega
    · rw [← hsize]
      exact GoMap.size_insert_of_notMem packet hnotMem

theorem Behind.insert_full (hw : w.Behind n m) (hm : m ≤ 2 ^ 30)
    (hfull : w.maxSize ≤ w.window.size) (hnum : packet.packetNumber.toNat = m) :
    ∃ e, w.insert (some packet) = (.error e, w) := by
  obtain ⟨hne, -, -⟩ := hw.ahead_lt hm hnum
  rcases w.insert_cases packet with ⟨e, hinsert, -⟩ | ⟨heq, -⟩ | ⟨-, -, -, hroom, -⟩
  · exact ⟨e, hinsert⟩
  · exact absurd heq hne
  · omega

end ReceiveWindow

structure Emission.SealedWith (aead : Aead) (ctx : HeaderContext) (h₀ : SSU2Conn) (key : Bytes)
    (e : Emission) : Prop where
  isSealed : e.Sealed aead ctx h₀
  encryptions : e.encryptions = [⟨key, packetNonce e.packetNumber⟩]

/-- The datagrams that may come at each point, and where they lead. -/
inductive Advance (aead : Aead) (ctx : HeaderContext) (h₀ : SSU2Conn) (key newKey : Bytes) :
    Epoch → Emission → Epoch → Prop
  | data {m : ℕ} {e : Emission} (isSealed : e.SealedWith aead ctx h₀ key)
      (number : e.packetNumber.toNat = m) (payload : Ordinary e.payload) :
      Advance aead ctx h₀ key newKey (.first m) e (.first (m + 1))
  | nextNonce {n : ℕ} {e : Emission} (isSealed : e.SealedWith aead ctx h₀ key)
      (number : e.packetNumber.toNat = n) (payload : e.payload = SSU2Conn.nextNoncePayload)
      (threshold : rekeyThreshold.toNat ≤ n) (max : n + 1 < 2 ^ 32) :
      Advance aead ctx h₀ key newKey (.first n) e (.second n 0)
  | fresh {n m : ℕ} {e : Emission} (isSealed : e.SealedWith aead ctx h₀ newKey)
      (number : e.packetNumber.toNat = m) (payload : Ordinary e.payload) :
      Advance aead ctx h₀ key newKey (.second n m) e (.second n (m + 1))

/-! ## The sender -/

namespace Endpoint

/-- The number after that of the last datagram; numbers start again after the NextNonce packet. -/
def nextOnWire (s : Endpoint) : ℕ :=
  match s.emissions.getLast? with
  | none => 0
  | some e => if e.payload = nextNoncePayload then 0 else e.packetNumber.toNat + 1

/-- The packets are written in the order of their numbers, without gaps, and the NextNonce packet
after all that were numbered before it. The NextNonce packet is that of the rekey, and it does not
have the last number of all. -/
def SendsInOrder (s : Endpoint) : Event → Prop
  | .writeBlock block => block.type ≠ blockTypeNextNonce
  | .emit _ i => ∀ job ∈ s.encrypted[i]?, job.packet.packetNumber.toNat = s.nextOnWire
  | .sendToAddress .. => False
  | .rekeySend _ => s.rekey = .started →
      s.encrypted = [] ∧ s.conn.sendSequence.toNat = s.nextOnWire ∧
        s.conn.sendSequence ≠ 0xFFFFFFFF
  | _ => True

/-- Where the sender is in its rekey. -/
inductive Phase (key newKey : Bytes) (s : Endpoint) : Epoch → Prop
  | before (m : ℕ) (sendKey : s.conn.sendKey = some key)
      (free : ∀ newKey, s.rekey ≠ .switching newKey)
      (started : s.rekey = .started →
        s.conn.rekeyInFlight = true ∧ rekeyThreshold.toNat ≤ s.conn.sendSequence.toNat)
      (encrypted : ∀ job ∈ s.encrypted,
        job.encryptions = [⟨key, packetNonce job.packet.packetNumber⟩]) :
      Phase key newKey s (.first m)
  | switching (n : ℕ) (rekey : s.rekey = .switching newKey)
      (rekeyInFlight : s.conn.rekeyInFlight = true) (encrypted : s.encrypted = []) :
      Phase key newKey s (.second n 0)
  | after (n m : ℕ) (rekey : s.rekey = .idle) (rekeyInFlight : s.conn.rekeyInFlight = true)
      (sendKey : s.conn.sendKey = some newKey)
      (encrypted : ∀ job ∈ s.encrypted,
        job.encryptions = [⟨newKey, packetNonce job.packet.packetNumber⟩]) :
      Phase key newKey s (.second n m)

/-- The sender is at a point. -/
structure Speaks (aead : Aead) (ctx : HeaderContext) (h₀ : SSU2Conn) (key newKey : Bytes)
    (y : Epoch) (s : Endpoint) : Prop where
  wellFormed : s.WellFormed aead ctx h₀
  payloads : ∀ payload ∈ s.payloads, Ordinary payload
  next : s.nextOnWire = y.next
  phase : Phase key newKey s y

theorem nextOnWire_concat {s : Endpoint} {es : List Emission} {d : Emission}
    (h : s.emissions = es ++ [d]) :
    s.nextOnWire =
      if d.payload = nextNoncePayload then 0 else d.packetNumber.toNat + 1 := by
  rw [nextOnWire, h, List.getLast?_concat]

theorem nextOnWire_congr {s s' : Endpoint} (h : s'.emissions = s.emissions) :
    s'.nextOnWire = s.nextOnWire := by
  rw [nextOnWire, h, nextOnWire]

namespace Phase

variable {key newKey : Bytes} {s s' : Endpoint} {y : Epoch}

/-- Numbers are taken, and some of the sealed packets may be gone. -/
theorem of_counts (hp : Phase key newKey s y) (hcounts : Counts s s')
    (hencrypted : s'.encrypted ⊆ s.encrypted) : Phase key newKey s' y := by
  have hle := hcounts.sendSequence
  cases hp with
  | before m sendKey free started encrypted =>
    refine .before m (hcounts.sendKey.trans sendKey) (fun newKey => ?_) (fun hstarted => ?_)
      fun job hjob => encrypted job (hencrypted hjob)
    · rcases hcounts.rekey with ⟨-, hrekey⟩ | ⟨-, -, hrekey, -⟩
      · rw [hrekey]
        exact free newKey
      · rw [hrekey]
        exact fun h => by cases h
    · rcases hcounts.rekey with ⟨hflight, hrekey⟩ | ⟨-, hflight, -, hseq⟩
      · obtain ⟨hflight', hseq⟩ := started (hrekey.symm.trans hstarted)
        exact ⟨hflight.trans hflight', hseq.trans hle⟩
      · exact ⟨hflight, hseq.trans hle⟩
  | switching n rekey rekeyInFlight encrypted =>
    rcases hcounts.rekey with ⟨hflight, hrekey⟩ | ⟨hfree, -⟩
    · refine .switching n (hrekey.trans rekey) (hflight.trans rekeyInFlight) ?_
      rw [encrypted] at hencrypted
      exact List.subset_nil.mp hencrypted
    · exact absurd (rekeyInFlight.symm.trans hfree) (by decide)
  | after n m rekey rekeyInFlight sendKey encrypted =>
    rcases hcounts.rekey with ⟨hflight, hrekey⟩ | ⟨hfree, -⟩
    · exact .after n m (hrekey.trans rekey) (hflight.trans rekeyInFlight)
        (hcounts.sendKey.trans sendKey) fun job hjob => encrypted job (hencrypted hjob)
    · exact absurd (rekeyInFlight.symm.trans hfree) (by decide)

theorem of_encrypts (hp : Phase key newKey s y) (hcounts : Counts s s') {k : Bytes}
    {job : EncryptedJob} (hkey : s.conn.sendKey = some k)
    (hfree : ∀ newKey, s.rekey ≠ .switching newKey)
    (hjob : job.encryptions = [⟨k, packetNonce job.packet.packetNumber⟩])
    (hencrypted : s'.encrypted = s.encrypted ++ [job]) : Phase key newKey s' y := by
  -- the packets that were sealed before are as they were, so the new one is all that is to be seen
  have hold : Phase key newKey { s' with encrypted := s.encrypted } y :=
    hp.of_counts ⟨hcounts.sendKey, hcounts.sendSequence, hcounts.rekey⟩ (List.Subset.refl _)
  have hall : ∀ k', s.conn.sendKey = some k' → (∀ job ∈ s.encrypted,
      job.encryptions = [⟨k', packetNonce job.packet.packetNumber⟩]) →
      ∀ job ∈ s'.encrypted, job.encryptions = [⟨k', packetNonce job.packet.packetNumber⟩] := by
    intro k' hk' hbefore job' hjob'
    cases hkey.symm.trans hk'
    rcases List.mem_append.mp (hencrypted ▸ hjob') with hmem | hmem
    · exact hbefore job' hmem
    · obtain rfl := List.mem_singleton.mp hmem
      exact hjob
  cases hold with
  | before m sendKey free started encrypted =>
    exact .before m sendKey free started (hall key (hcounts.sendKey.symm.trans sendKey) encrypted)
  | switching n rekey rekeyInFlight encrypted =>
    cases hp with
    | switching _ rekey _ _ => exact absurd rekey (hfree newKey)
    | after _ _ hidle hflight _ _ =>
      rcases hcounts.rekey with ⟨-, hrekey⟩ | ⟨hfree', -⟩
      · exact absurd ((hrekey.trans hidle).symm.trans rekey) (fun h => by cases h)
      · exact absurd (hflight.symm.trans hfree') (by decide)
  | after n m rekey rekeyInFlight sendKey encrypted =>
    exact .after n m rekey rekeyInFlight sendKey
      (hall newKey (hcounts.sendKey.symm.trans sendKey) encrypted)

end Phase

section
variable {aead : Aead} {ctx : HeaderContext} {h₀ : SSU2Conn} {key newKey : Bytes} {y : Epoch}
  {s s' : Endpoint} {data k : Bytes}

theorem WellFormed.sealedWith (hw : s.WellFormed aead ctx h₀) {d : Emission} (hd : d ∈ s.emissions)
    (henc : d.encryptions = [⟨k, packetNonce d.packetNumber⟩]) : d.SealedWith aead ctx h₀ k := by
  rcases hw.emissions d hd with ⟨hsealed, -⟩ | ⟨hnone, -⟩
  · exact ⟨hsealed, henc⟩
  · rw [henc] at hnone
    cases hnone

theorem Speaks.advance (hs : Speaks aead ctx h₀ key newKey y s) {job : EncryptedJob}
    (hjob : job ∈ s.encrypted) (hnumber : job.packet.packetNumber.toNat = s.nextOnWire)
    (hw' : s'.WellFormed aead ctx h₀) (hcounts : Counts s s')
    (hencrypted : s'.encrypted ⊆ s.encrypted)
    (hemissions : s'.emissions = s.emissions ++
      [⟨data, job.packet.packetNumber, job.plaintext, job.encryptions, some job.tag⟩]) :
    Ordinary job.plaintext ∧ ∃ y', s'.nextOnWire = y'.next ∧ Phase key newKey s' y' ∧
      Advance aead ctx h₀ key newKey y
        ⟨data, job.packet.packetNumber, job.plaintext, job.encryptions, some job.tag⟩ y' := by
  have hordinary : Ordinary job.plaintext :=
    hs.payloads _ (List.mem_of_getElem? (hs.wellFormed.encrypted job hjob).payload)
  have hmem : ⟨data, job.packet.packetNumber, job.plaintext, job.encryptions, some job.tag⟩ ∈
      s'.emissions := by grind
  have hnext : s'.nextOnWire = y.next + 1 := by
    rw [nextOnWire_concat hemissions, if_neg hordinary.ne_nextNoncePayload, ← hs.next]
    exact congrArg (· + 1) hnumber
  have hphase := hs.phase.of_counts hcounts hencrypted
  rw [hs.next] at hnumber
  refine ⟨hordinary, ?_⟩
  cases hs.phase with
  | before m sendKey free started encrypted =>
    refine ⟨.first (m + 1), hnext, ?_, .data (hw'.sealedWith hmem (encrypted job hjob)) hnumber
      hordinary⟩
    cases hphase with
    | before _ sendKey free started encrypted => exact .before _ sendKey free started encrypted
  | switching n rekey rekeyInFlight encrypted => grind
  | after n m rekey rekeyInFlight sendKey encrypted =>
    refine ⟨.second n (m + 1), hnext, ?_, .fresh (hw'.sealedWith hmem (encrypted job hjob)) hnumber
      hordinary⟩
    rcases hcounts.rekey with ⟨hflight, hrekey⟩ | ⟨hfree, -⟩
    · exact .after n _ (hrekey.trans rekey) (hflight.trans rekeyInFlight)
        (hcounts.sendKey.trans sendKey) fun job hjob => encrypted job (hencrypted hjob)
    · exact absurd (rekeyInFlight.symm.trans hfree) (by decide)

theorem Speaks.announce (hs : Speaks aead ctx h₀ key newKey y s) {k' : Bytes}
    (hstarted : s.rekey = .started) (hkey : s.conn.sendKey = some k) (hkdf : aead.hkdf k = .ok k')
    (hhkdf : aead.hkdf key = .ok newKey) (hempty : s.encrypted = [])
    (hnumber : s.conn.sendSequence.toNat = s.nextOnWire) (hmax : s.conn.sendSequence ≠ 0xFFFFFFFF)
    (hw' : s'.WellFormed aead ctx h₀) (hrekey : s'.rekey = .switching k')
    (hflight : s'.conn.rekeyInFlight = s.conn.rekeyInFlight)
    (hencrypted : s'.encrypted = s.encrypted)
    (hemissions : s'.emissions = s.emissions ++ [⟨data, s.conn.sendSequence,
      nextNoncePayload, [⟨k, packetNonce s.conn.sendSequence⟩], none⟩]) :
    ∃ y', s'.nextOnWire = y'.next ∧ Phase key newKey s' y' ∧
      Advance aead ctx h₀ key newKey y ⟨data, s.conn.sendSequence, nextNoncePayload,
        [⟨k, packetNonce s.conn.sendSequence⟩], none⟩ y' := by
  have hnext : s'.nextOnWire = 0 := by
    rw [nextOnWire_concat hemissions]
    exact if_pos rfl
  have hmem : ⟨data, s.conn.sendSequence, nextNoncePayload,
      [⟨k, packetNonce s.conn.sendSequence⟩], none⟩ ∈ s'.emissions := by grind
  rw [hs.next] at hnumber
  cases hs.phase with
  | before m sendKey free started encrypted =>
    cases hkey.symm.trans sendKey
    cases hkdf.symm.trans hhkdf
    obtain ⟨hinFlight, hthreshold⟩ := started hstarted
    change s.conn.sendSequence.toNat = m at hnumber
    refine ⟨.second m 0, hnext, .switching m hrekey (hflight.trans hinFlight)
      (hencrypted.trans hempty), .nextNonce (hw'.sealedWith hmem rfl) hnumber rfl ?_ ?_⟩
    · rwa [← hnumber]
    · rw [← hnumber, ← toNat_add_one hmax]
      exact UInt32.toNat_lt _
  | switching n rekey _ _ => exact absurd (hstarted.symm.trans rekey) (fun h => by cases h)
  | after n m rekey _ _ _ => exact absurd (hstarted.symm.trans rekey) (fun h => by cases h)

theorem Phase.of_givesUp (hp : Phase key newKey s y)
    (hrekey : s.rekey = .started ∧ s'.rekey = .idle ∨ s.rekey ≠ .started ∧ s'.rekey = s.rekey)
    (hkey : s'.conn.sendKey = s.conn.sendKey)
    (hflight : s'.conn.rekeyInFlight = s.conn.rekeyInFlight)
    (hencrypted : s'.encrypted = s.encrypted) : Phase key newKey s' y := by
  have hnot : s'.rekey ≠ .started := by grind
  cases hp with
  | before m sendKey free started encrypted =>
    refine .before m (hkey.trans sendKey) (fun k => ?_) (fun h => absurd h hnot)
      (hencrypted ▸ encrypted)
    rcases hrekey with ⟨-, hidle⟩ | ⟨-, hsame⟩
    · rw [hidle]
      exact fun h => by cases h
    · rw [hsame]
      exact free k
  | switching n rekey rekeyInFlight encrypted =>
    rcases hrekey with ⟨hstarted, -⟩ | ⟨-, hsame⟩
    · exact absurd (hstarted.symm.trans rekey) (fun h => by cases h)
    · exact .switching n (hsame.trans rekey) (hflight.trans rekeyInFlight)
        (hencrypted.trans encrypted)
  | after n m rekey rekeyInFlight sendKey encrypted =>
    rcases hrekey with ⟨hstarted, -⟩ | ⟨-, hsame⟩
    · exact absurd (hstarted.symm.trans rekey) (fun h => by cases h)
    · exact .after n m (hsame.trans rekey) (hflight.trans rekeyInFlight) (hkey.trans sendKey)
        (hencrypted ▸ encrypted)

/-- A step of the sender: nothing is written, or a datagram that leads on. -/
theorem Speaks.step (hs : Speaks aead ctx h₀ key newKey y s) (hhkdf : aead.hkdf key = .ok newKey)
    {e : Event} (ho : s.SendsInOrder e) :
    ∃ y', Speaks aead ctx h₀ key newKey y' (s.step aead ctx e) ∧
      ((s.step aead ctx e).emissions = s.emissions ∧ y' = y ∨
        ∃ d, (s.step aead ctx e).emissions = s.emissions ++ [d] ∧
          Advance aead ctx h₀ key newKey y d y') := by
  have hw' := hs.wellFormed.step e
  have hpayloads : ∀ payload ∈ (s.step aead ctx e).payloads, Ordinary payload := by
    intro payload hmem
    rcases (hs.wellFormed.frame e).payloads with heq | ⟨block, hvalid, htype, heq⟩
    · exact hs.payloads payload (heq ▸ hmem)
    · rcases List.mem_append.mp (heq ▸ hmem) with hmem | hmem
      · exact hs.payloads payload hmem
      · refine ⟨block, hvalid, fun hnext => ?_, List.mem_singleton.mp hmem⟩
        rw [htype hnext] at ho
        exact ho hnext
  have hquiet : (s.step aead ctx e).emissions = s.emissions →
      Phase key newKey (s.step aead ctx e) y → ∃ y', Speaks aead ctx h₀ key newKey y'
        (s.step aead ctx e) ∧ ((s.step aead ctx e).emissions = s.emissions ∧ y' = y ∨
          ∃ d, (s.step aead ctx e).emissions = s.emissions ++ [d] ∧
            Advance aead ctx h₀ key newKey y d y') := fun hemissions hphase =>
    ⟨y, ⟨hw', hpayloads, (nextOnWire_congr hemissions).trans hs.next, hphase⟩,
      Or.inl ⟨hemissions, rfl⟩⟩
  cases hs.wellFormed.keyStep e with
  | quiet counts encrypted emissions =>
    exact hquiet emissions (hs.phase.of_counts counts encrypted)
  | encrypts counts k job sendKey free encryptions encrypted emissions =>
    exact hquiet emissions (hs.phase.of_encrypts counts sendKey free encryptions encrypted)
  | emits counts env i job data event mem encrypted emissions =>
    rw [event] at ho
    obtain ⟨-, y', hnext, hphase, hadvance⟩ := hs.advance (List.mem_of_getElem? mem) (ho job mem)
      hw' counts encrypted emissions
    exact ⟨y', ⟨hw', hpayloads, hnext, hphase⟩, Or.inr ⟨_, emissions, hadvance⟩⟩
  | sendsToAddress env block event =>
    rw [event] at ho
    exact ho.elim
  | announces env k k' data event started rekey sendKey hkdf keeps encrypted emissions =>
    rw [event] at ho
    obtain ⟨hempty, hnumber, hmax⟩ := ho started
    obtain ⟨y', hnext, hphase, hadvance⟩ := hs.announce started sendKey hkdf hhkdf hempty hnumber
      hmax hw' rekey keeps.2 encrypted emissions
    exact ⟨y', ⟨hw', hpayloads, hnext, hphase⟩, Or.inr ⟨_, emissions, hadvance⟩⟩
  | givesUp rekey keeps encrypted emissions =>
    exact hquiet emissions (hs.phase.of_givesUp rekey keeps.1 keeps.2 encrypted)
  | switches k switching rekey sendKey rekeyInFlight encrypted emissions =>
    refine hquiet emissions ?_
    cases hs.phase with
    | before m _ free _ _ => exact absurd switching (free k)
    | switching n hrekey hflight hempty =>
      obtain rfl : newKey = k := Rekey.switching.inj (hrekey.symm.trans switching)
      refine .after n 0 rekey (rekeyInFlight.trans hflight) sendKey fun job hjob => ?_
      rw [encrypted, hempty] at hjob
      cases hjob
    | after n m hrekey _ _ _ =>
      exact absurd (hrekey.symm.trans switching) (fun h => by cases h)

/-- A run of the sender is a path of datagrams. -/
theorem Speaks.exec (hhkdf : aead.hkdf key = .ok newKey) {es : List Event}
    (hs : Speaks aead ctx h₀ key newKey y s)
    (hes : Always (Endpoint.step aead ctx) SendsInOrder s es) :
    ∃ y' ds, Speaks aead ctx h₀ key newKey y' (exec (Endpoint.step aead ctx) s es) ∧
      (exec (Endpoint.step aead ctx) s es).emissions = s.emissions ++ ds ∧
      Path (Advance aead ctx h₀ key newKey) y ds y' := by
  induction es generalizing s y with
  | nil => exact ⟨y, [], hs, (List.append_nil _).symm, .nil y⟩
  | cons e es ih =>
    obtain ⟨y₁, hs₁, hstep⟩ := hs.step hhkdf hes.1
    obtain ⟨y', ds, hs', hemissions, hpath⟩ := ih hs₁ hes.2
    rcases hstep with ⟨hsame, rfl⟩ | ⟨d, hone, hadvance⟩
    · exact ⟨y', ds, hs', by rw [exec_cons, hemissions, hsame], hpath⟩
    · refine ⟨y', d :: ds, hs', ?_, .cons hadvance hpath⟩
      rw [exec_cons, hemissions, hone, List.append_assoc, List.singleton_append]

end

end Endpoint

end GoNoise.SSU2
