import GoNoise.ReplayCache
import GoNoise.SSU2.Handshake.ConfirmedFragments
import GoNoise.SSU2.Handshake.SessionRequest
import GoNoise.SSU2.Wire.BlockTypes

/-!
# `ssu2/handshake`: messages that are received

The handler checks what it can see of a packet, mixes the header into the transcript, and gives the
rest to the `noise` package. A session request is entered in the replay cache before that. Nothing
of this is taken back when the packet turns out to be forged.
-/

namespace GoNoise.SSU2

open BigEndian ReplayCache

/-! ## `options.go`, `router_info.go` -/

def fixedPointToFloat (b : UInt8) : ℚ := ((b >>> 4).toNat : ℚ) + ((b &&& 0x0F).toNat : ℚ) / 16

def parseOptionsBlock (data : Bytes) : Except Oops OptionsParams :=
  if data.length < 12 then
    .error <| .errorf s!"Options block too short: {data.length} bytes, need 12"
  else .ok
    { tMinRatio := fixedPointToFloat (data.getD 0 0)
      tMaxRatio := fixedPointToFloat (data.getD 1 0)
      rMinRatio := fixedPointToFloat (data.getD 2 0)
      rMaxRatio := fixedPointToFloat (data.getD 3 0)
      tDummy := uint16 ((data.drop 4).take 2)
      rDummy := uint16 ((data.drop 6).take 2)
      tDelay := uint16 ((data.drop 8).take 2)
      rDelay := uint16 ((data.drop 10).take 2) }

/-- `extractPeerRouterInfo`: the RouterInfo of a payload, if there is one. -/
def extractPeerRouterInfo (payload : Bytes) : Except Oops Bytes :=
  if payload.length = 0 then .ok []
  else
    match deserializeBlocks payload with
    | .error e => .error (e.wrapf "failed to deserialize SessionConfirmed blocks")
    | .ok blocks =>
      match blocks.find? fun block => block.type = blockTypeRouterInfo ∧ 0 < block.data.length with
      | some block => .ok block.data
      | none => .ok []

def terminationSParamMissing : ℕ := 16

/-- `verifyPeerRouterInfoStaticKey`. `encodeToString` is the base64 of I2P. -/
def verifyPeerRouterInfoStaticKey (encodeToString : Bytes → Bytes)
    (peerRouterInfo remoteStaticKey : Bytes) : Except Oops Unit :=
  if peerRouterInfo.length = 0 then .ok ()
  else if remoteStaticKey.length ≠ 32 then .ok ()
  else if encodeToString remoteStaticKey <:+: peerRouterInfo then .ok ()
  else .error ⟨"", "handshake", [("termination_reason", terminationSParamMissing)],
    "peer RouterInfo does not advertise the static key authenticated by the Noise handshake"⟩

/-! ## The handler -/

/-- The `noise` package and what else the reader takes from libraries. -/
structure NoiseReader (σ : Type) extends Noise σ where
  /-- `ReadMessage`: the payload, and two cipher states after the last message -/
  readMessage : Bytes → σ → Except Oops (Bytes × Option (CipherState × CipherState)) × σ
  messageIndex : σ → ℕ
  peerStatic : σ → Bytes
  sha256 : Bytes → FixedBytes 32
  encodeToString : Bytes → Bytes

/-- `HandshakeHandler`, with the fields that reading messages uses besides. -/
structure HandshakeReader (σ : Type) extends HandshakeHandler σ where
  replayCache : Option TTLCache
  peerOptions : Option OptionsParams
  peerRouterInfo : Bytes
  maxClockSkew : Duration

/-- What a call takes from outside. -/
structure ReadEnv where
  now : Time
  /-- the order in which Go visits the replay cache -/
  cacheOrder : List (FixedBytes 32)

namespace HandshakeReader

def validateTimestampSkew (now : Time) (maxClockSkew : Duration) (dateTimeData : Bytes) :
    Except Oops Unit :=
  if maxClockSkew ≤ 0 then .ok ()
  else
    let remoteTime : Time := (uint32 (dateTimeData.take 4)).toNat * second
    let skew := timeSub now remoteTime
    let skew := if skew < 0 then -skew else skew
    if maxClockSkew < skew then
      .error <| .errorf <| s!"clock skew {durationString skew} exceeds maximum " ++
        s!"{durationString maxClockSkew}"
    else .ok ()

/-- The loop of `validateHandshakeBlocks`: whether there is a DateTime block. -/
def validateDateTimes (now : Time) (maxClockSkew : Duration) :
    Bool → List SSU2Block → Except Oops Bool
  | hasDateTime, [] => .ok hasDateTime
  | hasDateTime, block :: blocks =>
    if block.type = blockTypeDateTime then
      if block.data.length < 4 then
        .error <| .errorf s!"DateTime block too short: {block.data.length} bytes"
      else
        match validateTimestampSkew now maxClockSkew block.data with
        | .error e => .error e
        | .ok () => validateDateTimes now maxClockSkew true blocks
    else validateDateTimes now maxClockSkew hasDateTime blocks

def validateHandshakeBlocks (now : Time) (maxClockSkew : Duration) (messageType : UInt8)
    (blocks : List SSU2Block) : Except Oops Unit :=
  match validateDateTimes now maxClockSkew false blocks with
  | .error e => .error e
  | .ok false => .error <| .errorf <|
      s!"DateTime block required in message type {messageType} per SSU2 spec"
  | .ok true => .ok ()

variable {σ : Type}

def extractPeerOptions (blocks : List SSU2Block) (h : HandshakeReader σ) : HandshakeReader σ :=
  match blocks.find? fun block => block.type = blockTypeOptions ∧ 12 ≤ block.data.length with
  | none => h
  | some block =>
    match parseOptionsBlock block.data with
    | .error _ => h
    | .ok opts => { h with peerOptions := some opts }

variable (noise : NoiseReader σ)

def readNoise (header message : Bytes) (h : HandshakeReader σ) :
    Except Oops (Bytes × Option (CipherState × CipherState)) × HandshakeReader σ :=
  let (result, s) := noise.readMessage message (noise.mixHash header h.handshakeState)
  (result, { h with handshakeState := s })

/-- The rest of `ProcessSessionRequest` and `ProcessSessionCreated`, from `MixHash` on. `name` is
that of the message, for errors. -/
def readHandshakeMessage (env : ReadEnv) (name : String) (packet : SSU2Packet)
    (h : HandshakeReader σ) : Except Oops Unit × HandshakeReader σ :=
  match h.readNoise noise packet.header (packet.ephemeralKey ++ packet.payload ++ packet.mac) with
  | (.error e, h) => (.error (e.wrapf s!"failed to process {name} handshake message"), h)
  | (.ok (payload, cs), h) =>
    let h := { h with
      toHandshakeHandler :=
        (h.deriveNextHeaderKey noise.toNoise packet.messageType).updateCipherStates cs }
    match deserializeBlocks payload with
    | .error e => (.error (e.wrapf s!"failed to deserialize {name} blocks"), h)
    | .ok blocks =>
      match validateHandshakeBlocks env.now h.maxClockSkew packet.messageType blocks with
      | .error e => (.error e, h)
      | .ok () => (.ok (), h.extractPeerOptions blocks)

/-- The digest of a session request in the replay cache. -/
def digest (packet : SSU2Packet) : FixedBytes 32 :=
  noise.sha256 (packet.ephemeralKey ++ packet.payload)

def processSessionRequest (env : ReadEnv) (packet : SSU2Packet) (h : HandshakeReader σ) :
    Except Oops Unit × HandshakeReader σ :=
  if h.initiator then (.error (.errorf "initiator cannot process SessionRequest"), h)
  else if packet.messageType ≠ messageTypeSessionRequest then
    (.error (.errorf s!"expected SessionRequest (type 0), got type {packet.messageType}"), h)
  else if packet.ephemeralKey.length ≠ 32 then
    (.error (.errorf "SessionRequest missing ephemeral key"), h)
  else
    match h.replayCache with
    | none => h.readHandshakeMessage noise env "SessionRequest" packet
    | some cache =>
      match cache.checkAndAdd env.now env.cacheOrder (digest noise packet) with
      | (true, cache) =>
        (.error (.errorf "replayed SessionRequest detected"), { h with replayCache := some cache })
      | (false, cache) =>
        { h with replayCache := some cache }.readHandshakeMessage noise env "SessionRequest" packet

def processSessionCreated (env : ReadEnv) (packet : SSU2Packet) (h : HandshakeReader σ) :
    Except Oops Unit × HandshakeReader σ :=
  if ¬ h.initiator then (.error (.errorf "responder cannot process SessionCreated"), h)
  else if packet.messageType ≠ messageTypeSessionCreated then
    (.error (.errorf s!"expected SessionCreated (type 1), got type {packet.messageType}"), h)
  else if packet.ephemeralKey.length ≠ 32 then
    (.error (.errorf "SessionCreated missing ephemeral key"), h)
  else h.readHandshakeMessage noise env "SessionCreated" packet

def finalizeSessionConfirmed (header noiseMessage : Bytes) (h : HandshakeReader σ) :
    Except Oops Unit × HandshakeReader σ :=
  match h.readNoise noise header noiseMessage with
  | (.error e, h) => (.error (e.wrapf "failed to process SessionConfirmed handshake message"), h)
  | (.ok (payload, cs), h) =>
    let h := { h with toHandshakeHandler := h.updateCipherStates cs }
    let ps := noise.peerStatic h.handshakeState
    let h := if 0 < ps.length then { h with remoteStaticKey := ps } else h
    match extractPeerRouterInfo payload with
    | .error e => (.error e, h)
    | .ok routerInfo =>
      let h := { h with peerRouterInfo := routerInfo }
      (verifyPeerRouterInfoStaticKey noise.encodeToString h.peerRouterInfo h.remoteStaticKey, h)

/-- The error of a handler that does not wait for a SessionConfirmed. -/
def notReady (h : HandshakeReader σ) : Oops :=
  .errorf <| "handshake not ready for SessionConfirmed: expected message index 2, " ++
    s!"got {noise.messageIndex h.handshakeState}"

/-- The header says that the packet is one of several fragments. -/
def isFragment (packet : SSU2Packet) : Bool :=
  14 ≤ packet.header.length ∧ (1 < fragmentTotal packet ∨ 0 < fragmentIndex packet)

def processSessionConfirmed (packet : SSU2Packet) (h : HandshakeReader σ) :
    Except Oops Unit × HandshakeReader σ :=
  if h.initiator then (.error (.errorf "initiator cannot process SessionConfirmed"), h)
  else if packet.messageType ≠ messageTypeSessionConfirmed then
    (.error (.errorf s!"expected SessionConfirmed (type 2), got type {packet.messageType}"), h)
  else if noise.messageIndex h.handshakeState ≠ 2 then (.error (notReady noise h), h)
  else if isFragment packet then
    (.error <| .errorf <| "fragmented SessionConfirmed: use ProcessSessionConfirmedFragments " ++
      s!"(fragment {fragmentIndex packet} of {fragmentTotal packet})", h)
  else h.finalizeSessionConfirmed noise packet.header (packet.payload ++ packet.mac)

def processSessionConfirmedFragments (packets : List SSU2Packet) (h : HandshakeReader σ) :
    Except Oops Unit × HandshakeReader σ :=
  if h.initiator then (.error (.errorf "initiator cannot process SessionConfirmed"), h)
  else
    match packets with
    | [] => (.error (.errorf "no SessionConfirmed fragments provided"), h)
    | first :: rest =>
      if noise.messageIndex h.handshakeState ≠ 2 then (.error (notReady noise h), h)
      else
        match validateFragmentOrdering (first :: rest) with
        | .error e => (.error e, h)
        | .ok () =>
          h.finalizeSessionConfirmed noise first.header (reassembleFragments (first :: rest))

end HandshakeReader

/-! ## A packet that is rejected -/

/-- A handshake message as the handler gets it. The fragments of a SessionConfirmed have passed
`validateConfirmedFragment`, so the byte with their number is there. -/
inductive HandshakeMessage where
  | sessionRequest (packet : SSU2Packet)
  | sessionCreated (packet : SSU2Packet)
  | sessionConfirmed (packet : SSU2Packet)
  | sessionConfirmedFragments (packets : List SSU2Packet)
      (hheaders : ∀ packet ∈ packets, 14 ≤ packet.header.length)

/-- The header that is mixed into the transcript. -/
def HandshakeMessage.header : HandshakeMessage → Bytes
  | sessionRequest packet | sessionCreated packet | sessionConfirmed packet => packet.header
  | sessionConfirmedFragments packets _ => (packets.head?.map (·.header)).getD []

/-- What `ReadMessage` gets. -/
def HandshakeMessage.noiseMessage : HandshakeMessage → Bytes
  | sessionRequest packet | sessionCreated packet =>
    packet.ephemeralKey ++ packet.payload ++ packet.mac
  | sessionConfirmed packet => packet.payload ++ packet.mac
  | sessionConfirmedFragments packets _ => reassembleFragments packets

variable {σ : Type} (noise : NoiseReader σ)

namespace HandshakeReader

def process (env : ReadEnv) : HandshakeMessage → HandshakeReader σ → Except Oops Unit ×
    HandshakeReader σ
  | .sessionRequest packet, h => h.processSessionRequest noise env packet
  | .sessionCreated packet, h => h.processSessionCreated noise env packet
  | .sessionConfirmed packet, h => h.processSessionConfirmed noise packet
  | .sessionConfirmedFragments packets _, h => h.processSessionConfirmedFragments noise packets

/-- The message is refused before the transcript and the replay cache are touched: it is the wrong
one for this side or this stage, it is malformed, or it is a request that the cache knows. -/
def RefusesAtOnce (env : ReadEnv) (h : HandshakeReader σ) : HandshakeMessage → Prop
  | .sessionRequest packet =>
    h.initiator ∨ packet.messageType ≠ messageTypeSessionRequest ∨
      packet.ephemeralKey.length ≠ 32 ∨
      ∃ cache ∈ h.replayCache, cache.seen env.now (digest noise packet)
  | .sessionCreated packet =>
    ¬ h.initiator ∨ packet.messageType ≠ messageTypeSessionCreated ∨
      packet.ephemeralKey.length ≠ 32
  | .sessionConfirmed packet =>
    h.initiator ∨ packet.messageType ≠ messageTypeSessionConfirmed ∨
      noise.messageIndex h.handshakeState ≠ 2 ∨ isFragment packet
  | .sessionConfirmedFragments packets _ =>
    h.initiator ∨ packets = [] ∨ noise.messageIndex h.handshakeState ≠ 2 ∨
      validateFragmentOrdering packets ≠ .ok ()

end HandshakeReader

/-- What the `noise` package promises. -/
structure NoiseReader.Lawful : Prop where
  /-- a message that cannot be read leaves the state alone -/
  read_error : ∀ m s e, (noise.readMessage m s).1 = .error e → (noise.readMessage m s).2 = s
  /-- the two sides take turns: after a message was read, the next one is to be written -/
  reads_once : ∀ m s r, (noise.readMessage m s).1 = .ok r →
    ∀ m' header r', (noise.readMessage m' (noise.mixHash header (noise.readMessage m s).2)).1 ≠
      .ok r'
  /-- a message is bound to the transcript: it cannot be read after more was mixed in -/
  binds : ∀ m s header r, (noise.readMessage m (noise.mixHash header s)).1 = .ok r →
    ∀ header' r',
      (noise.readMessage m (noise.mixHash header (noise.mixHash header' s))).1 ≠ .ok r'

namespace HandshakeReader

@[simp]
theorem handshakeState_deriveNextHeaderKey (noise : Noise σ) (msgType : UInt8)
    (h : HandshakeHandler σ) :
    (h.deriveNextHeaderKey noise msgType).handshakeState = h.handshakeState := by
  unfold HandshakeHandler.deriveNextHeaderKey
  split_ifs <;> rfl

@[simp]
theorem handshakeState_updateCipherStates (cs : Option (CipherState × CipherState))
    (h : HandshakeHandler σ) : (h.updateCipherStates cs).handshakeState = h.handshakeState := by
  unfold HandshakeHandler.updateCipherStates
  split
  · rfl
  · split_ifs <;> rfl

theorem handshakeState_extractPeerOptions (blocks : List SSU2Block) (h : HandshakeReader σ) :
    (h.extractPeerOptions blocks).handshakeState = h.handshakeState := by
  unfold extractPeerOptions
  split
  · rfl
  · split <;> rfl

/-- What a call that gets as far as `ReadMessage` leaves: the state of the `noise` package after the
header was mixed in and the message read, and an error if that failed. -/
structure Reads (header message : Bytes) (s : σ)
    (out : Except Oops Unit × HandshakeReader σ) : Prop where
  state_eq : out.2.handshakeState = (noise.readMessage message (noise.mixHash header s)).2
  read_ok : out.1 = .ok () → ∃ r, (noise.readMessage message (noise.mixHash header s)).1 = .ok r

variable (env : ReadEnv)

theorem reads_readHandshakeMessage (name : String) (packet : SSU2Packet) (h : HandshakeReader σ) :
    Reads noise packet.header (packet.ephemeralKey ++ packet.payload ++ packet.mac)
      h.handshakeState (h.readHandshakeMessage noise env name packet) := by
  unfold readHandshakeMessage readNoise
  generalize hread : noise.readMessage (packet.ephemeralKey ++ packet.payload ++ packet.mac)
    (noise.mixHash packet.header h.handshakeState) = result
  obtain ⟨_ | ⟨payload, cs⟩, s⟩ := result
  · exact ⟨by rw [hread], nofun⟩
  · refine ⟨?_, fun _ => ⟨(payload, cs), by rw [hread]⟩⟩
    rw [hread]
    dsimp only
    split
    · simp only [handshakeState_updateCipherStates, handshakeState_deriveNextHeaderKey]
    · split
      · simp only [handshakeState_updateCipherStates, handshakeState_deriveNextHeaderKey]
      · simp only [handshakeState_extractPeerOptions, handshakeState_updateCipherStates,
          handshakeState_deriveNextHeaderKey]

theorem reads_finalizeSessionConfirmed (header message : Bytes) (h : HandshakeReader σ) :
    Reads noise header message h.handshakeState
      (h.finalizeSessionConfirmed noise header message) := by
  unfold finalizeSessionConfirmed readNoise
  generalize hread : noise.readMessage message (noise.mixHash header h.handshakeState) = result
  obtain ⟨_ | ⟨payload, cs⟩, s⟩ := result
  · exact ⟨by rw [hread], nofun⟩
  · refine ⟨?_, fun _ => ⟨(payload, cs), by rw [hread]⟩⟩
    rw [hread]
    dsimp only
    split
    · split_ifs <;> simp only [handshakeState_updateCipherStates]
    · split_ifs <;> simp only [handshakeState_updateCipherStates]

/-- What processing a message does. It is refused at once and nothing has changed, or it was
given to the `noise` package. -/
theorem process_cases (message : HandshakeMessage) (h : HandshakeReader σ) :
    (h.RefusesAtOnce noise env message ∧ ∃ e, h.process noise env message = (.error e, h)) ∨
    (¬ h.RefusesAtOnce noise env message ∧
      Reads noise message.header message.noiseMessage h.handshakeState
        (h.process noise env message)) := by
  cases message with
  | sessionRequest packet =>
    simp only [RefusesAtOnce, process, processSessionRequest]
    split_ifs with hrole htype hkey
    · exact .inl ⟨.inl hrole, _, rfl⟩
    · exact .inl ⟨.inr (.inl htype), _, rfl⟩
    · exact .inl ⟨.inr (.inr (.inl hkey)), _, rfl⟩
    · cases hcache : h.replayCache with
      | none => exact .inr ⟨by simp [hrole, htype, hkey], reads_readHandshakeMessage ..⟩
      | some cache =>
        by_cases hseen : cache.seen env.now (digest noise packet)
        · have hcheck : cache.checkAndAdd env.now env.cacheOrder (digest noise packet) =
            (true, cache) := if_pos hseen
          simp only [hcheck]
          refine .inl ⟨.inr (.inr (.inr ⟨cache, rfl, hseen⟩)),
            .errorf "replayed SessionRequest detected", ?_⟩
          rw [← hcache]
        · obtain ⟨cache', hcheck⟩ : ∃ cache',
            cache.checkAndAdd env.now env.cacheOrder (digest noise packet) = (false, cache') :=
            ⟨_, if_neg hseen⟩
          simp only [hcheck]
          exact .inr ⟨by simp [hrole, htype, hkey, hseen], reads_readHandshakeMessage noise env _
            packet { h with replayCache := some cache' }⟩
  | sessionCreated packet =>
    simp only [RefusesAtOnce, process, processSessionCreated]
    split_ifs with hrole htype hkey
    · exact .inl ⟨.inr (.inl htype), _, rfl⟩
    · exact .inl ⟨.inr (.inr hkey), _, rfl⟩
    · exact .inr ⟨by simp [hrole, htype, hkey], reads_readHandshakeMessage ..⟩
    · exact .inl ⟨.inl hrole, _, rfl⟩
  | sessionConfirmed packet =>
    simp only [RefusesAtOnce, process, processSessionConfirmed]
    split_ifs with hrole htype hindex hfragment
    · exact .inl ⟨.inl hrole, _, rfl⟩
    · exact .inl ⟨.inr (.inl htype), _, rfl⟩
    · exact .inl ⟨.inr (.inr (.inl hindex)), _, rfl⟩
    · exact .inl ⟨.inr (.inr (.inr hfragment)), _, rfl⟩
    · exact .inr ⟨by simp [hrole, htype, hindex, hfragment], reads_finalizeSessionConfirmed ..⟩
  | sessionConfirmedFragments packets hheaders =>
    simp only [RefusesAtOnce, process, processSessionConfirmedFragments]
    cases packets with
    | nil =>
      dsimp only
      split_ifs with hrole
      · exact .inl ⟨.inl hrole, _, rfl⟩
      · exact .inl ⟨.inr (.inl rfl), _, rfl⟩
    | cons first rest =>
      dsimp only
      split_ifs with hrole hindex
      · exact .inl ⟨.inl hrole, _, rfl⟩
      · exact .inl ⟨.inr (.inr (.inl hindex)), _, rfl⟩
      · cases horder : validateFragmentOrdering (first :: rest) with
        | error e => exact .inl ⟨.inr (.inr (.inr nofun)), _, rfl⟩
        | ok u => exact .inr ⟨by simp [hrole, hindex], reads_finalizeSessionConfirmed ..⟩

end HandshakeReader

variable {noise}

open HandshakeReader

theorem process_after_reads (hlaws : noise.Lawful) {header message : Bytes} {h : HandshakeReader σ}
    {out : Except Oops Unit × HandshakeReader σ}
    (hreads : Reads noise header message h.handshakeState out) {env : ReadEnv}
    {genuine : HandshakeMessage}
    (haccepted : (h.process noise env genuine).1 = .ok ()) :
    (out.2.process noise env genuine).1 ≠ .ok () := by
  obtain ⟨_, e, hrefused⟩ | ⟨_, hfirst⟩ := process_cases noise env genuine h
  · rw [hrefused] at haccepted
    cases haccepted
  obtain ⟨r, hr⟩ := hfirst.read_ok haccepted
  intro hagain
  obtain ⟨_, e, hrefused⟩ | ⟨_, hsecond⟩ := process_cases noise env genuine out.2
  · rw [hrefused] at hagain
    cases hagain
  obtain ⟨r', hr'⟩ := hsecond.read_ok hagain
  rw [hreads.state_eq] at hr'
  cases hread : (noise.readMessage message (noise.mixHash header h.handshakeState)).1 with
  | error e =>
    -- only the header stays in the transcript
    rw [hlaws.read_error _ _ e hread] at hr'
    exact hlaws.binds _ _ _ _ hr header r' hr'
  | ok read => exact hlaws.reads_once _ _ read hread _ _ r' hr'

/-- **A packet that came first is harmless exactly if it was refused at once.** Otherwise its header
stays in the transcript, rejected or not, and the genuine packet cannot be read any more. -/
theorem process_genuine_iff (hlaws : noise.Lawful) {h : HandshakeReader σ} {env env' : ReadEnv}
    {genuine : HandshakeMessage} (haccepted : (h.process noise env' genuine).1 = .ok ())
    (forged : HandshakeMessage) :
    (h.process noise env forged).2.process noise env' genuine = h.process noise env' genuine ↔
      h.RefusesAtOnce noise env forged := by
  obtain ⟨hat, _, hrefused⟩ | ⟨hlate, hreads⟩ := process_cases noise env forged h
  · rw [hrefused]
    exact iff_of_true rfl hat
  · refine iff_of_false (fun hsame => ?_) hlate
    refine process_after_reads hlaws hreads haccepted ?_
    rw [hsame, haccepted]

/-- A `noise` package for tests. The state is the headers that were mixed in, and whether a message
was read. The first byte of a message says how many headers it belongs after. -/
def NoiseReader.counting : NoiseReader (List Bytes × Bool) where
  derivePublicKey key := .ok key
  newHandshakeState _ _ _ _ _ := .ok ([], false)
  mixHash header s := (header :: s.1, s.2)
  writeMessage payload s := (.ok (payload, none), s)
  chainingKey _ := []
  deriveIntermediateHeaderKey _ _ := []
  readMessage message s :=
    if s.2 = false ∧ (message.headD 0).toNat = s.1.length then
      (.ok ([0, 0, 4, 0, 0, 0, 0], none), (s.1, true))
    else (.error (.errorf "chacha20poly1305: message authentication failed"), s)
  messageIndex s := if s.2 then 1 else 0
  peerStatic _ := []
  sha256 b := ⟨(b ++ List.replicate 32 0).take 32, by simp⟩
  encodeToString b := b

theorem NoiseReader.lawful_counting : NoiseReader.counting.Lawful where
  read_error m s e h := by grind [counting]
  reads_once m s r h m' header r' h' := by grind [counting]
  binds m s header r h header' r' h' := by grind [counting, List.length_cons]

/-- A responder that waits for a session request. -/
def HandshakeReader.responder : HandshakeReader (List Bytes × Bool) where
  initiator := false
  staticKey := []
  remoteStaticKey := []
  handshakeState := ([], false)
  sendCipher := none
  recvCipher := none
  sessCreateHeaderKey := []
  sessionConfirmedHeaderKey := []
  localOptions := none
  replayCache := some (.new (240 * second) 1024)
  peerOptions := none
  peerRouterInfo := []
  maxClockSkew := 0

/-- A session request whose ephemeral key starts with the given byte. -/
def SSU2Packet.requestOf (messageType first : UInt8) : SSU2Packet where
  header := List.replicate 32 first
  ephemeralKey := first :: List.replicate 31 0
  payload := []
  mac := List.replicate 16 0
  messageType := messageType
  packetNumber := 0
  timestamp := 0

theorem process_genuine_iff_wrongType :
    (responder.process .counting ⟨0, []⟩ (.sessionRequest (.requestOf 6 7))).2.process
        .counting ⟨0, []⟩ (.sessionRequest (.requestOf 0 1)) =
      responder.process .counting ⟨0, []⟩ (.sessionRequest (.requestOf 0 1)) :=
  (process_genuine_iff NoiseReader.lawful_counting (by rfl) _).mpr (.inr (.inl (by decide)))

/-- A forged session request is rejected, and the genuine one after it is rejected too. -/
theorem process_genuine_lost :
    (responder.process .counting ⟨0, []⟩ (.sessionRequest (.requestOf 0 7))).1 =
        .error (.errorf <| "failed to process SessionRequest handshake message: " ++
          "chacha20poly1305: message authentication failed") ∧
      (responder.process .counting ⟨0, []⟩ (.sessionRequest (.requestOf 0 1))).1 = .ok () ∧
      ((responder.process .counting ⟨0, []⟩ (.sessionRequest (.requestOf 0 7))).2.process
          .counting ⟨1, []⟩ (.sessionRequest (.requestOf 0 1))).1 ≠ .ok () := by
  have haccepted :
    (responder.process .counting ⟨1, []⟩ (.sessionRequest (.requestOf 0 1))).1 = .ok () := by rfl
  obtain ⟨hat, -⟩ | ⟨-, hreads⟩ :=
    process_cases .counting ⟨0, []⟩ (.sessionRequest (.requestOf 0 7)) responder
  · exact absurd hat (by simp [RefusesAtOnce, responder, TTLCache.seen, TTLCache.new,
      SSU2Packet.requestOf, messageTypeSessionRequest])
  · exact ⟨by rfl, by rfl, process_after_reads NoiseReader.lawful_counting hreads haccepted⟩

end GoNoise.SSU2
