import GoNoise.Library.Chan
import GoNoise.SSU2.Server.IntroProtection
import GoNoise.SSU2.Server.TokenAdmission
import GoNoise.SSU2.Session.PacketRouter
import GoNoise.SSU2.Wire.BlockTypes
import GoNoise.SSU2.Wire.TokenCache

/-!
# `ssu2/server`: the listener

`listener.go`, `retry.go`, `token_cache_config.go` and the packet worker of `accept_loop.go`. The
listener parses a datagram, routes the packet, and is the router's handler for new sessions; there
it limits the rate, looks for a retry token and answers with a Retry if one is required. Datagrams
are handled one after the other.
-/

namespace GoNoise.SSU2

open BigEndian

/-! ## State -/

/-- The parts of the standard library that name addresses and hash keys. -/
structure Host where
  addrString : UDPAddr → String
  ipString : Bytes → String
  sha256 : Bytes → Bytes

/-- The fields of `SSU2Config` that the listener reads. -/
structure ListenerConfig where
  introKey : Bytes
  initiatorConnectionID : UInt64
  requireRetry : Bool
  tokenCacheMaxSize : ℤ
  globalTokenIssuanceRate : ℚ
  globalTokenIssuanceBurst : ℚ
  firstSightRequired : Bool
  firstSightWindow : Duration
  firstSightMaxEntries : ℤ
  deriving DecidableEq

/-- What one call meets outside the state: the clock, random values, the order of map iteration, the
socket. -/
structure ListenEnv where
  now : Time
  /-- `rand.Read` in `GenerateToken` -/
  token : Except Oops Bytes
  /-- `rand.Read` of eight bytes in `buildRetryHeader` -/
  srcConnID : Except Oops UInt64
  /-- the first and the second call of `GenerateConnectionID`, which draws until the ID is not zero
  -/
  connID₁ : Except Oops { id : UInt64 // id ≠ 0 }
  connID₂ : Except Oops { id : UInt64 // id ≠ 0 }
  /-- what can fail in `NewSSU2Conn` besides the check of the connection IDs -/
  newConn : Except Oops Unit
  /-- which of two ready arms of a `select` Go takes, if one is for the shutdown -/
  preferShutdown : Bool
  tokenOrder : List String
  ipOrder : List String
  writeTo : Bytes → UDPAddr → Except Oops Unit

/-- What the listener has done. -/
inductive Effect
  /-- `GenerateToken` has returned a token for an address -/
  | issued (addr : UDPAddr) (token : Bytes)
  /-- a packet from the address has consumed a token -/
  | consumed (addr : UDPAddr) (token : Bytes)
  /-- `NewSSU2Conn` has made a session for a packet -/
  | created (conn : ConnRef) (packet : SSU2Packet)
  deriving DecidableEq

structure SSU2Listener where
  config : ListenerConfig
  /-- the datagrams written to the socket -/
  underlying : List (UDPAddr × Bytes)
  sessions : GoMap UInt64 ConnRef
  tokenCache : TokenCache
  firstSight : FirstSightTracker
  issuanceLimiter : TokenIssuanceLimiter
  acceptQueue : Chan ConnRef
  introHeaderProtector : Option HeaderProtector
  sessionRateLimiter : IPRateLimiter
  /-- `shutdownChan` is closed -/
  shutdown : Bool
  /-- how many sessions were made -/
  allocated : ℕ
  history : List Effect

def newTokenCacheFromConfig (config : ListenerConfig) : TokenCache :=
  .newTokenCacheWithMaxSize (60 * second)
    (if config.tokenCacheMaxSize > 0 then config.tokenCacheMaxSize else maxTokenCacheSize)

namespace SSU2Listener

/-- `NewSSU2Listener`, for arguments that pass its checks. -/
def newSSU2Listener (config : ListenerConfig) (now : Time) : Except Oops SSU2Listener :=
  match initHeaderProtection config.introKey with
  | .error e => .error e
  | .ok introHeaderProtector =>
    .ok {
      config := config
      underlying := []
      sessions := ∅
      tokenCache := newTokenCacheFromConfig config
      firstSight := .newFirstSightTracker config.firstSightWindow config.firstSightMaxEntries
      issuanceLimiter :=
        .newTokenIssuanceLimiter config.globalTokenIssuanceRate config.globalTokenIssuanceBurst now
      acceptQueue := .make 100
      introHeaderProtector := introHeaderProtector
      sessionRateLimiter := .newIPRateLimiter sessionRequestsPerSecond sessionRateLimiterMaxIPs
      shutdown := false
      allocated := 0
      history := [] }

/-! ## `retry.go` -/

def buildRetryPayload (now : Time) (token : Bytes) (l : SSU2Listener) : Except Oops Bytes :=
  let dateTimeBlock := newSSU2Block blockTypeDateTime (putUint32 (UInt32.ofInt (unix now)))
  match newNewTokenBlock (now + l.tokenCache.ttl) token with
  | .error e => .error (e.wrapf "failed to create NewToken block")
  | .ok tokenBlock =>
    match serializeBlocks [dateTimeBlock, tokenBlock] with
    | .error e => .error (e.wrapf "failed to serialize Retry payload blocks")
    | .ok payload => .ok payload

def buildRetryHeader (random : Except Oops UInt64) (originalHeader token : Bytes) :
    Except Oops Bytes :=
  let dest :=
    if originalHeader.length ≥ 24 then (originalHeader.drop 16).take 8
    else if originalHeader.length ≥ 8 then originalHeader.take 8
    else List.replicate 8 0
  match random with
  | .error e => .error (e.wrapf "failed to generate source connection ID for Retry")
  | .ok srcConnID =>
    .ok <| dest ++ [0, 0, 0, 0, messageTypeRetry, ssu2ProtocolVersion, ssu2NetworkID, 0] ++
      putUint64 srcConnID ++ token

def retryPacket (env : ListenEnv) (token originalHeader : Bytes) (l : SSU2Listener) :
    Except Oops SSU2Packet :=
  if token.length ≠ tokenSize then
    .error (.errorf s!"token must be exactly {tokenSize} bytes, got {token.length}")
  else
    match l.buildRetryPayload env.now token with
    | .error e => .error e
    | .ok payload =>
      match buildRetryHeader env.srcConnID originalHeader token with
      | .error e => .error e
      | .ok header =>
        .ok { SSU2Packet.newSSU2Packet messageTypeRetry 0 env.now with
          header := header, payload := payload, mac := List.replicate macSize 0 }

def sendRetry (env : ListenEnv) (remoteAddr : UDPAddr) (token originalHeader : Bytes)
    (incomingSize : ℕ) (l : SSU2Listener) : Except Oops Unit × SSU2Listener :=
  match l.retryPacket env token originalHeader with
  | .error e => (.error e, l)
  | .ok packet =>
    match packet.serialize with
    | .error e => (.error (e.wrapf "failed to serialize Retry packet"), l)
    | .ok (packetData, _) =>
      if incomingSize > 0 ∧ packetData.length > 3 * incomingSize then
        (.error <| .errorf <| s!"Retry message ({packetData.length} bytes) exceeds 3x " ++
          s!"amplification limit of incoming message ({incomingSize} bytes)", l)
      else
        match env.writeTo packetData remoteAddr with
        | .error e => (.error (e.wrapf "failed to send Retry packet"), l)
        | .ok () => (.ok (), { l with underlying := l.underlying ++ [(remoteAddr, packetData)] })

/-! ## Tokens -/

variable (host : Host)

/-- The errors of `validateSessionRequestToken`: `errNoTokenPresent`, and all others. -/
inductive TokenError
  | noTokenPresent
  | failed (e : Oops)
  deriving DecidableEq

def validateSessionRequestToken (now : Time) (packet : SSU2Packet) (remoteAddr : UDPAddr)
    (l : SSU2Listener) : Except TokenError Unit × SSU2Listener :=
  if packet.payload.length = 0 then (.error .noTokenPresent, l)
  else
    match deserializeBlocks packet.payload with
    | .error _ => (.error .noTokenPresent, l)
    | .ok blocks =>
      match findBlockByType blocks blockTypeNewToken with
      | none => (.error .noTokenPresent, l)
      | some tokenBlock =>
        match parseNewTokenBlock tokenBlock with
        | .error e => (.error (.failed (e.wrapf "failed to parse NewToken block")), l)
        | .ok newToken =>
          if unix now > newToken.expiration.toNat then
            (.error (.failed ⟨"TOKEN_EXPIRED", "ssu2_listener",
              [("expiration", newToken.expiration.toNat)], "token has expired"⟩), l)
          else
            match l.tokenCache.consumeToken host.addrString now newToken.token
              (some remoteAddr) with
            | (false, tokenCache) =>
              (.error (.failed ⟨"INVALID_TOKEN", "ssu2_listener", [], "token validation failed"⟩),
                { l with tokenCache := tokenCache })
            | (true, tokenCache) =>
              (.ok (), { l with
                tokenCache := tokenCache
                history := l.history ++ [.consumed remoteAddr newToken.token] })

/-- The first gate of `processTokenRequest`. -/
def passFirstSight (now : Time) (addrKey : String) (l : SSU2Listener) : Bool × SSU2Listener :=
  if l.config.firstSightRequired then
    let (ok, firstSight) := l.firstSight.observeAndAllow now addrKey
    (ok, { l with firstSight := firstSight })
  else (true, l)

/-- The second gate of `processTokenRequest`. -/
def passIssuance (now : Time) (l : SSU2Listener) : Bool × SSU2Listener :=
  let (ok, issuanceLimiter) := l.issuanceLimiter.allow now
  (ok, { l with issuanceLimiter := issuanceLimiter })

def processTokenRequest (env : ListenEnv) (packet : SSU2Packet) (remoteAddr : Option UDPAddr)
    (l : SSU2Listener) : Except Oops Unit × SSU2Listener :=
  match remoteAddr with
  | none => (.error ⟨"NIL_ADDRESS", "ssu2_listener", [], "remote address cannot be nil"⟩, l)
  | some addr =>
    match l.passFirstSight env.now (host.addrString addr) with
    | (false, l) =>
      (.error ⟨"NO_TOKEN_ISSUED", "ssu2_listener", [],
        "first-sight gate: deferring token issuance until retry"⟩, l)
    | (true, l) =>
      match l.passIssuance env.now with
      | (false, l) =>
        (.error ⟨"NO_TOKEN_ISSUED", "ssu2_listener", [],
          "global token issuance rate limit exceeded"⟩, l)
      | (true, l) =>
        match l.tokenCache.generateToken host.addrString env.now env.token env.tokenOrder
            (some addr) with
        | (.error e, tokenCache) =>
          (.error (e.wrapf "failed to generate token"), { l with tokenCache := tokenCache })
        | (.ok token, tokenCache) =>
          let incomingSize := packet.header.length + packet.payload.length + packet.mac.length
          sendRetry env addr token packet.header incomingSize { l with
            tokenCache := tokenCache
            history := l.history ++ [.issued addr token] }

/-- What a token request does: the gates count it, and then it is refused, or a token is
generated and sent. -/
theorem processTokenRequest_cases (env : ListenEnv) (packet : SSU2Packet) (addr : UDPAddr)
    (l : SSU2Listener) :
    ∃ firstSight issuanceLimiter,
      (∃ e, l.processTokenRequest host env packet (some addr) =
        (.error e, { l with firstSight := firstSight, issuanceLimiter := issuanceLimiter })) ∨
      ∃ token tokenCache size,
        l.tokenCache.generateToken host.addrString env.now env.token env.tokenOrder (some addr) =
          (.ok token, tokenCache) ∧
        l.processTokenRequest host env packet (some addr) =
          sendRetry env addr token packet.header size { l with
            firstSight := firstSight
            issuanceLimiter := issuanceLimiter
            tokenCache := tokenCache
            history := l.history ++ [.issued addr token] } := by
  have hsight : ∃ ok firstSight, l.passFirstSight env.now (host.addrString addr) =
      (ok, { l with firstSight := firstSight }) := by
    rw [passFirstSight]
    split_ifs
    · exact ⟨_, _, rfl⟩
    · exact ⟨true, l.firstSight, rfl⟩
  obtain ⟨ok₁, firstSight, hsight⟩ := hsight
  unfold processTokenRequest
  dsimp only
  rw [hsight]
  cases ok₁ with
  | false => exact ⟨firstSight, l.issuanceLimiter, Or.inl ⟨_, rfl⟩⟩
  | true =>
    refine ⟨firstSight, (l.issuanceLimiter.allow env.now).2, ?_⟩
    dsimp only [passIssuance]
    cases (l.issuanceLimiter.allow env.now).1 with
    | false => exact Or.inl ⟨_, rfl⟩
    | true =>
      dsimp only
      rcases hgen : l.tokenCache.generateToken host.addrString env.now env.token env.tokenOrder
        (some addr) with ⟨e | token, tokenCache⟩
      · obtain rfl : tokenCache = l.tokenCache := by
          grind [TokenCache.generateToken_cases host.addrString env.now env.token env.tokenOrder
            (some addr) l.tokenCache]
        exact Or.inl ⟨_, rfl⟩
      · exact Or.inr ⟨token, tokenCache, _, rfl, rfl⟩

def handleSessionRequestToken (env : ListenEnv) (packet : SSU2Packet) (remoteAddr : UDPAddr)
    (l : SSU2Listener) : Except Oops Unit × SSU2Listener :=
  if packet.messageType ≠ messageTypeSessionRequest then (.ok (), l)
  else
    match l.validateSessionRequestToken host env.now packet remoteAddr with
    | (.ok (), l) => (.ok (), l)
    | (.error .noTokenPresent, l) =>
      if l.config.requireRetry then
        match l.processTokenRequest host env packet (some remoteAddr) with
        | (.error e, l) => (.error (e.wrapf "failed to send Retry"), l)
        | (.ok (), l) =>
          (.error ⟨"RETRY_SENT", "ssu2_listener", [], "sent Retry to " ++
            host.addrString remoteAddr ++ ", awaiting re-request with token"⟩, l)
      else (.ok (), l)
    | (.error (.failed e), l) =>
      (.error { e with code := "TOKEN_VALIDATION_FAILED", domain := "ssu2_listener" }, l)

/-! ## New sessions -/

def enforceRateLimit (env : ListenEnv) (remoteAddr : UDPAddr) (l : SSU2Listener) :
    Except Oops Unit × SSU2Listener :=
  match l.sessionRateLimiter.allow env.now env.ipOrder (host.ipString remoteAddr.ip) with
  | (false, rl) =>
    (.error ⟨"RATE_LIMITED", "ssu2_listener", [],
      "SessionRequest rate limit exceeded for " ++ host.ipString remoteAddr.ip⟩,
      { l with sessionRateLimiter := rl })
  | (true, rl) => (.ok (), { l with sessionRateLimiter := rl })

def generateUniqueConnectionID (env : ListenEnv) (l : SSU2Listener) : Except Oops UInt64 :=
  match env.connID₁ with
  | .error e => .error (e.wrapf "failed to generate connection ID")
  | .ok connID =>
    if connID.1 ∉ l.sessions then .ok connID
    else
      match env.connID₂ with
      | .error e => .error (e.wrapf "failed to regenerate connection ID")
      | .ok connID =>
        if connID.1 ∈ l.sessions then
          .error (.errorf s!"connection ID collision after regeneration ({connID.1})")
        else .ok connID

/-- `buildConnConfig`, with the session that is made from it. -/
def buildConn (packet : SSU2Packet) (remoteAddr : UDPAddr) (connID : UInt64) (l : SSU2Listener) :
    ConnRef where
  ptr := l.allocated
  remoteAddr := remoteAddr
  connectionID := some connID
  routerHash :=
    if packet.ephemeralKey.length = 32 then host.sha256 packet.ephemeralKey else List.replicate 32 0
  initiatorConnectionID :=
    if packet.header.length ≥ 24 then uint64 ((packet.header.drop 16).take 8)
    else l.config.initiatorConnectionID

def registerAndQueueConn (env : ListenEnv) (conn : ConnRef) (connID : UInt64) (l : SSU2Listener) :
    Except Oops ConnRef × SSU2Listener :=
  let l := { l with sessions := l.sessions.insert connID conn }
  if l.shutdown ∧ (env.preferShutdown ∨ ¬ l.acceptQueue.HasRoom) then
    (.error ⟨"LISTENER_CLOSED", "ssu2_listener", [], "listener closed during session creation"⟩, l)
  else
    match l.acceptQueue.trySend conn with
    | none =>
      (.error ⟨"ACCEPT_QUEUE_FULL", "ssu2_listener", [], "accept queue full, connection dropped"⟩,
        l)
    | some acceptQueue => (.ok conn, { l with acceptQueue := acceptQueue })

def handleNewSession (env : ListenEnv) (remoteAddr : UDPAddr) (packet : SSU2Packet)
    (l : SSU2Listener) : Except Oops ConnRef × SSU2Listener :=
  match l.enforceRateLimit host env remoteAddr with
  | (.error e, l) => (.error e, l)
  | (.ok (), l) =>
    match l.handleSessionRequestToken host env packet remoteAddr with
    | (.error e, l) => (.error e, l)
    | (.ok (), l) =>
      match l.generateUniqueConnectionID env with
      | .error e => (.error e, l)
      | .ok connID =>
        let conn := l.buildConn host packet remoteAddr connID
        if conn.initiatorConnectionID ≠ 0 ∧ conn.initiatorConnectionID = connID then
          (.error <| .errorf <| s!"connection ID collision: source and destination IDs are " ++
            s!"identical ({connID})", l)
        else
          match env.newConn with
          | .error e => (.error (e.wrapf "failed to create SSU2 connection"), l)
          | .ok () =>
            registerAndQueueConn env conn connID { l with
              allocated := l.allocated + 1
              history := l.history ++ [.created conn packet] }

/-! ## Routing -/

def route (env : ListenEnv) (packet : Option SSU2Packet) (remoteAddr : Option UDPAddr)
    (s : PacketRouter × SSU2Listener) : Except Oops Unit × PacketRouter × SSU2Listener :=
  PacketRouter.routePacket (some (handleNewSession host env)) packet remoteAddr s

def handleIncomingPacket (chacha20 : ChaCha20) (env : ListenEnv) (data : Bytes)
    (remoteAddr : UDPAddr) (s : PacketRouter × SSU2Listener) : PacketRouter × SSU2Listener :=
  match parseInboundPacket chacha20 s.2.introHeaderProtector env.now data with
  | none => s
  | some packet =>
    match route host env (some packet) (some remoteAddr) s with
    | (.ok (), s) => s
    | (.error _, pr, l) =>
      if packet.messageType = messageTypeTokenRequest then
        (pr, (l.processTokenRequest host env packet (some remoteAddr)).2)
      else (pr, l)

/-! ## Runs -/

/-- What can happen to a listener and its router. -/
inductive Event
  /-- a worker takes a datagram from the queue -/
  | datagram (env : ListenEnv) (data : Bytes) (addr : UDPAddr)
  /-- `RoutePacket` is called -/
  | route (env : ListenEnv) (packet : SSU2Packet) (addr : UDPAddr)
  | accept
  | tokenCleanup (now : Time)
  /-- `AddSession` and `RemoveSession` of the listener -/
  | addSession (connID : UInt64) (conn : ConnRef)
  | removeSession (connID : UInt64)
  /-- `AddSession` and `RemoveSession` of the router -/
  | routerAddSession (conn : ConnRef)
  | routerRemoveSession (connID : UInt64)
  | close

def step (chacha20 : ChaCha20) (s : PacketRouter × SSU2Listener) (e : Event) :
    PacketRouter × SSU2Listener :=
  let (pr, l) := s
  match e with
  | .datagram env data addr => handleIncomingPacket host chacha20 env data addr s
  | .route env packet addr => (route host env (some packet) (some addr) s).2
  | .accept =>
    match l.acceptQueue.tryRecv with
    | none => s
    | some (_, acceptQueue) => (pr, { l with acceptQueue := acceptQueue })
  | .tokenCleanup now => (pr, { l with tokenCache := (l.tokenCache.cleanup now).2 })
  | .addSession connID conn => (pr, { l with sessions := l.sessions.insert connID conn })
  | .removeSession connID => (pr, { l with sessions := l.sessions.erase connID })
  | .routerAddSession conn => ((pr.addSession (some conn)).2, l)
  | .routerRemoveSession connID => (pr.removeSession connID, l)
  | .close => (pr, { l with shutdown := true })

def routed (chacha20 : ChaCha20) (l : SSU2Listener) : Event →
    Option (ListenEnv × SSU2Packet × UDPAddr)
  | .datagram env data addr =>
    (parseInboundPacket chacha20 l.introHeaderProtector env.now data).map fun p => (env, p, addr)
  | .route env packet addr => some (env, packet, addr)
  | _ => none

end SSU2Listener
end GoNoise.SSU2
