import GoNoise.SSU2.Server.RetryGate

/-!
# Delivery of routed packets

A packet for a registered connection ID goes to that session. A packet that opens a session does
not: the session is made and registered, under a fresh connection ID, and the packet is not handed
to it. Its retransmissions carry the connection ID of the first, so that each of them opens another
session.
-/

namespace GoNoise.SSU2.SSU2Listener

open Trace PacketRouter

variable {host : Host} {env : ListenEnv} {packet : SSU2Packet} {addr : UDPAddr}
  {s : PacketRouter × SSU2Listener} {l : SSU2Listener}

/-- If routing succeeds, then the packet is handed to exactly one session. -/
def Delivered (host : Host) (s : PacketRouter × SSU2Listener) (env : ListenEnv)
    (packet : SSU2Packet)
    (addr : UDPAddr) : Prop :=
  (route host env (some packet) (some addr) s).1 = .ok () →
    ∃ conn, (route host env (some packet) (some addr) s).2.1.inbound =
      s.1.inbound ++ [(conn, packet)]

/-- The same packet, but for the time of its arrival. -/
def Repeats (packet packet' : SSU2Packet) : Prop :=
  { packet' with timestamp := packet.timestamp } = packet

/-- A session request that has opened a session for the address opens no other while that session is
registered. -/
def OpensNoSecond (host : Host) (s : PacketRouter × SSU2Listener) (env : ListenEnv)
    (packet : SSU2Packet) (addr : UDPAddr) : Prop :=
  packet.messageType = messageTypeSessionRequest →
    ∀ conn packet' connID, .created conn packet' ∈ s.2.history → conn.remoteAddr = addr →
      Repeats packet packet' → s.1.sessions.lookup connID = some conn →
      (route host env (some packet) (some addr) s).2.2.allocated = s.2.allocated

/-- The payload has no NewToken block, as far as the listener can read it. -/
def NoToken (packet : SSU2Packet) : Prop :=
  ∀ blocks, deserializeBlocks packet.payload = .ok blocks →
    findBlockByType blocks blockTypeNewToken = none

/-- The packet is for a registered session, or of a type that does not open one, or a session
request without a token where one is required. -/
def OpensNone (s : PacketRouter × SSU2Listener) (packet : SSU2Packet) : Prop :=
  isHandshakePacket packet.messageType = true →
    (∀ connID, extractConnectionID packet.header = .ok connID → connID ∈ s.1.sessions) ∨
      s.2.config.requireRetry = true ∧ packet.messageType = messageTypeSessionRequest ∧
        NoToken packet

theorem validateSessionRequestToken_of_noToken (h : NoToken packet) (now : Time) :
    l.validateSessionRequestToken host now packet addr = (.error .noTokenPresent, l) := by
  unfold validateSessionRequestToken
  split_ifs
  · rfl
  cases hblocks : deserializeBlocks packet.payload with
  | error e => rfl
  | ok blocks =>
    dsimp only
    rw [h blocks hblocks]

theorem allocated_processTokenRequest (l : SSU2Listener) :
    (l.processTokenRequest host env packet (some addr)).2.allocated = l.allocated := by
  obtain ⟨firstSight, issuanceLimiter, ⟨e, herr⟩ | ⟨token, tokenCache, size, -, hres⟩⟩ :=
    processTokenRequest_cases host env packet addr l
  · rw [herr]
  · rw [hres]
    obtain ⟨underlying, hframe⟩ := sendRetry_frame env { l with
      firstSight := firstSight
      issuanceLimiter := issuanceLimiter
      tokenCache := tokenCache
      history := l.history ++ [.issued addr token] } addr token packet.header size
    rw [hframe]

/-- Where a token is required, a session request without one gets no session. -/
theorem handleNewSession_of_noToken (host : Host) (env : ListenEnv) (addr : UDPAddr)
    (hretry : l.config.requireRetry = true) (htype : packet.messageType = messageTypeSessionRequest)
    (h : NoToken packet) :
    ∃ e l', l.handleNewSession host env addr packet = (.error e, l') ∧
      l'.allocated = l.allocated := by
  obtain ⟨rl, hlimit⟩ := enforceRateLimit_frame host env l addr
  unfold handleNewSession
  generalize l.enforceRateLimit host env addr = res at hlimit
  obtain ⟨e | u, l₁⟩ := res <;> obtain rfl := hlimit
  · exact ⟨e, _, rfl, rfl⟩
  dsimp only
  rw [handleSessionRequestToken, if_neg (not_not.mpr htype),
    validateSessionRequestToken_of_noToken h]
  dsimp only
  rw [if_pos hretry]
  have hprocess : (processTokenRequest host env packet (some addr)
      { l with sessionRateLimiter := rl }).2.allocated = l.allocated :=
    allocated_processTokenRequest _
  generalize processTokenRequest host env packet (some addr) _ = res at hprocess
  obtain ⟨e | u, l'⟩ := res
  · exact ⟨_, l', rfl, hprocess⟩
  · exact ⟨_, l', rfl, hprocess⟩

/-- A packet that opens no session is handed to its session or refused. -/
theorem route_of_opensNone (h : OpensNone s packet) :
    (∃ e l', route host env (some packet) (some addr) s = (.error e, s.1, l') ∧
        l'.allocated = s.2.allocated) ∨
      ∃ conn, route host env (some packet) (some addr) s =
        (.ok (), { s.1 with inbound := s.1.inbound ++ [(conn, packet)] }, s.2) := by
  obtain ⟨pr, l⟩ := s
  by_cases hreg : ∃ connID, extractConnectionID packet.header = .ok connID ∧ connID ∈ pr.sessions
  · obtain ⟨connID, hid, hmem⟩ := hreg
    obtain ⟨conn, hconn⟩ := Option.isSome_iff_exists.mp (AList.lookup_isSome.mpr hmem)
    refine Or.inr ⟨conn, ?_⟩
    unfold route routePacket
    dsimp only
    rw [hid]
    dsimp only
    rw [getSession, hconn]
  have hnone : ∀ connID, extractConnectionID packet.header = .ok connID → connID ∉ pr.sessions :=
    fun connID hid hmem => hreg ⟨connID, hid, hmem⟩
  left
  cases htype : isHandshakePacket packet.messageType with
  | false =>
    obtain ⟨e, he⟩ := routePacket_of_not_handshake (l := l) hnone htype
    exact ⟨e, l, he, rfl⟩
  | true =>
    unfold route routePacket
    dsimp only
    cases hid : extractConnectionID packet.header with
    | error e => exact ⟨_, l, rfl, rfl⟩
    | ok connID =>
      rcases h htype with hknown | ⟨hretry, hrequest, htoken⟩
      · exact absurd (hknown connID hid) (hnone connID hid)
      obtain ⟨e, l', hres, halloc⟩ :=
        handleNewSession_of_noToken host env addr hretry hrequest htoken
      dsimp only
      rw [getSession, AList.lookup_eq_none.mpr (hnone connID hid), if_pos htype, hres]
      exact ⟨_, l', rfl, halloc⟩

/-- **Routing.** In every run whose packets open no session, every packet that is routed without an
error is handed to exactly one session, and no repeated session request opens a second session. -/
theorem routed_packets_delivered {chacha20 : ChaCha20} {es : List Event}
    (hes : Always (SSU2Listener.step host chacha20)
      (fun s e => ∀ env packet addr, routed chacha20 s.2 e = some (env, packet, addr) →
        OpensNone s packet) s es) :
    Always (SSU2Listener.step host chacha20)
      (fun s e => ∀ env packet addr, routed chacha20 s.2 e = some (env, packet, addr) →
        Delivered host s env packet addr ∧ OpensNoSecond host s env packet addr) s es := by
  refine always_mono (fun s e h env packet addr hrouted => ?_) hes
  rcases route_of_opensNone (h env packet addr hrouted) with ⟨err, l', hres, halloc⟩ | ⟨conn, hres⟩
  · refine ⟨fun hok => ?_, fun _ _ _ _ _ _ _ _ => by rw [hres, halloc]⟩
    rw [hres] at hok
    cases hok
  · exact ⟨fun _ => ⟨conn, by rw [hres]⟩, fun _ _ _ _ _ _ _ _ => by rw [hres]⟩

/-! ## Two runs -/

/-- A session request that is answered with a Retry, and a packet for a session that the application
has registered. -/
def demoTraffic : List Event :=
  [.route demoEnv (demoSessionRequest []) demoAddr,
    .routerAddSession ⟨0, demoAddr, some 7, [], 9⟩,
    .route demoEnv { demoSessionRequest [] with
      header := HandshakeHandler.longHeader messageTypeSessionRequest 9 7 [] } demoAddr]

theorem routed_packets_delivered_demoTraffic :
    let s := exec (SSU2Listener.step demoHost ⟨fun _ _ _ => 0⟩) (newPacketRouter, demoListener)
      (demoTraffic.take 2)
    let packet := { demoSessionRequest [] with
      header := HandshakeHandler.longHeader messageTypeSessionRequest 9 7 [] }
    (route demoHost demoEnv (some packet) (some demoAddr) s).1 = .ok () ∧
      Delivered demoHost s demoEnv packet demoAddr := by
  intro s packet
  refine ⟨by decide +kernel, ?_⟩
  have hes : Always (SSU2Listener.step demoHost ⟨fun _ _ _ => 0⟩)
      (fun s e => ∀ env packet addr, routed ⟨fun _ _ _ => 0⟩ s.2 e = some (env, packet, addr) →
        OpensNone s packet) (newPacketRouter, demoListener) demoTraffic := ?_
  · exact ((routed_packets_delivered hes).2.2.1 demoEnv packet demoAddr rfl).1
  refine ⟨?_, ?_, ?_, trivial⟩
  · rintro env packet addr ⟨⟩ -
    refine Or.inr ⟨rfl, rfl, ?_⟩
    rintro blocks ⟨⟩
    rfl
  · rintro env packet addr ⟨⟩
  · rintro env packet addr ⟨⟩ -
    refine Or.inl ?_
    rintro connID hid
    obtain rfl : (7 : UInt64) = connID := Except.ok.inj hid
    decide +kernel

/-- Without `RequireRetry`: a session request and its retransmission open two sessions for the same
address, and neither packet is handed to a session. -/
theorem retransmission_opens_second :
    let request := demoSessionRequest [0, 0, 4, 0, 0, 0, 0]
    let l := { demoListener with config := { demoConfig with requireRetry := false } }
    let first := route demoHost demoEnv (some request) (some demoAddr) (newPacketRouter, l)
    let second := route demoHost { demoEnv with connID₁ := .ok ⟨8, by decide⟩ } (some request)
      (some demoAddr) first.2
    first.1 = .ok () ∧ second.1 = .ok () ∧ second.2.1.inbound = [] ∧
      (second.2.1.sessions.lookup 7).map ConnRef.remoteAddr = some demoAddr ∧
      (second.2.1.sessions.lookup 8).map ConnRef.remoteAddr = some demoAddr := by
  decide +kernel

end GoNoise.SSU2.SSU2Listener
