import GoNoise.Library.Assoc
import GoNoise.SSU2.Wire.Packet

/-!
# `ssu2/session/packet_router.go`: from packets to sessions

The router finds a session by the destination connection ID of a packet and hands the packet to it,
or asks its handler for a new session.
-/

namespace GoNoise.SSU2

/-- A session as the router and the listener know it: which one it is, and the fields that do not
change. -/
structure ConnRef where
  ptr : ℕ
  remoteAddr : UDPAddr
  /-- `ssu2Addr.ConnectionID()`, unless `ssu2Addr` is nil -/
  connectionID : Option UInt64
  routerHash : Bytes
  initiatorConnectionID : UInt64
  deriving DecidableEq

structure PacketRouter where
  sessions : GoMap UInt64 ConnRef
  /-- the calls of `processInboundPacket` so far -/
  inbound : List (ConnRef × SSU2Packet)

namespace PacketRouter

def newPacketRouter : PacketRouter := ⟨∅, []⟩

def addSession (conn : Option ConnRef) (pr : PacketRouter) : Except Oops Unit × PacketRouter :=
  match conn with
  | none => (.error ⟨"INVALID_SESSION", "packet_router", [], "connection cannot be nil"⟩, pr)
  | some conn =>
    match conn.connectionID with
    | none =>
      (.error ⟨"INVALID_SESSION_ADDR", "packet_router", [], "connection must have SSU2Addr"⟩, pr)
    | some connID =>
      if connID ∈ pr.sessions then
        (.error ⟨"DUPLICATE_CONNECTION_ID", "packet_router", [("connection_id", connID.toNat)],
          "connection ID already registered"⟩, pr)
      else (.ok (), { pr with sessions := pr.sessions.insert connID conn })

def removeSession (connID : UInt64) (pr : PacketRouter) : PacketRouter :=
  { pr with sessions := pr.sessions.erase connID }

def getSession (connID : UInt64) (pr : PacketRouter) : Option ConnRef := pr.sessions.lookup connID

def extractConnectionID (header : Bytes) : Except Oops UInt64 :=
  if header.length < shortHeaderSize then
    .error ⟨"INVALID_HEADER_SIZE", "packet_router", [("size", header.length)],
      s!"header too short (minimum {shortHeaderSize} bytes)"⟩
  else .ok (BigEndian.uint64 (header.take 8))

def isHandshakePacket (msgType : UInt8) : Bool :=
  msgType = messageTypeSessionRequest ∨ msgType = messageTypeTokenRequest

section Route

variable {τ : Type}
    (newSessionHandler : Option (UDPAddr → SSU2Packet → τ → Except Oops ConnRef × τ))

def routePacket (packet : Option SSU2Packet) (remoteAddr : Option UDPAddr)
    (s : PacketRouter × τ) : Except Oops Unit × PacketRouter × τ :=
  let (pr, l) := s
  match packet with
  | none => (.error ⟨"INVALID_PACKET", "packet_router", [], "packet cannot be nil"⟩, s)
  | some packet =>
    match remoteAddr with
    | none =>
      (.error ⟨"INVALID_REMOTE_ADDR", "packet_router", [], "remote address cannot be nil"⟩, s)
    | some remoteAddr =>
      match extractConnectionID packet.header with
      | .error e => (.error (e.wrapf "failed to extract connection ID"), s)
      | .ok connID =>
        match pr.getSession connID with
        | some conn => (.ok (), { pr with inbound := pr.inbound ++ [(conn, packet)] }, l)
        | none =>
          if isHandshakePacket packet.messageType then
            match newSessionHandler with
            | none =>
              (.error ⟨"NO_SESSION_HANDLER", "packet_router", [],
                "no handler registered for new sessions"⟩, s)
            | some handler =>
              match handler remoteAddr packet l with
              | (.error e, l) => (.error (e.wrapf "failed to create new session"), pr, l)
              | (.ok newConn, l) =>
                match pr.addSession (some newConn) with
                | (.error e, pr) => (.error (e.wrapf "failed to register new session"), pr, l)
                | (.ok (), pr) => (.ok (), pr, l)
          else
            (.error ⟨"SESSION_NOT_FOUND", "packet_router",
              [("connection_id", connID.toNat), ("message_type", packet.messageType.toNat)],
              "no session found for connection ID"⟩, s)

variable {newSessionHandler} {packet : SSU2Packet} {addr : UDPAddr} {pr : PacketRouter} {l : τ}
  {connID : UInt64}

/-- Without a session, a packet that cannot open one is an error and changes nothing. -/
theorem routePacket_of_not_handshake
    (hnone : ∀ connID, extractConnectionID packet.header = .ok connID → connID ∉ pr.sessions)
    (htype : isHandshakePacket packet.messageType = false) :
    ∃ e, routePacket newSessionHandler (some packet) (some addr) (pr, l) = (.error e, pr, l) := by
  unfold routePacket
  dsimp only
  cases hid : extractConnectionID packet.header with
  | error e => exact ⟨_, rfl⟩
  | ok connID =>
    dsimp only
    rw [getSession, AList.lookup_eq_none.mpr (hnone connID hid), htype]
    exact ⟨_, rfl⟩

theorem routePacket_handler (handler : UDPAddr → SSU2Packet → τ → Except Oops ConnRef × τ)
    (packet : SSU2Packet) (addr : UDPAddr) (pr : PacketRouter) (l : τ) :
    (routePacket (some handler) (some packet) (some addr) (pr, l)).2.2 = l ∨
      isHandshakePacket packet.messageType = true ∧
        (∃ connID, extractConnectionID packet.header = .ok connID ∧ connID ∉ pr.sessions) ∧
        (routePacket (some handler) (some packet) (some addr) (pr, l)).2.2 =
          (handler addr packet l).2 := by
  unfold routePacket
  dsimp only
  cases hid : extractConnectionID packet.header with
  | error e => exact Or.inl rfl
  | ok connID =>
    dsimp only
    cases hconn : pr.getSession connID with
    | some conn => exact Or.inl rfl
    | none =>
      split_ifs with htype
      · refine Or.inr ⟨htype, ⟨connID, rfl, AList.lookup_eq_none.mp hconn⟩, ?_⟩
        rcases handler addr packet l with ⟨e | newConn, l'⟩
        · rfl
        · dsimp only
          rcases pr.addSession (some newConn) with ⟨e | u, pr'⟩ <;> rfl
      · exact Or.inl rfl

end Route
end PacketRouter
end GoNoise.SSU2
