import GoNoise.SSU2.Server.Listener
import GoNoise.SSU2.Session.ConnHandshake

/-!
# Retry and the second session request

The listener sends a token in a Retry; the initiator reads it from the NewToken block and sends a
session request with the token in header bytes 24 to 31; the listener looks for a NewToken block in
the payload of that request. The payload is the ciphertext of the Noise message, and the blocks in
it are DateTime and Options.
-/

namespace GoNoise.SSU2

open BigEndian SSU2Packet

namespace SSU2Listener

section Retry

variable {env : ListenEnv} {l l' : SSU2Listener} {token originalHeader : Bytes} {p : SSU2Packet}

section
variable (h : l.retryPacket env token originalHeader = .ok p)
include h

theorem payload_of_retryPacket :
    ∃ block, newNewTokenBlock (env.now + l.tokenCache.ttl) token = .ok block ∧
      deserializeBlocks p.payload =
        .ok [newSSU2Block blockTypeDateTime (putUint32 (UInt32.ofInt (unix env.now))), block] := by
  unfold retryPacket buildRetryPayload at h
  split_ifs at h
  cases hblock : newNewTokenBlock (env.now + l.tokenCache.ttl) token with
  | error e =>
    rw [hblock] at h
    cases h
  | ok block =>
    have htype : block.type = blockTypeNewToken := by rw [(newNewTokenBlock_eq_ok_iff.mp hblock).2]
    have hdate : SSU2Block.Valid
        (newSSU2Block blockTypeDateTime (putUint32 (UInt32.ofInt (unix env.now)))) := by
      refine ⟨?_, fun minSize hmin => ?_⟩
      · rw [newSSU2Block, length_putUint32]
        decide
      · obtain rfl : minSize = 4 := (Option.some.inj hmin).symm
        exact (length_putUint32 _).ge
    have hvalid : ∀ b ∈ [newSSU2Block blockTypeDateTime (putUint32 (UInt32.ofInt (unix env.now))),
        block], b.Valid := by
      simp only [List.mem_cons, List.not_mem_nil, or_false, forall_eq_or_imp, forall_eq]
      exact ⟨hdate, valid_of_newNewTokenBlock hblock⟩
    have hnormal : ∀ b ∈ [newSSU2Block blockTypeDateTime (putUint32 (UInt32.ofInt (unix env.now))),
        block], b.type ≠ blockTypeTermination ∧ b.type ≠ blockTypePadding := by
      simp only [List.mem_cons, List.not_mem_nil, or_false, forall_eq_or_imp, forall_eq, htype]
      have hdateType : blockTypeDateTime ≠ blockTypeTermination ∧
          blockTypeDateTime ≠ blockTypePadding := by decide
      exact ⟨hdateType, by decide⟩
    rw [hblock] at h
    dsimp only at h
    rw [serializeBlocks_of_valid hvalid hnormal] at h
    dsimp only at h
    split at h
    · cases h
    · cases h
      exact ⟨block, rfl, deserializeBlocks_flatten hvalid⟩

theorem header_of_retryPacket :
    p.messageType = messageTypeRetry ∧ ∃ dest rest, dest.length = 8 ∧ p.header = dest ++
      ([0, 0, 0, 0, messageTypeRetry, ssu2ProtocolVersion, ssu2NetworkID, 0] ++ rest) := by
  unfold retryPacket at h
  split_ifs at h
  split at h
  · cases h
  split at h
  · cases h
  · rename_i header hheader
    unfold buildRetryHeader at hheader
    dsimp only at hheader
    split at hheader
    · cases hheader
    · cases hheader
      cases h
      refine ⟨rfl, _, _, ?_, by simp only [List.append_assoc]; rfl⟩
      split_ifs
      · rw [List.length_take, List.length_drop]
        omega
      · rw [List.length_take]
        omega
      · exact List.length_replicate

theorem deserialize_of_retryPacket {data : Bytes} {q : SSU2Packet}
    (hser : p.serialize = .ok (data, q)) (t : Time) :
    ∃ retry, (newSSU2Packet 0 0 0).deserialize t data = .ok retry ∧
      retry.payload = p.payload := by
  obtain ⟨htype, dest, rest, hdest, hheader⟩ := header_of_retryPacket h
  obtain ⟨hvalid, rfl, rfl⟩ := (serialize_eq_ok_iff p q data).mp hser
  set q : SSU2Packet := { p with header := p.header.set 12 p.messageType } with hq
  have hqvalid : q.Valid := hvalid.set_header 12 p.messageType
  have hqheader : q.header = dest ++ ([0, 0, 0, 0, messageTypeRetry, ssu2ProtocolVersion,
      ssu2NetworkID, 0] ++ rest) := by
    rw [hq, hheader, htype]
    rw [List.set_append_right _ _ (by omega), hdest]
    rfl
  have hbyte : ∀ k, q.header.getD (8 + k) 0 = ([0, 0, 0, 0, messageTypeRetry, ssu2ProtocolVersion,
      ssu2NetworkID, 0] ++ rest).getD k 0 := by
    intro k
    rw [hqheader, List.getD_append_right _ _ _ _ (by omega), hdest, Nat.add_sub_cancel_left]
  have hdescribed : q.Described :=
    ⟨(hbyte 4).trans htype.symm, fun _ => ⟨hbyte 5, hbyte 6⟩⟩
  have hmin : minPacketSize ≤ q.totalSize := by
    have hlen := hqvalid.header
    have hmac := hqvalid.mac
    have hlong : q.getHeaderSize = longHeaderSize := by
      rw [getHeaderSize, show q.messageType = messageTypeRetry from htype]
      rfl
    rw [hlong] at hlen
    rw [totalSize, hlen, hmac, longHeaderSize, macSize, minPacketSize]
    omega
  exact ⟨_, deserialize_sections hqvalid hdescribed hmin t, rfl⟩

theorem extractRetryToken_of_retryPacket {retry : SSU2Packet}
    (hpayload : retry.payload = p.payload) :
    extractRetryToken retry = .ok token := by
  obtain ⟨block, hblock, hblocks⟩ := payload_of_retryPacket h
  have hfind : findBlockByType
      [newSSU2Block blockTypeDateTime (putUint32 (UInt32.ofInt (unix env.now))), block]
      blockTypeNewToken = some block := by
    obtain ⟨-, rfl⟩ := newNewTokenBlock_eq_ok_iff.mp hblock
    rfl
  rw [extractRetryToken, hpayload, hblocks]
  dsimp only
  rw [hfind]
  dsimp only
  rw [parseNewTokenBlock_newNewTokenBlock hblock]

end

theorem sendRetry_eq_ok {addr : UDPAddr} {size : ℕ}
    (h : l.sendRetry env addr token originalHeader size = (.ok (), l')) :
    ∃ packet data q, l.retryPacket env token originalHeader = .ok packet ∧
      packet.serialize = .ok (data, q) ∧
      l' = { l with underlying := l.underlying ++ [(addr, data)] } := by
  unfold sendRetry at h
  split at h
  · cases h
  rename_i packet hpacket
  split at h
  · cases h
  rename_i data q hser
  split_ifs at h
  · cases h
  split at h
  · cases h
  · cases h
    exact ⟨packet, data, q, hpacket, hser, rfl⟩

end Retry

variable {addr : UDPAddr} {env : ListenEnv} {host : Host} {packet : SSU2Packet}

theorem processTokenRequest_eq_ok {l l' : SSU2Listener}
    (h : l.processTokenRequest host env packet (some addr) = (.ok (), l')) :
    ∃ (l₀ : SSU2Listener) (token : Bytes) (stored : Token) (size : ℕ),
      l₀.underlying = l.underlying ∧
      l₀.tokenCache.tokens.lookup (host.addrString addr) = some stored ∧ stored.value = token ∧
      l₀.sendRetry env addr token packet.header size = (.ok (), l') := by
  obtain ⟨firstSight, issuanceLimiter, ⟨e, herr⟩ | ⟨token, tokenCache, size, hgen, hres⟩⟩ :=
    processTokenRequest_cases host env packet addr l
  · rw [herr] at h
    cases h
  · obtain ⟨stored, hlook, hvalue⟩ := TokenCache.lookup_of_generateToken host.addrString hgen
    exact ⟨{ l with
      firstSight := firstSight
      issuanceLimiter := issuanceLimiter
      tokenCache := tokenCache
      history := l.history ++ [.issued addr token] }, token, stored, size, rfl, hlook, hvalue,
      hres.symm.trans h⟩

/-- The initiator gets the token that the listener has stored. -/
theorem extractRetryToken_of_processTokenRequest {retry : SSU2Packet} {l l₁ : SSU2Listener}
    {data : Bytes} {t : Time}
    (hissue : l.processTokenRequest host env packet (some addr) = (.ok (), l₁))
    (hsent : l₁.underlying = l.underlying ++ [(addr, data)])
    (hrecv : (newSSU2Packet 0 0 0).deserialize t data = .ok retry) :
    ∃ stored, l₁.tokenCache.tokens.lookup (host.addrString addr) = some stored ∧
      extractRetryToken retry = .ok stored.value := by
  obtain ⟨l₀, token, stored, size, hunder, hlook, rfl, hsend⟩ := processTokenRequest_eq_ok hissue
  obtain ⟨p, data', q, hpacket, hser, rfl⟩ := sendRetry_eq_ok hsend
  obtain rfl : data' = data := by
    rw [hunder] at hsent
    simpa using hsent
  obtain ⟨retry', hretry', hpayload⟩ := deserialize_of_retryPacket hpacket hser t
  cases hretry'.symm.trans hrecv
  exact ⟨stored, hlook, extractRetryToken_of_retryPacket hpacket hpayload⟩

/-- Read as blocks, the bytes have a first NewToken block with the token, and it has not expired. -/
def PayloadHasToken (payload : Bytes) (now : Time) (token : Bytes) : Prop :=
  ∃ blocks block newToken, deserializeBlocks payload = .ok blocks ∧
    findBlockByType blocks blockTypeNewToken = some block ∧
    parseNewTokenBlock block = .ok newToken ∧ newToken.token = token ∧
    unix now ≤ newToken.expiration.toNat

/-- What `validateSessionRequestToken` accepts from an address that has an unexpired token. -/
theorem validateSessionRequestToken_eq_ok_iff {now : Time} {l : SSU2Listener} {stored : Token}
    (hstored : l.tokenCache.validToken now (host.addrString addr) = some stored)
    (hlen : stored.value.length = tokenSize) :
    (l.validateSessionRequestToken host now packet addr).1 = .ok () ↔
      PayloadHasToken packet.payload now stored.value := by
  unfold validateSessionRequestToken PayloadHasToken
  split_ifs with hempty
  · refine iff_of_false (fun h => by cases h) ?_
    rintro ⟨blocks, block, newToken, hblocks, hfind, -⟩
    rw [List.eq_nil_of_length_eq_zero hempty] at hblocks
    cases hblocks
    cases hfind
  cases hblocks : deserializeBlocks packet.payload with
  | error e => simp
  | ok blocks =>
    dsimp only
    cases hfind : findBlockByType blocks blockTypeNewToken with
    | none => simp [hfind]
    | some block =>
      dsimp only
      cases hparse : parseNewTokenBlock block with
      | error e => simp [hfind, hparse]
      | ok newToken =>
        have hiff : (l.tokenCache.consumeToken host.addrString now newToken.token (some addr)).1 =
            true ↔ _ := TokenCache.consumeToken_eq_true_iff host.addrString
        have hinput : (∃ blocks' block' newToken', (.ok blocks : Except Oops _) = .ok blocks' ∧
            findBlockByType blocks' blockTypeNewToken = some block' ∧
            parseNewTokenBlock block' = .ok newToken' ∧ newToken'.token = stored.value ∧
            unix now ≤ newToken'.expiration.toNat) ↔
            newToken.token = stored.value ∧ unix now ≤ newToken.expiration.toNat := by
          simp [hfind, hparse]
        rw [hinput]
        dsimp only
        split_ifs with hexpired
        · exact iff_of_false (fun h => by cases h) fun h => absurd h.2 (not_le.mpr hexpired)
        · generalize l.tokenCache.consumeToken host.addrString now newToken.token (some addr) = res
            at hiff
          rw [hstored] at hiff
          obtain ⟨ok, tokenCache⟩ := res
          have htoken : ok = true ↔ newToken.token = stored.value := by
            rw [show ok = true ↔ _ from hiff]
            constructor
            · rintro ⟨-, token, ⟨⟩, hvalue⟩
              exact hvalue.symm
            · intro heq
              exact ⟨by rw [heq, hlen], stored, rfl, heq.symm⟩
          cases ok
          · exact iff_of_false (fun h => by cases h) fun h =>
              absurd (htoken.mpr h.1) Bool.false_ne_true
          · exact iff_of_true rfl ⟨htoken.mp rfl, not_lt.mp hexpired⟩

/-- **Retry completes**, for the requests whose ciphertext reads as blocks with the token. The
listener issues a token to an address, the initiator processes the Retry and builds a session
request with the token in header bytes 24 to 31, and the token is still stored and unexpired when
the request is validated. -/
theorem retry_completes_iff {σ : Type} {noise : Noise σ} {host : Host} {env : ListenEnv}
    {packet retry request : SSU2Packet} {addr : UDPAddr} {l l₁ l₂ : SSU2Listener} {data : Bytes}
    {t now' now : Time} {random : Bytes} {connectionID : UInt64} {h h' : HandshakeHandler σ}
    (hissue : l.processTokenRequest host env packet (some addr) = (.ok (), l₁))
    (hsent : l₁.underlying = l.underlying ++ [(addr, data)])
    (hrecv : (SSU2Packet.newSSU2Packet 0 0 0).deserialize t data = .ok retry)
    (hrequest : handleRetryResponse noise now' random connectionID retry h = (.ok request, h'))
    (hstored : l₂.tokenCache.tokens.lookup (host.addrString addr) =
      l₁.tokenCache.tokens.lookup (host.addrString addr))
    (hlifetime : (l₂.tokenCache.validToken now (host.addrString addr)).isSome) :
    (l₂.validateSessionRequestToken host now request addr).1 = .ok () ↔
      PayloadHasToken request.payload now (request.header.drop 24) := by
  obtain ⟨stored, hlook, htoken⟩ := extractRetryToken_of_processTokenRequest hissue hsent hrecv
  obtain ⟨hheader, hlen⟩ := token_of_handleRetryResponse hrequest
  obtain ⟨valid, hvalid⟩ := Option.isSome_iff_exists.mp hlifetime
  obtain ⟨hlook', -⟩ := TokenCache.validToken_eq_some_iff.mp hvalid
  obtain rfl : valid = stored := by
    rw [hlook', hlook] at hstored
    exact Option.some.inj hstored
  have hvalue : valid.value = request.header.drop 24 := Except.ok.inj (htoken.symm.trans hheader)
  rw [← hvalue]
  exact validateSessionRequestToken_eq_ok_iff hvalid (hvalue ▸ hlen)

/-! ## Two exchanges -/

/-- A listener that requires a token and issues tokens at once. -/
def demoConfig : ListenerConfig := ⟨[], 0, true, 0, 40, 80, false, 0, 0⟩

def demoListener : SSU2Listener where
  config := demoConfig
  underlying := []
  sessions := ∅
  tokenCache := newTokenCacheFromConfig demoConfig
  firstSight := .newFirstSightTracker 0 0
  issuanceLimiter := .newTokenIssuanceLimiter 40 80 0
  acceptQueue := .make 100
  introHeaderProtector := none
  sessionRateLimiter := .newIPRateLimiter sessionRequestsPerSecond sessionRateLimiterMaxIPs
  shutdown := false
  allocated := 0
  history := []

def demoHost : Host := ⟨fun addr => toString addr.port, fun _ => "192.0.2.1", id⟩

def demoToken : Bytes := [1, 2, 3, 4, 5, 6, 7, 8]

def demoEnv : ListenEnv where
  now := 1000 * second
  token := .ok demoToken
  srcConnID := .ok 77
  connID₁ := .ok ⟨7, by decide⟩
  connID₂ := .ok ⟨8, by decide⟩
  newConn := .ok ()
  preferShutdown := false
  tokenOrder := []
  ipOrder := []
  writeTo _ _ := .ok ()

def demoAddr : UDPAddr := ⟨[192, 0, 2, 1], 9000⟩

/-- A TokenRequest of the initiator whose connection ID is 9. -/
def demoTokenRequest : SSU2Packet where
  header := HandshakeHandler.longHeader messageTypeTokenRequest 9 0 []
  ephemeralKey := []
  payload := []
  mac := List.replicate macSize 0
  messageType := messageTypeTokenRequest
  packetNumber := 0
  timestamp := 0

/-- The listener after it has answered, and the datagram that it has sent. -/
def demoIssued : SSU2Listener :=
  (demoListener.processTokenRequest demoHost demoEnv demoTokenRequest (some demoAddr)).2

def demoData : Bytes := (demoIssued.underlying.map Prod.snd).flatten

def demoRetry : SSU2Packet :=
  match (newSSU2Packet 0 0 0).deserialize (1000 * second) demoData with
  | .ok retry => retry
  | .error _ => .newSSU2Packet 0 0 0

/-- A Noise package without state, whose messages are encrypted with the given function. -/
def demoNoise (encrypt : Bytes → Bytes) : Noise Unit where
  derivePublicKey := .ok
  newHandshakeState _ _ _ _ _ := .ok ()
  mixHash _ _ := ()
  writeMessage payload _ :=
    (.ok (List.replicate 32 7 ++ encrypt payload ++ List.replicate 16 0, none), ())
  chainingKey _ := []
  deriveIntermediateHeaderKey _ _ := []

def demoHandler : HandshakeHandler Unit :=
  ⟨true, List.replicate 32 1, List.replicate 32 2, (), none, none, [], [], none⟩

/-- The session request that answers the Retry. -/
def demoRequest (encrypt : Bytes → Bytes) : SSU2Packet :=
  match (handleRetryResponse (demoNoise encrypt) (1001 * second) [] 9 demoRetry demoHandler).1 with
  | .ok request => request
  | .error _ => .newSSU2Packet 0 0 0

/-- A ciphertext that happens to be a NewToken block with the token, and a padding block. -/
def luckyCiphertext : Bytes := [17, 0, 12, 255, 255, 255, 255] ++ demoToken ++
    [254, 0, 4, 0, 0, 0, 0]

theorem retry_completes_lucky :
    let encrypt : Bytes → Bytes := fun _ => luckyCiphertext
    (demoIssued.validateSessionRequestToken demoHost (1002 * second) (demoRequest encrypt)
      demoAddr).1 = .ok () := by
  intro encrypt
  have hissue : demoListener.processTokenRequest demoHost demoEnv demoTokenRequest (some demoAddr) =
      (.ok (), demoIssued) := Prod.ext (by decide +kernel) rfl
  have hrecv : (newSSU2Packet 0 0 0).deserialize (1000 * second) demoData =
      .ok demoRetry := by decide +kernel
  have hrequest : handleRetryResponse (demoNoise encrypt) (1001 * second) [] 9 demoRetry
      demoHandler = (.ok (demoRequest encrypt),
        (handleRetryResponse (demoNoise encrypt) (1001 * second) [] 9 demoRetry demoHandler).2) :=
    Prod.ext (by decide +kernel) rfl
  have hsent : demoIssued.underlying = demoListener.underlying ++ [(demoAddr, demoData)] := by
    decide +kernel
  refine (retry_completes_iff hissue hsent hrecv hrequest rfl (by decide +kernel)).mpr ?_
  refine ⟨[⟨17, [255, 255, 255, 255] ++ demoToken⟩, ⟨254, [0, 0, 0, 0]⟩], _,
    ⟨4294967295, demoToken⟩,
    ?_, rfl, ?_, ?_, ?_⟩
  all_goals decide +kernel

/-- With a ciphertext that does not read as blocks the listener finds no token, although the request
carries the token in its header. -/
theorem retry_token_not_found :
    let request := demoRequest (List.map (· ^^^ 0x5a))
    request.header.drop 24 = demoToken ∧
      (demoIssued.tokenCache.consumeToken demoHost.addrString (1002 * second) demoToken
        (some demoAddr)).1 = true ∧
      (demoIssued.validateSessionRequestToken demoHost (1002 * second) request demoAddr).1 =
        .error .noTokenPresent := by
  exact ⟨by decide +kernel, by decide +kernel, by decide +kernel⟩

end SSU2Listener
end GoNoise.SSU2
