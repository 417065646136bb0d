import GoNoise.SSU2.Server.RetryExchange

/-!
# Who gets a session

With `RequireRetry` a session should only be made for an address that has shown a token. The check
is made for session requests; the router hands TokenRequests for unknown connection IDs to the same
handler, which then makes a session without a check.
-/

namespace GoNoise.SSU2.SSU2Listener

open Trace PacketRouter SSU2Listener TokenCache

/-! ## Frames -/

section Frames

variable (host : Host) (env : ListenEnv) (l : SSU2Listener) (addr : UDPAddr)

theorem sendRetry_frame (token originalHeader : Bytes) (size : ℕ) :
    ∃ underlying, (l.sendRetry env addr token originalHeader size).2 =
      { l with underlying := underlying } := by
  unfold sendRetry
  split
  · exact ⟨l.underlying, rfl⟩
  split
  · exact ⟨l.underlying, rfl⟩
  split_ifs
  · exact ⟨l.underlying, rfl⟩
  split
  · exact ⟨l.underlying, rfl⟩
  · exact ⟨_, rfl⟩

theorem enforceRateLimit_frame :
    ∃ rl, (l.enforceRateLimit host env addr).2 = { l with sessionRateLimiter := rl } := by
  unfold enforceRateLimit
  split
  · exact ⟨_, rfl⟩
  · exact ⟨_, rfl⟩

theorem registerAndQueueConn_frame (conn : ConnRef) (connID : UInt64) :
    ∃ sessions acceptQueue, (l.registerAndQueueConn env conn connID).2 =
      { l with sessions := sessions, acceptQueue := acceptQueue } := by
  unfold registerAndQueueConn
  dsimp only
  split_ifs
  · exact ⟨_, l.acceptQueue, rfl⟩
  split
  · exact ⟨_, l.acceptQueue, rfl⟩
  · exact ⟨_, _, rfl⟩

theorem validateSessionRequestToken_cases (now : Time) (packet : SSU2Packet) (addr : UDPAddr) :
    (∃ e tokenCache, l.validateSessionRequestToken host now packet addr =
        (.error e, { l with tokenCache := tokenCache }) ∧ tokenCache.Within l.tokenCache) ∨
      ∃ token tokenCache, l.validateSessionRequestToken host now packet addr =
          (.ok (), { l with
            tokenCache := tokenCache
            history := l.history ++ [.consumed addr token.value] }) ∧
        tokenCache.Within l.tokenCache ∧
        l.tokenCache.tokens.lookup (host.addrString addr) = some token := by
  have hsame : ∀ e : TokenError, ∃ e' tokenCache,
      ((.error e, l) : Except TokenError Unit × SSU2Listener) =
        (.error e', { l with tokenCache := tokenCache }) ∧ tokenCache.Within l.tokenCache :=
    fun e => ⟨e, l.tokenCache, rfl, .refl _⟩
  unfold validateSessionRequestToken
  split_ifs
  · exact Or.inl (hsame _)
  split
  · exact Or.inl (hsame _)
  split
  · exact Or.inl (hsame _)
  split
  · exact Or.inl (hsame _)
  rename_i newToken _
  split_ifs
  · exact Or.inl (hsame _)
  rcases consumeToken_cases host.addrString now newToken.token (some addr) l.tokenCache with
    ⟨hfalse, hwithin⟩ | ⟨a, token, ha, hvalid, hvalue, hres⟩
  · generalize l.tokenCache.consumeToken host.addrString now newToken.token (some addr) = res
      at hfalse hwithin
    obtain ⟨ok, tokenCache⟩ := res
    obtain rfl : ok = false := hfalse
    exact Or.inl ⟨_, tokenCache, rfl, hwithin⟩
  · obtain rfl := Option.some.inj ha
    rw [hres, ← hvalue]
    exact Or.inr ⟨token, _, rfl, within_erase _ _,
      (validToken_eq_some_iff.mp hvalid).1⟩

end Frames

/-! ## Histories -/

/-- Each session comes right after the consumption, by a packet from its address, of a token that
had been issued to that address. -/
def Gated (host : Host) (history : List Effect) : Prop :=
  ∀ before conn packet after, history = before ++ .created conn packet :: after →
    ∃ earlier token addr, before = earlier ++ [.consumed conn.remoteAddr token] ∧
      .issued addr token ∈ earlier ∧ host.addrString addr = host.addrString conn.remoteAddr

section Gated

variable {host : Host} {history : List Effect}

theorem Gated.nil : Gated host [] := by
  intro before conn packet after h
  cases before <;> cases h

/-- The entry at a split of a list with one more entry is an old entry or that one. -/
theorem split_concat {α : Type} {l before after : List α} {x y : α}
    (h : l ++ [x] = before ++ y :: after) :
    (∃ after', l = before ++ y :: after') ∨ before = l ∧ y = x := by
  rcases List.eq_nil_or_concat after with rfl | ⟨after', z, rfl⟩
  · obtain ⟨hl, hx⟩ := List.append_inj' h rfl
    exact Or.inr ⟨hl.symm, (List.cons.inj hx).1.symm⟩
  · rw [List.concat_eq_append, ← List.cons_append, ← List.append_assoc] at h
    exact Or.inl ⟨after', (List.append_inj' h rfl).1⟩

theorem Gated.concat (h : Gated host history) {x : Effect}
    (hx : ∀ conn packet, x ≠ .created conn packet) : Gated host (history ++ [x]) := by
  intro before conn packet after hsplit
  rcases split_concat hsplit with ⟨after', hold⟩ | ⟨-, hnew⟩
  · exact h before conn packet after' hold
  · exact absurd hnew.symm (hx conn packet)

theorem Gated.created (h : Gated host history) {addr addr' : UDPAddr} {token : Bytes}
    (hissued : .issued addr' token ∈ history) (haddr : host.addrString addr' = host.addrString addr)
    {conn : ConnRef} (hconn : conn.remoteAddr = addr) {packet : SSU2Packet} :
    Gated host (history ++ [.consumed addr token] ++ [.created conn packet]) := by
  intro before conn' packet' after hsplit
  rcases split_concat hsplit with ⟨after', hold⟩ | ⟨rfl, hnew⟩
  · exact h.concat (fun _ _ => by rintro ⟨⟩) before conn' packet' after' hold
  · cases hnew
    rw [hconn]
    exact ⟨history, token, addr', rfl, hissued, haddr⟩

end Gated

/-! ## The invariant -/

/-- With `RequireRetry`: each stored token was issued, and the history is gated. -/
structure Gate (host : Host) (l : SSU2Listener) : Prop where
  requireRetry : l.config.requireRetry = true
  issued : ∀ k token, l.tokenCache.tokens.lookup k = some token →
    ∃ addr, .issued addr token.value ∈ l.history ∧ host.addrString addr = k
  gated : Gated host l.history

section Gate

variable {host : Host} {l l' : SSU2Listener} {packet : SSU2Packet} {s : PacketRouter × SSU2Listener}

section
variable (h : Gate host l)
include h

/-- Tokens may be dropped, and what is not mentioned may change. -/
theorem Gate.within (hconfig : l'.config = l.config) (hcache : l'.tokenCache.Within l.tokenCache)
    (hhistory : l'.history = l.history) :
    Gate host l' where
  requireRetry := by rw [hconfig, h.requireRetry]
  issued k token hlook := by
    rw [hhistory]
    exact h.issued k token (hcache.tokens k token hlook)
  gated := by
    rw [hhistory]
    exact h.gated

theorem Gate.frame (hconfig : l'.config = l.config) (hcache : l'.tokenCache = l.tokenCache)
    (hhistory : l'.history = l.history) : Gate host l' :=
  h.within hconfig (hcache ▸ .refl _) hhistory

theorem Gate.processTokenRequest (env : ListenEnv) (packet : SSU2Packet)
    (addr : UDPAddr) : Gate host (l.processTokenRequest host env packet (some addr)).2 := by
  obtain ⟨firstSight, issuanceLimiter, ⟨e, herr⟩ | ⟨token, tokenCache, size, hgen, hres⟩⟩ :=
    processTokenRequest_cases host env packet addr l
  · rw [herr]
    exact h.frame rfl rfl rfl
  · rw [hres]
    obtain ⟨underlying, hframe⟩ := sendRetry_frame env { l with
      firstSight := firstSight
      issuanceLimiter := issuanceLimiter
      tokenCache := tokenCache
      history := l.history ++ [.issued addr token] } addr token packet.header size
    rw [hframe]
    refine ⟨h.requireRetry, fun k stored hlook => ?_, h.gated.concat fun _ _ => by rintro ⟨⟩⟩
    rcases stored_of_generateToken host.addrString hgen hlook with hold | ⟨rfl, rfl⟩
    · obtain ⟨a, hissued, ha⟩ := h.issued k stored hold
      exact ⟨a, List.mem_append_left _ hissued, ha⟩
    · exact ⟨addr, by simp, rfl⟩

theorem Gate.handleSessionRequestToken (env : ListenEnv) (addr : UDPAddr)
    (htype : packet.messageType = messageTypeSessionRequest) :
    (∃ e l', l.handleSessionRequestToken host env packet addr = (.error e, l') ∧ Gate host l') ∨
      ∃ token tokenCache addr', l.handleSessionRequestToken host env packet addr =
          (.ok (), { l with
            tokenCache := tokenCache
            history := l.history ++ [.consumed addr token] }) ∧
        tokenCache.Within l.tokenCache ∧ .issued addr' token ∈ l.history ∧
        host.addrString addr' = host.addrString addr := by
  unfold SSU2Listener.handleSessionRequestToken
  rw [if_neg (not_not.mpr htype)]
  rcases validateSessionRequestToken_cases host l env.now packet addr with
    ⟨e, tokenCache, hres, hwithin⟩ | ⟨token, tokenCache, hres, hwithin, hlook⟩
  · rw [hres]
    have hgate : Gate host { l with tokenCache := tokenCache } := h.within rfl hwithin rfl
    left
    cases e with
    | noTokenPresent =>
      dsimp only
      rw [if_pos h.requireRetry]
      have hprocess := hgate.processTokenRequest env packet addr
      generalize SSU2Listener.processTokenRequest host env packet (some addr) _ = res at hprocess
      obtain ⟨e | u, l'⟩ := res <;> exact ⟨_, l', rfl, hprocess⟩
    | failed e => exact ⟨_, _, rfl, hgate⟩
  · rw [hres]
    obtain ⟨addr', hissued, haddr⟩ := h.issued _ _ hlook
    exact Or.inr ⟨token.value, tokenCache, addr', rfl, hwithin, hissued, haddr⟩

theorem Gate.handleNewSession (env : ListenEnv) (addr : UDPAddr)
    (htype : packet.messageType = messageTypeSessionRequest) :
    Gate host (l.handleNewSession host env addr packet).2 := by
  obtain ⟨rl, hlimit⟩ := enforceRateLimit_frame host env l addr
  unfold SSU2Listener.handleNewSession
  generalize l.enforceRateLimit host env addr = res at hlimit
  obtain ⟨e | u, l₁⟩ := res <;> obtain rfl := hlimit <;> dsimp only
  · exact h.frame rfl rfl rfl
  have h₁ : Gate host { l with sessionRateLimiter := rl } := h.frame rfl rfl rfl
  rcases h₁.handleSessionRequestToken env addr htype with
    ⟨e, l₂, hres, h₂⟩ | ⟨token, tokenCache, addr', hres, hwithin, hissued, haddr⟩
  · rw [hres]
    exact h₂
  rw [hres]
  dsimp only
  -- the token is consumed, whether a session is made or not
  have h₂ : Gate host { l with
      sessionRateLimiter := rl
      tokenCache := tokenCache
      history := l.history ++ [.consumed addr token] } := by
    refine ⟨h.requireRetry, fun k stored hlook => ?_, h.gated.concat fun _ _ => by rintro ⟨⟩⟩
    obtain ⟨a, ha, hk⟩ := h.issued k stored (hwithin.tokens k stored hlook)
    exact ⟨a, List.mem_append_left _ ha, hk⟩
  split
  · exact h₂
  split_ifs
  · exact h₂
  split
  · exact h₂
  · obtain ⟨sessions, acceptQueue, hframe⟩ := registerAndQueueConn_frame env _ _ _
    rw [hframe]
    refine ⟨h.requireRetry, fun k stored hlook => ?_, h.gated.created hissued haddr rfl⟩
    obtain ⟨a, ha, hk⟩ := h₂.issued k stored hlook
    exact ⟨a, List.mem_append_left _ ha, hk⟩

end

/-- A TokenRequest goes to a session that is registered. -/
def TokenRequestKnown (chacha20 : ChaCha20) (s : PacketRouter × SSU2Listener) (e : Event) : Prop :=
  ∀ env packet addr, routed chacha20 s.2 e = some (env, packet, addr) →
    packet.messageType = messageTypeTokenRequest →
    ∀ connID, extractConnectionID packet.header = .ok connID → connID ∈ s.1.sessions

theorem Gate.route (h : Gate host s.2) (env : ListenEnv) (addr : UDPAddr)
    (hknown : packet.messageType = messageTypeTokenRequest →
      ∀ connID, extractConnectionID packet.header = .ok connID → connID ∈ s.1.sessions) :
    Gate host (SSU2Listener.route host env (some packet) (some addr) s).2.2 := by
  obtain ⟨pr, l⟩ := s
  rcases routePacket_handler (SSU2Listener.handleNewSession host env) packet addr pr l with hsame |
    ⟨htype, ⟨connID, hid, hnew⟩, hcall⟩
  · rw [SSU2Listener.route, hsame]
    exact h
  · rw [SSU2Listener.route, hcall]
    refine h.handleNewSession env addr ?_
    rcases of_decide_eq_true htype with hrequest | htoken
    · exact hrequest
    · exact absurd (hknown htoken connID hid) hnew

theorem Gate.step {chacha20 : ChaCha20} {e : Event} (h : Gate host s.2)
    (hknown : TokenRequestKnown chacha20 s e) :
    Gate host (SSU2Listener.step host chacha20 s e).2 := by
  obtain ⟨pr, l⟩ := s
  cases e with
  | datagram env data addr =>
    show Gate host (handleIncomingPacket host chacha20 env data addr (pr, l)).2
    unfold handleIncomingPacket
    cases hparse : parseInboundPacket chacha20 l.introHeaderProtector env.now data with
    | none => exact h
    | some packet =>
      have hrouted := h.route (s := (pr, l)) env addr
        (hknown env packet addr (by rw [routed, hparse]; rfl))
      dsimp only
      generalize SSU2Listener.route host env (some packet) (some addr) (pr, l) = res at hrouted
      obtain ⟨e | u, pr', l'⟩ := res <;> dsimp only
      · split_ifs
        · exact Gate.processTokenRequest hrouted env packet addr
        · exact hrouted
      · exact hrouted
  | route env packet addr => exact h.route env addr (hknown env packet addr rfl)
  | accept =>
    dsimp only [SSU2Listener.step]
    split
    · exact h
    · exact h.frame rfl rfl rfl
  | tokenCleanup now => exact h.within rfl (TokenCache.within_cleanup now _) rfl
  | addSession connID conn => exact h.frame rfl rfl rfl
  | removeSession connID => exact h.frame rfl rfl rfl
  | routerAddSession conn => exact h
  | routerRemoveSession connID => exact h
  | close => exact h.frame rfl rfl rfl

theorem gate_newSSU2Listener {config : ListenerConfig} {now : Time}
    (hnew : newSSU2Listener config now = .ok l) (hretry : config.requireRetry = true) :
    Gate host l := by
  unfold newSSU2Listener at hnew
  split at hnew
  · cases hnew
  · cases hnew
    refine ⟨hretry, fun k token hlook => ?_, .nil⟩
    rw [newTokenCacheFromConfig, newTokenCacheWithMaxSize_tokens] at hlook
    cases hlook

/-- **Retry gate.** With `RequireRetry`, in every run in which TokenRequests go to registered
sessions only, each session was made right after a packet from its address had consumed a token that
the listener had issued to that address. -/
theorem retry_gate {chacha20 : ChaCha20} {config : ListenerConfig} {now : Time}
    (hnew : newSSU2Listener config now = .ok l) (hretry : config.requireRetry = true)
    {es : List Event}
    (hknown : Always (SSU2Listener.step host chacha20) (TokenRequestKnown chacha20)
      (newPacketRouter, l) es) :
    Gated host (exec (SSU2Listener.step host chacha20) (newPacketRouter, l) es).2.history := by
  have hstart : Gate host (newPacketRouter, l).2 := gate_newSSU2Listener hnew hretry
  exact (exec_induct (I := fun s => Gate host s.2) (fun s e h hk => h.step hk) hstart hknown).gated

end Gate

/-! ## Two runs -/

def demoSessionRequest (payload : Bytes) : SSU2Packet where
  header := HandshakeHandler.longHeader messageTypeSessionRequest 9 0 []
  ephemeralKey := List.replicate 32 3
  payload := payload
  mac := List.replicate macSize 0
  messageType := messageTypeSessionRequest
  packetNumber := 0
  timestamp := 0

/-- A request without a token, which is answered with a Retry, and one that shows the token. -/
def demoArrivals : List Event :=
  [.route demoEnv (demoSessionRequest [0, 0, 4, 0, 0, 0, 0]) demoAddr,
    .route demoEnv (demoSessionRequest luckyCiphertext) demoAddr]

theorem retry_gate_session :
    let s := exec (SSU2Listener.step demoHost ⟨fun _ _ _ => 0⟩) (newPacketRouter, demoListener)
      demoArrivals
    s.2.allocated = 1 ∧ Gated demoHost s.2.history := by
  have hnew : newSSU2Listener demoConfig 0 = .ok demoListener := rfl
  refine ⟨by decide +kernel, retry_gate hnew rfl ⟨?_, ?_, trivial⟩⟩
  all_goals
    rintro env packet addr ⟨⟩ htype
    exact absurd htype (by decide)

/-- A TokenRequest from an address that never had a token gets a session. -/
theorem tokenRequest_opens_session :
    let s := SSU2Listener.step demoHost ⟨fun _ _ _ => 0⟩ (newPacketRouter, demoListener)
      (.datagram demoEnv demoTokenRequest.sections demoAddr)
    demoListener.config.requireRetry = true ∧ s.1.sessions.size = 1 ∧
      ¬ Gated demoHost s.2.history := by
  refine ⟨rfl, by decide +kernel, fun h => ?_⟩
  have hhistory : (step demoHost ⟨fun _ _ _ => 0⟩ (newPacketRouter, demoListener)
      (.datagram demoEnv demoTokenRequest.sections demoAddr)).2.history =
        [] ++ .created ⟨0, demoAddr, some 7, List.replicate 32 0, 9⟩
          { demoTokenRequest with timestamp := demoEnv.now } :: [] := by decide +kernel
  obtain ⟨earlier, token, addr, hbefore, -⟩ := h _ _ _ _ hhistory
  exact List.append_ne_nil_of_right_ne_nil _ (List.cons_ne_nil _ _) hbefore.symm

end GoNoise.SSU2.SSU2Listener
