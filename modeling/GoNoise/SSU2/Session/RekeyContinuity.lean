import GoNoise.SSU2.Session.RekeyEpochs
import GoNoise.SSU2.Session.Pair

/-!
# Rekeying and the receive window

What the sender has written leads from what the receiver has taken to where the sender is, so the
argument is about the head of the queue only.
-/

namespace GoNoise.SSU2

open Trace

/-! ## The receiver -/

variable {aead : Aead}

theorem Emission.SealedWith.parse {ctx ctx' : HeaderContext} {h₀ h : SSU2Conn} {key : Bytes}
    {e : Emission} (he : e.SealedWith aead ctx h₀ key) (hm : SSU2Conn.MatchingHeaders ctx ctx')
    (hkey : h.recvKey = some key) (hstate : h.state = .established) (env : RecvEnv)
    (addr : UDPAddr) :
    ∃ packet validate h', h.parseInboundPacket aead ctx' env e.data (some addr) =
        (some packet, validate, h') ∧ packet.messageType = messageTypeData ∧
      packet.packetNumber = e.packetNumber ∧ packet.payload = e.payload ∧
      h'.recvKey = some key ∧ h'.config = h.config ∧ h'.recvWindow = h.recvWindow := by
  obtain ⟨cipher, hcipher, rfl⟩ := Option.map_eq_some_iff.mp hkey
  obtain ⟨key', x, hencryptions, hdata⟩ := he.isSealed.applyOutboundHeaderProtection hm
  obtain rfl : cipher.key = key' := by
    have heq := he.encryptions.symm.trans hencryptions
    injection (List.cons.inj heq).1
  obtain ⟨hpacket, hconn⟩ := SSU2Conn.parseInboundPacket_sealed aead hm hcipher hstate
    e.packetNumber x he.isSealed.size env addr hdata
  generalize h.parseInboundPacket aead ctx' env e.data (some addr) = result at hpacket hconn
  obtain ⟨_, validate, h'⟩ := result
  obtain rfl : _ = some _ := hpacket
  obtain rfl : h' = _ := hconn
  exact ⟨_, validate, _, rfl, rfl, rfl, rfl, rfl, rfl, rfl⟩

/-- What the window holds at each point. -/
def ReceiveWindow.At (w : ReceiveWindow) : Epoch → Prop
  | .first m => w.Level m
  | .second n m => w.Behind n m

/-- The window takes the datagram that is due, if it has room. -/
theorem ReceiveWindow.At.insert {w : ReceiveWindow} {ctx : HeaderContext} {h₀ : SSU2Conn}
    {key newKey : Bytes} {x x' : Epoch} {d : Emission} (hw : w.At x)
    (hd : Advance aead ctx h₀ key newKey x d x') (hmax : w.maxSize ≤ 2 ^ 30)
    (hroom : w.window.size < w.maxSize) {packet : SSU2Packet}
    (hnumber : packet.packetNumber = d.packetNumber) :
    ∃ w' ready, w.insert (some packet) = (.ok ready, w') ∧ w'.At x' ∧ w'.maxSize = w.maxSize := by
  rw [← UInt32.toNat_inj] at hnumber
  cases hd with
  | data isSealed number payload => exact Level.insert hw (hnumber.trans number)
  | nextNonce isSealed number payload threshold max =>
    obtain ⟨w', ready, hinsert, hlevel, hsize⟩ := Level.insert hw (hnumber.trans number)
    refine ⟨w', ready, hinsert, ⟨threshold, max, hlevel.expected, fun k => ?_, ?_⟩, hsize⟩
    · rw [hlevel.window]
      exact iff_of_false (AList.notMem_empty k) (Nat.not_lt_zero _)
    · rw [hlevel.window]
      rfl
  | fresh isSealed number payload => exact Behind.insert hw hmax hroom (hnumber.trans number)

namespace Endpoint

theorem receive_of_insert {aead : Aead} {ctx : HeaderContext} {env : RecvEnv} {s : Endpoint}
    {data : Bytes} {addr validate : Option UDPAddr} {packet : SSU2Packet} {h : SSU2Conn}
    {w w' : ReceiveWindow} {ready : List SSU2Packet} (source : Option ℕ)
    (hfree : s.receiving = none)
    (hparse : s.conn.parseInboundPacket aead ctx env data addr = (some packet, validate, h))
    (htype : packet.messageType = messageTypeData) (hw : h.recvWindow = some w)
    (hinsert : w.insert (some packet) = (.ok ready, w')) :
    ∃ h', s.receive aead ctx env data addr source =
        { s with conn := h', receiving := some ⟨packet, source⟩ } ∧
      h'.config = h.config ∧ h'.recvKey = h.recvKey ∧ h'.recvWindow = some w' := by
  rw [Endpoint.receive, hfree, hparse]
  dsimp only
  rw [if_pos htype, SSU2Conn.insertWindow, hw]
  dsimp only
  rw [hinsert]
  refine ⟨_, rfl, ?_⟩
  rw [SSU2Conn.recordReceived]
  split_ifs <;> exact ⟨rfl, rfl, rfl⟩

/-- What the receive loop has in its hands, and the key it has. -/
inductive Hand (key newKey : Bytes) (s : Endpoint) : Epoch → Prop
  | before (m : ℕ) (recvKey : s.conn.recvKey = some key)
      (receiving : ∀ inbound ∈ s.receiving, Ordinary inbound.packet.payload) :
      Hand key newKey s (.first m)
  | handling (n : ℕ) (recvKey : s.conn.recvKey = some key) (inbound : Inbound)
      (receiving : s.receiving = some inbound)
      (payload : inbound.packet.payload = SSU2Conn.nextNoncePayload) :
      Hand key newKey s (.second n 0)
  | after (n m : ℕ) (recvKey : s.conn.recvKey = some newKey)
      (receiving : ∀ inbound ∈ s.receiving, Ordinary inbound.packet.payload) :
      Hand key newKey s (.second n m)

/-- The receiver is at a point. -/
structure Expects (key newKey : Bytes) (size : ℕ) (x : Epoch) (s : Endpoint) : Prop where
  enableNextNonce : s.conn.config.enableNextNonce = true
  messageType : ∀ inbound ∈ s.receiving, inbound.packet.messageType = messageTypeData
  recvWindow : ∃ w, s.conn.recvWindow = some w ∧ w.maxSize = size ∧ w.At x
  hand : Hand key newKey s x

namespace Expects

variable {aead : Aead} {ctx ctx' : HeaderContext} {h₀ : SSU2Conn} {key newKey : Bytes}
  {size : ℕ} {x x' : Epoch} {s s' : Endpoint} {d : Emission}

section
variable (hx : Expects key newKey size x s)
include hx

theorem of_hand (hconfig : s'.conn.config = s.conn.config)
    (hwindow : s'.conn.recvWindow = s.conn.recvWindow)
    (htype : ∀ inbound ∈ s'.receiving, inbound.packet.messageType = messageTypeData)
    (hhand : Hand key newKey s' x) : Expects key newKey size x s' :=
  ⟨by rw [hconfig]; exact hx.enableNextNonce, htype, by rw [hwindow]; exact hx.recvWindow, hhand⟩

theorem of_frame (hframe : SSU2Conn.RecvFrame s.conn s'.conn)
    (hreceiving : s'.receiving = s.receiving) : Expects key newKey size x s' := by
  have hkey := hframe.recvKey
  refine hx.of_hand hframe.config hframe.recvWindow (hreceiving ▸ hx.messageType) ?_
  cases hx.hand with
  | before m recvKey receiving => exact .before m (hkey.trans recvKey) (hreceiving ▸ receiving)
  | handling n recvKey inbound receiving payload =>
    exact .handling n (hkey.trans recvKey) inbound (hreceiving.trans receiving) payload
  | after n m recvKey receiving => exact .after n m (hkey.trans recvKey) (hreceiving ▸ receiving)

/-- The receive loop handles its packet. If it was the NextNonce packet, the new key is there. -/
theorem process (hhkdf : aead.hkdf key = .ok newKey)
    (now : Time) : Expects key newKey size x (s.process aead now) := by
  cases hreceiving : s.receiving with
  | none => grind [Endpoint.process]
  | some inbound =>
    have htype := hx.messageType inbound hreceiving
    obtain ⟨hprocess, hnone⟩ := process_frame aead now hreceiving
    have hempty : ∀ {P : Inbound → Prop}, ∀ inbound ∈ (s.process aead now).receiving,
        P inbound := by grind
    have hordinary : Ordinary inbound.packet.payload →
        SSU2Conn.RecvFrame s.conn (s.process aead now).conn := fun h =>
      (handled_ordinary aead now s.conn htype h).trans hprocess
    cases hx.hand with
    | before m recvKey receiving =>
      have hframe := hordinary (receiving inbound hreceiving)
      exact hx.of_hand hframe.config hframe.recvWindow hempty
        (.before m (hframe.recvKey.trans recvKey) hempty)
    | handling n recvKey inbound' receiving payload =>
      cases hreceiving.symm.trans receiving
      obtain ⟨hconfig, hwindow, hkey⟩ :=
        handled_nextNonce hhkdf now hx.enableNextNonce recvKey htype payload
      exact hx.of_hand (hprocess.config.trans hconfig) (hprocess.recvWindow.trans hwindow) hempty
        (.after n 0 (hprocess.recvKey.trans hkey) hempty)
    | after n m recvKey receiving =>
      have hframe := hordinary (receiving inbound hreceiving)
      exact hx.of_hand hframe.config hframe.recvWindow hempty
        (.after n m (hframe.recvKey.trans recvKey) hempty)

theorem key_of_advance (hd : Advance aead ctx h₀ key newKey x d x') (hfree : s.receiving = none) :
    ∃ k, d.SealedWith aead ctx h₀ k ∧ s.conn.recvKey = some k := by
  cases hx.hand with
  | before m recvKey receiving =>
    cases hd with
    | data isSealed number payload => exact ⟨key, isSealed, recvKey⟩
    | nextNonce isSealed number payload threshold max => exact ⟨key, isSealed, recvKey⟩
  | handling n recvKey inbound receiving payload =>
    exact absurd (hfree.symm.trans receiving) (fun h => by cases h)
  | after n m recvKey receiving =>
    cases hd with
    | fresh isSealed number payload => exact ⟨newKey, isSealed, recvKey⟩

/-- The datagram that is due is decrypted and taken. -/
theorem receive (hsize : size ≤ 2 ^ 30) (hm : SSU2Conn.MatchingHeaders ctx ctx')
    (hd : Advance aead ctx h₀ key newKey x d x') (hfree : s.receiving = none)
    (hstate : s.conn.state = .established)
    (hroom : ∀ w ∈ s.conn.recvWindow, w.window.size < w.maxSize) (env : RecvEnv) (addr : UDPAddr)
    (source : Option ℕ) :
    (∃ inbound, (s.receive aead ctx' env d.data (some addr) source).receiving = some inbound ∧
        inbound.packet.packetNumber = d.packetNumber ∧ inbound.packet.payload = d.payload) ∧
      Expects key newKey size x' (s.receive aead ctx' env d.data (some addr) source) := by
  obtain ⟨k, hsealed, hkey⟩ := hx.key_of_advance hd hfree
  obtain ⟨packet, validate, h, hparse, htype, hnumber, hpayload, hkey', hconfig, hwindow⟩ :=
    hsealed.parse hm hkey hstate env addr
  obtain ⟨w, hw, rfl, hat⟩ := hx.recvWindow
  obtain ⟨w', ready, hinsert, hat', hmax'⟩ := hat.insert hd hsize (hroom w hw) hnumber
  obtain ⟨h', hreceive, hconfig', hkey'', hwindow'⟩ :=
    receive_of_insert source hfree hparse htype (hwindow.trans hw) hinsert
  rw [hreceive]
  refine ⟨⟨_, rfl, hnumber, hpayload⟩, ?_, ?_, ⟨w', hwindow', hmax', hat'⟩, ?_⟩
  · rw [hconfig', hconfig]
    exact hx.enableNextNonce
  · rintro inbound ⟨⟩
    exact htype
  · have hk : h'.recvKey = s.conn.recvKey := hkey''.trans (hkey'.trans hkey.symm)
    cases hx.hand with
    | before m recvKey receiving =>
      cases hd with
      | data isSealed number payload =>
        refine .before _ (hk.trans recvKey) ?_
        rintro inbound ⟨⟩
        rwa [hpayload]
      | nextNonce isSealed number payload threshold max =>
        exact .handling _ (hk.trans recvKey) _ rfl (hpayload.trans payload)
    | handling n recvKey inbound receiving payload =>
      exact absurd (hfree.symm.trans receiving) (fun h => by cases h)
    | after n m recvKey receiving =>
      cases hd with
      | fresh isSealed number payload =>
        refine .after _ _ (hk.trans recvKey) ?_
        rintro inbound ⟨⟩
        rwa [hpayload]

end

end Expects

end Endpoint

/-! ## The pair -/

namespace Pair

/-- The other end writes in order, the channel to end `i` delivers in order and loses nothing, and
end `i` is in the data phase when a datagram arrives. -/
def Orderly (i : Side) (p : Pair) : Event → Prop
  | .act j e => j = i.other → (p.ends i.other).SendsInOrder e
  | .deliver j _ addr k => j = i →
      k = 0 ∧ addr.isSome = true ∧ (p.ends i).conn.state = .established
  | .lose j _ => j ≠ i

/-- When a datagram arrives at end `i`, the receive window is not full. -/
def HasRoom (i : Side) (p : Pair) : Event → Prop
  | .deliver j .. => j = i → ∀ w ∈ (p.ends i).conn.recvWindow, w.window.size < w.maxSize
  | .act .. | .lose .. => True

/-- A datagram that arrives at end `i` is decrypted, and the receive window takes it. -/
def Accepts (aead : Aead) (ctx : Side → HeaderContext) (i : Side) (p : Pair) : Event → Prop
  | .deliver j env addr k => j = i → (p.ends i).receiving = none → ∀ d ∈ (p.network i)[k]?,
      ∃ inbound, ((p.deliver aead ctx i env addr k).ends i).receiving = some inbound ∧
        inbound.packet.packetNumber = d.packetNumber ∧ inbound.packet.payload = d.payload
  | .act .. | .lose .. => True

/-- Two established connections with equal keys in the direction to end `i`, which takes part in
rekeying and has an empty receive window for `size` packets. -/
structure InStep (aead : Aead) (ctx : Side → HeaderContext) (h : Side → SSU2Conn) (i : Side)
    (key newKey : Bytes) (size : ℕ) : Prop where
  ready : ∀ j, Endpoint.Ready (h j)
  headers : SSU2Conn.MatchingHeaders (ctx i.other) (ctx i)
  sendKey : (h i.other).sendKey = some key
  recvKey : (h i).recvKey = some key
  hkdf : aead.hkdf key = .ok newKey
  enableNextNonce : (h i).config.enableNextNonce = true
  size_le : size ≤ 2 ^ 30
  recvWindow : ∃ w, (h i).recvWindow = some w ∧ w.maxSize = size ∧ w.Level 0

/-- What was written leads from where the receiver is to where the sender is. -/
structure Flows (aead : Aead) (ctx : Side → HeaderContext) (h : Side → SSU2Conn) (i : Side)
    (key newKey : Bytes) (size : ℕ) (x y : Epoch) (p : Pair) : Prop where
  wellFormed : (p.ends i).WellFormed aead (ctx i) (h i)
  expects : (p.ends i).Expects key newKey size x
  speaks : (p.ends i.other).Speaks aead (ctx i.other) (h i.other) key newKey y
  network : Path (Advance aead (ctx i.other) (h i.other) key newKey) x (p.network i) y

section
variable {aead : Aead} {ctx : Side → HeaderContext} {h : Side → SSU2Conn} {i : Side}
  {key newKey : Bytes} {size : ℕ} {x y : Epoch} {p : Pair} {e : Endpoint.Event}

theorem InStep.flows (hs : InStep aead ctx h i key newKey size) :
    Flows aead ctx h i key newKey size (.first 0) (.first 0) (start h) where
  wellFormed := .start (hs.ready i)
  expects := ⟨hs.enableNextNonce, (fun _ hmem => by cases hmem), hs.recvWindow,
    .before 0 hs.recvKey fun _ hmem => by cases hmem⟩
  speaks := ⟨.start (hs.ready i.other), (fun _ hmem => by cases hmem), rfl,
    .before 0 hs.sendKey (fun _ h => by cases h) (fun h => by cases h) fun _ hmem => by cases hmem⟩
  network := .nil _

section
variable (hf : Flows aead ctx h i key newKey size x y p)
include hf

section
variable (hs : InStep aead ctx h i key newKey size)
include hs

theorem Flows.act_self (he : ∀ env data addr source, e ≠ .receive env data addr source) :
    Flows aead ctx h i key newKey size x y (p.act aead ctx i e) := by
  refine ⟨?_, ?_, ?_, ?_⟩
  · rw [ends_act_self]
    exact hf.wellFormed.step e
  · rw [ends_act_self]
    by_cases hreceives : e.Receives
    · obtain ⟨now, rfl⟩ := hreceives.process he
      exact hf.expects.process hs.hkdf now
    · have hframe := hf.wellFormed.frame e
      exact hf.expects.of_frame (hframe.conn hreceives) (hframe.receiving hreceives)
  · rw [ends_act_other]
    exact hf.speaks
  · rw [network_act_self]
    exact hf.network

theorem Flows.act_other (he : (p.ends i.other).SendsInOrder e) :
    ∃ y', Flows aead ctx h i key newKey size x y' (p.act aead ctx i.other e) := by
  obtain ⟨y', hspeaks, hemissions⟩ := hf.speaks.step hs.hkdf he
  refine ⟨y', ?_, ?_, ?_, ?_⟩
  · rw [ends_act_of_other]
    exact hf.wellFormed
  · rw [ends_act_of_other]
    exact hf.expects
  · rwa [ends_act_self]
  · rw [network_act_of_other]
    rcases hemissions with ⟨hsame, rfl⟩ | ⟨d, hone, hadvance⟩
    · rw [hsame, List.drop_length, List.append_nil]
      exact hf.network
    · rw [hone, List.drop_left]
      exact hf.network.concat hadvance

theorem Flows.deliver_self {env : RecvEnv} {addr : Option UDPAddr} {k : ℕ}
    (ho : p.Orderly i (.deliver i env addr k)) (hr : p.HasRoom i (.deliver i env addr k)) :
    (∃ x', Flows aead ctx h i key newKey size x' y (p.deliver aead ctx i env addr k)) ∧
      p.Accepts aead ctx i (.deliver i env addr k) := by
  obtain ⟨rfl, haddr, hstate⟩ := ho rfl
  obtain ⟨addr, rfl⟩ := Option.isSome_iff_exists.mp haddr
  have hnetwork := hf.network
  rw [Accepts, Pair.deliver]
  cases hreceiving : (p.ends i).receiving with
  | some inbound => exact ⟨⟨x, hf⟩, fun _ h => by cases h⟩
  | none =>
    cases hqueue : p.network i with
    | nil => exact ⟨⟨x, hf⟩, fun _ _ d hd => by cases hd⟩
    | cons d rest =>
      rw [hqueue] at hnetwork
      obtain ⟨x', hadvance, hrest⟩ := path_cons.mp hnetwork
      obtain ⟨haccepts, hexpects⟩ := hf.expects.receive hs.size_le hs.headers hadvance hreceiving
        hstate (hr rfl) env addr d.tag
      dsimp only [List.getElem?_cons_zero]
      refine ⟨⟨x', ?_, ?_, ?_, ?_⟩, fun _ _ d' hd' => ?_⟩
      · show (Function.update p.ends i _ i).WellFormed aead (ctx i) (h i)
        rw [Function.update_self]
        exact hf.wellFormed.step _
      · show (Function.update p.ends i _ i).Expects key newKey size x'
        rw [Function.update_self]
        exact hexpects
      · show (Function.update p.ends i _ i.other).Speaks aead (ctx i.other) (h i.other) key newKey y
        rw [Function.update_of_ne i.other_ne]
        exact hf.speaks
      · show Path _ x' (Function.update p.network i rest i) y
        rwa [Function.update_self]
      · obtain rfl := Option.some.inj hd'
        rw [Function.update_self]
        exact haccepts

theorem Flows.deliver_other (env : RecvEnv) (addr : Option UDPAddr) (k : ℕ) :
    ∃ y', Flows aead ctx h i key newKey size x y' (p.deliver aead ctx i.other env addr k) := by
  rw [Pair.deliver]
  split
  · rename_i d _ _
    have horder : (p.ends i.other).SendsInOrder (.receive env d.data addr d.tag) := trivial
    obtain ⟨y', hspeaks, hemissions⟩ := hf.speaks.step hs.hkdf horder
    have hsame : ((p.ends i.other).step aead (ctx i.other)
        (.receive env d.data addr d.tag)).emissions = (p.ends i.other).emissions :=
      (hf.speaks.wellFormed.frame _).emissions (fun h => h)
    have hy : y' = y := by
      rcases hemissions with ⟨-, rfl⟩ | ⟨d', hone, -⟩
      · rfl
      · rw [hsame] at hone
        exact absurd hone (by simp)
    refine ⟨y', ?_, ?_, ?_, ?_⟩
    · show (Function.update p.ends i.other _ i).WellFormed aead (ctx i) (h i)
      rw [Function.update_of_ne i.other_ne.symm]
      exact hf.wellFormed
    · show (Function.update p.ends i.other _ i).Expects key newKey size x
      rw [Function.update_of_ne i.other_ne.symm]
      exact hf.expects
    · grind
    · show Path _ x (Function.update p.network i.other _ i) y'
      rw [Function.update_of_ne i.other_ne.symm, hy]
      exact hf.network
  · exact ⟨y, hf⟩

end

end

/-- One step: what was written leads on as before, and a datagram that arrives is taken. -/
theorem Flows.step (hs : InStep aead ctx h i key newKey size) {e : Event}
    (hf : ∃ x y, Flows aead ctx h i key newKey size x y p) (he : p.Orderly i e ∧ p.HasRoom i e) :
    (∃ x y, Flows aead ctx h i key newKey size x y (p.step aead ctx e)) ∧
      p.Accepts aead ctx i e := by
  obtain ⟨x, y, hf⟩ := hf
  obtain ⟨ho, hr⟩ := he
  cases e with
  | act j e =>
    refine ⟨?_, trivial⟩
    by_cases hreceive : ∃ env data addr source, e = .receive env data addr source
    · obtain ⟨env, data, addr, source, rfl⟩ := hreceive
      exact ⟨x, y, hf⟩
    · have hne : ∀ env data addr source, e ≠ .receive env data addr source :=
        fun env data addr source heq => hreceive ⟨env, data, addr, source, heq⟩
      rw [step_act aead ctx p j e hne]
      rcases Side.eq_or_eq_other i j with rfl | rfl
      · exact ⟨x, y, hf.act_self hs hne⟩
      · exact ⟨x, hf.act_other hs (ho rfl)⟩
  | deliver j env addr k =>
    rcases Side.eq_or_eq_other i j with rfl | rfl
    · obtain ⟨⟨x', hf'⟩, haccepts⟩ := hf.deliver_self hs ho hr
      exact ⟨⟨x', y, hf'⟩, haccepts⟩
    · obtain ⟨y', hf'⟩ := hf.deliver_other hs env addr k
      exact ⟨⟨x, y', hf'⟩, fun heq => absurd heq i.other_ne⟩
  | lose j k =>
    refine ⟨⟨x, y, hf.wellFormed, hf.expects, hf.speaks, ?_⟩, trivial⟩
    show Path _ x (Function.update p.network j _ i) y
    rw [Function.update_of_ne (Ne.symm ho)]
    exact hf.network

end

/-- **Rekey continuity.** In every run in which the sender writes in the order of the numbers, the
channel delivers in order and without loss, and the receive window has room for what arrives, every
datagram that arrives is decrypted and taken, before and after the NextNonce packet. -/
theorem rekey_continuity {aead : Aead} {ctx : Side → HeaderContext} {h : Side → SSU2Conn} {i : Side}
    {key newKey : Bytes} {size : ℕ} (hs : InStep aead ctx h i key newKey size) {es : List Event}
    (hes : Always (step aead ctx) (fun p e => p.Orderly i e ∧ p.HasRoom i e) (start h) es) :
    Always (step aead ctx) (fun p e => p.Accepts aead ctx i e) (start h) es :=
  always_of_invariant (I := fun p => ∃ x y, Flows aead ctx h i key newKey size x y p)
    (fun _ _ hf he => Flows.step hs hf he) ⟨_, _, hs.flows⟩ hes

end Pair

end GoNoise.SSU2
