import GoNoise.SSU2.Session.RekeyContinuity

/-!
# The receive window fills up after a rekey

Two connections that exchange one packet after the other, in order and without loss, until the
numbers run out and the sender rekeys. After the NextNonce packet the window takes as many packets
as it has places. The next one is decrypted and then refused, and with it all that follow.
-/

namespace GoNoise.SSU2

open Trace Endpoint SSU2Conn Pair

/-! ## One block -/

namespace Endpoint

/-- What is on its way to the socket. -/
structure Places (s : Endpoint) (writing queued sending : List Job)
    (encrypted sent : List EncryptedJob) : Prop where
  writing : s.writing = writing
  queued : s.sendQueue.items = queued
  sending : s.sending = sending
  encrypted : s.encrypted = encrypted
  sent : s.sent = sent
  capacity : 0 < s.sendQueue.capacity

/-- Key, counter, rekey and wire are as in `s`. -/
structure SameWire (s s' : Endpoint) : Prop where
  conn : SameSend s.conn s'.conn
  rekey : s'.rekey = s.rekey
  emissions : s'.emissions = s.emissions

theorem SameWire.trans {s₁ s₂ s₃ : Endpoint} (h : SameWire s₁ s₂) (h' : SameWire s₂ s₃) :
    SameWire s₁ s₃ :=
  ⟨h.conn.trans h'.conn, h'.rekey.trans h.rekey, h'.emissions.trans h.emissions⟩

section
variable {aead : Aead} {ctx ctx' : HeaderContext} {h₀ : SSU2Conn} {s : Endpoint} {data : Bytes}
  {job : Job} {packet : SSU2Packet}

theorem Places.writeBlock (hs : s.Places [] [] [] [] []) :
    ∃ job : Job, job.packet.packetNumber = s.conn.sendSequence ∧
      job.packet.payload = SSU2Block.wire ⟨blockTypePadding, [0]⟩ ∧
      (s.writeBlock ⟨blockTypePadding, [0]⟩).Places [job] [] [] [] [] ∧
      (s.writeBlock ⟨blockTypePadding, [0]⟩).conn = s.conn.nextSendSequence.2.2 ∧
      (s.writeBlock ⟨blockTypePadding, [0]⟩).rekey =
        (if .initiateRekey ∈ s.conn.nextSendSequence.2.1 then .started else s.rekey) ∧
      (s.writeBlock ⟨blockTypePadding, [0]⟩).emissions = s.emissions := by
  have hnum := s.conn.nextSendSequence_fst
  rcases hnext : s.conn.nextSendSequence with ⟨seq, spawned, h⟩
  rw [hnext] at hnum
  have hwrite : s.writeBlock ⟨blockTypePadding, [0]⟩ = { s with
      conn := h
      rekey := if .initiateRekey ∈ spawned then .started else s.rekey
      payloads := s.payloads ++ [SSU2Block.wire ⟨blockTypePadding, [0]⟩]
      writing := s.writing ++ [⟨{ h.dataPacket seq [] with
        payload := SSU2Block.wire ⟨blockTypePadding, [0]⟩ }, s.payloads.length⟩] } := by
    rw [Endpoint.writeBlock, writeBlock_padding hnext]
    rfl
  rw [hwrite]
  refine ⟨⟨{ h.dataPacket seq [] with payload := SSU2Block.wire ⟨blockTypePadding, [0]⟩ },
    s.payloads.length⟩, hnum, rfl,
    ⟨?_, hs.queued, hs.sending, hs.encrypted, hs.sent, hs.capacity⟩, rfl, rfl, rfl⟩
  exact congrArg (· ++ [_]) hs.writing

theorem Places.enqueue (hs : s.Places [job] [] [] [] []) :
    (s.enqueue 0).Places [] [job] [] [] [] ∧ SameWire s (s.enqueue 0) := by
  have hroom : s.sendQueue.HasRoom := by
    rw [Chan.HasRoom, hs.queued]
    exact hs.capacity
  obtain ⟨queue, hsend, hitems, hcapacity⟩ := Chan.trySend_of_hasRoom hroom job
  have hjob : s.writing[0]? = some job := by rw [hs.writing]; rfl
  rw [Endpoint.enqueue, hjob]
  dsimp only
  rw [hsend]
  refine ⟨⟨?_, ?_, hs.sending, hs.encrypted, hs.sent, ?_⟩, .refl _, rfl, rfl⟩
  · rw [hs.writing]
    rfl
  · rw [hitems, hs.queued]
    rfl
  · rw [hcapacity]
    exact hs.capacity

theorem Places.take (hs : s.Places [] [job] [] [] []) :
    s.take.Places [] [] [job] [] [] ∧ SameWire s s.take := by
  obtain ⟨queue, hrecv, hitems, hcapacity⟩ := Chan.tryRecv_of_items hs.queued
  unfold Endpoint.take
  rw [hrecv]
  refine ⟨⟨hs.writing, hitems, ?_, hs.encrypted, hs.sent, ?_⟩, .refl _, rfl, rfl⟩
  · rw [hs.sending]
    rfl
  · rw [hcapacity]
    exact hs.capacity

theorem Places.encrypt (hw : s.WellFormed aead ctx h₀) (hs : s.Places [] [] [job] [] [])
    (hfree : ∀ newKey, s.rekey ≠ .switching newKey) :
    ∃ key, (s.encrypt aead 0).Places [] [] [] [job.sealWith aead h₀ key] [] ∧
      SameWire s (s.encrypt aead 0) := by
  obtain ⟨cipher, hcipher⟩ := Option.isSome_iff_exists.mp hw.sendCipher
  have hjob : s.sending[0]? = some job := by rw [hs.sending]; rfl
  rw [hw.encrypt_eq hjob hcipher hfree]
  refine ⟨cipher.key, ⟨hs.writing, hs.queued, ?_, ?_, hs.sent, hs.capacity⟩,
    ⟨rfl, (sendKey_of_sendCipher hcipher).symm, rfl, rfl⟩, rfl, rfl⟩
  · rw [hs.sending]
    rfl
  · rw [hs.encrypted]
    rfl

/-- With header keys, an open socket takes a sealed packet of a small block. -/
theorem putOnWire_sealWith (aead : Aead) (h₀ : SSU2Conn) (hm : SSU2Conn.MatchingHeaders ctx ctx')
    (job : Job) (key : Bytes) (hne : job.packet.payload ≠ [])
    (hsize : job.packet.payload.length + 48 ≤ maxPacketSizeIPv6) :
    ∃ packet data,
      putOnWire (ctx.dataEnv .openSocket) (job.sealWith aead h₀ key).packet = .ok packet ∧
      wireData (ctx.dataEnv .openSocket) (job.sealWith aead h₀ key).packet = some data := by
  obtain ⟨hp, -, hprotect, -⟩ := hm.protector
  obtain ⟨x, hx⟩ := wireData_eq (h := h₀) job.packet.packetNumber
    (ctx.dataEnv .openSocket) (h₀.sealedPayload aead key job.packet.packetNumber job.packet.payload)
    (by rw [length_sealedPayload, macSize]; omega)
  have hdata : wireData (ctx.dataEnv .openSocket) (job.sealWith aead h₀ key).packet =
      some (hp.masked ctx.chacha20 (h₀.plainDatagram job.packet.packetNumber x
        (h₀.sealedPayload aead key job.packet.packetNumber job.packet.payload))) := by
    refine hx.trans ?_
    show (ctx.applyOutboundHeaderProtection messageTypeData _).toOption = _
    rw [hprotect _ (minPacketSize_le_sealed aead h₀ key _ x hne)]
    rfl
  obtain ⟨packet, hput⟩ := (putOnWire_eq_ok_iff _ _).mpr ⟨_, hdata, rfl⟩
  exact ⟨packet, _, hput, hdata⟩

theorem Places.emit {job : EncryptedJob} (hs : s.Places [] [] [] [job] [])
    (hput : putOnWire (ctx.dataEnv .openSocket) job.packet = .ok packet)
    (hdata : wireData (ctx.dataEnv .openSocket) job.packet = some data) :
    (s.emit ctx .openSocket 0).Places [] [] [] [] [{ job with packet := packet }] ∧
      SameSend s.conn (s.emit ctx .openSocket 0).conn ∧
      (s.emit ctx .openSocket 0).rekey = s.rekey ∧
      (s.emit ctx .openSocket 0).emissions = s.emissions ++
        [⟨data, job.packet.packetNumber, job.plaintext, job.encryptions, some job.tag⟩] := by
  have hjob : s.encrypted[0]? = some job := by rw [hs.encrypted]; rfl
  obtain ⟨h, hconn, heq⟩ := emit_eq hjob hput hdata
  rw [heq]
  refine ⟨⟨hs.writing, hs.queued, hs.sending, ?_, ?_, hs.capacity⟩, ?_, rfl, rfl⟩
  · rw [hs.encrypted]
    rfl
  · rw [hs.sent]
    rfl
  · rw [hconn]
    exact ⟨rfl, rfl, rfl, rfl⟩

theorem Places.track (env : SendEnv) {job : EncryptedJob} (hs : s.Places [] [] [] [] [job]) :
    (s.track env 0).Places [] [] [] [] [] ∧ SameWire s (s.track env 0) := by
  have hjob : s.sent[0]? = some job := by rw [hs.sent]; rfl
  rw [Endpoint.track, hjob]
  refine ⟨⟨hs.writing, hs.queued, hs.sending, hs.encrypted, ?_, hs.capacity⟩,
    .trackPendingPacket _ _ _ _, rfl, rfl⟩
  rw [hs.sent]
  rfl

/-- A block is written, queued, sealed, sent and tracked. -/
def sendBlock : List Event :=
  [.writeBlock ⟨blockTypePadding, [0]⟩, .enqueue 0, .take, .encrypt 0, .emit .openSocket 0,
    .track .openSocket 0]

/-- One block: it takes the next number and is written to the socket, and nothing is left on
the way. -/
theorem sendBlock_spec (hw : s.WellFormed aead ctx h₀) (hm : SSU2Conn.MatchingHeaders ctx ctx')
    (hs : s.Places [] [] [] [] []) (hfree : ∀ newKey, s.rekey ≠ .switching newKey)
    (hnumber : s.conn.sendSequence.toNat = s.nextOnWire) :
    Always (step aead ctx) SendsInOrder s sendBlock ∧
      (exec (step aead ctx) s sendBlock).Places [] [] [] [] [] ∧
      SameSend s.conn.nextSendSequence.2.2 (exec (step aead ctx) s sendBlock).conn ∧
      (exec (step aead ctx) s sendBlock).rekey =
        (if .initiateRekey ∈ s.conn.nextSendSequence.2.1 then .started else s.rekey) ∧
      ∃ d, (exec (step aead ctx) s sendBlock).emissions = s.emissions ++ [d] ∧
        d.packetNumber = s.conn.sendSequence ∧
        d.payload = SSU2Block.wire ⟨blockTypePadding, [0]⟩ := by
  obtain ⟨job, hnum, hpayload, hs₁, hconn₁, hrekey₁, hemissions₁⟩ := hs.writeBlock
  obtain ⟨hs₂, hsame₂⟩ := hs₁.enqueue
  obtain ⟨hs₃, hsame₃⟩ := hs₂.take
  set s₁ := s.writeBlock ⟨blockTypePadding, [0]⟩ with heq₁
  have hw₃ : (s₁.enqueue 0).take.WellFormed aead ctx h₀ := ((hw.writeBlock _).enqueue 0).take
  have hfree₃ : ∀ newKey, (s₁.enqueue 0).take.rekey ≠ .switching newKey := by
    intro newKey
    rw [hsame₃.rekey, hsame₂.rekey, hrekey₁]
    split_ifs
    · exact fun h => by cases h
    · exact hfree newKey
  obtain ⟨key, hs₄, hsame₄⟩ := hs₃.encrypt hw₃ hfree₃
  obtain ⟨packet, data, hput, hdata⟩ := putOnWire_sealWith aead h₀ hm job key
    (by rw [hpayload]; decide) (by rw [hpayload]; decide)
  obtain ⟨hs₅, hsame₅, hrekey₅, hemissions₅⟩ := hs₄.emit hput hdata
  obtain ⟨hs₆, hsame₆⟩ := hs₅.track .openSocket
  have hsame := hsame₂.trans (hsame₃.trans hsame₄)
  have hemit : (((s₁.enqueue 0).take.encrypt aead 0).SendsInOrder (.emit .openSocket 0)) := by
    intro job' hjob'
    rw [hs₄.encrypted] at hjob'
    obtain rfl := Option.some.inj hjob'
    rw [nextOnWire_congr (hsame.emissions.trans hemissions₁), ← hnumber, ← hnum]
    rfl
  have hpadding : blockTypePadding ≠ blockTypeNextNonce := by decide
  have hemissions := hsame₆.emissions.trans hemissions₅
  rw [hsame.emissions, hemissions₁] at hemissions
  refine ⟨⟨hpadding, trivial, trivial, trivial, hemit, trivial, trivial⟩, hs₆, ?_, ?_, _,
    hemissions,
    hnum, hpayload⟩
  · rw [← hconn₁]
    exact hsame.conn.trans (hsame₅.trans hsame₆.conn)
  · exact ((hsame₆.rekey.trans hrekey₅).trans hsame.rekey).trans hrekey₁

theorem rekeySend_eq (ctx : HeaderContext) {key newKey : Bytes} (hstarted : s.rekey = .started)
    (hkey : s.conn.sendKey = some key) (hkdf : aead.hkdf key = .ok newKey) :
    ∃ h data, SameSend { s.conn with sendSequence := s.conn.sendSequence + 1 } h ∧
      s.rekeySend aead ctx .openSocket = { s with
        conn := h
        rekey := .switching newKey
        emissions := s.emissions ++ [⟨data, s.conn.sendSequence, nextNoncePayload,
          [⟨key, packetNonce s.conn.sendSequence⟩], none⟩] } := by
  obtain ⟨cipher, hcipher, rfl⟩ := Option.map_eq_some_iff.mp hkey
  obtain ⟨x, hx⟩ := s.conn.nextNonceDatagram_eq aead (ctx.dataEnv .openSocket) cipher
  obtain ⟨hsame, hencryptions⟩ :=
    sendNextNonceInline_spec aead.toCrypto (ctx.dataEnv .openSocket) hcipher
  have hok := (s.conn.sendNextNonceInline_of_datagram aead.toCrypto (ctx.dataEnv .openSocket)
    cipher).mpr ⟨_, hx, rfl⟩
  unfold rekeySend
  rw [hstarted, hcipher]
  dsimp only
  rw [hkdf, hx]
  generalize s.conn.sendNextNonceInline aead.toCrypto (ctx.dataEnv .openSocket) cipher = result at *
  obtain ⟨r, encryptions, h⟩ := result
  obtain rfl : r = .ok () := hok
  obtain rfl : encryptions = _ := hencryptions
  exact ⟨h, _, hsame, rfl⟩

theorem state_receive (aead : Aead) (ctx : HeaderContext) (env : RecvEnv) (s : Endpoint)
    (data : Bytes) (addr : Option UDPAddr) (source : Option ℕ) :
    (s.receive aead ctx env data addr source).conn.state = s.conn.state := by
  rcases receive_cases aead ctx env s data addr source with ⟨h, hkeeps, heq⟩ |
    ⟨packet, h, hkeeps, -, -, -, heq⟩
  all_goals
    rw [heq]
    exact hkeeps.state

theorem process_spec (aead : Aead) (s : Endpoint) (now : Time) :
    (s.process aead now).conn.state = s.conn.state ∧ (s.process aead now).receiving = none := by
  cases hreceiving : s.receiving with
  | none => grind [process]
  | some inbound =>
    refine ⟨?_, (process_frame aead now hreceiving).2⟩
    have hhandled := (SSU2Conn.KeepsSend.handled aead now s.conn inbound.packet).state
    rcases WellFormed.process_cases aead s now with heq | ⟨inbound', n, hsome, -, heq⟩
    · rw [heq]
    · cases hreceiving.symm.trans hsome
      rcases heq with heq | ⟨blocks, -, heq⟩
      · rw [heq]
        exact hhandled
      · rw [heq]
        exact (foldl_retireACK_spec blocks _).1.state.trans hhandled

end

end Endpoint

/-- An AEAD whose tag is the first byte of the key, for concrete runs. -/
def Aead.keyTag : Aead where
  encrypt key _ _ plaintext := plaintext ++ List.replicate macSize (key.headD 0)
  decrypt key _ _ ciphertext :=
    if ciphertext.drop (ciphertext.length - macSize) = List.replicate macSize (key.headD 0) then
      .ok (ciphertext.take (ciphertext.length - macSize))
    else .error (.errorf "message authentication failed")
  hkdf key := .ok (key.map (· + 1))
  decrypt_encrypt _ _ _ plaintext := by simp
  length_encrypt _ _ _ plaintext := by simp

/-! ## One round -/

/-- The point after the next packet. -/
def Epoch.succ : Epoch → Epoch
  | .first m => .first (m + 1)
  | .second n m => .second n (m + 1)

theorem Advance.eq_succ {aead : Aead} {ctx : HeaderContext} {h₀ : SSU2Conn} {key newKey : Bytes}
    {x x' : Epoch} {d : Emission} (hd : Advance aead ctx h₀ key newKey x d x')
    (hpayload : Ordinary d.payload) : x' = x.succ := by
  cases hd with
  | data => rfl
  | nextNonce isSealed number payload => exact absurd payload hpayload.ne_nextNoncePayload
  | fresh => rfl

theorem ordinary_padding : Ordinary (SSU2Block.wire ⟨blockTypePadding, [0]⟩) :=
  ⟨_, (serializeBlocks_singleton_iff.mp rfl).1, by decide, rfl⟩

namespace Pair

section
variable {aead : Aead} {ctx : Side → HeaderContext} {h : Side → SSU2Conn} {i : Side}
  {key newKey : Bytes} {size : ℕ} {x y : Epoch} {p : Pair} {d : Emission} {ds : List Emission}
  {es : List Endpoint.Event} {inFlight : Bool} {m n : ℕ}

/-- Every step is in order and the receive window has room at each arrival. -/
def Smooth (aead : Aead) (ctx : Side → HeaderContext) (i : Side) (p : Pair) (es : List Event) :
    Prop :=
  Always (step aead ctx) (fun p e => p.Orderly i e ∧ p.HasRoom i e) p es

theorem exec_acts (hw : (p.ends i.other).WellFormed aead (ctx i.other) (h i.other))
    (hes : Always (Endpoint.step aead (ctx i.other)) Endpoint.SendsInOrder (p.ends i.other) es)
    (hne : ∀ e ∈ es, ∀ env data addr source, e ≠ .receive env data addr source) :
    Smooth aead ctx i p (es.map (.act i.other)) ∧
      (exec (step aead ctx) p (es.map (.act i.other))).ends i.other =
        exec (Endpoint.step aead (ctx i.other)) (p.ends i.other) es ∧
      (exec (step aead ctx) p (es.map (.act i.other))).ends i = p.ends i ∧
      ∃ ds, (exec (Endpoint.step aead (ctx i.other)) (p.ends i.other) es).emissions =
          (p.ends i.other).emissions ++ ds ∧
        (exec (step aead ctx) p (es.map (.act i.other))).network i = p.network i ++ ds := by
  induction es generalizing p with
  | nil => exact ⟨trivial, rfl, rfl, [], (List.append_nil _).symm, (List.append_nil _).symm⟩
  | cons e es ih =>
    have hact := step_act aead ctx p i.other e (hne e List.mem_cons_self)
    obtain ⟨ds, hds⟩ := (hw.frame e).prefix_emissions
    have hrest : Always (Endpoint.step aead (ctx i.other)) Endpoint.SendsInOrder
        ((p.act aead ctx i.other e).ends i.other) es := by
      rw [ends_act_self]
      exact hes.2
    have hw' : ((p.act aead ctx i.other e).ends i.other).WellFormed aead (ctx i.other)
        (h i.other) := by
      rw [ends_act_self]
      exact hw.step e
    obtain ⟨hsmooth, hself, hother, ds', hemissions, hnetwork⟩ :=
      ih hw' hrest fun e' he' => hne e' (List.mem_cons_of_mem _ he')
    rw [ends_act_self] at hself hemissions
    rw [ends_act_of_other] at hother
    rw [network_act_of_other, ← hds, List.drop_left] at hnetwork
    rw [List.map_cons, exec_cons, exec_cons, hact]
    refine ⟨⟨⟨fun _ => hes.1, trivial⟩, ?_⟩, hself, hother, ds ++ ds', ?_, ?_⟩
    · rw [hact]
      exact hsmooth
    · rw [hemissions, ← hds, List.append_assoc]
    · rw [hnetwork, List.append_assoc]

/-- Nothing is on its way, and both sides are at the same point. -/
structure Rested (aead : Aead) (ctx : Side → HeaderContext) (h : Side → SSU2Conn) (i : Side)
    (key newKey : Bytes) (size : ℕ) (y : Epoch) (p : Pair) : Prop where
  flows : Flows aead ctx h i key newKey size y y p
  places : (p.ends i.other).Places [] [] [] [] []
  receiving : (p.ends i).receiving = none
  state : (p.ends i).conn.state = .established
  network : p.network i = []
  sendSequence : (p.ends i.other).conn.sendSequence.toNat = y.next

/-- The datagram arrives and is handled. -/
def arrive (i : Side) : List Event :=
  [.deliver i ⟨0, none⟩ (some ⟨[], 0⟩) 0, .act i (.process 0)]

theorem deliver_head (aead : Aead) (ctx : Side → HeaderContext)
    (hfree : (p.ends i).receiving = none) (hnetwork : p.network i = d :: ds) (env : RecvEnv)
    (addr : Option UDPAddr) :
    p.deliver aead ctx i env addr 0 =
      { ends := Function.update p.ends i
          ((p.ends i).receive aead (ctx i) env d.data addr d.tag)
        network := Function.update p.network i ds } := by
  rw [deliver, hfree, hnetwork]
  rfl

section
variable (hs : InStep aead ctx h i key newKey size)
include hs

/-- One datagram arrives, and the receiver is where the sender is. -/
theorem arrive_spec (hf : Flows aead ctx h i key newKey size x y p) (hnetwork : p.network i = [d])
    (hfree : (p.ends i).receiving = none) (hstate : (p.ends i).conn.state = .established)
    (hroom : ∀ w ∈ (p.ends i).conn.recvWindow, w.window.size < w.maxSize) :
    Smooth aead ctx i p (arrive i) ∧
      Flows aead ctx h i key newKey size y y (exec (step aead ctx) p (arrive i)) ∧
      (exec (step aead ctx) p (arrive i)).ends i.other = p.ends i.other ∧
      (exec (step aead ctx) p (arrive i)).network i = [] ∧
      ((exec (step aead ctx) p (arrive i)).ends i).receiving = none ∧
      ((exec (step aead ctx) p (arrive i)).ends i).conn.state = .established := by
  have horderly : p.Orderly i (.deliver i ⟨0, none⟩ (some ⟨[], 0⟩) 0) := fun _ => ⟨rfl, rfl, hstate⟩
  obtain ⟨⟨x', hf'⟩, -⟩ := hf.deliver_self hs horderly fun _ => hroom
  have hdeliver := deliver_head aead ctx hfree hnetwork ⟨0, none⟩
    (some ⟨[], 0⟩)
  set p' := p.deliver aead ctx i ⟨0, none⟩ (some ⟨[], 0⟩) 0 with hp'
  have hempty : p'.network i = [] := by
    rw [hdeliver]
    exact Function.update_self _ _ _
  have hother : p'.ends i.other = p.ends i.other := by
    rw [hdeliver]
    exact Function.update_of_ne i.other_ne _ _
  have hstate' : (p'.ends i).conn.state = .established := by
    rw [hdeliver]
    show (Function.update p.ends i _ i).conn.state = _
    rw [Function.update_self, state_receive]
    exact hstate
  obtain rfl : x' = y := by
    have hpath := hf'.network
    rw [hempty] at hpath
    exact path_nil.mp hpath
  have hexec : exec (step aead ctx) p (arrive i) = p'.act aead ctx i (.process 0) := rfl
  have hne : ∀ env data addr source,
      Endpoint.Event.process 0 ≠ .receive env data addr source := fun _ _ _ _ h => by cases h
  obtain ⟨hprocess, hnone⟩ := process_spec aead (p'.ends i) 0
  have hact : p'.Orderly i (.act i (.process 0)) := fun h => absurd h.symm i.other_ne
  rw [hexec]
  refine ⟨⟨⟨horderly, fun _ => hroom⟩, ⟨hact, trivial⟩, trivial⟩, hf'.act_self hs hne, ?_, ?_, ?_,
    ?_⟩
  · rw [ends_act_other, hother]
  · rw [network_act_self, hempty]
  · rw [ends_act_self]
    exact hnone
  · rw [ends_act_self]
    exact hprocess.trans hstate'

theorem Flows.acts (hf : Flows aead ctx h i key newKey size x y p)
    (hes : Always (Endpoint.step aead (ctx i.other)) Endpoint.SendsInOrder (p.ends i.other) es)
    (hne : ∀ e ∈ es, ∀ env data addr source, e ≠ .receive env data addr source)
    (hds : (exec (Endpoint.step aead (ctx i.other)) (p.ends i.other) es).emissions =
      (p.ends i.other).emissions ++ ds) :
    ∃ y' p', exec (Pair.step aead ctx) p (es.map (.act i.other)) = p' ∧
      Smooth aead ctx i p (es.map (.act i.other)) ∧
      Path (Advance aead (ctx i.other) (h i.other) key newKey) y ds y' ∧
      Flows aead ctx h i key newKey size x y' p' ∧
      p'.ends i.other = exec (Endpoint.step aead (ctx i.other)) (p.ends i.other) es ∧
      p'.ends i = p.ends i ∧ p'.network i = p.network i ++ ds := by
  obtain ⟨hsmooth, hself, hother, ds₁, hds₁, hnetwork⟩ := exec_acts hf.speaks.wellFormed hes hne
  obtain ⟨y', ds₂, hspeaks, hds₂, hpath⟩ := hf.speaks.exec hs.hkdf hes
  obtain rfl : ds = ds₁ := List.append_cancel_left (hds.symm.trans hds₁)
  obtain rfl : ds = ds₂ := List.append_cancel_left (hds.symm.trans hds₂)
  refine ⟨y', _, rfl, hsmooth, hpath, ⟨?_, ?_, ?_, ?_⟩, hself, hother, hnetwork⟩
  · rw [hother]
    exact hf.wellFormed
  · rw [hother]
    exact hf.expects
  · rwa [hself]
  · rw [hnetwork]
    exact hf.network.append hpath

theorem Rested.send (hr : Rested aead ctx h i key newKey size y p)
    (hfree : ∀ newKey, (p.ends i.other).rekey ≠ .switching newKey) :
    ∃ p', exec (step aead ctx) p (Endpoint.sendBlock.map (.act i.other)) = p' ∧
      Smooth aead ctx i p (Endpoint.sendBlock.map (.act i.other)) ∧
      Flows aead ctx h i key newKey size y y.succ p' ∧ p'.ends i = p.ends i ∧
      (p'.ends i.other).Places [] [] [] [] [] ∧
      SameSend (p.ends i.other).conn.nextSendSequence.2.2 (p'.ends i.other).conn ∧
      (p'.ends i.other).rekey = (if .initiateRekey ∈ (p.ends i.other).conn.nextSendSequence.2.1
        then .started else (p.ends i.other).rekey) ∧
      ∃ d, p'.network i = [d] := by
  have hspeaks := hr.flows.speaks
  obtain ⟨horder, hplaces, hsame, hrekey, d, hemissions, hnumber, hpayload⟩ :=
    Endpoint.sendBlock_spec hspeaks.wellFormed hs.headers hr.places hfree
      (hr.sendSequence.trans hspeaks.next.symm)
  have hne : ∀ e ∈ Endpoint.sendBlock, ∀ env data addr source,
      e ≠ .receive env data addr source := by
    intro e he env data addr source
    simp only [Endpoint.sendBlock, List.mem_cons, List.not_mem_nil, or_false] at he
    rcases he with rfl | rfl | rfl | rfl | rfl | rfl <;> exact fun h => by cases h
  obtain ⟨y', p', hexec, hsmooth, hpath, hflows, hself, hother, hnetwork⟩ :=
    hr.flows.acts hs horder hne hemissions
  obtain rfl : y' = y.succ := by
    obtain ⟨y₁, hadvance, hnil⟩ := path_cons.mp hpath
    obtain rfl := path_nil.mp hnil
    exact hadvance.eq_succ (hpayload ▸ ordinary_padding)
  rw [hr.network, List.nil_append] at hnetwork
  rw [← hself] at hplaces hsame hrekey
  exact ⟨p', hexec, hsmooth, hflows, hother, hplaces, hsame, hrekey, d, hnetwork⟩

end

def round (i : Side) : List Event := sendBlock.map (.act i.other) ++ arrive i

/-- One round takes both sides one number further. -/
theorem Rested.round (hs : InStep aead ctx h i key newKey size)
    (hr : Rested aead ctx h i key newKey size y p)
    (hfree : ∀ newKey, (p.ends i.other).rekey ≠ .switching newKey)
    (hmax : (p.ends i.other).conn.sendSequence ≠ 0xFFFFFFFF)
    (hroom : ∀ w ∈ (p.ends i).conn.recvWindow, w.window.size < w.maxSize) :
    ∃ p', exec (step aead ctx) p (round i) = p' ∧ Smooth aead ctx i p (round i) ∧
      Rested aead ctx h i key newKey size y.succ p' ∧
      SameSend (p.ends i.other).conn.nextSendSequence.2.2 (p'.ends i.other).conn ∧
      (p'.ends i.other).rekey = (if .initiateRekey ∈ (p.ends i.other).conn.nextSendSequence.2.1
        then .started else (p.ends i.other).rekey) := by
  obtain ⟨p₁, hexec₁, hsmooth₁, hflows₁, hself₁, hplaces, hsame, hrekey, d, hnetwork₁⟩ :=
    hr.send hs hfree
  rw [← hself₁] at hroom
  obtain ⟨hsmooth₂, hflows₂, hother₂, hnetwork₂, hnone, hstate⟩ := arrive_spec hs hflows₁ hnetwork₁
    (hself₁ ▸ hr.receiving) (hself₁ ▸ hr.state) hroom
  have hnext : y.succ.next = y.next + 1 := by cases y <;> rfl
  have hseq : (p₁.ends i.other).conn.sendSequence.toNat = y.succ.next := by
    rw [hsame.sendSequence, (HandsOut.nextSendSequence hmax).1, toNat_add_one hmax,
      hr.sendSequence, hnext]
  refine ⟨_, exec_append .., ?_, ?_, ?_, ?_⟩
  · refine always_append.mpr ⟨hsmooth₁, ?_⟩
    rwa [hexec₁]
  all_goals rw [hexec₁]
  · exact ⟨hflows₂, hother₂ ▸ hplaces, hnone, hstate, hnetwork₂, hother₂ ▸ hseq⟩
  · rwa [hother₂]
  · rwa [hother₂]

/-- The announcement of the new key, and the switch. -/
def rekeyRound (i : Side) : List Event :=
  [.act i.other (.rekeySend .openSocket)] ++ (arrive i ++ [.act i.other .rekeySwitch])

/-- The rekey: the NextNonce packet is sent, arrives and is handled, and the sender switches. -/
theorem Rested.rekey (hs : InStep aead ctx h i key newKey size)
    (hr : Rested aead ctx h i key newKey size (.first n) p)
    (hstarted : (p.ends i.other).rekey = .started)
    (hmax : (p.ends i.other).conn.sendSequence ≠ 0xFFFFFFFF)
    (hroom : ∀ w ∈ (p.ends i).conn.recvWindow, w.window.size < w.maxSize) :
    ∃ p', exec (step aead ctx) p (rekeyRound i) = p' ∧ Smooth aead ctx i p (rekeyRound i) ∧
      Rested aead ctx h i key newKey size (.second n 0) p' ∧ (p'.ends i.other).rekey = .idle ∧
      (p'.ends i.other).conn.rekeyInFlight = true ∧
      (p'.ends i.other).conn.config = (p.ends i.other).conn.config := by
  have hspeaks := hr.flows.speaks
  obtain ⟨hkey, hflight⟩ : (p.ends i.other).conn.sendKey = some key ∧
      (p.ends i.other).conn.rekeyInFlight = true := by
    cases hspeaks.phase with
    | before m sendKey free started encrypted => exact ⟨sendKey, (started hstarted).1⟩
  obtain ⟨h₁, data, hsame, hsend⟩ := Endpoint.rekeySend_eq (ctx i.other) hstarted hkey hs.hkdf
  have horder : Always (Endpoint.step aead (ctx i.other)) Endpoint.SendsInOrder (p.ends i.other)
      [.rekeySend .openSocket] :=
    ⟨fun _ => ⟨hr.places.encrypted, hr.sendSequence.trans hspeaks.next.symm, hmax⟩, trivial⟩
  obtain ⟨y₁, p₁, hexec₁, hsmooth₁, hpath₁, hflows₁, hsender₁, hself₁, hnetwork₁⟩ :=
    hr.flows.acts hs horder (by rintro _ (_ | ⟨_, ⟨⟩⟩) _ _ _ _ ⟨⟩)
      (congrArg Endpoint.emissions hsend)
  obtain rfl : y₁ = .second n 0 := by
    obtain ⟨y', hadvance, hnil⟩ := path_cons.mp hpath₁
    obtain rfl := path_nil.mp hnil
    cases hadvance with
    | data isSealed number payload => exact absurd rfl payload.ne_nextNoncePayload
    | nextNonce => rfl
  rw [hr.network, List.nil_append] at hnetwork₁
  rw [← hself₁] at hroom
  obtain ⟨hsmooth₂, hflows₂, hother₂, hnetwork₂, hnone, hstate⟩ := arrive_spec hs hflows₁ hnetwork₁
    (hself₁ ▸ hr.receiving) (hself₁ ▸ hr.state) hroom
  set p₂ := exec (Pair.step aead ctx) p₁ (arrive i) with hexec₂
  have hsender₂ : p₂.ends i.other = (p.ends i.other).rekeySend aead (ctx i.other) .openSocket :=
    hother₂.trans hsender₁
  have hswitch : (p₂.ends i.other).rekeySwitch = { p₂.ends i.other with
      conn := (p₂.ends i.other).conn.switchKey newKey, rekey := .idle } := by
    rw [Endpoint.rekeySwitch, hsender₂, hsend]
  have horder₃ : Always (Endpoint.step aead (ctx i.other)) Endpoint.SendsInOrder (p₂.ends i.other)
      [.rekeySwitch] := ⟨trivial, trivial⟩
  obtain ⟨y₃, p₃, hexec₃, hsmooth₃, hpath₃, hflows₃, hsender₃, hself₃, hnetwork₃⟩ :=
    hflows₂.acts hs horder₃ (by rintro _ (_ | ⟨_, ⟨⟩⟩) _ _ _ _ ⟨⟩)
      ((congrArg Endpoint.emissions hswitch).trans (List.append_nil _).symm)
  obtain rfl : .second n 0 = y₃ := path_nil.mp hpath₃
  have hfinal : p₃.ends i.other = { p₂.ends i.other with
      conn := (p₂.ends i.other).conn.switchKey newKey, rekey := .idle } := hsender₃.trans hswitch
  rw [hsender₂, hsend] at hfinal
  have hexec : exec (Pair.step aead ctx) p (rekeyRound i) = p₃ := by
    rw [← hexec₃, hexec₂, ← hexec₁]
    rfl
  refine ⟨p₃, hexec, ?_, ⟨hflows₃, ?_, hself₃ ▸ hnone, hself₃ ▸ hstate, ?_, ?_⟩, ?_, ?_, ?_⟩
  · grind [Smooth, rekeyRound, always_append]
  · have hplaces := hr.places
    rw [hfinal]
    exact { hplaces with }
  · rw [hnetwork₃, hnetwork₂]
    rfl
  · rw [hfinal]
    rfl
  · rw [hfinal]
  · rw [hfinal]
    exact hsame.rekeyInFlight.trans hflight
  · rw [hfinal]
    exact hsame.config

/-! ## A run over the rekey -/

/-- At rest, and no rekey is running. -/
structure Waiting (aead : Aead) (ctx : Side → HeaderContext) (h : Side → SSU2Conn) (i : Side)
    (key newKey : Bytes) (size : ℕ) (y : Epoch) (inFlight : Bool) (p : Pair) : Prop where
  rested : Rested aead ctx h i key newKey size y p
  rekey : (p.ends i.other).rekey = .idle
  rekeyInFlight : (p.ends i.other).conn.rekeyInFlight = inFlight
  enableNextNonce : (p.ends i.other).conn.config.enableNextNonce = true

theorem Rested.room_first (hr : Rested aead ctx h i key newKey size (.first m) p) :
    ∀ w ∈ (p.ends i).conn.recvWindow, w.window.size < w.maxSize := by
  intro w hw
  obtain ⟨w', hw', -, hlevel⟩ := hr.flows.expects.recvWindow
  cases hw'.symm.trans hw
  rw [hlevel.window]
  exact w.maxSize_pos

theorem Rested.room_second (hr : Rested aead ctx h i key newKey size (.second n m) p)
    (hm : m < size) : ∀ w ∈ (p.ends i).conn.recvWindow, w.window.size < w.maxSize := by
  intro w hw
  obtain ⟨w', hw', rfl, hbehind⟩ := hr.flows.expects.recvWindow
  cases hw'.symm.trans hw
  rwa [hbehind.size]

theorem sendSequence_ne_max (hr : Rested aead ctx h i key newKey size y p)
    (hlt : y.next < 4294967295) : (p.ends i.other).conn.sendSequence ≠ 0xFFFFFFFF := by
  intro heq
  have hseq := hr.sendSequence
  rw [heq] at hseq
  exact absurd (hseq ▸ hlt) (by decide)

theorem Waiting.free (hw : Waiting aead ctx h i key newKey size y inFlight p) :
    ∀ newKey, (p.ends i.other).rekey ≠ .switching newKey := by
  intro newKey
  rw [hw.rekey]
  exact fun h => by cases h

section
variable (hs : InStep aead ctx h i key newKey size)
include hs

theorem Waiting.round (hw : Waiting aead ctx h i key newKey size y inFlight p)
    (hlt : y.next < 4294967295) (hquiet : inFlight = true ∨ y.next < rekeyThreshold.toNat)
    (hroom : ∀ w ∈ (p.ends i).conn.recvWindow, w.window.size < w.maxSize) :
    ∃ p', exec (step aead ctx) p (round i) = p' ∧ Smooth aead ctx i p (round i) ∧
      Waiting aead ctx h i key newKey size y.succ inFlight p' := by
  have hr := hw.rested
  obtain ⟨p', hexec, hsmooth, hrested, hsame, hrekey⟩ :=
    hr.round hs hw.free (sendSequence_ne_max hr hlt) hroom
  have hnext := nextSendSequence_quiet (hr.sendSequence.trans_lt hlt)
    (Or.inr (hquiet.imp hw.rekeyInFlight.trans fun hlow => hr.sendSequence.trans_lt hlow))
  rw [hnext] at hsame hrekey
  exact ⟨p', hexec, hsmooth, hrested, hrekey.trans hw.rekey,
    hsame.rekeyInFlight.trans hw.rekeyInFlight,
    (congrArg SSU2Config.enableNextNonce hsame.config).trans hw.enableNextNonce⟩

theorem Waiting.rounds {f : ℕ → Epoch} (hsucc : ∀ m, (f m).succ = f (m + 1)) {k : ℕ}
    (hw : Waiting aead ctx h i key newKey size (f 0) inFlight p)
    (hlt : ∀ m < k, (f m).next < 4294967295)
    (hquiet : ∀ m < k, inFlight = true ∨ (f m).next < rekeyThreshold.toNat)
    (hroom : ∀ m < k, ∀ p, Rested aead ctx h i key newKey size (f m) p →
      ∀ w ∈ (p.ends i).conn.recvWindow, w.window.size < w.maxSize) :
    ∃ es, Smooth aead ctx i p es ∧
      Waiting aead ctx h i key newKey size (f k) inFlight (exec (Pair.step aead ctx) p es) := by
  induction k with
  | zero => exact ⟨[], trivial, hw⟩
  | succ k ih =>
    obtain ⟨es, hsmooth, hk⟩ := ih (fun m hm => hlt m (by omega)) (fun m hm => hquiet m (by omega))
      fun m hm => hroom m (by omega)
    obtain ⟨p', hexec, hsmooth', hk'⟩ := hk.round hs (hlt k (by omega)) (hquiet k (by omega))
      (hroom k (by omega) _ hk.rested)
    refine ⟨es ++ Pair.round i, always_append.mpr ⟨hsmooth, hsmooth'⟩, ?_⟩
    rwa [exec_append, hexec, ← hsucc]

/-- The round of the number from which on the sender rekeys, and the rekey. -/
theorem Waiting.rekeyed
    (hw : Waiting aead ctx h i key newKey size (.first rekeyThreshold.toNat) false p) :
    ∃ n es, Smooth aead ctx i p es ∧
      Waiting aead ctx h i key newKey size (.second n 0) true (exec (Pair.step aead ctx) p es) := by
  have hr := hw.rested
  have hseq : (p.ends i.other).conn.sendSequence = rekeyThreshold :=
    UInt32.toNat_inj.mp hr.sendSequence
  have hmax := sendSequence_ne_max hr (by decide)
  have hnext : (p.ends i.other).conn.nextSendSequence = (rekeyThreshold, [.initiateRekey],
      { (p.ends i.other).conn with sendSequence := rekeyThreshold + 1, rekeyInFlight :=
        true }) := by
    rw [SSU2Conn.nextSendSequence, if_neg hmax, hseq]
    refine if_pos ⟨hw.enableNextNonce, UInt32.le_refl _, ?_⟩
    rw [hw.rekeyInFlight]
    exact Bool.false_ne_true
  obtain ⟨p₁, hexec₁, hsmooth₁, hr₁, hsame, hrekey⟩ := hr.round hs hw.free hmax hr.room_first
  rw [hnext] at hsame hrekey
  have hmax₁ : (p₁.ends i.other).conn.sendSequence ≠ 0xFFFFFFFF := by
    rw [hsame.sendSequence]
    show rekeyThreshold + 1 ≠ 0xFFFFFFFF
    decide
  obtain ⟨p₂, hexec₂, hsmooth₂, hr₂, hidle, hflight, hconfig⟩ :=
    hr₁.rekey hs hrekey hmax₁ hr₁.room_first
  refine ⟨rekeyThreshold.toNat + 1, Pair.round i ++ rekeyRound i,
    always_append.mpr ⟨hsmooth₁, ?_⟩, ?_⟩
  · rwa [hexec₁]
  · rw [exec_append, hexec₁, hexec₂]
    refine ⟨hr₂, hidle, hflight, ?_⟩
    rw [hconfig, hsame.config]
    exact hw.enableNextNonce

/-- A run over the rekey, without loss and in order, after which the window is full. -/
theorem rekeyed_run (hw : Waiting aead ctx h i key newKey size (.first 0) false (start h)) :
    ∃ n es, Smooth aead ctx i (start h) es ∧
      Waiting aead ctx h i key newKey size (.second n size) true
        (exec (step aead ctx) (start h) es) := by
  have hthreshold : rekeyThreshold.toNat = 4294967040 := rfl
  have hsize := hs.size_le
  obtain ⟨es₁, hsmooth₁, hw₁⟩ := hw.rounds hs (fun _ => rfl) (k := rekeyThreshold.toNat)
    (fun m (hm : m < _) => show m < _ by omega) (fun m hm => Or.inr hm)
    fun m _ p hr => hr.room_first
  obtain ⟨n, es₂, hsmooth₂, hw₂⟩ := hw₁.rekeyed hs
  obtain ⟨es₃, hsmooth₃, hw₃⟩ := hw₂.rounds hs (fun _ => rfl) (k := size)
    (fun m (hm : m < _) => show m < _ by omega) (fun m _ => Or.inl rfl)
    fun m hm p hr => hr.room_second hm
  refine ⟨n, es₁ ++ (es₂ ++ es₃), ?_, ?_⟩
  · exact always_append.mpr ⟨hsmooth₁, always_append.mpr ⟨hsmooth₂, hsmooth₃⟩⟩
  · rwa [exec_append, exec_append]

theorem Waiting.refused (hw : Waiting aead ctx h i key newKey size (.second n size) true p) :
    ∃ es d, Always (step aead ctx) (fun p e => p.Orderly i e) p
        (es ++ [.deliver i ⟨0, none⟩ (some ⟨[], 0⟩) 0]) ∧
      (exec (step aead ctx) p es).network i = [d] ∧
      d.SealedWith aead (ctx i.other) (h i.other) newKey ∧
      ((exec (step aead ctx) p es).ends i).conn.recvKey = some newKey ∧
      ¬ (exec (step aead ctx) p es).Accepts aead ctx i
        (.deliver i ⟨0, none⟩ (some ⟨[], 0⟩) 0) := by
  have hr := hw.rested
  obtain ⟨p', hexec, hsmooth, hflows, hself, -, -, -, d, hnetwork⟩ := hr.send hs hw.free
  have hnone : (p'.ends i).receiving = none := hself ▸ hr.receiving
  have hstate : (p'.ends i).conn.state = .established := hself ▸ hr.state
  have hpath := hflows.network
  rw [hnetwork] at hpath
  obtain ⟨y', hadvance, -⟩ := path_cons.mp hpath
  obtain ⟨w, hwindow, hmax, hbehind⟩ := hflows.expects.recvWindow
  cases hadvance with
  | fresh isSealed number payload =>
  obtain ⟨k, hsealed, hkey⟩ := hflows.expects.key_of_advance
    (.fresh (n := n) isSealed number payload) hnone
  obtain rfl : newKey = k := by
    have heq := isSealed.encryptions.symm.trans hsealed.encryptions
    injection (List.cons.inj heq).1
  have hrefused : ((p'.ends i).receive aead (ctx i) ⟨0, none⟩ d.data (some ⟨[], 0⟩)
      d.tag).receiving = none := by
    obtain ⟨packet, validate, h', hparse, htype, hnumber, -, -, -, hsame⟩ :=
      isSealed.parse hs.headers hkey hstate ⟨0, none⟩ ⟨[], 0⟩
    obtain ⟨e, hinsert⟩ := hbehind.insert_full hs.size_le (by rw [hmax, hbehind.size])
      (hnumber ▸ number)
    rw [receive, hnone, hparse]
    dsimp only
    rw [if_pos htype, insertWindow, hsame.trans hwindow]
    dsimp only
    rw [hinsert]
    rfl
  refine ⟨sendBlock.map (.act i.other), d, always_append.mpr ⟨?_, ?_, trivial⟩, ?_⟩
  · exact always_mono (fun _ _ h => h.1) hsmooth
  · rw [hexec]
    exact fun _ => ⟨rfl, rfl, hstate⟩
  · rw [hexec]
    refine ⟨hnetwork, isSealed, hkey, fun haccepts => ?_⟩
    obtain ⟨inbound, htaken, -⟩ := haccepts rfl hnone d (by rw [hnetwork]; rfl)
    rw [deliver_head aead ctx hnone hnetwork] at htaken
    change (Function.update p'.ends i _ i).receiving = _ at htaken
    rw [Function.update_self, hrefused] at htaken
    cases htaken

end

end

/-- An established connection that takes part in rekeying. -/
def rekeying : SSU2Conn :=
  (assembleSSU2Conn { SSU2Config.newSSU2Config with enableNextNonce := true } 0).establish
    [1] [1] 7

theorem inStep_rekeying :
    InStep .keyTag (fun _ => .zeroKeys) (fun _ => rekeying) .right [1] [2] 256 where
  ready _ := ready_establish _ _ _ _ _
  headers := (.zeroKeys rfl rfl : SSU2Conn.MatchingKeys _ _ rekeying rekeying [1]).toMatchingHeaders
  sendKey := rfl
  recvKey := rfl
  hkdf := rfl
  enableNextNonce := rfl
  size_le := by decide
  recvWindow := ⟨_, rfl, rfl, rfl, rfl⟩

theorem waiting_rekeying :
    Waiting .keyTag (fun _ => .zeroKeys) (fun _ => rekeying) .right [1] [2] 256 (.first 0) false
      (start fun _ => rekeying) where
  rested := ⟨inStep_rekeying.flows, ⟨rfl, rfl, rfl, rfl, rfl, by decide⟩, rfl, rfl, rfl, rfl⟩
  rekey := rfl
  rekeyInFlight := rfl
  enableNextNonce := rfl

/-- There is a run over the rekey that meets the condition, and all is taken. -/
theorem rekey_continuity_rekeying :
    ∃ n es, Always (step .keyTag fun _ => .zeroKeys)
        (fun p e => p.Orderly .right e ∧ p.HasRoom .right e) (start fun _ => rekeying) es ∧
      Waiting .keyTag (fun _ => .zeroKeys) (fun _ => rekeying) .right [1] [2] 256 (.second n 256)
        true (exec (step .keyTag fun _ => .zeroKeys) (start fun _ => rekeying) es) ∧
      Always (step .keyTag fun _ => .zeroKeys)
        (fun p e => p.Accepts .keyTag (fun _ => .zeroKeys) .right e) (start fun _ => rekeying)
        es := by
  obtain ⟨n, es, hsmooth, hw⟩ := rekeyed_run inStep_rekeying waiting_rekeying
  exact ⟨n, es, hsmooth, hw, rekey_continuity inStep_rekeying hsmooth⟩

/-- **The stall.** In a run without loss and in order, a packet that is sealed with the new key is
refused by a receiver that has the new key. -/
theorem rekey_stalls :
    ∃ es d, Always (step .keyTag fun _ => .zeroKeys) (fun p e => p.Orderly .right e)
        (start fun _ => rekeying) (es ++ [.deliver .right ⟨0, none⟩ (some ⟨[], 0⟩) 0]) ∧
      (exec (step .keyTag fun _ => .zeroKeys) (start fun _ => rekeying) es).network .right = [d] ∧
      d.SealedWith .keyTag .zeroKeys rekeying [2] ∧
      ((exec (step .keyTag fun _ => .zeroKeys) (start fun _ => rekeying) es).ends
        .right).conn.recvKey = some [2] ∧
      ¬ (exec (step .keyTag fun _ => .zeroKeys) (start fun _ => rekeying) es).Accepts .keyTag
        (fun _ => .zeroKeys) .right (.deliver .right ⟨0, none⟩ (some ⟨[], 0⟩) 0) := by
  obtain ⟨n, es, hsmooth, hw⟩ := rekeyed_run inStep_rekeying waiting_rekeying
  obtain ⟨es', d, horder, hnetwork, hsealed, hkey, hrefused⟩ := hw.refused inStep_rekeying
  refine ⟨es ++ es', d, ?_, ?_⟩
  · rw [List.append_assoc]
    exact always_append.mpr ⟨always_mono (fun _ _ h => h.1) hsmooth, horder⟩
  · rw [exec_append]
    exact ⟨hnetwork, hsealed, hkey, hrefused⟩

end Pair

end GoNoise.SSU2
