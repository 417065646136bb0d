import GoNoise.Library.Tickets
import GoNoise.SSU2.Session.ConnWrite

/-!
# Nonces of the send cipher

The nonce of a data packet is its number. The number is handed out when the packet is made, and
used when the packet is encrypted; in between the packet waits, in the send queue or in the hands of
the goroutine that made it, and a rekey may change the key and start the numbers again.

The steps below are what the locks make atomic: handing out a number, encrypting one packet, and the
two halves of `initiateRekey`, which holds the lock of the cipher in between.
-/

namespace GoNoise.SSU2

open Trace Tickets

/-! ## Steps -/

/-- How far the goroutine of `initiateRekey` is. -/
inductive Rekey
  | idle
  | started
  /-- the NextNonce packet is sent and the lock of the cipher is held -/
  | switching (newKey : Bytes)

/-- The send side of a connection: the packets that have a number and are not encrypted yet, and
every call of `Encrypt` so far. -/
structure Sender where
  conn : SSU2Conn
  waiting : List SSU2Packet
  rekey : Rekey
  log : List Encryption

/-- What can happen on the send side. -/
inductive SendEvent
  | writeBlock (sel : Select) (block : SSU2Block)
  /-- `sendImmediateACK` makes a packet -/
  | immediateACK (now : Time)
  | retransmit (now : Time) (pn : UInt32) (pp : PendingPacket)
  /-- `CloseWithReason` makes a packet -/
  | terminate (reason : UInt8) (additionalData : Bytes)
  | sendToAddress (env : SendEnv) (block : SSU2Block)
  /-- a waiting packet is dropped: the send queue is full, or the connection closes -/
  | drop (i : ℕ)
  /-- `sendPacketDirect` of a waiting packet -/
  | send (env : SendEnv) (i : ℕ)
  /-- `initiateRekey` up to the end of `sendNextNonceInline` -/
  | rekeySend (env : SendEnv)
  /-- the rest of `initiateRekey` -/
  | rekeySwitch
  /-- the receive path records packets to acknowledge and retires pending ones -/
  | receive (ackHandler : ACKHandler) (pendingPackets : GoMap UInt32 PendingPacket)

def SSU2Conn.sendKey (h : SSU2Conn) : Option Bytes := h.sendCipher.map CipherState.key

namespace Sender

/-- An established connection that has sent nothing. -/
def start (config : SSU2Config) (sendKey recvKey : Bytes) (remoteConnectionID : UInt64)
    (now : Time) : Sender :=
  ⟨(SSU2Conn.assembleSSU2Conn config now).establish sendKey recvKey remoteConnectionID, [], .idle,
    []⟩

/-- A packet was made, perhaps, and a rekey started, perhaps. -/
def made (s : Sender) (r : Option SSU2Packet × List Spawn × SSU2Conn) : Sender :=
  { s with
    conn := r.2.2
    waiting := s.waiting ++ r.1.toList
    rekey := if .initiateRekey ∈ r.2.1 then .started else s.rekey }

/-- `sendPacketDirect` of packet `i`, if the lock of the cipher is free. -/
def send (crypto : Crypto) (env : SendEnv) (s : Sender) (i : ℕ) : Sender :=
  match s.rekey, s.waiting[i]? with
  | .switching _, _ => s
  | _, none => s
  | _, some packet =>
    let (_, encryptions, h) := s.conn.sendPacketDirect crypto env packet
    { s with conn := h, waiting := s.waiting.eraseIdx i, log := s.log ++ encryptions }

/-- `initiateRekey` up to the end of `sendNextNonceInline`. -/
def rekeySend (crypto : Crypto) (env : SendEnv) (s : Sender) : Sender :=
  match s.rekey, s.conn.sendCipher with
  | .started, some cipher =>
    match crypto.hkdf cipher.key with
    | .error _ => { s with rekey := .idle }
    | .ok newKey =>
      match s.conn.sendNextNonceInline crypto env cipher with
      | (.error _, encryptions, h) =>
        { s with conn := h, log := s.log ++ encryptions, rekey := .idle }
      | (.ok (), encryptions, h) =>
        { s with conn := h, log := s.log ++ encryptions, rekey := .switching newKey }
  | .started, none => { s with rekey := .idle }
  | _, _ => s

/-- The rest of `initiateRekey`. -/
def rekeySwitch (s : Sender) : Sender :=
  match s.rekey with
  | .switching newKey => { s with conn := s.conn.switchKey newKey, rekey := .idle }
  | _ => s

def step (crypto : Crypto) (s : Sender) : SendEvent → Sender
  | .writeBlock sel block =>
    let (r, spawned, h) := s.conn.writeBlock sel block
    s.made (r.toOption, spawned, h)
  | .immediateACK now => s.made (s.conn.immediateACKPacket now)
  | .retransmit now pn pp => s.made (s.conn.retransmitPending now pn pp)
  | .terminate reason additionalData => s.made (s.conn.terminationPacket reason additionalData)
  | .sendToAddress env block =>
    let (_, spawned, h) := s.conn.sendToAddress env block
    s.made (none, spawned, h)
  | .drop i => { s with waiting := s.waiting.eraseIdx i }
  | .send env i => s.send crypto env i
  | .rekeySend env => s.rekeySend crypto env
  | .rekeySwitch => s.rekeySwitch
  | .receive ackHandler pendingPackets =>
    { s with conn := { s.conn with ackHandler := ackHandler, pendingPackets := pendingPackets } }

end Sender

/-- The condition on a run. A number is handed out only while the counter is below
`0xFFFFFFFF`, and the key is switched only when no packet waits, and to a key that was not used
before. -/
def SafeStep (s : Sender) : SendEvent → Prop
  | .writeBlock .. | .immediateACK .. | .retransmit .. | .terminate .. | .sendToAddress ..
  | .rekeySend .. => s.conn.sendSequence ≠ 0xFFFFFFFF
  | .rekeySwitch => ∀ newKey, s.rekey = .switching newKey →
    s.waiting = [] ∧ ∀ e ∈ s.log, e.key ≠ newKey
  | .drop _ | .send .. | .receive .. => True

/-! ## Counter and key -/

/-- What decides the numbers and keys to come is as in `h`. -/
structure SameSend (h h' : SSU2Conn) : Prop where
  sendSequence : h'.sendSequence = h.sendSequence
  sendKey : h'.sendKey = h.sendKey
  config : h'.config = h.config
  rekeyInFlight : h'.rekeyInFlight = h.rekeyInFlight

theorem SameSend.refl (h : SSU2Conn) : SameSend h h := ⟨rfl, rfl, rfl, rfl⟩

theorem SameSend.trans {h₁ h₂ h₃ : SSU2Conn} (h : SameSend h₁ h₂) (h' : SameSend h₂ h₃) :
    SameSend h₁ h₃ :=
  ⟨h'.sendSequence.trans h.sendSequence, h'.sendKey.trans h.sendKey, h'.config.trans h.config,
    h'.rekeyInFlight.trans h.rekeyInFlight⟩

variable {cipher : CipherState} {h h' : SSU2Conn} {key : Bytes} {n : ℕ} {s : Sender} {seq : UInt32}
  {spawned : List Spawn} (crypto : Crypto) (env : SendEnv)

theorem SameSend.trackPendingPacket (h : SSU2Conn) (packet : SSU2Packet)
    (plaintext : Bytes) : SameSend h (h.trackPendingPacket env packet plaintext) := by
  rw [SSU2Conn.trackPendingPacket]
  split_ifs <;> exact ⟨rfl, rfl, rfl, rfl⟩

/-- At most one number was handed out, and the packet, if there is one, has it. -/
structure HandsOut (h : SSU2Conn) (packet : Option SSU2Packet) (h' : SSU2Conn) : Prop where
  sendKey : h'.sendKey = h.sendKey
  counter : packet = none ∧ h'.sendSequence = h.sendSequence ∨
    h'.sendSequence = h.sendSequence + 1 ∧ ∀ p ∈ packet, p.packetNumber = h.sendSequence

namespace HandsOut

variable {h : SSU2Conn}

theorem nextSendSequence (hmax : h.sendSequence ≠ 0xFFFFFFFF) :
    h.nextSendSequence.2.2.sendSequence = h.sendSequence + 1 ∧
      h.nextSendSequence.2.2.sendKey = h.sendKey := by
  rcases h.nextSendSequence_cases with ⟨heq, -⟩ | ⟨-, he | ⟨-, -, he⟩⟩
  · exact absurd heq hmax
  · rw [he]
    exact ⟨rfl, rfl⟩
  · rw [he]
    exact ⟨rfl, rfl⟩

/-- The packet carries the number that `nextSendSequence` gave, on a connection that agrees with `h`
on the counter and the key. -/
theorem of_next {h₀ h' : SSU2Conn} (hsame : SameSend h h₀)
    (hmax : h.sendSequence ≠ 0xFFFFFFFF) (hafter : SameSend h₀.nextSendSequence.2.2 h')
    (packet : Option SSU2Packet) (hpacket : ∀ p ∈ packet, p.packetNumber = h₀.nextSendSequence.1) :
    HandsOut h packet h' := by
  rw [← hsame.sendSequence] at hmax
  obtain ⟨hseq, hkey⟩ := nextSendSequence hmax
  refine ⟨(hafter.sendKey.trans hkey).trans hsame.sendKey, Or.inr ⟨?_, fun p hp => ?_⟩⟩
  · rw [hafter.sendSequence, hseq, hsame.sendSequence]
  · rw [hpacket p hp, h₀.nextSendSequence_fst, hsame.sendSequence]

section
variable (hmax : h.sendSequence ≠ 0xFFFFFFFF)
include hmax

theorem writeBlock (sel : Select) (block : SSU2Block) :
    HandsOut h (h.writeBlock sel block).1.toOption (h.writeBlock sel block).2.2 := by
  have hof := of_next (.refl h) hmax (.refl h.nextSendSequence.2.2)
  rw [SSU2Conn.writeBlock, SSU2Conn.newDataPacket]
  generalize h.nextSendSequence = result at hof ⊢
  rcases result with ⟨pktNum, spawned, h'⟩
  cases serializeBlocks [block] with
  | error e => exact hof none fun p hp => by cases hp
  | ok payload =>
    cases sel with
    | enqueued => exact hof (some _) fun p hp => by cases hp; rfl
    | closed => exact hof none fun p hp => by cases hp
    | deadline => exact hof none fun p hp => by cases hp

theorem immediateACKPacket (now : Time) :
    HandsOut h (h.immediateACKPacket now).1 (h.immediateACKPacket now).2.2 := by
  rw [SSU2Conn.immediateACKPacket]
  rcases h.ackHandler.generateACK now with ⟨_ | ack, ackHandler⟩
  · exact ⟨rfl, Or.inl ⟨rfl, rfl⟩⟩
  · have hsame : SameSend h { h with ackHandler := ackHandler } := ⟨rfl, rfl, rfl, rfl⟩
    exact of_next hsame hmax (.refl _) (some _) fun p hp => by cases hp; rfl

theorem retransmitPending (now : Time) (pn : UInt32) (pp : PendingPacket) :
    HandsOut h (h.retransmitPending now pn pp).1 (h.retransmitPending now pn pp).2.2 := by
  have hof := of_next (.refl h) hmax (.refl h.nextSendSequence.2.2)
  rw [SSU2Conn.retransmitPending, SSU2Conn.newDataPacket]
  generalize h.nextSendSequence = result at hof ⊢
  rcases result with ⟨pktNum, spawned, h'⟩
  split_ifs
  · exact ⟨rfl, Or.inl ⟨rfl, rfl⟩⟩
  · exact ⟨rfl, Or.inl ⟨rfl, rfl⟩⟩
  · have hout := hof (some { h'.dataPacket pktNum [] with payload := pp.plaintextPayload })
      fun p hp => by cases hp; rfl
    exact ⟨hout.sendKey, hout.counter⟩

theorem terminationPacket (reason : UInt8) (additionalData : Bytes) :
    HandsOut h (h.terminationPacket reason additionalData).1
      (h.terminationPacket reason additionalData).2.2 := by
  have hsame : SameSend h { h with state := .closing } := ⟨rfl, rfl, rfl, rfl⟩
  have hof := of_next hsame hmax (.refl _)
  rw [SSU2Conn.terminationPacket]
  generalize SSU2Conn.nextSendSequence { h with state := .closing } = result at hof ⊢
  rcases result with ⟨pktNum, spawned, h'⟩
  dsimp only
  split
  · exact hof none fun p hp => by cases hp
  · exact hof (some _) fun p hp => by cases hp; rfl

theorem sendToAddress (env : SendEnv) (block : SSU2Block) :
    HandsOut h none (h.sendToAddress env block).2.2 := by
  rw [SSU2Conn.sendToAddress_conn]
  exact of_next (.refl h) hmax (.refl h.nextSendSequence.2.2) none fun p hp => by cases hp

end

end HandsOut

/-! ## Encryption -/

def packetNonce (pktNum : UInt32) : UInt64 := UInt64.ofNat pktNum.toNat

theorem toNat_packetNonce (pktNum : UInt32) : (packetNonce pktNum).toNat = pktNum.toNat := by
  have hlt : pktNum.toNat < UInt64.size := lt_trans pktNum.toNat_lt (by decide)
  exact UInt64.toNat_ofNat_of_lt' hlt

theorem sendKey_of_sendCipher
    (hcipher : h.sendCipher = some cipher) : h.sendKey = some cipher.key := by
  rw [SSU2Conn.sendKey, hcipher]
  rfl

/-- The calls of `Encrypt` that one packet makes: none, or one with the key of the moment and the
number as nonce. -/
def Encrypts (h : SSU2Conn) (pktNum : UInt32) (encryptions : List Encryption) : Prop :=
  encryptions = [] ∨ ∃ key, h.sendKey = some key ∧ encryptions = [⟨key, packetNonce pktNum⟩]

theorem encryptDataPayload_spec (h : SSU2Conn) (packet : SSU2Packet) :
    SameSend h (h.encryptDataPayload crypto packet).2.2 ∧
      Encrypts h packet.packetNumber (h.encryptDataPayload crypto packet).2.1 := by
  rw [SSU2Conn.encryptDataPayload]
  cases hcipher : h.sendCipher with
  | none => exact ⟨.refl h, Or.inl rfl⟩
  | some cipher =>
    have hkey := sendKey_of_sendCipher hcipher
    have hone : Encrypts h packet.packetNumber [⟨cipher.key, packetNonce packet.packetNumber⟩] :=
      Or.inr ⟨cipher.key, hkey, rfl⟩
    dsimp only
    split_ifs
    · exact ⟨.refl h, Or.inl rfl⟩
    · split
      · exact ⟨⟨rfl, hkey.symm, rfl, rfl⟩, hone⟩
      · exact ⟨⟨rfl, hkey.symm, rfl, rfl⟩, hone⟩

theorem sendPacketDirect_spec (h : SSU2Conn) (packet : SSU2Packet) :
    SameSend h (h.sendPacketDirect crypto env packet).2.2 ∧
      Encrypts h packet.packetNumber (h.sendPacketDirect crypto env packet).2.1 := by
  have hspec := encryptDataPayload_spec crypto h packet
  rw [SSU2Conn.sendPacketDirect]
  generalize h.encryptDataPayload crypto packet = result at hspec ⊢
  rcases result with ⟨_ | ⟨sent, plaintext⟩, encryptions, h'⟩
  · exact hspec
  · dsimp only
    cases SSU2Conn.putOnWire env sent with
    | error e => exact hspec
    | ok wire =>
      refine ⟨hspec.1.trans (.trans ?_ (.trackPendingPacket env _ wire plaintext)), hspec.2⟩
      exact ⟨rfl, rfl, rfl, rfl⟩

theorem serializeBlocks_nextNonce :
    serializeBlocks [⟨blockTypeNextNonce, BigEndian.putUint64 0⟩] =
      .ok (SSU2Block.wire ⟨blockTypeNextNonce, BigEndian.putUint64 0⟩) := by
  decide

/-- The NextNonce packet takes the number of the counter, and the counter moves on; nothing here
looks for its end. -/
theorem sendNextNonceInline_spec (hcipher : h.sendCipher = some cipher) :
    SameSend { h with sendSequence := h.sendSequence + 1 }
        (h.sendNextNonceInline crypto env cipher).2.2 ∧
      (h.sendNextNonceInline crypto env cipher).2.1 =
        [⟨cipher.key, packetNonce h.sendSequence⟩] := by
  have hkey := sendKey_of_sendCipher hcipher
  rw [SSU2Conn.sendNextNonceInline, serializeBlocks_nextNonce]
  dsimp only
  split
  · exact ⟨⟨rfl, hkey.symm, rfl, rfl⟩, rfl⟩
  · split
    · exact ⟨⟨rfl, hkey.symm, rfl, rfl⟩, rfl⟩
    · split <;> exact ⟨⟨rfl, hkey.symm, rfl, rfl⟩, rfl⟩

/-! ## The send path as tickets -/

/-- What the send side is for: numbers that are handed out, held, and spent under a key. -/
def Sender.tickets (s : Sender) : Tickets (Option Bytes) where
  key := s.conn.sendKey
  next := s.conn.sendSequence.toNat
  held := s.waiting.map fun p => p.packetNumber.toNat
  used := s.log.map fun e => (some e.key, e.nonce.toNat)

theorem toNat_add_one {c : UInt32} (h : c ≠ 0xFFFFFFFF) : (c + 1).toNat = c.toNat + 1 := by
  have hne : c.toNat ≠ 0xFFFFFFFF := fun heq => h (UInt32.toNat_inj.mp heq)
  have hlt := c.toNat_lt
  rw [UInt32.toNat_add, UInt32.toNat_one]
  omega

theorem reaches_made (hmax : s.conn.sendSequence ≠ 0xFFFFFFFF) {packet : Option SSU2Packet}
    (spawned : List Spawn) (hr : HandsOut s.conn packet h') :
    Reaches s.tickets (s.made (packet, spawned, h')).tickets := by
  have hkey := hr.sendKey
  rcases hr.counter with ⟨rfl, hseq⟩ | ⟨hseq, hpacket⟩
  · grind [Sender.tickets, Sender.made, Option.toList_none]
  · have hnum : h'.sendSequence.toNat = s.conn.sendSequence.toNat + 1 := by
      rw [hseq, toNat_add_one hmax]
    cases packet with
    | none =>
      have hskip : (s.made (none, spawned, h')).tickets =
          { s.tickets with next := s.tickets.next + 1 } := by
        simp only [Sender.tickets, Sender.made, Option.toList_none, List.append_nil, hkey, hnum]
      rw [hskip]
      exact reaches_skip s.tickets
    | some p =>
      have hp : p.packetNumber = s.conn.sendSequence := hpacket p rfl
      have htake : (s.made (some p, spawned, h')).tickets =
          { s.tickets with
            next := s.tickets.next + 1
            held := s.tickets.held ++ [s.tickets.next] } := by
        simp only [Sender.tickets, Sender.made, Option.toList_some, List.map_append, List.map_cons,
          List.map_nil, hp, hkey, hnum]
      rw [htake]
      exact .single (.take s.tickets)

/-- A waiting packet is encrypted, or sent without the cipher. -/
theorem reaches_send (s : Sender) (i : ℕ) : Reaches s.tickets (s.send crypto env i).tickets := by
  rw [Sender.send]
  split
  · exact .refl
  · exact .refl
  · rename_i packet hpacket _
    obtain ⟨hsame, henc⟩ := sendPacketDirect_spec crypto env s.conn packet
    generalize s.conn.sendPacketDirect crypto env packet = result at hsame henc ⊢
    obtain ⟨hseq, hkey, -, -⟩ := hsame
    dsimp only at hseq hkey henc ⊢
    rcases henc with hnone | ⟨key, hsome, hone⟩
    · have hdiscard := Step.discard s.tickets i
      simp only [Sender.tickets, List.eraseIdx_map] at hdiscard
      simp only [Sender.tickets, hseq, hkey, hnone, List.append_nil]
      exact .single hdiscard
    · have hheld : s.tickets.held[i]? = some packet.packetNumber.toNat := by
        show (s.waiting.map _)[i]? = _
        rw [List.getElem?_map, hpacket]
        rfl
      have hspend := Step.spend s.tickets i _ hheld
      simp only [Sender.tickets, List.eraseIdx_map, hsome] at hspend
      simp only [Sender.tickets, hseq, hkey, hone, List.map_append, List.map_cons, List.map_nil,
        toNat_packetNonce, hsome]
      exact .single hspend

theorem reaches_rekeySend (hmax : s.conn.sendSequence ≠ 0xFFFFFFFF) :
    Reaches s.tickets (s.rekeySend crypto env).tickets := by
  rw [Sender.rekeySend]
  split
  · rename_i cipher _ hcipher
    cases crypto.hkdf cipher.key with
    | error e => exact .refl
    | ok newKey =>
      obtain ⟨hsame, hone⟩ := sendNextNonceInline_spec crypto env hcipher
      have hsend := sendKey_of_sendCipher hcipher
      have hnext := reaches_spend_next s.tickets
      generalize s.conn.sendNextNonceInline crypto env cipher = result at hsame hone ⊢
      rcases result with ⟨r, encryptions, h'⟩
      have hseq : h'.sendSequence = s.conn.sendSequence + 1 := hsame.sendSequence
      have hkey : h'.sendKey = s.conn.sendKey := hsame.sendKey
      dsimp only at hone
      cases r <;>
        simpa only [Sender.tickets, hseq, hkey, hone, List.map_append, List.map_cons, List.map_nil,
          toNat_packetNonce, toNat_add_one hmax, hsend] using hnext
  · exact .refl
  · exact .refl

theorem reaches_rekeySwitch
    (hsafe : ∀ newKey, s.rekey = .switching newKey → s.waiting = [] ∧ ∀ e ∈ s.log, e.key ≠ newKey) :
    Reaches s.tickets s.rekeySwitch.tickets := by
  rw [Sender.rekeySwitch]
  split
  · rename_i newKey hrekey
    obtain ⟨hwaiting, hnew⟩ := hsafe newKey hrekey
    have hheld : s.tickets.held = [] := by
      show s.waiting.map _ = []
      rw [hwaiting]
      rfl
    refine .single (.renew s.tickets (some newKey) 0 hheld fun u hu => ?_)
    obtain ⟨e, he, rfl⟩ := List.mem_map.mp hu
    exact fun heq => hnew e he (Option.some.inj heq)
  · exact .refl

/-- Every safe step follows the discipline. -/
theorem reaches_step {event : SendEvent} (hsafe : SafeStep s event) :
    Reaches s.tickets (s.step crypto event).tickets := by
  cases event with
  | writeBlock sel block => exact reaches_made hsafe _ (HandsOut.writeBlock hsafe sel block)
  | immediateACK now => exact reaches_made hsafe _ (HandsOut.immediateACKPacket hsafe now)
  | retransmit now pn pp => exact reaches_made hsafe _ (HandsOut.retransmitPending hsafe now pn pp)
  | terminate reason additionalData =>
    exact reaches_made hsafe _ (HandsOut.terminationPacket hsafe reason additionalData)
  | sendToAddress env block => exact reaches_made hsafe _ (HandsOut.sendToAddress hsafe env block)
  | drop i =>
    have hdiscard := Step.discard s.tickets i
    simp only [Sender.tickets, List.eraseIdx_map] at hdiscard
    exact .single hdiscard
  | send env i => exact reaches_send crypto env s i
  | rekeySend env => exact reaches_rekeySend crypto env hsafe
  | rekeySwitch => exact reaches_rekeySwitch hsafe
  | receive ackHandler pendingPackets => exact .refl

/-- **Nonces are unique in safe runs.** In every run whose steps all meet the condition, no two
calls of `Encrypt` with the same key have the same nonce. -/
theorem nonces_nodup (crypto : Crypto) (config : SSU2Config) (sendKey recvKey : Bytes)
    (remoteConnectionID : UInt64) (now : Time) (events : List SendEvent)
    (hsafe : Always (Sender.step crypto) SafeStep
      (Sender.start config sendKey recvKey remoteConnectionID now) events) :
    (exec (Sender.step crypto) (Sender.start config sendKey recvKey remoteConnectionID now)
      events).log.Nodup := by
  have hreach := exec_induct
    (I := Reaches (Sender.start config sendKey recvKey remoteConnectionID now).tickets ∘
      Sender.tickets)
    (fun s event hs hsafe => Relation.ReflTransGen.trans hs (reaches_step crypto hsafe)) .refl hsafe
  exact List.Nodup.of_map _ (nodup_of_reaches rfl rfl hreach)

/-- A block is written, an ACK packet is made while it waits, and the two are sent the other way
round. -/
theorem nonces_nodup_crossed :
    ∃ s : Sender,
      s = exec (Sender.step .identity) (Sender.start .newSSU2Config [1] [2] 0 0)
        [.writeBlock .enqueued ⟨blockTypePadding, [0]⟩,
          .receive (ACKHandler.newACKHandler.recordReceived 7) ∅, .immediateACK 0,
          .send .openSocket 1, .send .openSocket 0] ∧
      s.log = [⟨[1], 1⟩, ⟨[1], 0⟩] ∧ s.log.Nodup := by
  refine ⟨_, rfl, by decide, nonces_nodup .identity .newSSU2Config [1] [2] 0 0 _ ?_⟩
  exact ⟨by rw [SafeStep]; decide, trivial, by rw [SafeStep]; decide, trivial, trivial, trivial⟩

/-! ## Packets one at a time -/

/-- No packet waits, and no rekey is under way. -/
structure Sender.Idle (key : Bytes) (s : Sender) : Prop where
  waiting : s.waiting = []
  sendKey : s.conn.sendKey = some key
  rekey : s.rekey = .idle

/-- A data packet with a payload is encrypted when it is sent. -/
theorem encryptions_sendPacketDirect (hkey : h.sendKey = some key) {packet : SSU2Packet}
    (htype : packet.messageType = messageTypeData) (hpayload : packet.payload.length ≠ 0) :
    (h.sendPacketDirect crypto env packet).2.1 = [⟨key, packetNonce packet.packetNumber⟩] := by
  obtain ⟨cipher, hcipher, hk⟩ := Option.map_eq_some_iff.mp hkey
  have hcond : ¬ (packet.messageType ≠ messageTypeData ∨ packet.payload.length = 0) := by grind
  have henc : (h.encryptDataPayload crypto packet).2.1 =
      [⟨key, packetNonce packet.packetNumber⟩] := by
    rw [SSU2Conn.encryptDataPayload, hcipher]
    dsimp only
    rw [if_neg hcond, ← hk]
    split <;> rfl
  rw [SSU2Conn.sendPacketDirect]
  generalize h.encryptDataPayload crypto packet = result at henc ⊢
  rcases result with ⟨_ | ⟨sent, plaintext⟩, encryptions, h'⟩
  · exact henc
  · dsimp only
    split <;> exact henc

theorem send_made (hs : s.Idle key) {packet : SSU2Packet} (hkey : h'.sendKey = some key)
    (hspawn : .initiateRekey ∉ spawned) (htype : packet.messageType = messageTypeData)
    (hpayload : packet.payload.length ≠ 0) :
    ((s.made (some packet, spawned, h')).send crypto env 0).Idle key ∧
      SameSend h' ((s.made (some packet, spawned, h')).send crypto env 0).conn ∧
      ((s.made (some packet, spawned, h')).send crypto env 0).log =
        s.log ++ [⟨key, packetNonce packet.packetNumber⟩] := by
  have hmade : s.made (some packet, spawned, h') = ⟨h', [packet], .idle, s.log⟩ := by
    rw [Sender.made, hs.waiting, hs.rekey, if_neg hspawn]
    rfl
  obtain ⟨hsame, -⟩ := sendPacketDirect_spec crypto env h' packet
  have henc := encryptions_sendPacketDirect crypto env hkey htype hpayload
  rw [hmade]
  refine ⟨⟨rfl, hsame.sendKey.trans hkey, rfl⟩, hsame, ?_⟩
  show s.log ++ (h'.sendPacketDirect crypto env packet).2.1 = _
  rw [henc]

theorem writeBlock_padding (hnext : h.nextSendSequence = (seq, spawned, h')) :
    h.writeBlock .enqueued ⟨blockTypePadding, [0]⟩ =
      (.ok { h'.dataPacket seq [] with payload := SSU2Block.wire ⟨blockTypePadding, [0]⟩ }, spawned,
        h') := by
  have hser : serializeBlocks [⟨blockTypePadding, [0]⟩] =
      .ok (SSU2Block.wire ⟨blockTypePadding, [0]⟩) := by decide
  rw [SSU2Conn.writeBlock, SSU2Conn.newDataPacket, hnext, hser]

/-- A block is written and its packet is sent. -/
def writeAndSend : List SendEvent :=
  [.writeBlock .enqueued ⟨blockTypePadding, [0]⟩, .send .openSocket 0]

theorem writeAndSend_spec (hs : s.Idle key) (hnext : s.conn.nextSendSequence = (seq, spawned, h'))
    (hkey : h'.sendKey = some key) (hspawn : .initiateRekey ∉ spawned) :
    (exec (Sender.step crypto) s writeAndSend).Idle key ∧
      SameSend h' (exec (Sender.step crypto) s writeAndSend).conn ∧
      (exec (Sender.step crypto) s writeAndSend).log = s.log ++ [⟨key, packetNonce seq⟩] := by
  have hstep : exec (Sender.step crypto) s writeAndSend =
      (s.made (some { h'.dataPacket seq [] with
        payload := SSU2Block.wire ⟨blockTypePadding, [0]⟩ }, spawned, h')).send
          crypto .openSocket 0 := by
    rw [writeAndSend, exec_cons, Sender.step, writeBlock_padding hnext]
    rfl
  rw [hstep]
  exact send_made crypto .openSocket hs hkey hspawn rfl (Nat.succ_ne_zero _)

/-- `n` blocks, one after the other. -/
def drive (n : ℕ) : List SendEvent := (List.replicate n writeAndSend).flatten

theorem drive_succ (n : ℕ) : drive (n + 1) = writeAndSend ++ drive n := by
  rw [drive, List.replicate_succ, List.flatten_cons, drive]

/-- Below its end the counter moves on; a rekey is started only where the configuration, the counter
and the flag allow it. -/
theorem nextSendSequence_quiet (hlt : h.sendSequence.toNat < 4294967295)
    (hquiet : h.config.enableNextNonce = false ∨ h.rekeyInFlight = true ∨
      h.sendSequence.toNat < rekeyThreshold.toNat) :
    h.nextSendSequence = (h.sendSequence, [], { h with sendSequence := h.sendSequence + 1 }) := by
  have hne : h.sendSequence ≠ 0xFFFFFFFF := by
    intro heq
    rw [heq] at hlt
    exact absurd hlt (by decide)
  have hno : ¬ (h.config.enableNextNonce = true ∧ h.sendSequence ≥ rekeyThreshold ∧
      ¬ h.rekeyInFlight = true) := by
    rintro ⟨hen, hge, hflight⟩
    rcases hquiet with hoff | hon | hlow
    · rw [hen] at hoff
      cases hoff
    · exact hflight hon
    · have hle := UInt32.le_iff_toNat_le.mp hge
      omega
  rw [SSU2Conn.nextSendSequence, if_neg hne]
  exact if_neg hno

theorem drive_spec (n : ℕ) (hs : s.Idle key) {c : ℕ} (hc : s.conn.sendSequence.toNat = c)
    (hroom : c + n ≤ 4294967295)
    (hquiet : s.conn.config.enableNextNonce = false ∨ s.conn.rekeyInFlight = true ∨
      c + n ≤ rekeyThreshold.toNat) :
    (exec (Sender.step crypto) s (drive n)).Idle key ∧
      (exec (Sender.step crypto) s (drive n)).conn.sendSequence.toNat = c + n ∧
      (exec (Sender.step crypto) s (drive n)).conn.config = s.conn.config ∧
      (exec (Sender.step crypto) s (drive n)).conn.rekeyInFlight = s.conn.rekeyInFlight ∧
      s.log <+: (exec (Sender.step crypto) s (drive n)).log := by
  induction n generalizing s c with
  | zero => exact ⟨hs, hc, rfl, rfl, List.prefix_refl _⟩
  | succ n ih =>
    have hnext := nextSendSequence_quiet (h := s.conn) (by omega)
      (hquiet.imp_right (Or.imp_right fun hle => by omega))
    obtain ⟨hidle, hsame, hlog⟩ := writeAndSend_spec crypto hs hnext hs.sendKey List.not_mem_nil
    have hseq : (exec (Sender.step crypto) s writeAndSend).conn.sendSequence.toNat = c + 1 := by
      rw [hsame.sendSequence, ← hc]
      refine toNat_add_one fun heq => ?_
      have hmax : (0xFFFFFFFF : UInt32).toNat = 4294967295 := rfl
      rw [heq, hmax] at hc
      omega
    obtain ⟨hidle', hseq', hconfig, hflight, hpre⟩ := ih hidle hseq (by omega) (by
      rw [hsame.config, hsame.rekeyInFlight]
      exact hquiet.imp_right (Or.imp_right fun hle => by omega))
    rw [drive_succ, exec_append]
    refine ⟨hidle', by omega, hconfig.trans hsame.config, hflight.trans hsame.rekeyInFlight, ?_⟩
    rw [hlog] at hpre
    exact (List.prefix_append ..).trans hpre

/-! ## A nonce that is used twice -/

theorem nextSendSequence_exhausted (hseq : h.sendSequence.toNat = 4294967295) :
    h.nextSendSequence = (0xFFFFFFFF, [.close], h) := by
  rw [SSU2Conn.nextSendSequence]
  exact if_pos (UInt32.toNat_inj.mp hseq)

theorem not_nodup_concat {α : Type} {l : List α} {a : α} (h : a ∈ l) : ¬ (l ++ [a]).Nodup := by
  rw [← List.concat_eq_append, List.nodup_concat]
  exact fun hnodup => hnodup.1 h

theorem exhausted_spec (hs : s.Idle key) (hn : s.conn.sendSequence.toNat + n = 4294967295)
    (hoff : s.conn.config.enableNextNonce = false) :
    (exec (Sender.step crypto) s (drive n ++ writeAndSend)).Idle key ∧
      (exec (Sender.step crypto) s (drive n ++ writeAndSend)).conn.sendSequence.toNat =
        4294967295 ∧
      ⟨key, packetNonce 0xFFFFFFFF⟩ ∈
        (exec (Sender.step crypto) s (drive n ++ writeAndSend)).log := by
  obtain ⟨hidle, hseq, -⟩ := drive_spec crypto n hs rfl (by omega) (Or.inl hoff)
  rw [hn] at hseq
  rw [exec_append]
  obtain ⟨hidle', hsame, hlog⟩ := writeAndSend_spec crypto hidle (nextSendSequence_exhausted hseq)
    hidle.sendKey (by decide)
  refine ⟨hidle', ?_, ?_⟩
  · rw [hsame.sendSequence]
    exact hseq
  · rw [hlog]
    exact List.mem_append_right _ (List.mem_singleton_self _)

/-- The last number is used twice. With rekeying off, let packets use up the counter. Every
packet after that is sent with `0xFFFFFFFF`. -/
theorem reused_at_exhaustion (hs : s.Idle key) (hn : s.conn.sendSequence.toNat + n = 4294967295)
    (hoff : s.conn.config.enableNextNonce = false) :
    ¬ (exec (Sender.step crypto) s ((drive n ++ writeAndSend) ++ writeAndSend)).log.Nodup := by
  obtain ⟨hidle, hseq, hmem⟩ := exhausted_spec crypto hs hn hoff
  rw [exec_append]
  obtain ⟨-, -, hlog⟩ := writeAndSend_spec crypto hidle (nextSendSequence_exhausted hseq)
    hidle.sendKey (by decide)
  rw [hlog]
  exact not_nodup_concat hmem

/-- From the start, with the default configuration. -/
theorem nonce_reused_at_exhaustion :
    ¬ (exec (Sender.step .identity)
        (Sender.start .newSSU2Config (List.replicate 32 1) (List.replicate 32 2) 0 0)
        ((drive 4294967295 ++ writeAndSend) ++ writeAndSend)).log.Nodup :=
  reused_at_exhaustion .identity ⟨rfl, rfl, rfl⟩ (by decide) rfl

end GoNoise.SSU2
