import GoNoise.SSU2.Session.EndpointFrames
import GoNoise.SSU2.Session.MessageQueue
import GoNoise.SSU2.Session.Retention

/-!
# Two ends and a network

Two endpoints exchange datagrams over a network that may lose, delay and reorder them, and that
neither duplicates nor forges them: what an end has written is on its way to the other end until it
is delivered or lost.

Duplicates are detected by packet number. A retransmission has a fresh number, so the window takes
it, and the message is queued again if the first copy had arrived.
-/

namespace GoNoise.SSU2

open Trace

/-! ## What is opened -/

/-- What was sealed opens to what was sealed, or not at all. -/
def Aead.Authentic (aead : Aead) : Prop :=
  ∀ key key' nonce nonce' ad ad' plaintext opened,
    aead.decrypt key' nonce' ad' (aead.encrypt key nonce ad plaintext) = .ok opened →
      opened = plaintext

theorem Aead.authentic_zeroTag : Aead.zeroTag.Authentic := by
  intro key key' nonce nonce' ad ad' plaintext opened hopen
  obtain rfl := Except.ok.inj ((Aead.zeroTag.decrypt_encrypt key nonce ad plaintext).symm.trans
    hopen)
  rfl

structure SSU2Conn.Receives (h : SSU2Conn) : Prop where
  state : h.state = .established
  recvCipher : h.recvCipher.isSome = true

instance (h : SSU2Conn) : Decidable h.Receives :=
  decidable_of_iff (h.state = .established ∧ h.recvCipher.isSome = true)
    ⟨fun hh => ⟨hh.1, hh.2⟩, fun hh => ⟨hh.state, hh.recvCipher⟩⟩

variable {aead : Aead} {ctx ctx' : HeaderContext} {e : Emission} (i : Side)

/-- With a header protector, a sealed datagram is protected. -/
theorem Emission.Sealed.applyOutboundHeaderProtection {h₀ : SSU2Conn} (he : e.Sealed aead ctx h₀)
    (hm : SSU2Conn.MatchingHeaders ctx ctx') :
    ∃ key x, e.encryptions = [⟨key, packetNonce e.packetNumber⟩] ∧
      ctx.applyOutboundHeaderProtection messageTypeData (h₀.plainDatagram e.packetNumber x
        (h₀.sealedPayload aead key e.packetNumber e.payload)) = .ok e.data := by
  obtain ⟨key, x, hencryptions, hdata⟩ := he.data
  obtain ⟨hp, -, hprotect, -⟩ := hm.protector
  have happly := hprotect _
    (SSU2Conn.minPacketSize_le_sealed aead h₀ key e.packetNumber x he.payload)
  rw [HeaderContext.protectOr, happly] at hdata
  refine ⟨key, x, hencryptions, ?_⟩
  rw [happly, hdata]
  rfl

/-- With an authentic AEAD, a packet that is read from a sealed datagram has the payload that was
sealed. -/
theorem Emission.Sealed.payload_of_parse (hauth : aead.Authentic) {h₀ h : SSU2Conn}
    (he : e.Sealed aead ctx h₀) (hm : SSU2Conn.MatchingHeaders ctx ctx') (hh : h.Receives)
    {env : RecvEnv} {addr : Option UDPAddr} {packet : SSU2Packet}
    (hparse : (h.parseInboundPacket aead ctx' env e.data addr).1 = some packet) :
    packet.payload = e.payload := by
  obtain ⟨key, x, -, hprotected⟩ := he.applyOutboundHeaderProtection hm
  obtain ⟨cipher, hcipher⟩ := Option.isSome_iff_exists.mp hh.recvCipher
  have hlen : (h₀.sealedPayload aead key e.packetNumber e.payload).length =
      e.payload.length + 16 := SSU2Conn.length_sealedPayload aead e.packetNumber key
  have hsize := he.size
  cases addr with
  | none => cases hparse
  | some addr =>
    obtain ⟨y, heq⟩ := SSU2Conn.parseInboundPacket_protected aead hm hh.state e.packetNumber x
      (by rw [hlen]; omega) (by rw [hlen]; omega) env addr hprotected
    rw [heq] at hparse
    rcases hdecrypt : h.decryptDataPayload aead (SSU2Conn.wirePacket
        (SSU2Conn.setLength y (h₀.sealedHeader e.packetNumber))
        (h₀.sealedPayload aead key e.packetNumber e.payload) e.packetNumber env.now) with
      ⟨_ | packet', h'⟩
    · rw [hdecrypt] at hparse
      cases hparse
    · rw [hdecrypt] at hparse
      obtain rfl := Option.some.inj hparse
      exact hauth _ _ _ _ _ _ _ _ (SSU2Conn.opened_of_decryptDataPayload aead hcipher rfl
        (hlen.symm ▸ Nat.succ_pos _) (congrArg Prod.fst hdecrypt))

/-- **Integrity.** Whenever a receiver reads a datagram that an endpoint has written for a payload,
again or for the first time, it gets that payload. -/
theorem Endpoint.payload_intact (hauth : aead.Authentic)
    (hm : SSU2Conn.MatchingHeaders ctx ctx') {h₀ h : SSU2Conn} (hready : Ready h₀) (hh : h.Receives)
    (es : List Event) (he : e ∈ (exec (step aead ctx) (start h₀) es).emissions) {t : ℕ}
    (htag : e.tag = some t) {env : RecvEnv} {addr : Option UDPAddr} {packet : SSU2Packet}
    (hparse : (h.parseInboundPacket aead ctx' env e.data addr).1 = some packet) :
    (exec (step aead ctx) (start h₀) es).payloads[t]? = some packet.payload := by
  rcases (WellFormed.exec hready es).emissions e he with ⟨hsealed, hpayload⟩ | ⟨-, hnone⟩
  · rw [hsealed.payload_of_parse hauth hm hh hparse]
    exact hpayload t htag
  · rw [hnone] at htag
    cases htag

theorem Endpoint.payload_intact_demo :
    let s := exec (step .zeroTag .zeroKeys) (start .demo) [.writeBlock ⟨blockTypePadding, [0]⟩,
      .enqueue 0, .take, .encrypt 0, .emit .openSocket 0]
    ∃ e ∈ s.emissions, ∃ packet, (SSU2Conn.demo.parseInboundPacket .zeroTag .zeroKeys ⟨0, none⟩
      e.data (some ⟨[], 0⟩)).1 = some packet ∧ s.payloads[0]? = some packet.payload := by
  intro s
  obtain ⟨e, he, htag, hsome⟩ : ∃ e ∈ s.emissions, e.tag = some 0 ∧
    (SSU2Conn.demo.parseInboundPacket
    .zeroTag .zeroKeys ⟨0, none⟩ e.data (some ⟨[], 0⟩)).1.isSome := by decide +kernel
  obtain ⟨packet, hparse⟩ := Option.isSome_iff_exists.mp hsome
  exact ⟨e, he, packet, hparse, payload_intact Aead.authentic_zeroTag
    ⟨rfl, _, _, rfl, rfl, rfl, rfl, rfl, rfl⟩ (ready_establish _ _ _ _ _) ⟨rfl, rfl⟩ _ he htag
      hparse⟩

/-! ## The pair -/

/-- The two ends. -/
inductive Side
  | left
  | right
  deriving DecidableEq

/-- The other end. -/
def Side.other : Side → Side
  | .left => .right
  | .right => .left

@[simp] theorem Side.other_other : i.other.other = i := by cases i <;> rfl

theorem Side.other_ne : i.other ≠ i := by cases i <;> decide

theorem Side.eq_or_eq_other (j : Side) : j = i ∨ j = i.other := by
  cases i <;> cases j <;> decide

/-- Two ends, and the datagrams on their way to each of them. -/
structure Pair where
  ends : Side → Endpoint
  network : Side → List Emission

namespace Pair

/-- Two established connections on which nothing has been sent. -/
def start (h : Side → SSU2Conn) : Pair := ⟨fun i => .start (h i), fun _ => []⟩

/-- What can happen. -/
inductive Event
  /-- a step of an end, other than reading a datagram -/
  | act (i : Side) (e : Endpoint.Event)
  /-- datagram `k` on its way to `i` arrives -/
  | deliver (i : Side) (env : RecvEnv) (addr : Option UDPAddr) (k : ℕ)
  /-- datagram `k` on its way to `i` is lost -/
  | lose (i : Side) (k : ℕ)

section
variable (aead : Aead) (ctx : Side → HeaderContext)

/-- A step of end `i`. What it writes is on its way to the other end. -/
def act (p : Pair) (i : Side) (e : Endpoint.Event) : Pair :=
  let s := (p.ends i).step aead (ctx i) e
  { ends := Function.update p.ends i s
    network := Function.update p.network i.other
      (p.network i.other ++ s.emissions.drop (p.ends i).emissions.length) }

/-- A datagram arrives. It waits as long as the receive loop has a packet in its hands. -/
def deliver (p : Pair) (i : Side) (env : RecvEnv) (addr : Option UDPAddr) (k : ℕ) : Pair :=
  match (p.ends i).receiving, (p.network i)[k]? with
  | none, some d =>
    { ends := Function.update p.ends i
        ((p.ends i).step aead (ctx i) (.receive env d.data addr d.tag))
      network := Function.update p.network i ((p.network i).eraseIdx k) }
  | _, _ => p

def lose (p : Pair) (i : Side) (k : ℕ) : Pair :=
  { p with network := Function.update p.network i ((p.network i).eraseIdx k) }

def step (p : Pair) : Event → Pair
  | .act _ (.receive ..) => p
  | .act i e => p.act aead ctx i e
  | .deliver i env addr k => p.deliver aead ctx i env addr k
  | .lose i k => p.lose i k

variable (p : Pair) (i : Side) (e : Endpoint.Event)

theorem step_act (he : ∀ env data addr source, e ≠ .receive env data addr source) :
    p.step aead ctx (.act i e) = p.act aead ctx i e := by
  cases e with
  | receive env data addr source => exact absurd rfl (he env data addr source)
  | writeBlock | enqueue | abandon | take | immediateACK | terminate | encrypt | emit | track
  | retransmit | sendToAddress | rekeySend | rekeySwitch | process | read | cleanup => rfl

@[simp] theorem ends_act_self :
    (p.act aead ctx i e).ends i = (p.ends i).step aead (ctx i) e := Function.update_self _ _ _

@[simp] theorem ends_act_other : (p.act aead ctx i e).ends i.other = p.ends i.other :=
  Function.update_of_ne i.other_ne _ _

@[simp] theorem ends_act_of_other : (p.act aead ctx i.other e).ends i = p.ends i :=
  Function.update_of_ne i.other_ne.symm _ _

@[simp] theorem network_act_self : (p.act aead ctx i e).network i = p.network i :=
  Function.update_of_ne i.other_ne.symm _ _

@[simp] theorem network_act_of_other :
    (p.act aead ctx i.other e).network i = p.network i ++
      ((p.ends i.other).step aead (ctx i.other) e).emissions.drop
        (p.ends i.other).emissions.length := by
  show Function.update p.network i.other.other _ i = _
  rw [Side.other_other, Function.update_self]

end

/-! ## At most once -/

/-- The retransmit timer of the sender does not find the packet of payload `t` due, and a datagram
with the payload finds the receiver established. -/
def InTime (i : Side) (t : ℕ) (p : Pair) : Event → Prop
  | .act j e => j = i.other → ¬ (p.ends j).Renews t e
  | .deliver j _ _ k => j = i → ∀ d ∈ (p.network i)[k]?, d.tag = some t → (p.ends i).conn.Receives
  | .lose .. => True

/-- What is kept about payload `t` on its way to end `i`. -/
structure Once (aead : Aead) (ctx : Side → HeaderContext) (h : Side → SSU2Conn) (i : Side) (t : ℕ)
    (p : Pair) : Prop where
  wellFormed : ∀ j, (p.ends j).WellFormed aead (ctx j) (h j)
  /-- every payload is one block -/
  payloads : ∀ payload ∈ (p.ends i.other).payloads,
    ∃ block : SSU2Block, block.Valid ∧ payload = block.wire
  network : ∀ d ∈ p.network i, d ∈ (p.ends i.other).emissions
  receiving : ∀ inbound, (p.ends i).receiving = some inbound → inbound.source = some t →
    inbound.packet.messageType = messageTypeData ∧
      ∃ block : SSU2Block, block.Valid ∧ inbound.packet.payload = block.wire
  /-- what was delivered, is in the hands of the receive loop or on its way was written -/
  copies : (p.ends i).delivered.count (some t) +
      ((p.ends i).receiving.toList.map Inbound.source).count (some t) +
      ((p.network i).map Emission.tag).count (some t) ≤
    ((p.ends i.other).emissions.map Emission.tag).count (some t)
  budget : (p.ends i.other).custody.Budget t
  renewed : (p.ends i.other).custody.renewed.count t ≤ 0

section
variable {aead : Aead} {ctx : Side → HeaderContext} {h : Side → SSU2Conn} {i : Side} {t : ℕ}
  {p : Pair}

theorem once_start (hready : ∀ j, Endpoint.Ready (h j)) : Once aead ctx h i t (start h) where
  wellFormed j := .start (hready j)
  payloads payload hmem := by cases hmem
  network d hmem := by cases hmem
  receiving inbound hrec := by cases hrec
  copies := Nat.zero_le _
  budget := Nat.zero_le _
  renewed := Nat.zero_le _

section
variable (ho : Once aead ctx h i t p)
include ho

theorem Once.delivered : (p.ends i).delivered.count (some t) ≤ 1 := by
  have hwired : ((p.ends i.other).emissions.map Emission.tag).count (some t) ≤
      1 + (p.ends i.other).custody.renewed.count t := by
    rw [Endpoint.count_tags, ← Endpoint.count_wired]
    exact ho.budget.wired_le
  have hcopies := ho.copies
  have hrenewed := ho.renewed
  omega

/-- A packet in the hands of the receive loop delivers one message at most. -/
theorem Once.process (now : Time) :
    (∀ inbound, ((p.ends i).process aead now).receiving = some inbound →
        (p.ends i).receiving = some inbound) ∧
      ((p.ends i).process aead now).delivered.count (some t) +
          (((p.ends i).process aead now).receiving.toList.map Inbound.source).count (some t) ≤
        (p.ends i).delivered.count (some t) +
          ((p.ends i).receiving.toList.map Inbound.source).count (some t) := by
  rcases Endpoint.WellFormed.process_cases aead (p.ends i) now with heq |
    ⟨inbound, n, hreceiving, hn, hcases⟩
  · rw [heq]
    exact ⟨fun _ => id, le_rfl⟩
  · have hcount : ((p.ends i).delivered ++ List.replicate n inbound.source).count (some t) ≤
        (p.ends i).delivered.count (some t) + [inbound.source].count (some t) := by
      rw [List.count_append, List.count_replicate, List.count_singleton]
      by_cases hsource : inbound.source = some t
      · obtain ⟨htype, block, hvalid, hpayload⟩ := ho.receiving inbound hreceiving hsource
        have hle : n ≤ 1 := by
          obtain ⟨ms, hone, hle⟩ :=
            (p.ends i).conn.dataHandler.countBlock.processBlock_appends now block
          have hitems : (p.ends i).conn.dataHandler.countBlock.messageQueue =
            (p.ends i).conn.dataHandler.messageQueue := rfl
          rw [processDataPacket_of_block hvalid _ now htype hpayload, ← hone, hitems,
            List.length_append] at hn
          omega
        rw [if_pos (beq_iff_eq.mpr hsource), if_pos (beq_iff_eq.mpr hsource)]
        omega
      · rw [if_neg (fun hb => hsource (beq_iff_eq.mp hb))]
        exact Nat.le_add_right _ _
    rw [hreceiving]
    rcases hcases with heq | ⟨blocks, -, heq⟩
    all_goals
      rw [heq]
      exact ⟨fun inbound' hrec => (by cases hrec), hcount⟩

theorem Once.wellFormed_update {j : Side} {s : Endpoint} (hs : s.WellFormed aead (ctx j) (h j))
    (k : Side) : (Function.update p.ends j s k).WellFormed aead (ctx k) (h k) :=
  (Function.forall_update_iff p.ends (p := fun k s => s.WellFormed aead (ctx k) (h k))).mpr
    ⟨hs, fun k _ => ho.wellFormed k⟩ k

theorem Once.act_self {e : Endpoint.Event}
    (he : ∀ env data addr source, e ≠ .receive env data addr source) :
    Once aead ctx h i t (p.act aead ctx i e) := by
  have hframe := (ho.wellFormed i).frame e
  have hkept : (∀ inbound, ((p.ends i).step aead (ctx i) e).receiving = some inbound →
        (p.ends i).receiving = some inbound) ∧
      ((p.ends i).step aead (ctx i) e).delivered.count (some t) +
          (((p.ends i).step aead (ctx i) e).receiving.toList.map Inbound.source).count (some t) ≤
        (p.ends i).delivered.count (some t) +
          ((p.ends i).receiving.toList.map Inbound.source).count (some t) := by
    by_cases hreceives : e.Receives
    · obtain ⟨now, rfl⟩ := hreceives.process he
      exact ho.process now
    · rw [hframe.delivered hreceives, hframe.receiving hreceives]
      exact ⟨fun _ => id, le_rfl⟩
  refine ⟨ho.wellFormed_update ((ho.wellFormed i).step e), ?_, ?_, ?_, ?_, ?_, ?_⟩
  all_goals simp only [ends_act_self, ends_act_other, network_act_self]
  · exact ho.payloads
  · exact ho.network
  · exact fun inbound hrec => ho.receiving inbound (hkept.1 inbound hrec)
  · have := ho.copies
    omega
  · exact ho.budget
  · exact ho.renewed

theorem Once.act_other {e : Endpoint.Event} (hnot : ¬ (p.ends i.other).Renews t e) :
    Once aead ctx h i t (p.act aead ctx i.other e) := by
  have hframe := (ho.wellFormed i.other).frame e
  obtain ⟨l, hmove, -, hl⟩ := (ho.wellFormed i.other).move e
  refine ⟨ho.wellFormed_update ((ho.wellFormed i.other).step e), ?_, ?_, ?_, ?_, ?_, ?_⟩
  all_goals simp only [ends_act_self, ends_act_of_other, network_act_of_other]
  · intro payload hmem
    rcases hframe.payloads with heq | ⟨block, hvalid, -, heq⟩
    · exact ho.payloads payload (heq ▸ hmem)
    · rcases List.mem_append.mp (heq ▸ hmem) with hmem | hmem
      · exact ho.payloads payload hmem
      · exact ⟨block, hvalid, List.mem_singleton.mp hmem⟩
  · intro d hd
    rcases List.mem_append.mp hd with hd | hd
    · exact hframe.prefix_emissions.subset (ho.network d hd)
    · exact List.mem_of_mem_drop hd
  · exact ho.receiving
  · have hcopies := ho.copies
    obtain ⟨new, hnew⟩ := hframe.prefix_emissions
    rw [← hnew, List.drop_left, List.map_append, List.map_append, List.count_append,
      List.count_append]
    omega
  · exact hmove.budget ho.budget
  · exact hmove.renewed_le (fun hr => absurd (hl t hr) hnot) ho.renewed

theorem Once.deliver_other (env : RecvEnv) (addr : Option UDPAddr)
    (k : ℕ) : Once aead ctx h i t (p.deliver aead ctx i.other env addr k) := by
  rw [Pair.deliver]
  split
  · rename_i d _ _
    have hact := ho.act_other (e := .receive env d.data addr d.tag) id
    have hnetwork : Function.update p.network i.other ((p.network i.other).eraseIdx k) i =
        p.network i := Function.update_of_ne i.other_ne.symm _ _
    have hcopies := hact.copies
    refine { hact with network := fun d' hd' => hact.network d' ?_, copies := ?_ }
    · rw [network_act_of_other]
      exact List.mem_append_left _ (hnetwork ▸ hd')
    · rw [network_act_of_other, List.map_append, List.count_append] at hcopies
      dsimp only
      rw [hnetwork]
      exact (Nat.add_le_add_left (Nat.le_add_right _ _) _).trans hcopies
  · exact ho

end

/-- The receive loop of end `i` reads a datagram that the other end has written. -/
theorem Once.receive (hauth : aead.Authentic)
    (hm : SSU2Conn.MatchingHeaders (ctx i.other) (ctx i)) (ho : Once aead ctx h i t p)
    (env : RecvEnv) (addr : Option UDPAddr) {d : Emission} (hd : d ∈ p.network i)
    (hreceiving : (p.ends i).receiving = none)
    (hreceives : d.tag = some t → (p.ends i).conn.Receives) :
    (∀ inbound, ((p.ends i).receive aead (ctx i) env d.data addr d.tag).receiving = some inbound →
        inbound.source = some t → inbound.packet.messageType = messageTypeData ∧
          ∃ block : SSU2Block, block.Valid ∧ inbound.packet.payload = block.wire) ∧
      ((p.ends i).receive aead (ctx i) env d.data addr d.tag).delivered = (p.ends i).delivered ∧
      (((p.ends i).receive aead (ctx i) env d.data addr d.tag).receiving.toList.map
        Inbound.source).count (some t) ≤ [d.tag].count (some t) := by
  rcases Endpoint.receive_cases aead (ctx i) env (p.ends i) d.data addr d.tag with
    ⟨conn, -, heq⟩ | ⟨packet, conn, -, -, hparse, htype, heq⟩
  · rw [heq]
    refine ⟨ho.receiving, rfl, ?_⟩
    dsimp only
    rw [hreceiving]
    exact Nat.zero_le _
  · rw [heq]
    refine ⟨fun inbound hinbound hsource => ?_, rfl, le_rfl⟩
    obtain rfl := Option.some.inj hinbound
    rcases (ho.wellFormed i.other).emissions d (ho.network d hd) with ⟨hsealed, hpayload⟩ |
      ⟨-, hnone⟩
    · obtain ⟨block, hvalid, hblock⟩ :=
        ho.payloads d.payload (List.mem_of_getElem? (hpayload t hsource))
      exact ⟨htype, block, hvalid,
        (hsealed.payload_of_parse hauth hm (hreceives hsource) hparse).trans hblock⟩
    · exact absurd (hsource.symm.trans hnone) (Option.some_ne_none t)

theorem Once.deliver_self (hauth : aead.Authentic)
    (hm : SSU2Conn.MatchingHeaders (ctx i.other) (ctx i)) (ho : Once aead ctx h i t p)
    {env : RecvEnv} {addr : Option UDPAddr} {k : ℕ} (hin : p.InTime i t (.deliver i env addr k)) :
    Once aead ctx h i t (p.deliver aead ctx i env addr k) := by
  rw [Pair.deliver]
  split
  · rename_i d hreceiving hd
    obtain ⟨hrec, hdelivered, hcount⟩ := ho.receive hauth hm env addr (List.mem_of_getElem? hd)
      hreceiving (hin rfl d hd)
    have hother : ∀ s : Endpoint, Function.update p.ends i s i.other = p.ends i.other :=
      fun _ => Function.update_of_ne i.other_ne _ _
    refine ⟨ho.wellFormed_update ((ho.wellFormed i).step (.receive env d.data addr d.tag)), ?_, ?_,
      ?_, ?_, ?_, ?_⟩
    all_goals simp only [hother, Function.update_self]
    · exact ho.payloads
    · exact fun d' hd' => ho.network d' (List.mem_of_mem_eraseIdx hd')
    · exact hrec
    · have hcopies := ho.copies
      obtain ⟨hk, hget⟩ := List.getElem?_eq_some_iff.mp hd
      have herase := ((List.getElem_cons_eraseIdx_perm hk).map Emission.tag).count_eq (some t)
      rw [hget, List.map_cons, List.count_cons] at herase
      rw [hreceiving] at hcopies
      rw [List.count_singleton] at hcount
      refine (Nat.add_le_add_right (Nat.add_le_add (congrArg _ hdelivered).le hcount) _).trans ?_
      simp only [Option.toList_none, List.map_nil, List.count_nil] at hcopies
      omega
    · exact ho.budget
    · exact ho.renewed
  · exact ho

theorem Once.lose (ho : Once aead ctx h i t p) (j : Side) (k : ℕ) :
    Once aead ctx h i t (p.lose j k) := by
  have hsub : ((p.lose j k).network i).Sublist (p.network i) := by
    change (Function.update p.network j _ i).Sublist _
    rcases Side.eq_or_eq_other j i with rfl | rfl
    · rw [Function.update_self]
      exact List.eraseIdx_sublist _ k
    · rw [Function.update_of_ne j.other_ne]
  refine { ho with network := fun d hd => ho.network d (hsub.subset hd), copies := ?_ }
  exact (Nat.add_le_add_left ((hsub.map _).count_le _) _).trans ho.copies

theorem Once.step (hauth : aead.Authentic)
    (hm : SSU2Conn.MatchingHeaders (ctx i.other) (ctx i)) (ho : Once aead ctx h i t p) {e : Event}
    (hin : p.InTime i t e) : Once aead ctx h i t (p.step aead ctx e) := by
  cases e with
  | act j e =>
    by_cases he : ∃ env data addr source, e = .receive env data addr source
    · obtain ⟨env, data, addr, source, rfl⟩ := he
      exact ho
    · have hne : ∀ env data addr source, e ≠ .receive env data addr source :=
        fun env data addr source heq => he ⟨env, data, addr, source, heq⟩
      rw [step_act aead ctx p j e hne]
      rcases Side.eq_or_eq_other i j with rfl | rfl
      · exact ho.act_self hne
      · exact ho.act_other (hin rfl)
  | deliver j env addr k =>
    rcases Side.eq_or_eq_other i j with rfl | rfl
    · exact ho.deliver_self hauth hm hin
    · exact ho.deliver_other env addr k
  | lose j k => exact ho.lose j k

end

/-- **At most once**, in every run in which the retransmit timer does not find the packet of the
payload due. -/
theorem delivered_at_most_once {aead : Aead} (hauth : aead.Authentic) {ctx : Side → HeaderContext}
    {h : Side → SSU2Conn} (hready : ∀ j, Endpoint.Ready (h j)) {i : Side}
    (hm : SSU2Conn.MatchingHeaders (ctx i.other) (ctx i)) {t : ℕ} {es : List Event}
    (hes : Always (step aead ctx) (InTime i t) (start h) es) :
    ((exec (step aead ctx) (start h) es).ends i).delivered.count (some t) ≤ 1 :=
  (exec_induct (I := Once aead ctx h i t) (fun _ _ ho hin => ho.step hauth hm hin)
    (once_start hready) hes).delivered

/-- The left end writes two blocks and sends them as packets 0 and 1; the second is a message. Both
arrive. -/
def messageSent : List Event :=
  [.writeBlock ⟨blockTypePadding, [0]⟩, .enqueue 0,
    .writeBlock ⟨blockTypeI2NPMessage, [42]⟩, .enqueue 0, .take, .encrypt 0, .emit .openSocket 0,
    .track .openSocket 0, .take, .encrypt 0, .emit .openSocket 0, .track .openSocket 0].map
      (Event.act .left) ++
    [.deliver .right ⟨0, none⟩ (some ⟨[], 0⟩) 0, .act .right (.process 0),
      .deliver .right ⟨0, none⟩ (some ⟨[], 0⟩) 0, .act .right (.process 0)]

def ackLost : List Event :=
  [.immediateACK 0, .encrypt 0, .emit .openSocket 0].map (Event.act .right) ++ [.lose .left 0]

/-- The left end sends the message again, as packet 2, and it arrives. -/
def messageResent : List Event :=
  [.retransmit 0 1, .take, .encrypt 0, .emit .openSocket 0].map (Event.act .left) ++
    [.deliver .right ⟨0, none⟩ (some ⟨[], 0⟩) 0, .act .right (.process 0)]

/-- A run of two connections with equal keys. -/
def demoRun (es : List Event) : Pair :=
  exec (step .zeroTag fun _ => .zeroKeys) (start fun _ => .demo) es

theorem delivered_at_most_once_demo :
    Always (step .zeroTag fun _ => .zeroKeys) (InTime .right 1) (start fun _ => .demo)
        (messageSent ++ ackLost) ∧
      ((demoRun (messageSent ++ ackLost)).ends .right).conn.dataHandler.messageQueue.items =
        [[42]] ∧
      ((demoRun (messageSent ++ ackLost)).ends .right).delivered.count (some 1) ≤ 1 := by
  have hes : Always (step .zeroTag fun _ => .zeroKeys) (InTime .right 1) (start fun _ => .demo)
      (messageSent ++ ackLost) := by
    refine ⟨fun _ => id, fun _ => id, fun _ => id, fun _ => id, fun _ => id, fun _ => id, fun _ =>
      id,
      fun _ => id, fun _ => id, fun _ => id, fun _ => id, fun _ => id, fun _ _ _ _ => ?_,
      fun _ => id, fun _ _ _ _ => ?_, fun _ => id, fun _ => id, fun _ => id, fun _ => id, trivial,
      trivial⟩ <;> decide +kernel
  have hm : SSU2Conn.MatchingHeaders .zeroKeys .zeroKeys :=
    ⟨rfl, _, _, rfl, rfl, rfl, rfl, rfl, rfl⟩
  exact ⟨hes, by decide +kernel, delivered_at_most_once Aead.authentic_zeroTag
    (fun _ => Endpoint.ready_establish _ _ _ _ _) hm hes⟩

/-- The message of one `Write` is queued twice. -/
theorem delivered_twice :
    1 ∈ ((demoRun (messageSent ++ ackLost ++ messageResent)).ends .left).accepted ∧
      ((demoRun (messageSent ++ ackLost ++ messageResent)).ends .right).delivered =
        [some 1, some 1] ∧
      ((demoRun (messageSent ++ ackLost ++
        messageResent)).ends .right).conn.dataHandler.messageQueue.items = [[42], [42]] := by
  decide +kernel

end Pair
end GoNoise.SSU2
