import GoNoise.SSU2.Session.EndpointInvariant

/-!
# What a step of an endpoint leaves alone

Three steps write to the socket, three make payloads, and two are the receive loop. All others leave
the datagrams, the payloads, and what the receive loop has and knows, as they are.
-/

namespace GoNoise.SSU2

/-- What the receive path reads, but for the state, is that of `h`. -/
structure SSU2Conn.RecvFrame (h h' : SSU2Conn) : Prop where
  config : h'.config = h.config
  recvWindow : h'.recvWindow = h.recvWindow
  recvCipher : h'.recvCipher = h.recvCipher

namespace SSU2Conn

variable (h : SSU2Conn) (reason : UInt8) (additionalData : Bytes)

theorem RecvFrame.refl : RecvFrame h h := ⟨rfl, rfl, rfl⟩

theorem SendFrame.toRecvFrame {h h' : SSU2Conn} (hf : SendFrame h h') : RecvFrame h h' :=
  ⟨hf.config, hf.recvWindow, hf.recvCipher⟩

theorem RecvFrame.terminationPacket :
    RecvFrame h (h.terminationPacket reason additionalData).2.2 := by
  have hnext := SendFrame.nextSendSequence { h with state := .closing }
  rw [SSU2Conn.terminationPacket]
  generalize SSU2Conn.nextSendSequence { h with state := .closing } = result at hnext ⊢
  dsimp only
  split <;> exact ⟨hnext.config, hnext.recvWindow, hnext.recvCipher⟩

theorem terminationPacket_block :
    ∀ packet ∈ (h.terminationPacket reason additionalData).1,
      ∃ block : SSU2Block, block.Valid ∧ block.type ≠ blockTypeNextNonce ∧
        packet.payload = block.wire := by
  intro packet hpacket
  rw [terminationPacket] at hpacket
  dsimp only at hpacket
  split at hpacket
  · cases hpacket
  · rename_i payload hser
    obtain ⟨hvalid, rfl⟩ := serializeBlocks_singleton_iff.mp hser
    obtain rfl := Option.some.inj hpacket
    have htype : blockTypeTermination ≠ blockTypeNextNonce := by decide
    exact ⟨_, hvalid, htype, rfl⟩

theorem immediateACKPacket_block (hlimit : h.ackHandler.maxACKDataSize ≤ maxBlockLength)
    (now : Time) :
    ∀ packet ∈ (h.immediateACKPacket now).1,
      ∃ block : SSU2Block, block.Valid ∧ block.type ≠ blockTypeNextNonce ∧
        packet.payload = block.wire := by
  intro packet hpacket
  have hmade := (h.immediateACKPacket_spec hlimit now).2 packet hpacket
  have hack := (h.ackHandler.generateACK_spec now).2
  rw [immediateACKPacket] at hpacket
  generalize h.ackHandler.generateACK now = result at hpacket hack
  obtain ⟨_ | ack, ackHandler⟩ := result
  · cases hpacket
  · obtain rfl := Option.some.inj hpacket
    have hpayload : (serializeBlocks [ack]).toOption.getD [] ≠ [] := hmade.payload
    have htype : ack.type ≠ blockTypeNextNonce := by
      rw [(hack ack rfl).1]
      decide
    cases hser : serializeBlocks [ack] with
    | error e =>
      rw [hser] at hpayload
      exact absurd rfl hpayload
    | ok payload =>
      obtain ⟨hvalid, rfl⟩ := serializeBlocks_singleton_iff.mp hser
      exact ⟨ack, hvalid, htype, rfl⟩

end SSU2Conn

namespace Endpoint

/-- The step may write to the socket. -/
def Event.Writes : Event → Prop
  | .emit .. | .sendToAddress .. | .rekeySend .. => True
  | _ => False

/-- The step is one of the receive loop. -/
def Event.Receives : Event → Prop
  | .receive .. | .process .. => True
  | _ => False

theorem Event.Receives.process {e : Event} (h : e.Receives)
    (he : ∀ env data addr source, e ≠ .receive env data addr source) : ∃ now, e = .process now := by
  cases e <;> grind [Event.Receives]

/-- What the step from `s` to `s'` leaves alone. A new payload is one block, and a NextNonce block
only if that is what was written. -/
structure Frame (e : Event) (s s' : Endpoint) : Prop where
  payloads : s'.payloads = s.payloads ∨
    ∃ block : SSU2Block, block.Valid ∧ (block.type = blockTypeNextNonce → e = .writeBlock block) ∧
      s'.payloads = s.payloads ++ [block.wire]
  prefix_emissions : s.emissions <+: s'.emissions
  emissions : ¬ e.Writes → s'.emissions = s.emissions
  receiving : ¬ e.Receives → s'.receiving = s.receiving
  delivered : ¬ e.Receives → s'.delivered = s.delivered
  conn : ¬ e.Receives → SSU2Conn.RecvFrame s.conn s'.conn

namespace Frame

variable {e : Event} {s : Endpoint} (aead : Aead) (ctx : HeaderContext) (env : SendEnv)

theorem refl : Frame e s s :=
  ⟨Or.inl rfl, List.prefix_rfl, fun _ => rfl, fun _ => rfl, fun _ => rfl, fun _ => .refl _⟩

theorem writeBlock (block : SSU2Block) : Frame (.writeBlock block) s (s.writeBlock block) := by
  have hframe := (SSU2Conn.SendFrame.writeBlock s.conn .enqueued block).toRecvFrame
  have hmade := (SSU2Conn.writeBlock_spec s.conn block).2
  rw [Endpoint.writeBlock]
  generalize s.conn.writeBlock .enqueued block = result at hframe hmade ⊢
  obtain ⟨e | packet, spawned, h⟩ := result
  · exact ⟨Or.inl rfl, List.prefix_rfl, fun _ => rfl, fun _ => rfl, fun _ => rfl, fun _ => hframe⟩
  · obtain ⟨hvalid, heq⟩ := hmade packet rfl
    refine ⟨Or.inr ⟨block, hvalid, fun _ => rfl, ?_⟩, List.prefix_rfl, fun _ => rfl, fun _ => rfl,
      fun _ => rfl, fun _ => hframe⟩
    rw [heq]
    rfl

theorem direct {r : Option SSU2Packet × List Spawn × SSU2Conn}
    (hframe : SSU2Conn.RecvFrame s.conn r.2.2)
    (hmade : ∀ packet ∈ r.1, ∃ block : SSU2Block, block.Valid ∧ block.type ≠ blockTypeNextNonce ∧
      packet.payload = block.wire) :
    Frame e s (s.direct r) := by
  obtain ⟨_ | packet, spawned, h⟩ := r
  · exact ⟨Or.inl rfl, List.prefix_rfl, fun _ => rfl, fun _ => rfl, fun _ => rfl, fun _ => hframe⟩
  · obtain ⟨block, hvalid, htype, heq⟩ := hmade packet rfl
    refine ⟨Or.inr ⟨block, hvalid, fun h => absurd h htype, ?_⟩, List.prefix_rfl, fun _ => rfl,
      fun _ => rfl, fun _ => rfl, fun _ => hframe⟩
    show s.payloads ++ [packet.payload] = _
    rw [heq]

theorem emit (i : ℕ) : Frame (.emit env i) s (s.emit ctx env i) := by
  rcases emit_cases ctx env s i with heq | ⟨job, -, -, heq⟩ |
    ⟨job, packet, data, h, -, -, -, hconn, heq⟩
  · rw [heq]
    exact refl
  · rw [heq]
    exact ⟨Or.inl rfl, List.prefix_rfl, fun _ => rfl, fun _ => rfl, fun _ => rfl, fun _ => .refl _⟩
  · have hframe : SSU2Conn.RecvFrame s.conn h := by
      rw [hconn]
      exact ⟨rfl, rfl, rfl⟩
    rw [heq]
    exact ⟨Or.inl rfl, List.prefix_append _ _, fun h => absurd trivial h, fun _ => rfl,
      fun _ => rfl, fun _ => hframe⟩

theorem sendToAddress (block : SSU2Block) :
    Frame (.sendToAddress env block) s (s.sendToAddress env block) := by
  have hframe := (SSU2Conn.SendFrame.sendToAddress env s.conn block).toRecvFrame
  rw [Endpoint.sendToAddress]
  generalize s.conn.sendToAddress env block = result at hframe ⊢
  exact ⟨Or.inl rfl, List.prefix_append _ _, fun h => absurd trivial h, fun _ => rfl, fun _ => rfl,
    fun _ => hframe⟩

theorem receive (env : RecvEnv) (data : Bytes) (addr : Option UDPAddr) (source : Option ℕ) :
    Frame (.receive env data addr source) s (s.receive aead ctx env data addr source) := by
  rcases receive_cases aead ctx env s data addr source with ⟨h, -, heq⟩ |
    ⟨packet, h, -, -, -, -, heq⟩
  all_goals
    rw [heq]
    exact ⟨Or.inl rfl, List.prefix_rfl, fun _ => rfl, fun h => absurd trivial h,
      fun h => absurd trivial h, fun h => absurd trivial h⟩

theorem process (now : Time) : Frame (.process now) s (s.process aead now) := by
  rcases WellFormed.process_cases aead s now with heq | ⟨inbound, n, -, -, heq | ⟨blocks, -, heq⟩⟩
  all_goals
    rw [heq]
    exact ⟨Or.inl rfl, List.prefix_rfl, fun _ => rfl, fun h => absurd trivial h,
      fun h => absurd trivial h, fun h => absurd trivial h⟩

end Frame

namespace WellFormed

variable {aead : Aead} {ctx : HeaderContext} {h₀ : SSU2Conn} {s : Endpoint}

/-- Every step leaves alone what is not its business. -/
theorem frame (hw : WellFormed aead ctx h₀ s) (e : Event) : Frame e s (s.step aead ctx e) := by
  have hconn : ∀ {s' : Endpoint}, s'.payloads = s.payloads → s'.emissions = s.emissions →
      s'.receiving = s.receiving → s'.delivered = s.delivered →
      SSU2Conn.RecvFrame s.conn s'.conn → Frame e s s' := fun hp he hr hd hc =>
    ⟨Or.inl hp, he ▸ List.prefix_rfl, fun _ => he, fun _ => hr, fun _ => hd, fun _ => hc⟩
  cases e with
  | writeBlock block => exact .writeBlock block
  | enqueue i =>
    show Frame _ s (s.enqueue i)
    rw [Endpoint.enqueue]
    split
    · exact .refl
    · split
      · exact .refl
      · exact hconn rfl rfl rfl rfl (.refl _)
  | abandon i => exact hconn rfl rfl rfl rfl (.refl _)
  | take =>
    show Frame _ s s.take
    unfold Endpoint.take
    split
    · exact .refl
    · exact hconn rfl rfl rfl rfl (.refl _)
  | immediateACK now =>
    exact .direct (SSU2Conn.SendFrame.immediateACKPacket s.conn now).toRecvFrame
      (s.conn.immediateACKPacket_block hw.maxACKDataSize now)
  | terminate reason additionalData =>
    exact .direct (.terminationPacket s.conn reason additionalData)
      (s.conn.terminationPacket_block reason additionalData)
  | encrypt i =>
    show Frame _ s (s.encrypt aead i)
    rcases hw.encrypt_cases i with heq | ⟨job, cipher, -, -, -, heq⟩
    · rw [heq]
      exact .refl
    · rw [heq]
      exact hconn rfl rfl rfl rfl ⟨rfl, rfl, rfl⟩
  | emit env i => exact .emit ctx env i
  | track env i =>
    show Frame _ s (s.track env i)
    rw [Endpoint.track]
    split
    · exact .refl
    · exact hconn rfl rfl rfl rfl (SSU2Conn.SendFrame.trackPendingPacket _ _ _ _).toRecvFrame
  | retransmit now pn =>
    show Frame _ s (s.retransmit now pn)
    rcases hw.retransmit_cases now pn with heq | ⟨pp, -, -, heq⟩
    · rw [heq]
      exact .refl
    · have hnext := SSU2Conn.SendFrame.nextSendSequence s.conn
      rw [heq]
      exact hconn rfl rfl rfl rfl ⟨hnext.config, hnext.recvWindow, hnext.recvCipher⟩
  | sendToAddress env block => exact .sendToAddress env block
  | rekeySend env =>
    show Frame _ s (s.rekeySend aead ctx env)
    rcases hw.rekeySend_cases env with ⟨h, rekey, -, hframe, -, -, -, heq⟩ |
      ⟨cipher, newKey, data, -, -, -, -, heq⟩
    · rw [heq]
      exact hconn rfl rfl rfl rfl hframe.toRecvFrame
    · have hframe := SSU2Conn.SendFrame.sendNextNonceInline aead.toCrypto (ctx.dataEnv env) s.conn
        cipher
      rw [heq]
      exact ⟨Or.inl rfl, List.prefix_append _ _, fun h => absurd trivial h, fun _ => rfl,
        fun _ => rfl, fun _ => hframe.toRecvFrame⟩
  | rekeySwitch =>
    show Frame _ s s.rekeySwitch
    unfold Endpoint.rekeySwitch
    split
    · exact hconn rfl rfl rfl rfl ⟨rfl, rfl, rfl⟩
    · exact .refl
  | receive env data addr source => exact .receive aead ctx env data addr source
  | process now => exact .process aead now
  | read =>
    show Frame _ s s.read
    rw [Endpoint.read]
    split
    · exact .refl
    · exact hconn rfl rfl rfl rfl ⟨rfl, rfl, rfl⟩
  | cleanup now => exact hconn rfl rfl rfl rfl ⟨rfl, rfl, rfl⟩

end WellFormed
end Endpoint
end GoNoise.SSU2
