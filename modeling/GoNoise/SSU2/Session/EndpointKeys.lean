import GoNoise.SSU2.Session.EndpointFrames

/-!
# Keys, numbers and the wire

What a step of an endpoint can do to the key of the send side, to the rekey that may be under way,
to the packets that are sealed and wait for the socket, and to what was written.

A rekey is started once in the life of a connection, by the packet that takes the number
`rekeyThreshold` or a later one.
-/

namespace GoNoise.SSU2

namespace SSU2Conn

variable {h : SSU2Conn}

theorem rekey_of_spawned (hspawn : .initiateRekey ∈ h.nextSendSequence.2.1) :
    h.rekeyInFlight = false ∧ h.nextSendSequence.2.2.rekeyInFlight = true ∧
      rekeyThreshold.toNat ≤ h.sendSequence.toNat := by
  by_cases hmax : h.sendSequence = 0xFFFFFFFF
  · rw [nextSendSequence, if_pos hmax] at hspawn
    cases List.mem_singleton.mp hspawn
  by_cases hrekey : h.config.enableNextNonce = true ∧ h.sendSequence ≥ rekeyThreshold ∧
      ¬ h.rekeyInFlight = true
  · refine ⟨Bool.eq_false_iff.mpr hrekey.2.2, ?_, UInt32.le_iff_toNat_le.mp hrekey.2.1⟩
    rw [nextSendSequence, if_neg hmax]
    rw [if_pos hrekey]
  · rw [nextSendSequence, if_neg hmax] at hspawn
    rw [if_neg hrekey] at hspawn
    cases hspawn

theorem inFlight_of_not_spawned (hspawn : .initiateRekey ∉ h.nextSendSequence.2.1) :
    h.nextSendSequence.2.2.rekeyInFlight = h.rekeyInFlight := by
  rcases h.nextSendSequence_cases with ⟨-, he⟩ | ⟨-, he | ⟨-, -, he⟩⟩
  · rw [he]
  · rw [he]
  · rw [he] at hspawn
    exact absurd List.mem_cons_self hspawn

theorem sendKey_nextSendSequence (h : SSU2Conn) : h.nextSendSequence.2.2.sendKey = h.sendKey := by
  rcases h.nextSendSequence_cases with ⟨-, he⟩ | ⟨-, he | ⟨-, -, he⟩⟩ <;> rw [he] <;> rfl

theorem sendSequence_le_next (h : SSU2Conn) :
    h.sendSequence.toNat ≤ h.nextSendSequence.2.2.sendSequence.toNat := by
  rcases h.nextSendSequence_cases with ⟨-, he⟩ | ⟨hmax, he | ⟨-, -, he⟩⟩
  · rw [he]
  all_goals
    rw [he]
    rw [toNat_add_one hmax]
    exact Nat.le_succ _

end SSU2Conn

namespace Endpoint

/-- The key stays; numbers may be taken, and the first one past the threshold starts the rekey. -/
structure Counts (s s' : Endpoint) : Prop where
  sendKey : s'.conn.sendKey = s.conn.sendKey
  sendSequence : s.conn.sendSequence.toNat ≤ s'.conn.sendSequence.toNat
  rekey : s'.conn.rekeyInFlight = s.conn.rekeyInFlight ∧ s'.rekey = s.rekey ∨
    s.conn.rekeyInFlight = false ∧ s'.conn.rekeyInFlight = true ∧ s'.rekey = .started ∧
      rekeyThreshold.toNat ≤ s.conn.sendSequence.toNat

namespace Counts

variable {s s' : Endpoint}

theorem of_sameSend (hsame : SameSend s.conn s'.conn) (hrekey : s'.rekey = s.rekey) :
    Counts s s' :=
  ⟨hsame.sendKey, by rw [hsame.sendSequence], Or.inl ⟨hsame.rekeyInFlight, hrekey⟩⟩

theorem of_next {h : SSU2Conn} (hsame : SameSend s.conn h)
    (hafter : SameSend h.nextSendSequence.2.2 s'.conn)
    (hrekey : s'.rekey = if .initiateRekey ∈ h.nextSendSequence.2.1 then .started else s.rekey) :
    Counts s s' := by
  refine ⟨(hafter.sendKey.trans h.sendKey_nextSendSequence).trans hsame.sendKey, ?_, ?_⟩
  · rw [hafter.sendSequence, ← hsame.sendSequence]
    exact h.sendSequence_le_next
  · rw [hafter.rekeyInFlight, ← hsame.rekeyInFlight, ← hsame.sendSequence]
    by_cases hspawn : .initiateRekey ∈ h.nextSendSequence.2.1
    · obtain ⟨hfree, hflight, hseq⟩ := SSU2Conn.rekey_of_spawned hspawn
      exact Or.inr ⟨hfree, hflight, hrekey.trans (if_pos hspawn), hseq⟩
    · exact Or.inl ⟨SSU2Conn.inFlight_of_not_spawned hspawn, hrekey.trans (if_neg hspawn)⟩

end Counts

/-- What step `e` does to the key, the rekey, the sealed packets and the wire. -/
inductive KeyStep (aead : Aead) (e : Event) (s s' : Endpoint) : Prop
  /-- nothing is sealed or written -/
  | quiet (counts : Counts s s') (encrypted : s'.encrypted ⊆ s.encrypted)
      (emissions : s'.emissions = s.emissions)
  /-- a packet is sealed with the key of the moment, while the lock of the cipher is free -/
  | encrypts (counts : Counts s s') (key : Bytes) (job : EncryptedJob)
      (sendKey : s.conn.sendKey = some key) (free : ∀ newKey, s.rekey ≠ .switching newKey)
      (encryptions : job.encryptions = [⟨key, packetNonce job.packet.packetNumber⟩])
      (encrypted : s'.encrypted = s.encrypted ++ [job]) (emissions : s'.emissions = s.emissions)
  /-- a sealed packet is written -/
  | emits (counts : Counts s s') (env : SendEnv) (i : ℕ) (job : EncryptedJob) (data : Bytes)
      (event : e = .emit env i) (mem : s.encrypted[i]? = some job)
      (encrypted : s'.encrypted ⊆ s.encrypted)
      (emissions : s'.emissions = s.emissions ++
        [⟨data, job.packet.packetNumber, job.plaintext, job.encryptions, some job.tag⟩])
  | sendsToAddress (env : SendEnv) (block : SSU2Block) (event : e = .sendToAddress env block)
  /-- the NextNonce packet is written, sealed with the old key -/
  | announces (env : SendEnv) (key newKey : Bytes) (data : Bytes) (event : e = .rekeySend env)
      (started : s.rekey = .started) (rekey : s'.rekey = .switching newKey)
      (sendKey : s.conn.sendKey = some key) (hkdf : aead.hkdf key = .ok newKey)
      (keeps : s'.conn.sendKey = s.conn.sendKey ∧ s'.conn.rekeyInFlight = s.conn.rekeyInFlight)
      (encrypted : s'.encrypted = s.encrypted)
      (emissions : s'.emissions = s.emissions ++ [⟨data, s.conn.sendSequence,
        SSU2Conn.nextNoncePayload, [⟨key, packetNonce s.conn.sendSequence⟩], none⟩])
  /-- the rekey ends without a NextNonce packet, or there was none to be sent -/
  | givesUp (rekey : s.rekey = .started ∧ s'.rekey = .idle ∨
        s.rekey ≠ .started ∧ s'.rekey = s.rekey)
      (keeps : s'.conn.sendKey = s.conn.sendKey ∧ s'.conn.rekeyInFlight = s.conn.rekeyInFlight)
      (encrypted : s'.encrypted = s.encrypted) (emissions : s'.emissions = s.emissions)
  | switches (newKey : Bytes) (switching : s.rekey = .switching newKey) (rekey : s'.rekey = .idle)
      (sendKey : s'.conn.sendKey = some newKey)
      (rekeyInFlight : s'.conn.rekeyInFlight = s.conn.rekeyInFlight)
      (encrypted : s'.encrypted = s.encrypted) (emissions : s'.emissions = s.emissions)

namespace KeyStep

variable {aead : Aead} {e : Event} {s : Endpoint}

theorem refl : KeyStep aead e s s :=
  .quiet (.of_sameSend (.refl _) rfl) (List.Subset.refl _) rfl

/-- The connection keeps its send side, and the rest of the state is about other things. -/
theorem of_sameSend {s' : Endpoint} (hsame : SameSend s.conn s'.conn) (hrekey : s'.rekey = s.rekey)
    (hencrypted : s'.encrypted = s.encrypted) (hemissions : s'.emissions = s.emissions) :
    KeyStep aead e s s' :=
  .quiet (.of_sameSend hsame hrekey) (hencrypted ▸ List.Subset.refl _) hemissions

theorem writeBlock (block : SSU2Block) : KeyStep aead e s (s.writeBlock block) := by
  have hspec := (SSU2Conn.writeBlock_spec s.conn block).1
  rw [Endpoint.writeBlock]
  generalize s.conn.writeBlock .enqueued block = result at hspec ⊢
  obtain ⟨r, spawned, h⟩ := result
  obtain ⟨rfl, rfl⟩ := Prod.mk.inj hspec
  cases r with
  | error e => exact .quiet (.of_next (.refl _) (.refl _) rfl) (List.Subset.refl _) rfl
  | ok packet => exact .quiet (.of_next (.refl _) (.refl _) rfl) (List.Subset.refl _) rfl

theorem direct {r : Option SSU2Packet × List Spawn × SSU2Conn}
    (hcounts : Counts s ({ s with conn := r.2.2 }.spawn r.2.1)) :
    KeyStep aead e s (s.direct r) := by
  obtain ⟨_ | packet, spawned, h⟩ := r
  · exact .quiet hcounts (List.Subset.refl _) rfl
  · exact .quiet ⟨hcounts.sendKey, hcounts.sendSequence, hcounts.rekey⟩ (List.Subset.refl _) rfl

theorem immediateACK (now : Time) :
    KeyStep aead e s (s.direct (s.conn.immediateACKPacket now)) := by
  refine direct ?_
  rw [SSU2Conn.immediateACKPacket]
  rcases s.conn.ackHandler.generateACK now with ⟨_ | ack, ackHandler⟩
  · exact .of_sameSend ⟨rfl, rfl, rfl, rfl⟩ rfl
  · have hsame : SameSend s.conn { s.conn with ackHandler := ackHandler } := ⟨rfl, rfl, rfl, rfl⟩
    exact .of_next hsame (.refl _) rfl

theorem terminate (reason : UInt8) (additionalData : Bytes) :
    KeyStep aead e s (s.direct (s.conn.terminationPacket reason additionalData)) := by
  have hsame : SameSend s.conn { s.conn with state := .closing } := ⟨rfl, rfl, rfl, rfl⟩
  refine direct ?_
  rw [SSU2Conn.terminationPacket]
  dsimp only
  split <;> exact .of_next hsame (.refl _) rfl

theorem process (aead' : Aead) (now : Time) : KeyStep aead e s (s.process aead' now) := by
  rcases WellFormed.process_cases aead' s now with heq | ⟨inbound, n, -, -, heq⟩
  · rw [heq]
    exact refl
  · have hhandled := (SSU2Conn.KeepsSend.handled aead' now s.conn inbound.packet).sameSend
    rcases heq with heq | ⟨blocks, -, heq⟩
    · rw [heq]
      exact of_sameSend hhandled rfl rfl rfl
    · have hretire := (SSU2Conn.foldl_retireACK_spec blocks
        (handled aead' now s.conn inbound.packet)).1.sameSend
      rw [heq]
      exact of_sameSend (hhandled.trans { hretire with }) rfl rfl rfl

end KeyStep

/-- What a step can do to keys, numbers and the wire. -/
theorem WellFormed.keyStep {aead : Aead} {ctx : HeaderContext} {h₀ : SSU2Conn} {s : Endpoint}
    (hw : WellFormed aead ctx h₀ s) (e : Event) : KeyStep aead e s (s.step aead ctx e) := by
  cases e with
  | writeBlock block => exact .writeBlock block
  | enqueue i =>
    show KeyStep aead _ s (s.enqueue i)
    rw [Endpoint.enqueue]
    split
    · exact .refl
    · split
      · exact .refl
      · exact .of_sameSend (.refl _) rfl rfl rfl
  | abandon i => exact .of_sameSend (.refl _) rfl rfl rfl
  | take =>
    show KeyStep aead _ s s.take
    unfold Endpoint.take
    split
    · exact .refl
    · exact .of_sameSend (.refl _) rfl rfl rfl
  | immediateACK now => exact .immediateACK now
  | terminate reason additionalData => exact .terminate reason additionalData
  | encrypt i =>
    show KeyStep aead _ s (s.encrypt aead i)
    rcases hw.encrypt_cases i with heq | ⟨job, cipher, -, hcipher, hfree, heq⟩
    · rw [heq]
      exact .refl
    · have hkey := sendKey_of_sendCipher hcipher
      rw [heq]
      exact .encrypts (.of_sameSend ⟨rfl, hkey.symm, rfl, rfl⟩ rfl) cipher.key
        (job.sealWith aead h₀ cipher.key) hkey hfree rfl rfl rfl
  | emit env i =>
    show KeyStep aead _ s (s.emit ctx env i)
    rcases emit_cases ctx env s i with heq | ⟨job, -, -, heq⟩ |
      ⟨job, packet, data, h, hjob, -, -, hconn, heq⟩
    · rw [heq]
      exact .refl
    · rw [heq]
      exact .quiet (.of_sameSend (.refl _) rfl) List.eraseIdx_subset rfl
    · have hsame : SameSend s.conn h := by
        rw [hconn]
        exact ⟨rfl, rfl, rfl, rfl⟩
      rw [heq]
      exact .emits (.of_sameSend hsame rfl) env i job data rfl hjob List.eraseIdx_subset rfl
  | track env i =>
    show KeyStep aead _ s (s.track env i)
    rw [Endpoint.track]
    split
    · exact .refl
    · exact .of_sameSend (.trackPendingPacket _ _ _ _) rfl rfl rfl
  | retransmit now pn =>
    show KeyStep aead _ s (s.retransmit now pn)
    rcases hw.retransmit_cases now pn with heq | ⟨pp, -, -, heq⟩
    · rw [heq]
      exact .refl
    · rw [heq]
      exact .quiet (.of_next (.refl _) ⟨rfl, rfl, rfl, rfl⟩ rfl) (List.Subset.refl _) rfl
  | sendToAddress env block => exact .sendsToAddress env block rfl
  | rekeySend env =>
    show KeyStep aead _ s (s.rekeySend aead ctx env)
    rcases hw.rekeySend_cases env with ⟨h, rekey, -, -, hkey, hflight, hrekey, heq⟩ |
      ⟨cipher, newKey, data, hstarted, hcipher, hkdf, -, heq⟩
    · rw [heq]
      exact .givesUp hrekey ⟨hkey, hflight⟩ rfl rfl
    · have hsame := (sendNextNonceInline_spec aead.toCrypto (ctx.dataEnv env) hcipher).1
      rw [heq]
      exact .announces env cipher.key newKey data rfl hstarted rfl (sendKey_of_sendCipher hcipher)
        hkdf ⟨hsame.sendKey, hsame.rekeyInFlight⟩ rfl rfl
  | rekeySwitch =>
    show KeyStep aead _ s s.rekeySwitch
    unfold Endpoint.rekeySwitch
    cases hrekey : s.rekey with
    | idle => exact .refl
    | started => exact .refl
    | switching newKey => exact .switches newKey hrekey rfl rfl rfl rfl rfl
  | receive env data addr source =>
    show KeyStep aead _ s (s.receive aead ctx env data addr source)
    rcases receive_cases aead ctx env s data addr source with ⟨h, hkeeps, heq⟩ |
      ⟨packet, h, hkeeps, -, -, -, heq⟩
    all_goals
      rw [heq]
      exact .of_sameSend hkeeps.sameSend rfl rfl rfl
  | process now => exact .process aead now
  | read =>
    show KeyStep aead _ s s.read
    rw [Endpoint.read]
    split
    · exact .refl
    · exact .of_sameSend ⟨rfl, rfl, rfl, rfl⟩ rfl rfl rfl
  | cleanup now => exact .of_sameSend ⟨rfl, rfl, rfl, rfl⟩ rfl rfl rfl

end Endpoint
end GoNoise.SSU2
