import GoNoise.SSU2.Reliability.ReceivedNumbers
import GoNoise.SSU2.Session.ConnRead
import Mathlib.Order.Interval.Finset.Nat

/-!
# Progress of a data session under loss

The receive window waits for the first missing number, and `retransmitExpired` never sends a number
again: the payload of a lost packet comes back under a new number, and the missing number stays
missing. Everything beyond it takes a place in the window.
-/

namespace GoNoise.SSU2

open Trace Missing Received
open SSU2Conn (Event)

/-! ## Runs -/

/-- A connection and the numbers of the Data packets that have come in. -/
structure Observed where
  conn : SSU2Conn
  arrived : Finset ℕ

namespace Observed

/-- The number of a Data packet that comes in is noted. -/
def note (arrived : Finset ℕ) : Option UInt32 → Finset ℕ
  | none => arrived
  | some k => insert k.toNat arrived

def step (crypto : Crypto) (o : Observed) (event : Event) : Observed :=
  ⟨o.conn.step crypto event, note o.arrived event.dataNumber⟩

/-- An established connection on which nothing has come in. -/
def start (config : SSU2Config) (sendKey recvKey : Bytes) (remoteConnectionID : UInt64)
    (now : Time) : Observed :=
  ⟨(SSU2Conn.assembleSSU2Conn config now).establish sendKey recvKey remoteConnectionID, ∅⟩

end Observed

/-- The size of the receive window that the configuration asks for. -/
def SSU2Config.windowBound (config : SSU2Config) : ℕ :=
  (ReceiveWindow.newReceiveWindow 0 config.receiveWindowSize).maxSize

/-- The condition on a run. A number that comes for the first time is less than half the number
space beyond the first missing one and has a place in the window; a number that comes again does so
before anything half the space beyond it. -/
def HasPlace (bound : ℕ) (o : Observed) (event : Event) : Prop :=
  ∀ k, event.dataNumber = some k →
    (k.toNat ∉ o.arrived →
      k.toNat < missing o.arrived + 2 ^ 31 ∧ Fits bound o.arrived k.toNat) ∧
    (k.toNat ∈ o.arrived → ∀ m ∈ o.arrived, m < k.toNat + 2 ^ 31)

/-- The window has taken what has come in. -/
structure Observed.Inv (bound : ℕ) (o : Observed) : Prop where
  window : ∃ w, o.conn.recvWindow = some w ∧ w.maxSize = bound ∧ Represents w o.arrived

variable {bound n : ℕ} {o : Observed} (crypto : Crypto) (config : SSU2Config)

/-- One event keeps the window in step with what has come in. -/
theorem Observed.Inv.step (h : o.Inv bound) (crypto : Crypto) {event : Event}
    (hplace : HasPlace bound o event) : (o.step crypto event).Inv bound := by
  obtain ⟨w, hw, hmax, hrep⟩ := h.window
  cases hnum : event.dataNumber with
  | none =>
    refine ⟨w, (SSU2Conn.recvWindow_step crypto o.conn hnum).trans hw, hmax, ?_⟩
    rw [Observed.step, hnum]
    exact hrep
  | some k =>
    obtain ⟨hnew, hold⟩ := hplace k hnum
    rw [Observed.step, hnum]
    obtain ⟨env, packet, rfl, htype, rfl⟩ := Event.dataNumber_eq_some hnum
    by_cases hmem : packet.packetNumber.toNat ∈ o.arrived
    · have hnear := Missing.missing_le fun hin => lt_irrefl _ (hold hmem _ hin)
      obtain ⟨e, hins⟩ := hrep.insert_error rfl (Or.inl ⟨hmem, hnear⟩)
      have hsame := SSU2Conn.processInboundPacket_of_error crypto env htype hw hins
      refine ⟨w, ?_, hmax, ?_⟩
      · show (o.conn.processInboundPacket crypto env packet).2.2.2.recvWindow = some w
        rw [hsame]
        exact hw
      · show Represents w (insert packet.packetNumber.toNat o.arrived)
        rwa [Finset.insert_eq_of_mem hmem]
    · obtain ⟨hnear, hfits⟩ := hnew hmem
      rw [← hmax] at hfits
      obtain ⟨ready, w', hins, hmax', hrep'⟩ := hrep.insert_ok rfl hmem hnear hfits
      have hok := SSU2Conn.processInboundPacket_of_ok crypto env htype hw hins
      exact ⟨w', hok.2, hmax'.trans hmax, hrep'⟩

theorem inv_exec (sendKey recvKey : Bytes) (remoteConnectionID : UInt64) (now : Time)
    {events : List Event}
    (hrun : Always (Observed.step crypto) (HasPlace config.windowBound)
      (Observed.start config sendKey recvKey remoteConnectionID now) events) :
    (exec (Observed.step crypto) (Observed.start config sendKey recvKey remoteConnectionID now)
      events).Inv config.windowBound := by
  refine exec_induct (fun o event ho hplace => ho.step crypto hplace) ?_ hrun
  exact ⟨_, rfl, rfl, represents_new config.receiveWindowSize⟩

theorem Observed.Inv.handed_iff (h : o.Inv bound) (crypto : Crypto) (env : SendEnv)
    {packet : SSU2Packet} (htype : packet.messageType = messageTypeData)
    (hnew : packet.packetNumber.toNat ∉ o.arrived)
    (hnear : packet.packetNumber.toNat < missing o.arrived + 2 ^ 31) :
    (o.conn.processInboundPacket crypto env packet).1 =
        some (o.conn.dataHandler.processDataPacket env.now packet).1 ↔
      Fits bound o.arrived packet.packetNumber.toNat := by
  obtain ⟨w, hw, rfl, hrep⟩ := h.window
  constructor
  · intro hhanded
    by_contra hfits
    obtain ⟨e, hins⟩ := hrep.insert_error rfl (Or.inr (Or.inr ⟨hnew, hfits⟩))
    rw [SSU2Conn.processInboundPacket_of_error crypto env htype hw hins] at hhanded
    cases hhanded
  · intro hfits
    obtain ⟨ready, w', hins, -⟩ := hrep.insert_ok rfl hnew hnear hfits
    exact (SSU2Conn.processInboundPacket_of_ok crypto env htype hw hins).1

/-- **Progress, exactly.** Take a run of an established connection in which every Data packet had a
place in the window. A Data packet with a number larger than every number seen, and less than half
the number space beyond the first missing number, is handed to the data handler if and only if it is
the first missing number or fewer packets than the window holds wait beyond that number. -/
theorem processInboundPacket_handed_iff (crypto : Crypto) (config : SSU2Config)
    (sendKey recvKey : Bytes) (remoteConnectionID : UInt64) (now : Time) (events : List Event)
    (hrun : Always (Observed.step crypto) (HasPlace config.windowBound)
      (Observed.start config sendKey recvKey remoteConnectionID now) events)
    (o : Observed)
    (ho : o = exec (Observed.step crypto)
      (Observed.start config sendKey recvKey remoteConnectionID now) events)
    (env : SendEnv) (packet : SSU2Packet) (htype : packet.messageType = messageTypeData)
    (hlarger : ∀ m ∈ o.arrived, m < packet.packetNumber.toNat)
    (hnear : packet.packetNumber.toNat < missing o.arrived + 2 ^ 31) :
    (o.conn.processInboundPacket crypto env packet).1 =
        some (o.conn.dataHandler.processDataPacket env.now packet).1 ↔
      packet.packetNumber.toNat = missing o.arrived ∨
        (o.arrived.filter (missing o.arrived < ·)).card < config.windowBound := by
  have hinv := inv_exec crypto config sendKey recvKey remoteConnectionID now hrun
  rw [← ho] at hinv
  exact hinv.handed_iff crypto env htype (fun hmem => lt_irrefl _ (hlarger _ hmem)) hnear

/-! ## The first packet is lost -/

/-- The peer's packet number `i`, after decryption, with one byte of padding in it. -/
def peerPacket (i : ℕ) : SSU2Packet :=
  (SSU2Conn.assembleSSU2Conn .newSSU2Config 0).dataPacket (UInt32.ofNat i)
    (SSU2Block.wire ⟨blockTypePadding, [0]⟩)

/-- Packets `1` to `n` come in, in order. -/
def withoutFirst (n : ℕ) : List Event :=
  (List.range n).map fun i => .inbound .openSocket (peerPacket (i + 1))

theorem missing_Icc (n : ℕ) : missing (Finset.Icc 1 n) = 0 := by
  refine missing_eq (fun hmem => ?_) fun m hm => absurd hm (Nat.not_lt_zero m)
  exact absurd (Finset.mem_Icc.mp hmem).1 (by decide)

theorem waiting_Icc (n : ℕ) : waiting (Finset.Icc 1 n) = Finset.Icc 1 n := by
  ext k
  rw [mem_waiting, missing_Icc, Finset.mem_Icc]
  omega

/-- As long as they fit the window, they keep to the condition. -/
theorem withoutFirst_run (sendKey recvKey : Bytes) (remoteConnectionID : UInt64) (now : Time)
    (hn : n ≤ config.windowBound) (hsmall : n < 2 ^ 31) :
    Always (Observed.step crypto) (HasPlace config.windowBound)
        (Observed.start config sendKey recvKey remoteConnectionID now) (withoutFirst n) ∧
      (exec (Observed.step crypto) (Observed.start config sendKey recvKey remoteConnectionID now)
        (withoutFirst n)).arrived = Finset.Icc 1 n := by
  induction n with
  | zero => exact ⟨trivial, rfl⟩
  | succ n ih =>
    obtain ⟨hrun, harr⟩ := ih (by omega) (by omega)
    have hsplit : withoutFirst (n + 1) =
        withoutFirst n ++ [.inbound .openSocket (peerPacket (n + 1))] := by
      rw [withoutFirst, List.range_succ, List.map_append]
      rfl
    have hlt : n + 1 < UInt32.size := lt_trans hsmall (by decide)
    have hnat := UInt32.toNat_ofNat_of_lt' hlt
    rw [hsplit, always_append, exec_append]
    refine ⟨⟨hrun, fun k hk => ?_, trivial⟩, ?_⟩
    · rw [harr, missing_Icc]
      have hk : UInt32.ofNat (n + 1) = k := Option.some.inj hk
      rw [← hk, hnat]
      refine ⟨fun _ => ⟨by omega, Or.inr ?_⟩, fun hmem => ?_⟩
      · rw [waiting_Icc, Nat.card_Icc]
        omega
      · exact absurd (Finset.mem_Icc.mp hmem).2 (by omega)
    · show insert (UInt32.ofNat (n + 1)).toNat _ = _
      rw [hnat, harr]
      ext k
      rw [Finset.mem_insert, Finset.mem_Icc, Finset.mem_Icc]
      omega

/-- With five packets waiting for the first, the sixth gets through. -/
theorem handed_after_five :
    ∃ o : Observed,
      o = exec (Observed.step .identity) (Observed.start .newSSU2Config [] [] 0 0)
        (withoutFirst 5) ∧
      (o.conn.processInboundPacket .identity .openSocket (peerPacket 6)).1.isSome := by
  obtain ⟨hrun, harr⟩ := withoutFirst_run .identity .newSSU2Config [] [] 0 0 (n := 5)
    (by decide) (by decide)
  refine ⟨_, rfl, ?_⟩
  have hiff := processInboundPacket_handed_iff .identity .newSSU2Config [] [] 0 0 (withoutFirst 5)
    hrun _ rfl .openSocket (peerPacket 6) rfl
    (by
      rw [harr]
      intro m hm
      exact Nat.lt_succ_of_le (Finset.mem_Icc.mp hm).2)
    (by
      rw [harr, missing_Icc]
      decide)
  rw [hiff.mpr (Or.inr ?_)]
  · rfl
  · rw [harr, missing_Icc]
    decide

/-- **A lost packet stops the session.** The first packet is lost, the next 256 come in, and the
one after them is dropped. -/
theorem dropped_after_256 :
    ∃ o : Observed,
      o = exec (Observed.step .identity) (Observed.start .newSSU2Config [] [] 0 0)
        (withoutFirst 256) ∧
      (∀ m ∈ o.arrived, m < 257) ∧ 257 < missing o.arrived + 2 ^ 31 ∧
      (o.conn.processInboundPacket .identity .openSocket (peerPacket 257)).1 = none := by
  obtain ⟨hrun, harr⟩ := withoutFirst_run .identity .newSSU2Config [] [] 0 0 (n := 256)
    (by decide) (by decide)
  obtain ⟨w, hw, hmax, hrep⟩ := (inv_exec _ _ _ _ _ _ hrun).window
  rw [harr] at hrep
  refine ⟨_, rfl, ?_, ?_, ?_⟩
  · rw [harr]
    intro m hm
    exact Nat.lt_succ_of_le (Finset.mem_Icc.mp hm).2
  · rw [harr, missing_Icc]
    decide
  · have hnot : ¬ Fits w.maxSize (Finset.Icc 1 256) 257 := by
      rw [Fits, missing_Icc, waiting_Icc, Nat.card_Icc, hmax]
      decide
    have hnew : 257 ∉ Finset.Icc 1 256 := by decide
    have hnum : (peerPacket 257).packetNumber.toNat = 257 := rfl
    obtain ⟨e, hins⟩ := hrep.insert_error hnum (Or.inr (Or.inr ⟨hnew, hnot⟩))
    rw [SSU2Conn.processInboundPacket_of_error _ _ rfl hw hins]

end GoNoise.SSU2
