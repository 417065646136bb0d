import GoNoise.Ratchet.TagWindow
import Mathlib

/-!
# Messages that are lost

A receiver gets some of the messages of a chain, in any order. Two windows decide what becomes of
them: the window of keys, which starts at the first message that never came, and the window of tags,
in which the tags of lost messages stay.
-/

namespace GoNoise.Ratchet

open SessionManager Session

variable {δ σ τ : Type} {P : Primitives δ σ τ} {c : SendChain P} {p n : ℕ}
  {s s' : Session δ σ τ} {received : Finset ℕ} {sm : SessionManager δ σ τ}

/-! ## Control blocks -/

namespace Session

theorem KeyWindow.sameKeys (h : s.KeyWindow c received) (hsame : s.SameKeys s') :
    s'.KeyWindow c received := by
  obtain ⟨h₁, h₂, h₃, h₄⟩ := hsame
  refine ⟨?_, ?_, ?_, ?_, ?_, h.lt_max, ?_⟩
  · rw [h₁, h₃]
    exact h.ratchet
  · rw [h₂]
    exact h.base
  · rw [h₂, h₃]
    exact h.base_le
  · rw [h₂, h₃]
    exact h.fill_le
  · rw [h₃]
    exact h.lt_fill
  · rw [h₂, h₃, h₄]
    exact h.cached

theorem KeyWindow.trimRecvWindowByPN (h : s.KeyWindow c received) (pn : UInt16) :
    s.trimRecvWindowByPN pn = s := by
  have hstale : (s.recvKeyCache.keys.filter fun counter =>
      pn.toUInt32 < counter ∧ counter < s.recvWindowBase) = [] := by
    rw [List.filter_eq_nil_iff]
    intro k hk
    have hbase := (h.mem_cache.mp (AList.mem_keys.mpr hk)).1
    rw [decide_eq_true_eq]
    rintro ⟨-, hlt⟩
    exact absurd hbase (UInt32.not_le.mpr hlt)
  unfold Session.trimRecvWindowByPN
  rw [hstale]
  rfl

theorem KeyWindow.processControlBlock (h : s.KeyWindow c received) (block : PayloadBlock) :
    (SessionManager.processControlBlock block s).KeyWindow c received := by
  unfold SessionManager.processControlBlock
  split_ifs
  · split
    · exact h
    · rwa [h.trimRecvWindowByPN]
  · exact { h with }
  · unfold SessionManager.processAck
    split
    · exact h
    · exact { h with }
  · exact h

end Session

namespace SessionManager

/-- What each control block keeps is kept for the session at `p`. -/
theorem session_processDecryptedESBlocks {I : Session δ σ τ → Prop}
    (hI : ∀ block s, I s → I (processControlBlock block s)) (plaintext : Bytes)
    (hs : sm.heap.lookup p = some s) (h : I s) :
    ∃ s', (sm.processDecryptedESBlocks p plaintext).heap.lookup p = some s' ∧ I s' := by
  have hblocks : ∀ (blocks : List PayloadBlock) (sm : SessionManager δ σ τ) (s : Session δ σ τ),
      sm.heap.lookup p = some s → I s →
        ∃ s', (sm.processBlocks p blocks).heap.lookup p = some s' ∧ I s' := by
    intro blocks
    induction blocks with
    | nil => exact fun sm s hs h => ⟨s, hs, h⟩
    | cons block blocks ih =>
      intro sm s hs h
      rw [processBlocks]
      split_ifs
      · refine ⟨s, ?_, h⟩
        unfold removeSessionByPointer
        split
        · exact hs
        · exact hs
      · rw [hs]
        exact ih _ _ (AList.lookup_insert _) (hI block s h)
  unfold processDecryptedESBlocks
  split
  · exact ⟨s, hs, h⟩
  · exact hblocks _ sm s hs h

/-- A payload with a Termination block. -/
def terminates (plaintext : Bytes) : Bool :=
  match parsePayload plaintext with
  | .error _ => false
  | .ok blocks => blocks.any fun block => block.type = blockTermination

theorem tagIndex_processDecryptedESBlocks {plaintext : Bytes} (h : terminates plaintext = false) :
    (sm.processDecryptedESBlocks p plaintext).tagIndex = sm.tagIndex := by
  have hblocks : ∀ (blocks : List PayloadBlock) (sm : SessionManager δ σ τ),
      (blocks.any fun block => block.type = blockTermination) = false →
        (sm.processBlocks p blocks).tagIndex = sm.tagIndex := by
    intro blocks
    induction blocks with
    | nil => exact fun sm _ => rfl
    | cons block blocks ih =>
      intro sm hany
      rw [List.any_cons, Bool.or_eq_false_iff, decide_eq_false_iff_not] at hany
      rw [processBlocks, if_neg hany.1]
      split
      · rfl
      · exact ih _ hany.2
  unfold terminates at h
  unfold processDecryptedESBlocks
  split
  · rfl
  next heq => grind

/-! ## One message -/

/-- The tag of a message is registered for the session at `p`, which has not timed out. -/
structure Recognises (now : Time) (p : ℕ) (tag : Tag) (s : Session δ σ τ)
    (sm : SessionManager δ σ τ) : Prop where
  known : sm.tagIndex.lookup tag = some p
  session : sm.heap.lookup p = some s
  valid : sm.isSessionValid now s

variable {H : Handshakes δ σ τ} {now : Time} {payload msg : Bytes}

section
variable (hr : sm.Recognises now p (c.tag n) s)
include hr

theorem decryptGarlicMessage_of_received (he : c.Emits n payload msg) :
    match (SessionManager.received P now (c.tag n) msg p s sm).1 with
    | .error e => sm.decryptGarlicMessage P H now msg =
        (.error e, (SessionManager.received P now (c.tag n) msg p s sm).2)
    | .ok (plaintext, sessionTag) => sm.decryptGarlicMessage P H now msg =
        (.ok (plaintext, sessionTag, none),
          (SessionManager.received P now (c.tag n) msg p s sm).2.processDecryptedESBlocks p
            plaintext) := by
  obtain ⟨hn₀, hn, ciphertext, tag, -, hmsg⟩ := he
  have htag : FixedBytes.copyFrom 8 (msg.take 8) = c.tag n := by
    rw [hmsg, tag_buildExistingSessionMessage]
  have hlen : 8 ≤ msg.length := by grind [length_buildExistingSessionMessage]
  unfold SessionManager.decryptGarlicMessage
  rw [if_neg (Nat.not_lt.mpr hlen), htag]
  dsimp only
  split
  next e hres => rw [tryDecryptExisting_of_error hr.known hr.session hr.valid hres]
  next plaintext sessionTag hres =>
    rw [tryDecryptExisting_of_ok hr.known hr.session hr.valid hres]

/-- A recognised message is decrypted exactly if it is new and its key is in the window. -/
theorem decryptGarlicMessage_of_recognises (hk : s.KeyWindow c received) (hc : c.Authentic)
    (he : c.Emits n payload msg) :
    ∃ s', (sm.decryptGarlicMessage P H now msg).2.heap.lookup p = some s' ∧
      if n < s.recvWindowBase.toNat + recvWindowSize.toNat ∧ n ∉ received then
        (sm.decryptGarlicMessage P H now msg).1 = .ok (payload, c.tag n, none) ∧
          s'.KeyWindow c (insert n received)
      else (∃ e, (sm.decryptGarlicMessage P H now msg).1 = .error e) ∧ s'.KeyWindow c received := by
  have hused : (s.useTag (c.tag n)).KeyWindow c received := hk.onlyTags rfl
  have hbase : n ∉ received → s.recvWindowBase.toNat ≤ n := by
    intro hnew
    rw [hk.base]
    refine Missing.missing_le ?_
    rw [Finset.mem_insert, not_or]
    exact ⟨Nat.pos_iff_ne_zero.mp he.pos, hnew⟩
  obtain ⟨s₁, hs₁, honly⟩ := Session.heap_received P now (c.tag n) msg p s sm
  have hdecrypt := hused.decrypt hc he now (sm.tagCounterIndex.lookup (c.tag n))
  have hresult := decryptGarlicMessage_of_received (H := H) hr he
  have hfirst : (SessionManager.received P now (c.tag n) msg p s sm).1 =
      ((s.useTag (c.tag n)).decryptExistingSession P now (msg.drop 8) (c.tag n)
        (sm.tagCounterIndex.lookup (c.tag n))).1 := rfl
  split_ifs at hdecrypt with hin
  · obtain ⟨s₂, hopened, hwindow⟩ := hdecrypt
    rw [hopened] at hfirst honly
    rw [hfirst] at hresult
    rw [hresult]
    obtain ⟨s', hs', hk'⟩ := session_processDecryptedESBlocks
      (I := fun s => s.KeyWindow c (insert n received))
      (fun block s h => h.processControlBlock block) payload hs₁ (hwindow.onlyTags honly)
    refine ⟨s', hs', ?_⟩
    rw [if_pos ⟨hin.2.1, hin.2.2⟩]
    exact ⟨rfl, hk'⟩
  · obtain ⟨e, s₂, hfailed, hwindow⟩ := hdecrypt
    rw [hfailed] at hfirst honly
    rw [hfirst] at hresult
    rw [hresult]
    refine ⟨s₁, hs₁, ?_⟩
    rw [if_neg fun h => hin ⟨hbase h.2, h.1, h.2⟩]
    exact ⟨⟨e, rfl⟩, hwindow.onlyTags honly⟩

theorem window_of_recognises (ht : s.TagWindow c p sm.tagIndex received) (hc : c.UniqueTags)
    (he : c.Emits n payload msg) (hnew : n ∈ Finset.Ico 1 s.nextRecvTagCounter.toNat \ received)
    (hlive : terminates payload = false)
    (hopened : (sm.decryptGarlicMessage P H now msg).1 = .ok (payload, c.tag n, none))
    (hs' : (sm.decryptGarlicMessage P H now msg).2.heap.lookup p = some s') :
    s'.TagWindow c p (sm.decryptGarlicMessage P H now msg).2.tagIndex (insert n received) ∧
      s'.lastUsed = now ∧
      (sm.decryptGarlicMessage P H now msg).2.sessionTimeout = sm.sessionTimeout := by
  obtain ⟨s₁, hs₁, honly⟩ := Session.heap_received P now (c.tag n) msg p s sm
  have hwindow := ht.receive hc hnew he.lt hs₁
  have hresult := decryptGarlicMessage_of_received (H := H) hr he
  split at hresult
  · rw [hresult] at hopened
    cases hopened
  next plaintext sessionTag hres =>
    rw [hresult] at hopened hs' ⊢
    cases hopened
    have hlast : s₁.lastUsed = now := by
      rw [honly]
      exact (Session.of_decryptExistingSession hres).2
    obtain ⟨s₂, hs₂, hsame, hlast₂⟩ := session_processDecryptedESBlocks
      (I := fun s => s.TagWindow c p (SessionManager.received P now (c.tag n) msg p _ sm).2.tagIndex
        (insert n received) ∧ s.lastUsed = now)
      (fun block s h => by
        rw [Session.onlyControl_processControlBlock block s]
        exact h.imp_left fun h => h.sameTags ⟨rfl, rfl, rfl⟩) payload hs₁ ⟨hwindow, hlast⟩
    cases hs₂.symm.trans hs'
    rw [tagIndex_processDecryptedESBlocks hlive]
    refine ⟨hsame, hlast₂, ?_⟩
    rw [onlyTables_processDecryptedESBlocks]
    unfold SessionManager.received receiveExisting
    dsimp only
    split_ifs
    · rw [replenishTagWindowOutsideLock, onlyIndexes_replenishLoop]
      rfl
    · rfl

end

end SessionManager

/-! ## The pair that counts -/

/-- The chain from the initiator to the responder. -/
def forwardChain : SendChain countingPrimitives := countingChain 7 6

def forwardMessage (n : ℕ) (payload : Bytes) : Bytes :=
  match encryptWithSessionKey countingPrimitives (forwardChain.key n) payload (forwardChain.tag n)
    (UInt32.ofNat n) with
  | .error _ => []
  | .ok (ciphertext, tag) => buildExistingSessionMessage (forwardChain.tag n) ciphertext tag

theorem authentic_forwardChain : forwardChain.Authentic := authentic_countingChain 7 6

theorem uniqueTags_forwardChain : forwardChain.UniqueTags := uniqueTags_countingChain (by decide)

theorem emits_forwardMessage (payload : Bytes) (hpos : 0 < n) (hlt : n < maxMessageNumber.toNat) :
    forwardChain.Emits n payload (forwardMessage n payload) := ⟨hpos, hlt, _, _, rfl, rfl⟩

theorem sessionTimeout_counting : (counting false).sessionTimeout = 10 * minute := by
  decide +kernel

/-- The responder expects the first messages of the initiator. -/
theorem windows_counting :
    ∃ s, (counting false).heap.lookup 0 = some s ∧ s.KeyWindow forwardChain ∅ ∧
      s.TagWindow forwardChain 0 (counting false).tagIndex ∅ ∧ s.lastUsed = 0 ∧
      (counting false).isSessionValid 0 s := by
  obtain ⟨s₀, hcreate, hpending, hlast⟩ : ∃ s, createSession countingPrimitives 0 (.ofNat 32 9)
      ⟨.ofNat 32 1, .ofNat 32 2⟩ (.ofNat 32 8) false = .ok s ∧ s.pendingTags = [] ∧ s.lastUsed =
        0 :=
    ⟨_, rfl, rfl, rfl⟩
  obtain ⟨s, sm, happly, hk, ht, honly⟩ := windows_applyNSRKeys (c := forwardChain)
    (tagWindowSize + 1) 0 ⟨.ofNat 32 3, .ofNat 32 5⟩ false s₀
    (newSessionManager (.ofNat 32 8) (.ofNat 32 9) (5 * minute) (2 * minute))
    uniqueTags_forwardChain rfl rfl (by decide) (by decide)
    (by rw [hpending]; exact fun n _ _ => rfl) (Nat.lt_succ_self _)
  have hlast' : s.lastUsed = 0 := by
    rw [honly]
    exact hlast
  refine ⟨s, ?_, hk, ?_, hlast', ?_⟩
  · unfold counting
    simp only [hcreate, happly, AList.lookup_insert]
  · unfold counting
    simp only [hcreate, happly]
    exact ht
  · unfold isSessionValid
    rw [hlast', sessionTimeout_counting]
    decide

/-! ## Runs -/

/-- A receiver and the numbers of the messages that it has decrypted. -/
structure Reception (δ σ τ : Type) where
  sm : SessionManager δ σ τ
  received : Finset ℕ

namespace Reception

/-- A message of the chain arrives, or the manager does something else. -/
inductive Event (δ σ τ : Type)
  | deliver (now : Time) (n : ℕ) (payload msg : Bytes)
  | other (next : SessionManager δ σ τ)

/-- One event. -/
def step (P : Primitives δ σ τ) (H : Handshakes δ σ τ) (w : Reception δ σ τ) :
    Event δ σ τ → Reception δ σ τ
  | .deliver now n _ msg =>
    let result := w.sm.decryptGarlicMessage P H now msg
    { sm := result.2, received := if result.1.isOk then insert n w.received else w.received }
  | .other next => { w with sm := next }

/-! ### Keys -/

/-- The messages are those of the chain, and nothing else touches the receiving keys of the session
at `p`. Messages whose tag is not recognised are among the other events. -/
def OfChain (c : SendChain P) (p : ℕ) (w : Reception δ σ τ) : Event δ σ τ → Prop
  | .deliver now n payload msg =>
    c.Emits n payload msg ∧ ∃ s, w.sm.Recognises now p (c.tag n) s
  | .other next => ∀ s, w.sm.heap.lookup p = some s →
    ∃ s', next.heap.lookup p = some s' ∧ s.SameKeys s'

variable {H : Handshakes δ σ τ} {w : Reception δ σ τ} {e : Event δ σ τ}

theorem keyWindow_step (hc : c.Authentic)
    (h : ∃ s, w.sm.heap.lookup p = some s ∧ s.KeyWindow c w.received) (he : OfChain c p w e) :
    ∃ s, (step P H w e).sm.heap.lookup p = some s ∧ s.KeyWindow c (step P H w e).received := by
  obtain ⟨s, hs, hk⟩ := h
  cases e with
  | deliver now n payload msg =>
    obtain ⟨hemits, s₁, hr⟩ := he
    cases hr.session.symm.trans hs
    obtain ⟨s', hs', hcases⟩ := decryptGarlicMessage_of_recognises (H := H) hr hk hc
      hemits
    refine ⟨s', hs', ?_⟩
    unfold step
    dsimp only
    split_ifs at hcases
    · rw [hcases.1]
      exact hcases.2
    · obtain ⟨⟨e, hfailed⟩, hk'⟩ := hcases
      rw [hfailed]
      exact hk'
  | other next =>
    obtain ⟨s', hs', hsame⟩ := he s hs
    exact ⟨s', hs', hk.sameKeys hsame⟩

/-- Message `n` of the initiator arrives at the responder. -/
def forwardDelivery (n : ℕ) : Event ℕ (ℕ × ℕ) (ℕ × ℕ) :=
  .deliver 0 n [11, 0, 1, 42] (forwardMessage n [11, 0, 1, 42])

/-- The responder after these messages. -/
def forwardRun (numbers : List ℕ) : Reception ℕ (ℕ × ℕ) (ℕ × ℕ) :=
  Trace.exec (step countingPrimitives noHandshakes)
    ⟨counting false, ∅⟩ (numbers.map forwardDelivery)

/-! ### Tags -/

/-- Both windows of the session at `p`. -/
def Intact (c : SendChain P) (p : ℕ) (w : Reception δ σ τ) : Prop :=
  ∃ s, w.sm.heap.lookup p = some s ∧ s.KeyWindow c w.received ∧
    s.TagWindow c p w.sm.tagIndex w.received

/-- A new message for a session that has not timed out, which the message does not end. -/
structure Arrives (c : SendChain P) (p : ℕ) (w : Reception δ σ τ) (now : Time) (n : ℕ)
    (payload msg : Bytes) : Prop where
  emits : c.Emits n payload msg
  fresh : n ∉ w.received
  valid : ∀ s, w.sm.heap.lookup p = some s → w.sm.isSessionValid now s
  live : SessionManager.terminates payload = false

/-- A message that both windows cover is decrypted, and the windows go on. -/
theorem intact_deliver (hc : c.Authentic) (hu : c.UniqueTags) (h : Intact c p w) {now : Time}
    {payload msg : Bytes} (ha : Arrives c p w now n payload msg)
    (htags : n ≤ w.received.card + tagReplenishThreshold)
    (hkeys : n < Missing.missing (insert 0 w.received) + recvWindowSize.toNat) :
    (w.sm.decryptGarlicMessage P H now msg).1 = .ok (payload, c.tag n, none) ∧
      (step P H w (.deliver now n payload msg)).received = insert n w.received ∧
      Intact c p (step P H w (.deliver now n payload msg)) ∧
      (∀ s', (step P H w (.deliver now n payload msg)).sm.heap.lookup p = some s' →
        s'.lastUsed = now) ∧
      (step P H w (.deliver now n payload msg)).sm.sessionTimeout = w.sm.sessionTimeout := by
  obtain ⟨s, hs, hk, ht⟩ := h
  obtain ⟨he, hnew, hvalid, hlive⟩ := ha
  obtain ⟨hmem, hlookup⟩ := ht.registered he.pos hnew htags
  have hr : w.sm.Recognises now p (c.tag n) s := ⟨hlookup, hs, hvalid s hs⟩
  rw [← hk.base] at hkeys
  obtain ⟨s', hs', hcases⟩ := decryptGarlicMessage_of_recognises (H := H) hr hk hc he
  rw [if_pos ⟨hkeys, hnew⟩] at hcases
  obtain ⟨hopened, hk'⟩ := hcases
  have hreceived : (step P H w (.deliver now n payload msg)).received = insert n w.received := by
    unfold step
    dsimp only
    rw [hopened]
    rfl
  have hwindow := window_of_recognises hr ht hu he hmem hlive hopened hs'
  refine ⟨hopened, hreceived, ⟨s', hs', ?_, ?_⟩, fun s₁ hs₁ => ?_, ?_⟩
  · rwa [hreceived]
  · rw [hreceived]
    exact hwindow.1
  · exact (window_of_recognises hr ht hu he hmem hlive hopened hs₁).2.1
  · exact hwindow.2.2

theorem intact_forwardRun {m k : ℕ} (hm₀ : 0 < m) (hm : m ≤ tagReplenishThreshold)
    (hk : m + k ≤ recvWindowSize.toNat + 1) :
    Intact forwardChain 0 (forwardRun (List.range' m k)) ∧
      (forwardRun (List.range' m k)).received = Finset.Ico m (m + k) ∧
      (forwardRun (List.range' m k)).sm.sessionTimeout = 10 * minute ∧
      ∀ s, (forwardRun (List.range' m k)).sm.heap.lookup 0 = some s → s.lastUsed = 0 := by
  induction k with
  | zero =>
    obtain ⟨s, hs, hk, ht, hlast, -⟩ := windows_counting
    refine ⟨⟨s, hs, hk, ht⟩, (Finset.Ico_self m).symm, sessionTimeout_counting, fun s₁ hs₁ => ?_⟩
    cases hs₁.symm.trans hs
    exact hlast
  | succ k ih =>
    obtain ⟨hintact, hreceived, htimeout, hlast⟩ := ih (by omega)
    have hsize : recvWindowSize.toNat = 128 := rfl
    have hmax : maxMessageNumber.toNat = 65535 := rfl
    have hrun : forwardRun (List.range' m (k + 1)) =
        step countingPrimitives noHandshakes (forwardRun (List.range' m k))
          (forwardDelivery (m + k)) := by
      unfold forwardRun
      rw [List.range'_1_concat, List.map_append, Trace.exec_append]
      rfl
    have hcard : (forwardRun (List.range' m k)).received.card = k := by
      rw [hreceived, Nat.card_Ico, Nat.add_sub_cancel_left]
    have harrives : Arrives forwardChain 0 (forwardRun (List.range' m k)) 0 (m + k) [11, 0, 1, 42]
        (forwardMessage (m + k) [11, 0, 1, 42]) := by
      refine ⟨emits_forwardMessage _ (by omega) (by omega), ?_, fun s hs => ?_, by decide⟩
      · rw [hreceived]
        exact Finset.right_notMem_Ico
      · unfold isSessionValid
        rw [hlast s hs, htimeout]
        decide
    have hpos := Missing.missing_insert_zero_pos (forwardRun (List.range' m k)).received
    obtain ⟨-, hreceived', hintact', hlast', htimeout'⟩ := intact_deliver
      (H := noHandshakes) authentic_forwardChain uniqueTags_forwardChain hintact
      harrives (by omega) (by omega)
    rw [hrun]
    refine ⟨hintact', ?_, htimeout'.trans htimeout, hlast'⟩
    refine hreceived'.trans ?_
    ext j
    rw [hreceived, Finset.mem_insert, Finset.mem_Ico, Finset.mem_Ico]
    omega

/-- **Which messages are decrypted.** After any run, a message of the chain that was not decrypted
before and whose tag is recognised is decrypted exactly if it is less than 128 above the base of the
window, however far above the highest message it is. -/
theorem opened_iff_lt_base_add {s₀ s : Session δ σ τ} {es : List (Event δ σ τ)} {now : Time}
    {payload msg : Bytes} (hc : c.Authentic) (hs₀ : sm.heap.lookup p = some s₀)
    (hk₀ : s₀.KeyWindow c ∅) (hrun : Trace.Always (step P H) (OfChain c p) ⟨sm, ∅⟩ es)
    (he : c.Emits n payload msg)
    (hr : (Trace.exec (step P H) ⟨sm, ∅⟩ es).sm.Recognises now p (c.tag n) s)
    (hnew : n ∉ (Trace.exec (step P H) ⟨sm, ∅⟩ es).received) :
    ((Trace.exec (step P H) ⟨sm, ∅⟩ es).sm.decryptGarlicMessage P H now msg).1 =
        .ok (payload, c.tag n, none) ↔
      n < s.recvWindowBase.toNat + recvWindowSize.toNat := by
  obtain ⟨s₁, hs₁, hk⟩ := Trace.exec_induct (P := OfChain c p)
    (I := fun w => ∃ s, w.sm.heap.lookup p = some s ∧ s.KeyWindow c w.received)
    (fun w e h he => keyWindow_step (H := H) hc h he) ⟨s₀, hs₀, hk₀⟩ hrun
  obtain rfl : s₁ = s := Option.some.inj (hs₁.symm.trans hr.session)
  obtain ⟨s', -, hcases⟩ := decryptGarlicMessage_of_recognises (H := H) hr hk hc he
  split_ifs at hcases with hin
  · exact iff_of_true hcases.1 hin.1
  · grind

/-- The next messages are recognised. -/
theorem recognises_forwardRun {m k n : ℕ} (hm₀ : 0 < m) (hm : m ≤ tagReplenishThreshold)
    (hk : m + k ≤ recvWindowSize.toNat + 1) (hn : 0 < n)
    (hnew : n ∉ Finset.Ico m (m + k)) (htags : n ≤ k + tagReplenishThreshold) :
    ∃ s, (forwardRun (List.range' m k)).sm.Recognises 0 0 (forwardChain.tag n) s ∧
      s.KeyWindow forwardChain (Finset.Ico m (m + k)) := by
  obtain ⟨⟨s, hs, hkeys, ht⟩, hreceived, htimeout, hlast⟩ := intact_forwardRun hm₀ hm hk
  rw [hreceived] at hkeys ht
  obtain ⟨-, hlookup⟩ := ht.registered hn hnew
    (by rwa [Nat.card_Ico, Nat.add_sub_cancel_left])
  refine ⟨s, ⟨hlookup, hs, ?_⟩, hkeys⟩
  unfold isSessionValid
  rw [hlast s hs, htimeout]
  decide

/-- The first message is lost; 2, 3 and 4 are decrypted. -/
theorem opened_iff_lt_base_add_lost :
    (forwardRun [2, 3]).received = {2, 3} ∧
      ((forwardRun [2, 3]).sm.decryptGarlicMessage countingPrimitives noHandshakes 0
        (forwardMessage 4 [11, 0, 1, 42])).1 = .ok ([11, 0, 1, 42], forwardChain.tag 4, none) := by
  obtain ⟨s₀, hs₀, hk₀, -⟩ := windows_counting
  have hreceived : (forwardRun [2, 3]).received = {2, 3} :=
    (intact_forwardRun (m := 2) (k := 2) (by decide) (by decide) (by decide)).2.1
  have harrive : ∀ k < 2, OfChain forwardChain 0 (forwardRun (List.range' 2 k))
      (forwardDelivery (2 + k)) := by
    intro k hk
    have hsize : recvWindowSize.toNat = 128 := rfl
    have hthreshold : tagReplenishThreshold = 12 := rfl
    obtain ⟨s, hr, -⟩ := recognises_forwardRun (m := 2) (k := k) (n := 2 + k) (by decide)
      (by decide)
      (by omega) (by omega) Finset.right_notMem_Ico (by omega)
    exact ⟨emits_forwardMessage _ (by omega) (Nat.lt_trans (by omega : 2 + k < 4) (by decide)), s,
      hr⟩
  have hrun : Trace.Always (step countingPrimitives noHandshakes) (OfChain forwardChain 0)
      ⟨counting false, ∅⟩ ([2, 3].map forwardDelivery) :=
    ⟨harrive 0 (by decide), harrive 1 (by decide), trivial⟩
  obtain ⟨s, hr, hk⟩ := recognises_forwardRun (m := 2) (k := 2) (n := 4) (by decide) (by decide)
    (by decide) (by decide) (by decide) (by decide)
  refine ⟨hreceived, (opened_iff_lt_base_add authentic_forwardChain hs₀ hk₀ hrun
    (emits_forwardMessage _ (by decide) (by decide)) hr ?_).mpr ?_⟩
  · change 4 ∉ (forwardRun [2, 3]).received
    rw [hreceived]
    decide
  · have hbase := Missing.missing_insert_zero_pos (Finset.Ico 2 4)
    have hsize : recvWindowSize.toNat = 128 := rfl
    rw [hk.base]
    omega

/-- The first message is lost and 2 to 128 arrive. Message 129 is one above the highest, its tag is
recognised and the base of the window is 1, but it is not decrypted. -/
theorem lost_message_closes_window :
    (forwardRun (List.range' 2 127)).received = Finset.Ico 2 129 ∧
      (∃ s, (forwardRun (List.range' 2 127)).sm.Recognises 0 0 (forwardChain.tag 129) s ∧
        s.recvWindowBase.toNat = 1) ∧
      ∃ e, ((forwardRun (List.range' 2 127)).sm.decryptGarlicMessage countingPrimitives
        SessionManager.noHandshakes 0 (forwardMessage 129 [11, 0, 1, 42])).1 = .error e := by
  obtain ⟨⟨s, hs, hk, ht⟩, hreceived, htimeout, hlast⟩ :=
    intact_forwardRun (m := 2) (k := 127) (by decide) (by decide) (by decide)
  rw [hreceived] at hk ht
  have hbase : s.recvWindowBase.toNat = 1 := by
    rw [hk.base]
    refine Missing.missing_eq (by simp) fun m hm => ?_
    obtain rfl : m = 0 := by omega
    exact Finset.mem_insert_self 0 _
  have hr : (forwardRun (List.range' 2 127)).sm.Recognises 0 0 (forwardChain.tag 129) s := by
    refine ⟨ht.registered_next (fun n hn => ?_) (by rw [Nat.card_Ico]; decide), hs, ?_⟩
    · rw [Finset.mem_Ico] at hn
      omega
    · unfold isSessionValid
      rw [hlast s hs, htimeout]
      decide
  refine ⟨hreceived, ⟨s, hr, hbase⟩, ?_⟩
  obtain ⟨s', -, hcases⟩ := decryptGarlicMessage_of_recognises
    (H := noHandshakes) hr hk authentic_forwardChain
    (emits_forwardMessage [11, 0, 1, 42] (by decide) (by decide))
  rw [if_neg (by rw [hbase]; exact fun h => absurd h.1 (by decide))] at hcases
  exact hcases.1

/-- The messages are new ones of one DH generation, less than 12 are missing below the highest one
at any time, and nothing else touches what the session at `p` expects. -/
def FewMissing (c : SendChain P) (p : ℕ) (w : Reception δ σ τ) : Event δ σ τ → Prop
  | .deliver now n payload msg =>
    Arrives c p w now n payload msg ∧ n < dhRatchetInterval.toNat ∧
      (insert n w.received).sup id < (insert n w.received).card + tagReplenishThreshold
  | .other next => ∀ s, w.sm.heap.lookup p = some s →
    ∃ s', next.heap.lookup p = some s' ∧ s.SameKeys s' ∧ s.SameTags s' ∧
      ∀ n, next.tagIndex.lookup (c.tag n) = w.sm.tagIndex.lookup (c.tag n)

theorem fewMissing_step (hc : c.Authentic) (hu : c.UniqueTags)
    (h : Intact c p w ∧ w.received.sup id < w.received.card + tagReplenishThreshold)
    (he : FewMissing c p w e) :
    Intact c p (step P H w e) ∧ (step P H w e).received.sup id <
      (step P H w e).received.card + tagReplenishThreshold := by
  obtain ⟨h, hmissing⟩ := h
  cases e with
  | deliver now n payload msg =>
    obtain ⟨ha, hlt, hfew⟩ := he
    have hle : n ≤ (insert n w.received).sup id :=
      Finset.le_sup (f := id) (Finset.mem_insert_self n w.received)
    have hcard := Finset.card_insert_of_notMem ha.fresh
    have hinterval : dhRatchetInterval.toNat = 50 := rfl
    have hsize : recvWindowSize.toNat = 128 := rfl
    obtain ⟨-, hreceived, hintact, -⟩ := intact_deliver (H := H) hc hu h ha (by omega) (by omega)
    refine ⟨hintact, ?_⟩
    rwa [hreceived]
  | other next =>
    refine ⟨?_, hmissing⟩
    obtain ⟨s, hs, hk, ht⟩ := h
    obtain ⟨s', hs', hkeys, htags, hindex⟩ := he s hs
    refine ⟨s', hs', hk.sameKeys hkeys, (ht.sameTags htags).sameIndex fun n => ?_⟩
    exact hindex n

/-- **The next message is expected.** In every run in which less than 12 messages are missing below
the highest one at any time, the tag of the message after the highest one is registered. -/
theorem next_tag_registered {s₀ : Session δ σ τ} {es : List (Event δ σ τ)} (hc : c.Authentic)
    (hu : c.UniqueTags) (hs₀ : sm.heap.lookup p = some s₀) (hk₀ : s₀.KeyWindow c ∅)
    (ht₀ : s₀.TagWindow c p sm.tagIndex ∅)
    (hrun : Trace.Always (step P H) (FewMissing c p) ⟨sm, ∅⟩ es) :
    (Trace.exec (step P H) ⟨sm, ∅⟩ es).sm.tagIndex.lookup
      (c.tag ((Trace.exec (step P H) ⟨sm, ∅⟩ es).received.sup id + 1)) = some p := by
  obtain ⟨⟨s, -, -, ht⟩, hmissing⟩ := Trace.exec_induct (P := FewMissing c p)
    (I := fun w => Intact c p w ∧ w.received.sup id < w.received.card + tagReplenishThreshold)
    (fun w e h he => fewMissing_step (H := H) hc hu h he)
    ⟨⟨s₀, hs₀, hk₀, ht₀⟩,
      show (∅ : Finset ℕ).sup id < (∅ : Finset ℕ).card + tagReplenishThreshold by decide⟩ hrun
  exact ht.registered_next (fun n hn => Finset.le_sup (f := id) hn) hmissing

theorem next_tag_registered_second :
    (forwardRun [2]).sm.tagIndex.lookup
      (forwardChain.tag ((forwardRun [2]).received.sup id + 1)) = some 0 := by
  obtain ⟨s, hs, hk, ht, -, hvalid⟩ := windows_counting
  have hrun : FewMissing forwardChain 0 ⟨counting false, ∅⟩ (forwardDelivery 2) := by
    refine ⟨⟨emits_forwardMessage _ (by decide) (by decide), Finset.notMem_empty 2, fun s₁ hs₁ =>
      ?_,
      by decide⟩, by decide, show (insert 2 ∅ : Finset ℕ).sup id < _ by decide⟩
    obtain rfl : s₁ = s := Option.some.inj (hs₁.symm.trans hs)
    exact hvalid
  have hexec : forwardRun [2] = Trace.exec (step countingPrimitives noHandshakes)
      ⟨counting false, ∅⟩ [forwardDelivery 2] := rfl
  rw [hexec]
  exact next_tag_registered authentic_forwardChain uniqueTags_forwardChain hs hk ht ⟨hrun, trivial⟩

/-- The first twelve messages are lost and 13 to 24 arrive. Then 12 tags are left, all of lost
messages, so no new ones are drawn, and message 25 is not recognised. -/
theorem lost_tags_fill_window :
    (forwardRun (List.range' 13 12)).received = Finset.Ico 13 25 ∧
      (forwardRun (List.range' 13 12)).sm.tagIndex.lookup (forwardChain.tag 25) = none := by
  decide +kernel

end Reception
end GoNoise.Ratchet
