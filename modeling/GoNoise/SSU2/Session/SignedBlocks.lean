import GoNoise.SSU2.Session.DataHandler

/-!
# `ssu2/session/i2np_handler.go`: relay and peer-test blocks

Four kinds of blocks carry a signature of a third router: Relay Request and Relay Intro always,
Relay Response with code 0 or at least 64, Peer Test in messages 1 to 4. The data handler decodes
such a block, asks the verifier installed for its kind and calls the callback. The decoders belong
to another package and are parameters here.
-/

namespace GoNoise.SSU2

/-- `PeerTestRequest`, the first peer-test message that is signed. -/
def peerTestRequest : UInt8 := 1

def peerTestResult : UInt8 := 4

/-- The decoders, with the fields that the handlers read. -/
structure PathDecoders (Request Response Intro Test : Type) where
  decodeRelayRequest : SSU2Block → Except Oops Request
  decodeRelayResponse : SSU2Block → Except Oops Response
  decodeRelayIntro : SSU2Block → Except Oops Intro
  decodePeerTestBlock : SSU2Block → Except Oops Test
  requestSignature : Request → Bytes
  responseCode : Response → UInt8
  responseSignature : Response → Bytes
  introSignature : Intro → Bytes
  messageCode : Test → UInt8
  testSignature : Test → Bytes

/-- The fields of `DataHandlerCallbacks` for signed blocks; a field that is `nil` is `none`. -/
structure SignedCallbacks (Request Response Intro Test : Type) where
  onRelayRequest : Option (SSU2Block → Except Oops Unit) := none
  onRelayResponse : Option (SSU2Block → Except Oops Unit) := none
  onRelayIntro : Option (SSU2Block → Except Oops Unit) := none
  onPeerTest : Option (SSU2Block → Except Oops Unit) := none
  verifyPeerTestSignature : Option (Test → Except Oops Unit) := none
  verifyRelayRequestSignature : Option (Request → Except Oops Unit) := none
  verifyRelayResponseSignature : Option (Response → Except Oops Unit) := none
  verifyRelayIntroSignature : Option (Intro → Except Oops Unit) := none

/-! ## The handlers -/

/-- The end of a handler: its result, and the block if a callback was called with it. -/
def dispatch (callback : Option (SSU2Block → Except Oops Unit)) (block : SSU2Block) :
    Except Oops Unit × Option SSU2Block :=
  match callback with
  | some on => (on block, some block)
  | none => (.ok (), none)

/-- A block with a mandatory signature: the signature is checked, then the callback is called.
`missing` and `invalid` name the block in the two errors. -/
def checkAndDispatch (missing invalid : String) (signature : Bytes)
    (verdict : Option (Except Oops Unit)) (callback : Option (SSU2Block → Except Oops Unit))
    (block : SSU2Block) : Except Oops Unit × Option SSU2Block :=
  if signature.length = 0 then
    (.error ⟨"MISSING_SIGNATURE", "", [], s!"{missing} has no signature"⟩, none)
  else
    match verdict with
    | some (.error e) =>
      (.error ((e.wrap "SIGNATURE_INVALID" "" []).wrapf
        s!"{invalid} signature verification failed"), none)
    -- without a verifier the block is dispatched too
    | some (.ok ()) | none => dispatch callback block

def handleSignedRelayBlock {α : Type} (block : SSU2Block) (label : String) (decoded : Except Oops α)
    (signature : α → Bytes) (verify : Option (α → Except Oops Unit))
    (callback : Option (SSU2Block → Except Oops Unit)) : Except Oops Unit × Option SSU2Block :=
  match decoded with
  | .error e => (.error (e.wrapf s!"failed to decode {label} block"), none)
  | .ok decoded =>
    checkAndDispatch s!"{label} block" label (signature decoded) (verify.map (· decoded)) callback
      block

section Handlers

variable {Request Response Intro Test : Type} (D : PathDecoders Request Response Intro Test)
  (cbs : SignedCallbacks Request Response Intro Test)

def handleRelayRequest (block : SSU2Block) : Except Oops Unit × Option SSU2Block :=
  handleSignedRelayBlock block "RelayRequest" (D.decodeRelayRequest block) D.requestSignature
    cbs.verifyRelayRequestSignature cbs.onRelayRequest

def handleRelayIntro (block : SSU2Block) : Except Oops Unit × Option SSU2Block :=
  handleSignedRelayBlock block "RelayIntro" (D.decodeRelayIntro block) D.introSignature
    cbs.verifyRelayIntroSignature cbs.onRelayIntro

def handleRelayResponse (block : SSU2Block) : Except Oops Unit × Option SSU2Block :=
  match D.decodeRelayResponse block with
  | .error e => (.error (e.wrapf "failed to decode RelayResponse block"), none)
  | .ok decoded =>
    let code := D.responseCode decoded
    if code = 0 ∨ 64 ≤ code then
      checkAndDispatch s!"RelayResponse (code {code})" "RelayResponse" (D.responseSignature decoded)
        (cbs.verifyRelayResponseSignature.map (· decoded)) cbs.onRelayResponse block
    else dispatch cbs.onRelayResponse block

def handlePeerTest (block : SSU2Block) : Except Oops Unit × Option SSU2Block :=
  match D.decodePeerTestBlock block with
  | .error e => (.error (e.wrapf "failed to decode PeerTest block"), none)
  | .ok decoded =>
    let messageCode := D.messageCode decoded
    if peerTestRequest ≤ messageCode ∧ messageCode ≤ peerTestResult then
      checkAndDispatch s!"PeerTest message {messageCode}" s!"PeerTest message {messageCode}"
        (D.testSignature decoded) (cbs.verifyPeerTestSignature.map (· decoded)) cbs.onPeerTest block
    else dispatch cbs.onPeerTest block

/-- The cases of `dispatchNonCriticalBlock` that ask for `Callback.onSigned`. -/
def handleSigned (block : SSU2Block) : Except Oops Unit × Option SSU2Block :=
  if block.type = blockTypeRelayRequest then handleRelayRequest D cbs block
  else if block.type = blockTypeRelayResponse then handleRelayResponse D cbs block
  else if block.type = blockTypeRelayIntro then handleRelayIntro D cbs block
  else handlePeerTest D cbs block

/-! ## Mandatory signatures -/

/-- The signature that a block must carry and the verdict of the verifier installed for its kind;
`none` for a block that need not be signed or does not decode. -/
def mandatory (block : SSU2Block) : Option (Bytes × Option (Except Oops Unit)) :=
  if block.type = blockTypeRelayRequest then
    (D.decodeRelayRequest block).toOption.map fun d =>
      (D.requestSignature d, cbs.verifyRelayRequestSignature.map (· d))
  else if block.type = blockTypeRelayResponse then
    (D.decodeRelayResponse block).toOption.bind fun d =>
      if D.responseCode d = 0 ∨ 64 ≤ D.responseCode d then
        some (D.responseSignature d, cbs.verifyRelayResponseSignature.map (· d))
      else none
  else if block.type = blockTypeRelayIntro then
    (D.decodeRelayIntro block).toOption.map fun d =>
      (D.introSignature d, cbs.verifyRelayIntroSignature.map (· d))
  else if block.type = blockTypePeerTest then
    (D.decodePeerTestBlock block).toOption.bind fun d =>
      if peerTestRequest ≤ D.messageCode d ∧ D.messageCode d ≤ peerTestResult then
        some (D.testSignature d, cbs.verifyPeerTestSignature.map (· d))
      else none
  else none

/-- A block with a mandatory signature reaches its callback only if an installed verifier accepts
it, and without a verifier it is rejected. -/
def Guarded (block : SSU2Block) : Prop :=
  ∀ signature verdict, mandatory D cbs block = some (signature, verdict) →
    ((handleSigned D cbs block).2 = some block → verdict = some (.ok ())) ∧
      (verdict = none → (∃ e, (handleSigned D cbs block).1 = .error e) ∧
        (handleSigned D cbs block).2 = none)

variable {D cbs} {b block : SSU2Block} {h : DataHandler} {now : Time}

/-- The four handlers treat a block with a mandatory signature alike. -/
theorem handleSigned_of_mandatory {signature : Bytes} {verdict : Option (Except Oops Unit)}
    (h : mandatory D cbs block = some (signature, verdict)) :
    ∃ missing invalid callback, handleSigned D cbs block =
      checkAndDispatch missing invalid signature verdict callback block := by
  unfold mandatory at h
  unfold handleSigned
  split_ifs at h ⊢
  · unfold handleRelayRequest
    generalize D.decodeRelayRequest block = decoded at h ⊢
    rcases decoded with e | d <;> cases h
    exact ⟨_, _, _, rfl⟩
  · unfold handleRelayResponse
    generalize D.decodeRelayResponse block = decoded at h ⊢
    rcases decoded with e | d
    · cases h
    · have h' : (if _ then _ else _) = _ := h
      split_ifs at h' with hcode
      cases h'
      dsimp only
      rw [if_pos hcode]
      exact ⟨_, _, _, rfl⟩
  · unfold handleRelayIntro
    generalize D.decodeRelayIntro block = decoded at h ⊢
    rcases decoded with e | d <;> cases h
    exact ⟨_, _, _, rfl⟩
  · unfold handlePeerTest
    generalize D.decodePeerTestBlock block = decoded at h ⊢
    rcases decoded with e | d
    · cases h
    · have h' : (if _ then _ else _) = _ := h
      split_ifs at h' with hcode
      cases h'
      dsimp only
      rw [if_pos hcode]
      exact ⟨_, _, _, rfl⟩

/-- One block: it is guarded exactly if a verifier is installed or the signature is empty, which
every handler rejects. -/
theorem guarded_block_iff (block : SSU2Block) :
    Guarded D cbs block ↔ ∀ signature, mandatory D cbs block = some (signature, none) →
      signature = [] := by
  constructor
  · intro hguard signature hsig
    obtain ⟨⟨e, he⟩, hnone⟩ := (hguard signature none hsig).2 rfl
    obtain ⟨missing, invalid, callback, hrun⟩ := handleSigned_of_mandatory hsig
    rw [hrun] at he hnone
    unfold checkAndDispatch at he hnone
    split_ifs at he hnone with hlen
    · exact List.length_eq_zero_iff.mp hlen
    · cases callback <;> simp [dispatch] at he hnone
  · intro hinstalled signature verdict hsig
    obtain ⟨missing, invalid, callback, hrun⟩ := handleSigned_of_mandatory hsig
    rw [hrun]
    unfold checkAndDispatch
    split_ifs with hlen
    · exact ⟨nofun, fun _ => ⟨⟨_, rfl⟩, rfl⟩⟩
    · rcases verdict with _ | ⟨e⟩ | ⟨⟩
      · exact absurd (hinstalled signature hsig) fun h => hlen (by rw [h]; rfl)
      · exact ⟨nofun, nofun⟩
      · exact ⟨fun _ => rfl, nofun⟩

/-! ## Packets -/

theorem processBlock_of_signedType (now : Time)
    (hsigned : SignedType b) : h.processBlock now b = (.ok (), some (.onSigned b), h) := by
  obtain ⟨h₁, h₂, h₃, h₄, h₅, h₆⟩ : b.type ≠ blockTypeI2NPMessage ∧
      b.type ≠ blockTypeFirstFragment ∧ b.type ≠ blockTypeFollowOnFragment ∧
      b.type ≠ blockTypePadding ∧ b.type ≠ blockTypeTermination ∧ b.type ≠ blockTypeNewToken := by
    rcases hsigned with htype | htype | htype | htype <;> rw [htype] <;> decide
  unfold DataHandler.processBlock DataHandler.dispatchNonCriticalBlock
  rw [if_neg h₁, if_neg h₂, if_neg h₃, if_neg h₄, if_neg h₅, if_neg h₆]
  exact congrArg (Prod.mk _) (if_pos hsigned)

/-- The blocks of a packet that are handled: no message or fragment block fails before them. -/
def Reached (h : DataHandler) (now : Time) (blocks : List SSU2Block) (block : SSU2Block) : Prop :=
  ∃ before after, blocks = before ++ block :: after ∧ (h.processBlocks now before).1 = .ok ()

theorem reached_cons {rest : List SSU2Block} :
    Reached h now (b :: rest) block ↔ block = b ∨
      (h.countBlock.processBlock now b).1 = .ok () ∧
        Reached (h.countBlock.processBlock now b).2.2 now rest block := by
  constructor
  · rintro ⟨_ | ⟨b', before⟩, after, hblocks, hok⟩
    · exact Or.inl (List.cons.inj hblocks).1.symm
    · obtain ⟨rfl, rfl⟩ := List.cons.inj hblocks
      right
      rw [DataHandler.processBlocks] at hok
      generalize h.countBlock.processBlock now b = r at hok ⊢
      obtain ⟨_ | ⟨⟩, callback, h'⟩ := r
      · cases hok
      · exact ⟨rfl, before, after, rfl, hok⟩
  · rintro (rfl | ⟨hok, before, after, rfl, hbefore⟩)
    · exact ⟨[], rest, rfl, rfl⟩
    · refine ⟨b :: before, after, rfl, ?_⟩
      rw [DataHandler.processBlocks]
      generalize h.countBlock.processBlock now b = r at hok hbefore ⊢
      obtain ⟨r, callback, h'⟩ := r
      obtain rfl : r = .ok () := hok
      exact hbefore

theorem onSigned_mem_processBlocks {blocks : List SSU2Block} :
    .onSigned block ∈ (h.processBlocks now blocks).2.1 ↔
      Reached h now blocks block ∧ SignedType block := by
  induction blocks generalizing h with
  | nil => simp [DataHandler.processBlocks, Reached]
  | cons b rest ih =>
    have hcall : (h.countBlock.processBlock now b).2.1 = some (.onSigned block) ↔
        block = b ∧ SignedType block := by
      constructor
      · intro hcall
        obtain ⟨rfl, hsigned⟩ := h.countBlock.askedBy_processBlock now b _ hcall
        exact ⟨rfl, hsigned⟩
      · rintro ⟨rfl, hsigned⟩
        rw [processBlock_of_signedType now hsigned]
    rw [reached_cons, DataHandler.processBlocks, or_and_right, ← hcall, and_assoc]
    generalize h.countBlock.processBlock now b = r at ih ⊢
    obtain ⟨_ | ⟨⟩, callback, h'⟩ := r
    · simp
    · simp [ih]

/-- **Signed blocks of a packet.** Every handled block with a mandatory signature is verified
before its callback, or rejected, if and only if each of them whose signature is not empty has a
verifier installed for its kind. -/
theorem guarded_iff (D : PathDecoders Request Response Intro Test)
    (cbs : SignedCallbacks Request Response Intro Test) (h : DataHandler) (now : Time)
    (blocks : List SSU2Block) :
    (∀ block, .onSigned block ∈ (h.processBlocks now blocks).2.1 → Guarded D cbs block) ↔
      ∀ block, Reached h now blocks block →
        ∀ signature, mandatory D cbs block = some (signature, none) → signature = [] := by
  simp only [onSigned_mem_processBlocks, guarded_block_iff]
  constructor
  · intro hguard block hreached signature hsig
    refine hguard block ⟨hreached, ?_⟩ signature hsig
    unfold mandatory at hsig
    split_ifs at hsig <;> tauto
  · exact fun hinstalled block hblock => hinstalled block hblock.1

end Handlers

/-- Decoders for which the data of a block is its signature and its first byte is the code. -/
def rawDecoders : PathDecoders Bytes Bytes Bytes Bytes where
  decodeRelayRequest block := .ok block.data
  decodeRelayResponse block := .ok block.data
  decodeRelayIntro block := .ok block.data
  decodePeerTestBlock block := .ok block.data
  requestSignature := id
  responseCode := (List.headD · 0)
  responseSignature := id
  introSignature := id
  messageCode := (List.headD · 0)
  testSignature := id

/-- With `OnRelayRequest` wired and no verifier installed, a Relay Request is dispatched. -/
theorem relayRequest_unverified :
    .onSigned ⟨blockTypeRelayRequest, [1, 2, 3]⟩ ∈ ((DataHandler.newDataHandler 10).processBlocks 0
        [⟨blockTypeRelayRequest, [1, 2, 3]⟩]).2.1 ∧
      mandatory rawDecoders { onRelayRequest := some fun _ => .ok () }
        ⟨blockTypeRelayRequest, [1, 2, 3]⟩ = some ([1, 2, 3], none) ∧
      handleSigned rawDecoders { onRelayRequest := some fun _ => .ok () }
        ⟨blockTypeRelayRequest, [1, 2, 3]⟩ =
          (.ok (), some ⟨blockTypeRelayRequest, [1, 2, 3]⟩) := by
  refine ⟨by decide, rfl, rfl⟩

end GoNoise.SSU2
