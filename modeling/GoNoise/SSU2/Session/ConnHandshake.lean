import GoNoise.SSU2.Handshake.SessionRequest
import GoNoise.SSU2.Wire.BlockTypes

/-!
# `ssu2/session/conn_handshake.go`: the answer to a Retry
-/

namespace GoNoise.SSU2

def extractRetryToken (retry : SSU2Packet) : Except Oops Bytes :=
  match deserializeBlocks retry.payload with
  | .error e => .error (e.wrapf "failed to parse Retry payload")
  | .ok blocks =>
    match findBlockByType blocks blockTypeNewToken with
    | none => .error (.errorf "Retry message missing NewToken block")
    | some tokenBlock =>
      match parseNewTokenBlock tokenBlock with
      | .error e => .error (e.wrapf "failed to parse NewToken block from Retry")
      | .ok parsed => .ok parsed.token

/-- `handleRetryResponse`, up to the session request that it sends. -/
def handleRetryResponse {σ : Type} (noise : Noise σ) (now : Time) (random : Bytes)
    (connectionID : UInt64) (response : SSU2Packet) (h : HandshakeHandler σ) :
    Except Oops SSU2Packet × HandshakeHandler σ :=
  let retryDestID := BigEndian.uint64 (response.header.take 8)
  if response.header.length ≥ 8 ∧ retryDestID ≠ connectionID then
    (.error <| .errorf <|
      s!"Retry dest connection ID {retryDestID} does not match our source ID " ++
      s!"{connectionID} (possible injection)", h)
  else
    match extractRetryToken response with
    | .error e => (.error (e.wrapf "failed to extract Retry token"), h)
    | .ok token =>
      match h.createSessionRequestWithToken noise now random connectionID 0 token with
      | (.error e, h) =>
        (.error (e.wrapf "failed to create SessionRequest with Retry token"), h)
      | (.ok sessionRequest, h) => (.ok sessionRequest, h)

theorem token_of_handleRetryResponse {σ : Type} {noise : Noise σ} {now : Time} {random : Bytes}
    {connectionID : UInt64} {response request : SSU2Packet} {h h' : HandshakeHandler σ}
    (hrequest : handleRetryResponse noise now random connectionID response h = (.ok request, h')) :
    extractRetryToken response = .ok (request.header.drop 24) ∧
      (request.header.drop 24).length = tokenSize := by
  unfold handleRetryResponse at hrequest
  dsimp only at hrequest
  split_ifs at hrequest
  · cases hrequest
  cases htoken : extractRetryToken response with
  | error e =>
    rw [htoken] at hrequest
    cases hrequest
  | ok token =>
    rw [htoken] at hrequest
    dsimp only at hrequest
    split at hrequest
    · cases hrequest
    · rename_i sessionRequest h'' hcreate
      cases hrequest
      obtain ⟨hlen, hheader⟩ := HandshakeHandler.token_of_createSessionRequestWithToken noise
        hcreate
      exact ⟨by rw [hheader], by rw [hheader, hlen]⟩

end GoNoise.SSU2
