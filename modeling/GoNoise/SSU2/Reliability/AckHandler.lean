import GoNoise.Library.Assoc
import GoNoise.SSU2.Wire.Block

/-!
# `ssu2/reliability/ack_handler.go`: acknowledgements

The handler collects the packet numbers received since the last ACK block, writes them into an ACK
block and reads the ACK blocks of the peer.

ACK block data: the highest acknowledged number (4 bytes), `acnt` = the length of its run minus one
(1 byte), then pairs (gap minus one, run minus one).

Two loops of the source run over indices of a sorted slice; here they run over the list itself, with
`prevPN` the entry just before it. Everything else is the source's code, branch by branch,
including the branches that cannot be reached.
-/

namespace GoNoise.SSU2

open BigEndian

def maxNACKRangesPerACK : ℕ := 200

def minACKInterval : Duration := 5 * millisecond

structure PendingACK where
  packetNumber : UInt32
  sentTime : Time
  retries : ℕ
  deriving DecidableEq

/-- `ACKHandler`. The constructor and the two setters keep `ackThreshold ≥ 1` and
`maxACKDataSize ≥ 5`, so both are fields. -/
structure ACKHandler where
  receivedPackets : List UInt32
  pendingACKs : GoMap UInt32 PendingACK
  lastACKTime : Time
  ackDelay : Duration
  ackThreshold : ℕ
  maxACKDataSize : ℕ
  ackThreshold_pos : 1 ≤ ackThreshold
  maxACKDataSize_ge : 5 ≤ maxACKDataSize

namespace ACKHandler

def newACKHandler : ACKHandler where
  receivedPackets := []
  pendingACKs := ∅
  lastACKTime := 0
  ackDelay := 10 * millisecond
  ackThreshold := 10
  maxACKDataSize := 504
  ackThreshold_pos := by decide
  maxACKDataSize_ge := by decide

def recordReceived (h : ACKHandler) (packetNum : UInt32) : ACKHandler :=
  { h with receivedPackets := h.receivedPackets ++ [packetNum] }

/-- `ShouldSendACK` at time `now`; the computed delay is stored. -/
def shouldSendACK (h : ACKHandler) (rtt : Duration) (now : Time) : Bool × ACKHandler :=
  if h.receivedPackets.isEmpty then (false, h)
  else
    let delay := min (max (rtt.tdiv 6) (10 * millisecond)) (150 * millisecond)
    let timeSinceLastACK := now - h.lastACKTime
    let thresholdOrDelayMet :=
      decide (delay ≤ timeSinceLastACK) || decide (h.ackThreshold ≤ h.receivedPackets.length)
    (decide (minACKInterval ≤ timeSinceLastACK) && thresholdOrDelayMet,
      { h with ackDelay := delay })

end ACKHandler

/-! ## Sorting -/

/-- The inner loop of the insertion sort. The list is the sorted prefix read from its end, so that
the loop walks down it: entries smaller than `key` are shifted, and `key` is stored at the first one
that is not. -/
def insertKey (key : UInt32) : List UInt32 → List UInt32
  | [] => [key]
  | x :: rest => if x < key then x :: insertKey key rest else key :: x :: rest

def sortDesc (packets : List UInt32) : List UInt32 :=
  (packets.foldl (fun sorted key => insertKey key sorted) []).reverse

/-- The deduplication loop after `last` has been put out. -/
def dedupAfter (last : UInt32) : List UInt32 → List UInt32
  | [] => []
  | x :: rest => if x ≠ last then x :: dedupAfter x rest else dedupAfter last rest

def sortDescDedupPackets (packets : List UInt32) : List UInt32 :=
  match sortDesc packets with
  | [] => []
  | x :: rest => x :: dedupAfter x rest

/-! ## Building an ACK block -/

/-- How many entries at the head of the list continue the run of `prevPN`: the loop test
`sorted[j] == sorted[j-1]-1`. -/
def consecutiveBelow (prevPN : UInt32) : List UInt32 → ℕ
  | [] => 0
  | x :: rest => if x = prevPN - 1 then consecutiveBelow x rest + 1 else 0

def countConsecutiveFromTop : List UInt32 → ℕ
  | [] => 1
  | x :: rest => 1 + consecutiveBelow x rest

/-- The loop of `buildACKRanges`, with `prevPN = sorted[i-1]`, the list `sorted[i:]` and the bytes
written so far. Every round takes at least one entry, so the number of entries bounds the number of
rounds. -/
def buildACKRangesLoop (maxBytes : ℕ) : ℕ → UInt32 → List UInt32 → Bytes → Bytes
  | 0, _, _, rangeBytes => rangeBytes
  | _ + 1, _, [], rangeBytes => rangeBytes
  | fuel + 1, prevPN, nextPN :: rest, rangeBytes =>
    if maxBytes < rangeBytes.length + 2 then rangeBytes
    else
      let nackCount := min (max (prevPN - nextPN - 1).toNat 1) 256
      let run := consecutiveBelow nextPN rest
      let ackRun := min (1 + run) 256
      buildACKRangesLoop maxBytes fuel ((nextPN :: rest).getD run 0) (rest.drop run)
        (rangeBytes ++ [UInt8.ofNat (nackCount - 1), UInt8.ofNat (ackRun - 1)])

/-- `buildACKRanges`: the loop starts at index `start`, after the run that ends in
`sorted[start-1]`. -/
def buildACKRanges (sorted : List UInt32) (start maxBytes : ℕ) : Bytes :=
  buildACKRangesLoop maxBytes sorted.length (sorted.getD (start - 1) 0) (sorted.drop start) []

theorem length_buildACKRangesLoop_le (maxBytes fuel : ℕ) (prevPN : UInt32) (sorted : List UInt32)
    {rangeBytes : Bytes} (h : rangeBytes.length ≤ maxBytes) :
    (buildACKRangesLoop maxBytes fuel prevPN sorted rangeBytes).length ≤ maxBytes := by
  induction fuel generalizing prevPN sorted rangeBytes with
  | zero => exact h
  | succ fuel ih =>
    cases sorted with
    | nil => exact h
    | cons nextPN rest =>
      rw [buildACKRangesLoop]
      split_ifs with hfull
      · exact h
      · refine ih _ _ ?_
        rw [List.length_append]
        exact Nat.not_lt.mp hfull

theorem length_buildACKRanges_le (sorted : List UInt32) (start maxBytes : ℕ) :
    (buildACKRanges sorted start maxBytes).length ≤ maxBytes :=
  length_buildACKRangesLoop_le maxBytes _ _ _ (by exact Nat.zero_le _)

namespace ACKHandler

/-- `GenerateACK` at time `now`; no block when nothing was received. The byte for `acnt` is
`uint8(acnt)`. -/
def generateACK (h : ACKHandler) (now : Time) : Option SSU2Block × ACKHandler :=
  if h.receivedPackets.isEmpty then (none, h)
  else
    let sorted := sortDescDedupPackets h.receivedPackets
    let throughPN := sorted.headD 0
    let acnt := countConsecutiveFromTop sorted - 1
    let rangeBytes := buildACKRanges sorted (acnt + 1) (h.maxACKDataSize - 5)
    let data := putUint32 throughPN ++ UInt8.ofNat acnt :: rangeBytes
    (some (newSSU2Block blockTypeACK data), { h with lastACKTime := now, receivedPackets := [] })

/-- The block is not larger than it may be, and the limit stays. -/
theorem generateACK_spec (h : ACKHandler) (now : Time) :
    (h.generateACK now).2.maxACKDataSize = h.maxACKDataSize ∧
      ∀ block, (h.generateACK now).1 = some block →
        block.type = blockTypeACK ∧ 5 ≤ block.data.length ∧
          block.data.length ≤ h.maxACKDataSize := by
  rw [generateACK]
  split_ifs
  · exact ⟨rfl, fun block hblock => by cases hblock⟩
  · refine ⟨rfl, fun block hblock => ?_⟩
    obtain rfl := Option.some.inj hblock
    have hge := h.maxACKDataSize_ge
    have hlen := length_buildACKRanges_le (sortDescDedupPackets h.receivedPackets)
      (countConsecutiveFromTop (sortDescDedupPackets h.receivedPackets) - 1 + 1)
      (h.maxACKDataSize - 5)
    simp only [newSSU2Block, List.length_append, List.length_cons, length_putUint32]
    exact ⟨trivial, by omega, by omega⟩

end ACKHandler

/-! ## Reading an ACK block -/

/-- What `ProcessACK` updates while it reads: the acknowledged numbers and the pending map. -/
structure AckScan where
  ackedPackets : List UInt32
  pendingACKs : GoMap UInt32 PendingACK

/-- `ackedPackets = append(ackedPackets, pn)` and `delete(h.pendingACKs, pn)`. -/
def AckScan.retire (s : AckScan) (pn : UInt32) : AckScan :=
  ⟨s.ackedPackets ++ [pn], s.pendingACKs.erase pn⟩

/-- The first run: `throughPN` down through `throughPN - acnt`. -/
def collectFirstRun (s : AckScan) (throughPN : UInt32) (acnt : ℕ) : AckScan :=
  (List.range (acnt + 1)).foldl (fun s i => s.retire (throughPN - UInt32.ofNat i)) s

/-- The inner loop over an ack run: the cursor after it. The check comes after the decrement, so a
run that ends at number `0` is an error too. -/
def collectAckRun : ℕ → ℤ → AckScan → Except Oops ℤ × AckScan
  | 0, cursor, s => (.ok cursor, s)
  | acks + 1, cursor, s =>
    let s := s.retire (UInt32.ofNat cursor.toNat)
    let cursor := cursor - 1
    if cursor < 0 then
      (.error (.errorf s!"ACK cursor underflow in ack loop: cursor={cursor}"), s)
    else collectAckRun acks cursor s

/-- The loop over the nack/ack pairs; an odd last byte is not read. -/
def collectRanges (rangeCount : ℕ) (cursor : ℤ) (s : AckScan) :
    Bytes → Except Oops Unit × AckScan
  | nackByte :: ackByte :: rest =>
    let rangeCount := rangeCount + 1
    if maxNACKRangesPerACK < rangeCount then
      (.error ⟨"ACK_TOO_MANY_RANGES", "ssu2.reliability", [],
        s!"ACK block contains too many NACK/ACK ranges: {rangeCount} (max {maxNACKRangesPerACK})"⟩,
        s)
    else
      let nacks : ℤ := nackByte.toNat + 1
      let acks : ℕ := ackByte.toNat + 1
      if cursor < nacks then
        (.error (.errorf s!"ACK nack range ({nacks}) exceeds cursor ({cursor})"), s)
      else
        let cursor := cursor - nacks
        if cursor < 0 then
          (.error (.errorf s!"ACK cursor underflow after nacks: cursor={cursor}"), s)
        else if cursor + 1 < acks then
          (.error (.errorf s!"ACK ack range ({acks}) exceeds remaining cursor ({cursor})"), s)
        else
          match collectAckRun acks cursor s with
          | (.error e, s) => (.error e, s)
          | (.ok cursor, s) => collectRanges rangeCount cursor s rest
  | _ => (.ok (), s)

namespace ACKHandler

/-- The end of `ProcessACK`: the pending map keeps the deletions made before an error, and the
numbers are returned only without one. -/
def finishACK (h : ACKHandler) (r : Except Oops Unit × AckScan) :
    Except Oops (List UInt32) × ACKHandler :=
  (r.1.map fun _ => r.2.ackedPackets, { h with pendingACKs := r.2.pendingACKs })

def processACK (h : ACKHandler) (ackBlock : SSU2Block) :
    Except Oops (List UInt32) × ACKHandler :=
  if ackBlock.type ≠ blockTypeACK then
    (.error (.errorf s!"expected ACK block type {blockTypeACK}, got {ackBlock.type}"), h)
  else
    let data := ackBlock.data
    if data.length < 5 then
      (.error (.errorf s!"ACK block too short: {data.length} bytes, minimum 5"), h)
    else
      let throughPN := uint32 (data.take 4)
      let acnt := (data.getD 4 0).toNat
      if throughPN < UInt32.ofNat acnt then
        (.error (.errorf s!"ACK acnt ({acnt}) exceeds throughPN ({throughPN})"), h)
      else
        let s := collectFirstRun ⟨[], h.pendingACKs⟩ throughPN acnt
        let base := throughPN - UInt32.ofNat acnt
        if base = 0 then h.finishACK (.ok (), s)
        else
          let cursor : ℤ := (base - 1).toNat
          h.finishACK (collectRanges 0 cursor s (data.drop 5))

end ACKHandler

theorem ACKHandler.maxACKDataSize_processACK (h : ACKHandler) (ackBlock : SSU2Block) :
    (h.processACK ackBlock).2.maxACKDataSize = h.maxACKDataSize := by
  rw [processACK]
  dsimp only
  split_ifs <;> rfl

/-! The numbers that a block acknowledges do not depend on what is pending. -/

variable {s s' : AckScan}

theorem collectFirstRun_congr (h : s.ackedPackets = s'.ackedPackets) (throughPN : UInt32)
    (acnt : ℕ) :
    (collectFirstRun s throughPN acnt).ackedPackets =
      (collectFirstRun s' throughPN acnt).ackedPackets := by
  rw [collectFirstRun, collectFirstRun]
  generalize List.range (acnt + 1) = l
  induction l generalizing s s' with
  | nil => exact h
  | cons i l ih => exact ih (congrArg (· ++ [throughPN - UInt32.ofNat i]) h)

theorem collectAckRun_congr (h : s.ackedPackets = s'.ackedPackets) (acks : ℕ) (cursor : ℤ) :
    (collectAckRun acks cursor s).1 = (collectAckRun acks cursor s').1 ∧
      (collectAckRun acks cursor s).2.ackedPackets =
        (collectAckRun acks cursor s').2.ackedPackets := by
  induction acks generalizing cursor s s' with
  | zero => exact ⟨rfl, h⟩
  | succ acks ih =>
    have hretire : (s.retire (UInt32.ofNat cursor.toNat)).ackedPackets =
        (s'.retire (UInt32.ofNat cursor.toNat)).ackedPackets := congrArg (· ++ [_]) h
    rw [collectAckRun, collectAckRun]
    split_ifs
    · exact ⟨rfl, hretire⟩
    · exact ih hretire (cursor - 1)

theorem collectRanges_congr (data : Bytes) (rangeCount : ℕ) (cursor : ℤ) {s s' : AckScan}
    (h : s.ackedPackets = s'.ackedPackets) :
    (collectRanges rangeCount cursor s data).1 = (collectRanges rangeCount cursor s' data).1 ∧
      (collectRanges rangeCount cursor s data).2.ackedPackets =
        (collectRanges rangeCount cursor s' data).2.ackedPackets := by
  match data with
  | [] => exact ⟨rfl, h⟩
  | [_] => exact ⟨rfl, h⟩
  | nackByte :: ackByte :: rest =>
    rw [collectRanges, collectRanges]
    dsimp only
    split_ifs
    · exact ⟨rfl, h⟩
    · exact ⟨rfl, h⟩
    · exact ⟨rfl, h⟩
    · exact ⟨rfl, h⟩
    · obtain ⟨hr, hs⟩ := collectAckRun_congr h (ackByte.toNat + 1)
        (cursor - ((nackByte.toNat : ℤ) + 1))
      generalize collectAckRun (ackByte.toNat + 1) (cursor - ((nackByte.toNat : ℤ) + 1)) s =
        result at hr hs ⊢
      generalize collectAckRun (ackByte.toNat + 1) (cursor - ((nackByte.toNat : ℤ) + 1)) s' =
        result' at hr hs ⊢
      obtain ⟨r, t⟩ := result
      obtain ⟨r', t'⟩ := result'
      obtain rfl : r = r' := hr
      cases r with
      | error e => exact ⟨rfl, hs⟩
      | ok cursor => exact collectRanges_congr rest (rangeCount + 1) cursor hs

namespace ACKHandler

theorem finishACK_fst (h h' : ACKHandler) {r r' : Except Oops Unit × AckScan} (hr : r.1 = r'.1)
    (hs : r.2.ackedPackets = r'.2.ackedPackets) : (h.finishACK r).1 = (h'.finishACK r').1 := by
  rw [finishACK, finishACK, hr, hs]

theorem processACK_fst (h h' : ACKHandler) (block : SSU2Block) :
    (h.processACK block).1 = (h'.processACK block).1 := by
  set throughPN := uint32 (block.data.take 4)
  set acnt := (block.data.getD 4 0).toNat
  have hfirst : (collectFirstRun ⟨[], h.pendingACKs⟩ throughPN acnt).ackedPackets =
      (collectFirstRun ⟨[], h'.pendingACKs⟩ throughPN acnt).ackedPackets :=
    collectFirstRun_congr (by rfl) throughPN acnt
  rw [processACK, processACK]
  split_ifs
  · rfl
  · dsimp only
    split_ifs
    · rfl
    · rfl
    · exact finishACK_fst h h' rfl hfirst
    · obtain ⟨hr, hs⟩ := collectRanges_congr (block.data.drop 5) 0 _ hfirst
      exact finishACK_fst h h' hr hs

def addPending (h : ACKHandler) (packetNum : UInt32) (now : Time) : ACKHandler :=
  { h with pendingACKs := h.pendingACKs.insert packetNum ⟨packetNum, now, 0⟩ }

/-- A sequence of `RecordReceived` calls. -/
def recordAll (h : ACKHandler) (packets : List UInt32) : ACKHandler :=
  packets.foldl recordReceived h

theorem recordAll_eq (h : ACKHandler) (packets : List UInt32) :
    h.recordAll packets = { h with receivedPackets := h.receivedPackets ++ packets } := by
  induction packets generalizing h with
  | nil => simp [recordAll]
  | cons p packets ih =>
    show (h.recordReceived p).recordAll packets = _
    rw [ih, recordReceived]
    simp only [List.append_assoc, List.singleton_append]

end ACKHandler

end GoNoise.SSU2
