import GoNoise.SSU2.Wire.Block

/-!
# `ssu2/wire/block_types.go`: NewToken blocks

A NewToken block carries a retry token and the second in which it expires.
-/

namespace GoNoise.SSU2

open BigEndian

def minNewTokenSize : ℕ := 12

structure NewTokenBlock where
  /-- in seconds -/
  expiration : UInt32
  token : Bytes
  deriving DecidableEq

def newNewTokenBlock (expiration : Time) (token : Bytes) : Except Oops SSU2Block :=
  if token.length ≠ tokenSize then
    .error <| .errorf <|
      s!"token must be exactly {tokenSize} bytes per SSU2 spec, got {token.length}"
  else
    .ok <| newSSU2Block blockTypeNewToken (putUint32 (UInt32.ofInt (unix expiration)) ++ token)

def parseNewTokenBlock (block : SSU2Block) : Except Oops NewTokenBlock :=
  if block.type ≠ blockTypeNewToken then
    .error <| .errorf <|
      s!"expected NewToken block (type {blockTypeNewToken}), got type {block.type}"
  else if block.data.length < minNewTokenSize then
    .error <| .errorf <| s!"NewToken block data too short: {block.data.length} bytes " ++
      s!"(minimum {minNewTokenSize})"
  else .ok ⟨uint32 (block.data.take 4), block.data.drop 4⟩

def findBlockByType (blocks : List SSU2Block) (blockType : UInt8) : Option SSU2Block :=
  blocks.find? fun block => block.type = blockType

variable {block : SSU2Block} {expiration : Time} {token : Bytes}

theorem newNewTokenBlock_eq_ok_iff :
    newNewTokenBlock expiration token = .ok block ↔ token.length = tokenSize ∧
      block = ⟨blockTypeNewToken, putUint32 (UInt32.ofInt (unix expiration)) ++ token⟩ := by
  rw [newNewTokenBlock]
  split_ifs with hlen
  · exact iff_of_false (fun h => by cases h) fun h => hlen h.1
  · rw [Except.ok.injEq, newSSU2Block, eq_comm]
    exact ⟨fun h => ⟨not_not.mp hlen, h⟩, And.right⟩

/-- A token is read back with the second of its expiration. -/
theorem parseNewTokenBlock_newNewTokenBlock (h : newNewTokenBlock expiration token = .ok block) :
    parseNewTokenBlock block = .ok ⟨UInt32.ofInt (unix expiration), token⟩ := by
  obtain ⟨hlen, rfl⟩ := newNewTokenBlock_eq_ok_iff.mp h
  rw [parseNewTokenBlock, if_neg (not_not.mpr rfl), if_neg, take_putUint32_append,
    drop_putUint32_append, uint32_putUint32]
  rw [List.length_append, length_putUint32, hlen]
  decide

theorem valid_of_newNewTokenBlock
    (h : newNewTokenBlock expiration token = .ok block) : block.Valid := by
  obtain ⟨hlen, rfl⟩ := newNewTokenBlock_eq_ok_iff.mp h
  have hsize : (putUint32 (UInt32.ofInt (unix expiration)) ++ token).length = 12 := by
    rw [List.length_append, length_putUint32, hlen]
    rfl
  refine ⟨?_, fun minSize hmin => ?_⟩
  · rw [hsize]
    decide
  · obtain rfl : minSize = 12 := (Option.some.inj hmin).symm
    exact hsize.ge

end GoNoise.SSU2
