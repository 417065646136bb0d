import GoNoise.Handshake.PaddingEngine

/-!
# `handshake/modifier.go`, `handshake/modifier_chain.go`, `handshake/siphash`: modifiers

A modifier transforms what a connection sends and receives and may keep a state. A chain applies
its modifiers in order to what is sent and in reverse order to what is received.
-/

namespace GoNoise.Handshake

open BigEndian

structure HandshakeModifier (μ : Type) where
  name : μ → String
  modifyOutbound : HandshakePhase → Bytes → μ → Except Oops Bytes × μ
  modifyInbound : HandshakePhase → Bytes → μ → Except Oops Bytes × μ

namespace ModifierChain

section
variable {μ : Type} (M : HandshakeModifier μ)

/-- `ModifyOutbound`, from the modifier with the index `i` on. -/
def outboundFrom (phase : HandshakePhase) : ℕ → List μ → Bytes → Except Oops Bytes × List μ
  | _, [], data => (.ok data, [])
  | i, m :: ms, data =>
    match M.modifyOutbound phase data m with
    | (.error e, m) => (.error ((e.wrapf "modifier chain outbound processing failed").wrap
        "MODIFIER_CHAIN_ERROR" "handshake" [("modifier_index", i)]), m :: ms)
    | (.ok data, m) =>
      let (result, ms) := outboundFrom phase (i + 1) ms data
      (result, m :: ms)

/-- `ModifyInbound`, down to the modifier with the index `i`. -/
def inboundFrom (phase : HandshakePhase) : ℕ → List μ → Bytes → Except Oops Bytes × List μ
  | _, [], data => (.ok data, [])
  | i, m :: ms, data =>
    match inboundFrom phase (i + 1) ms data with
    | (.error e, ms) => (.error e, m :: ms)
    | (.ok data, ms) =>
      match M.modifyInbound phase data m with
      | (.error e, m) => (.error ((e.wrapf "modifier chain inbound processing failed").wrap
          "MODIFIER_CHAIN_ERROR" "handshake" [("modifier_index", i)]), m :: ms)
      | (.ok data, m) => (.ok data, m :: ms)

def modifyOutbound (phase : HandshakePhase) (data : Bytes) (modifiers : List μ) :
    Except Oops Bytes × List μ :=
  outboundFrom M phase 0 modifiers data

def modifyInbound (phase : HandshakePhase) (data : Bytes) (modifiers : List μ) :
    Except Oops Bytes × List μ :=
  inboundFrom M phase 0 modifiers data

end
end ModifierChain

/-! ## `handshake/siphash` -/

/-- `[2]uint64` -/
abbrev SipKeys := UInt64 × UInt64

def lengthFieldSize : ℕ := 2

section
-- `siphash.Hash` of the crypto library
variable (sipHash : UInt64 → UInt64 → Bytes → UInt64)

def nextMask (keys : SipKeys) (iv : UInt64) : UInt16 × UInt64 :=
  let hash := sipHash keys.1 keys.2 (putUint64 iv).reverse
  (hash.toUInt16, hash)

end

structure LengthModifier where
  name : String
  outboundKeys : SipKeys
  inboundKeys : SipKeys
  outboundIV : UInt64
  inboundIV : UInt64
  deriving DecidableEq

def newLengthModifier (name : String) (sipKeys : SipKeys) (initialIV : UInt64) : LengthModifier :=
  ⟨name, sipKeys, sipKeys, initialIV, initialIV⟩

namespace LengthModifier

variable (sipHash : UInt64 → UInt64 → Bytes → UInt64)

def nextOutboundMask (slm : LengthModifier) : UInt16 × LengthModifier :=
  let (mask, iv) := nextMask sipHash slm.outboundKeys slm.outboundIV
  (mask, { slm with outboundIV := iv })

def nextInboundMask (slm : LengthModifier) : UInt16 × LengthModifier :=
  let (mask, iv) := nextMask sipHash slm.inboundKeys slm.inboundIV
  (mask, { slm with inboundIV := iv })

def applyMask (phase : HandshakePhase) (data : Bytes)
    (maskFunc : LengthModifier → UInt16 × LengthModifier) (slm : LengthModifier) :
    Except Oops Bytes × LengthModifier :=
  if phase < .data ∨ data.length ≠ lengthFieldSize then (.ok data, slm)
  else
    let (mask, slm) := maskFunc slm
    (.ok (putUint16 (uint16 data ^^^ mask)), slm)

def modifyOutbound (phase : HandshakePhase) (data : Bytes) (slm : LengthModifier) :
    Except Oops Bytes × LengthModifier :=
  slm.applyMask phase data (nextOutboundMask sipHash)

def modifyInbound (phase : HandshakePhase) (data : Bytes) (slm : LengthModifier) :
    Except Oops Bytes × LengthModifier :=
  slm.applyMask phase data (nextInboundMask sipHash)

end LengthModifier
end GoNoise.Handshake
