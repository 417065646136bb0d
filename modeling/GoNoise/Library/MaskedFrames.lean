import GoNoise.Library.Bytes
import Mathlib.Data.List.Basic
import Mathlib.Logic.Function.Iterate

/-!
# Frames with masked lengths

A frame is a body behind its length in two bytes. The length is masked with the next value of a
chain that both ends of the stream advance once a frame.
-/

namespace GoNoise.MaskedFrames

open BigEndian

def frame (mask : UInt16) (body : Bytes) : Bytes :=
  putUint16 (UInt16.ofNat body.length ^^^ mask) ++ body

theorem length_frame (mask : UInt16) (body : Bytes) :
    (frame mask body).length = 2 + body.length := by
  rw [frame, List.length_append, length_putUint16]

/-- What the reader takes for a frame is one: the length in front, and as many bytes. -/
theorem append_eq_frame {mask : UInt16} {header body : Bytes} (hheader : header.length = 2)
    (hbody : body.length = (uint16 header ^^^ mask).toNat) : header ++ body = frame mask body := by
  rw [frame, hbody, UInt16.ofNat_toNat, UInt16.xor_assoc, UInt16.xor_self, UInt16.xor_zero,
    putUint16_uint16 hheader]

section
variable {κ : Type} (next : κ → UInt16 × κ) (c : κ) (n : ℕ)

/-- A sequence of frames. -/
def wire : κ → List Bytes → Bytes
  | _, [] => []
  | c, body :: bodies => frame (next c).1 body ++ wire (next c).2 bodies

/-- The chain after `n` frames. -/
def advance (c : κ) (n : ℕ) : κ := (fun c => (next c).2)^[n] c

theorem advance_succ : advance next c (n + 1) = advance next (next c).2 n := rfl

theorem advance_succ' : advance next c (n + 1) = (next (advance next c n)).2 :=
  Function.iterate_succ_apply' _ _ _

/-- The sequence goes on where its first part left the chain. -/
theorem wire_append (bodies bodies' : List Bytes) :
    wire next c (bodies ++ bodies') =
      wire next c bodies ++ wire next (advance next c bodies.length) bodies' := by
  induction bodies generalizing c with
  | nil => rfl
  | cons body bodies ih =>
    rw [List.cons_append, wire, wire, ih, List.append_assoc, List.length_cons, advance_succ]

theorem wire_concat (bodies : List Bytes) (body : Bytes) :
    wire next c (bodies ++ [body]) =
      wire next c bodies ++ frame (next (advance next c bodies.length)).1 body := by
  rw [wire_append, wire, wire, List.append_nil]

end
end GoNoise.MaskedFrames
