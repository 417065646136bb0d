import GoNoise.SSU2.Wire.BlockTypes
import GoNoise.SSU2.Wire.Packet

/-!
# Address blocks

With an Address block a peer says under which address it sees us. `EncodeAddressBlock` of
`wire/block_types.go` writes the port before the address; `handleAddressBlock` of
`session/conn_write.go` reads the address before the port.
-/

namespace GoNoise.SSU2

open BigEndian

/-! ## The code -/

def v4InV6Prefix : Bytes := List.replicate 10 0 ++ [0xff, 0xff]

def to4 (ip : Bytes) : Option Bytes :=
  if ip.length = 4 then some ip
  else if ip.length = 16 ∧ ip.take 12 = v4InV6Prefix then some (ip.drop 12)
  else none

/-- `IP.To16`; nil is empty. -/
def to16 (ip : Bytes) : Bytes :=
  if ip.length = 4 then v4InV6Prefix ++ ip else if ip.length = 16 then ip else []

def ipEqual (ip x : Bytes) : Bool :=
  if ip.length = x.length then ip = x
  else if ip.length = 4 ∧ x.length = 16 then x.take 12 = v4InV6Prefix ∧ ip = x.drop 12
  else if ip.length = 16 ∧ x.length = 4 then ip.take 12 = v4InV6Prefix ∧ ip.drop 12 = x
  else false

def encodeAddressBlock (ip : Bytes) (port : UInt16) : SSU2Block :=
  match to4 ip with
  | some ip4 => newSSU2Block blockTypeAddress (putUint16 port ++ ip4)
  | none =>
    -- `copy` into 16 bytes of zeros
    newSSU2Block blockTypeAddress
      (putUint16 port ++ (to16 ip ++ List.replicate (16 - (to16 ip).length) 0))

/-- What `handleAddressBlock` finds in a block, and whether it differs from the local address. -/
structure AddressReport where
  ip : Bytes
  port : UInt16
  possibleNAT : Bool
  deriving DecidableEq

/-- `handleAddressBlock`; there is no local address if it is not a UDP address. -/
def handleAddressBlock (localAddr : Option UDPAddr) (data : Bytes) : Except Oops AddressReport :=
  if data.length ≠ 6 ∧ data.length ≠ 18 then
    .error (.errorf s!"Address block invalid length: {data.length} (expected 6 or 18)")
  else
    let portOffset := data.length - 2
    let ip := data.take portOffset
    let port := uint16 (data.drop portOffset)
    .ok ⟨ip, port, localAddr.any fun udp => !ipEqual udp.ip ip || udp.port != port.toNat⟩

/-! ## What is read -/

/-- The bytes that are written for an address. -/
def wireIP (ip : Bytes) : Bytes := (to4 ip).getD ip

variable {ip : Bytes}

section
variable (hip : ip.length = 4 ∨ ip.length = 16)
include hip

theorem data_encodeAddressBlock
    (port : UInt16) : (encodeAddressBlock ip port).data = putUint16 port ++ wireIP ip := by
  unfold encodeAddressBlock wireIP
  cases h4 : to4 ip with
  | some ip4 => rfl
  | none =>
    have hlen : ip.length = 16 := by
      unfold to4 at h4
      grind
    simp [newSSU2Block, to16, hlen]

/-- Against the address itself, the bytes of its size are equal only if they are its own. -/
theorem ipEqual_iff {x : Bytes}
    (hx : x.length = (wireIP ip).length) : ipEqual x ip = true ↔ x = wireIP ip := by
  unfold wireIP to4 at *
  unfold ipEqual
  grind

end

theorem take_append_eq_iff {p l : Bytes} {n : ℕ} (hl : l.length = n * p.length) :
    (p ++ l).take l.length = l ↔ l = (List.replicate n p).flatten := by
  induction n generalizing l with
  | zero => simp [List.eq_nil_of_length_eq_zero (by simpa using hl)]
  | succ n ih =>
    obtain ⟨u, b, rfl, hu⟩ : ∃ u b, l = u ++ b ∧ u.length = p.length :=
      ⟨l.take p.length, l.drop p.length, by simp, by
        rw [List.length_take, hl, Nat.succ_mul]
        omega⟩
    have hb : b.length = n * p.length := by
      rw [List.length_append, Nat.succ_mul] at hl
      omega
    have htake : (p ++ (u ++ b)).take (u ++ b).length = p ++ (u ++ b).take b.length := by
      rw [List.length_append, hu, List.take_length_add_append]
    rw [htake, List.replicate_succ, List.flatten_cons]
    constructor
    · intro h
      obtain ⟨rfl, hrest⟩ := List.append_inj h hu.symm
      rw [← (ih hb).mp hrest]
    · intro h
      obtain ⟨rfl, hrest⟩ := List.append_inj h hu
      rw [(ih hb).mpr hrest]

/-- **An address block is read back** exactly if the bytes of the address are the two bytes of the
port over and over. -/
theorem address_read_back_iff (localAddr : Option UDPAddr) {ip : Bytes}
    (hip : ip.length = 4 ∨ ip.length = 16) (port : UInt16) :
    (∃ report, handleAddressBlock localAddr (encodeAddressBlock ip port).data = .ok report ∧
        ipEqual report.ip ip = true ∧ report.port = port) ↔
      wireIP ip = (List.replicate ((wireIP ip).length / 2) (putUint16 port)).flatten := by
  have hlen : (wireIP ip).length = 4 ∨ (wireIP ip).length = 16 := by grind [wireIP, to4]
  have heven : (wireIP ip).length = (wireIP ip).length / 2 * (putUint16 port).length := by
    rw [length_putUint16]
    omega
  have hoffset : (putUint16 port ++ wireIP ip).length - 2 = (wireIP ip).length := by
    simp
  have hok : ¬ ((putUint16 port ++ wireIP ip).length ≠ 6 ∧ (putUint16 port ++ wireIP ip).length ≠
    18) := by
    omega
  rw [data_encodeAddressBlock hip, handleAddressBlock, if_neg hok, hoffset]
  constructor
  · rintro ⟨report, ⟨⟩, heq, -⟩
    rw [ipEqual_iff hip (by simp)] at heq
    exact (take_append_eq_iff heven).mp heq
  · intro h
    refine ⟨_, rfl, (ipEqual_iff hip (by simp)).mpr ((take_append_eq_iff heven).mpr h), ?_⟩
    -- the port in front may as well stand behind
    have hswap : putUint16 port ++ wireIP ip = wireIP ip ++ putUint16 port := by
      rw [h, ← List.flatten_cons, ← List.replicate_succ, List.replicate_succ', List.flatten_append]
      simp
    rw [hswap, List.drop_left, uint16_putUint16]

/-- The address 0.80.0.80 with port 80. -/
theorem address_read_back_iff_eighty :
    ∃ report, handleAddressBlock none (encodeAddressBlock [0, 80, 0, 80] 80).data = .ok report ∧
      ipEqual report.ip [0, 80, 0, 80] = true ∧ report.port = 80 :=
  (address_read_back_iff none (by decide) 80).mpr (by decide)

/-- 192.0.2.1 with port 9000 is read as 35.40.192.0 with port 513. -/
theorem address_read_wrong :
    handleAddressBlock (some ⟨[192, 0, 2, 1], 9000⟩) (encodeAddressBlock [192, 0, 2, 1] 9000).data =
      .ok ⟨[35, 40, 192, 0], 513, true⟩ := by
  decide

end GoNoise.SSU2
