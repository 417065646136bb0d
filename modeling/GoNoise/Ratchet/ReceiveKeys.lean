import GoNoise.Library.Missing
import GoNoise.Ratchet.SendChain

/-!
# `ratchet/recv_window.go` and `decryptExistingSession`: the window of message keys

A session derives the keys of the next 128 message counters ahead and takes a key out when it has
opened a message. The window starts at the first counter whose key was not used.
-/

namespace GoNoise.Ratchet

open Missing

def recvWindowSize : UInt32 := 128

variable {δ σ τ : Type}

namespace Session

/-! ## The code -/

section
variable (P : Primitives δ σ τ)

/-- The loop of `fillRecvKeyCache`, that many turns. -/
def fillLoop : ℕ → σ → Session δ σ τ → Except Oops Unit × Session δ σ τ
  | 0, _, s => (.ok (), s)
  | turns + 1, r, s =>
    match P.deriveMessageKeyAndAdvance s.recvFillMark r with
    | (.error e, r) =>
      (.error (e.wrapf s!"failed to pre-derive recv key for counter {s.recvFillMark}"),
        { s with recvSymmetricRatchet := some r })
    | (.ok key, r) =>
      fillLoop turns r { s with
        recvSymmetricRatchet := some r
        recvKeyCache := s.recvKeyCache.insert s.recvFillMark key
        recvFillMark := s.recvFillMark + 1 }

def fillRecvKeyCache (upTo : UInt32) (s : Session δ σ τ) : Except Oops Unit × Session δ σ τ :=
  match s.recvSymmetricRatchet with
  | none =>
    (.error (.errorf ("RecvSymmetricRatchet is nil: session ratchet state is uninitialised; " ++
      "cannot derive recv keys without a valid recv ratchet")), s)
  | some r => fillLoop P (upTo.toNat - s.recvFillMark.toNat) r s

/-- Decryption with the cached key of a counter. -/
def openAt (ciphertext : Bytes) (tag : FixedBytes 16) (sessionTag : Tag) (s : Session δ σ τ)
    (counter : UInt32) : Option (Bytes × UInt32) :=
  match s.recvKeyCache.lookup counter with
  | none => none
  | some messageKey =>
    match decryptWithSessionTag P messageKey ciphertext tag sessionTag counter with
    | .error _ => none
    | .ok plaintext => some (plaintext, counter)

def tryCounterHintDecrypt (counterHint : Option UInt32) (ciphertext : Bytes) (tag : FixedBytes 16)
    (sessionTag : Tag) (windowEnd : UInt32) (s : Session δ σ τ) : Option (Bytes × UInt32) :=
  match counterHint with
  | none => none
  | some c =>
    if c < s.recvWindowBase ∨ windowEnd ≤ c then none
    else s.openAt P ciphertext tag sessionTag c

/-- The loop of `scanWindowDecrypt` from a counter on, that many turns. -/
def scanFrom (ciphertext : Bytes) (tag : FixedBytes 16) (sessionTag : Tag) (s : Session δ σ τ) :
    ℕ → UInt32 → Option (Bytes × UInt32)
  | 0, _ => none
  | turns + 1, counter =>
    match s.openAt P ciphertext tag sessionTag counter with
    | some found => some found
    | none => scanFrom ciphertext tag sessionTag s turns (counter + 1)

def scanWindowDecrypt (ciphertext : Bytes) (tag : FixedBytes 16) (sessionTag : Tag)
    (windowEnd : UInt32) (s : Session δ σ τ) : Option (Bytes × UInt32) :=
  s.scanFrom P ciphertext tag sessionTag (windowEnd.toNat - s.recvWindowBase.toNat)
    s.recvWindowBase

/-- The loop that moves the base over used counters, that many turns. -/
def advanceBase (cache : GoMap UInt32 Key) : ℕ → UInt32 → UInt32
  | 0, base => base
  | turns + 1, base => if base ∈ cache then base else advanceBase cache turns (base + 1)

/-- The end of the window, capped where the addition overflows. -/
def windowEnd (s : Session δ σ τ) : UInt32 :=
  let windowEnd := s.recvWindowBase + recvWindowSize
  if windowEnd < s.recvWindowBase then s.recvFillMark + recvWindowSize else windowEnd

/-- The used key leaves the cache and the base moves on. -/
def consumeKey (usedCounter : UInt32) (s : Session δ σ τ) : Session δ σ τ :=
  let cache := s.recvKeyCache.erase usedCounter
  { s with
    recvKeyCache := cache
    recvWindowBase := advanceBase cache (s.recvFillMark.toNat - s.recvWindowBase.toNat)
      s.recvWindowBase }

def decryptExistingSession (now : Time) (msg : Bytes) (sessionTag : Tag)
    (counterHint : Option UInt32) (s : Session δ σ τ) :
    Except Oops (Bytes × Tag) × Session δ σ τ :=
  match parseExistingSessionMessage msg with
  | .error e => (.error e, s)
  | .ok (ciphertext, tag) =>
    let windowEnd := s.windowEnd
    match s.fillRecvKeyCache P windowEnd with
    | (.error e, s) => (.error e, s)
    | (.ok (), s) =>
      match (s.tryCounterHintDecrypt P counterHint ciphertext tag sessionTag windowEnd).or
        (s.scanWindowDecrypt P ciphertext tag sessionTag windowEnd) with
      | none =>
        (.error (.errorf ("decrypt failed: message does not match any counter in recv window " ++
          s!"[{s.recvWindowBase}, {windowEnd})")), s)
      | some (plaintext, usedCounter) =>
        let s := s.consumeKey usedCounter
        let s := if ¬s.isInitiator ∧ s.awaitingFirstES then { s with awaitingFirstES := false } else
          s
        (.ok (plaintext, sessionTag), { s with lastUsed := now })

end

def trimRecvWindowByPN (pn : UInt16) (s : Session δ σ τ) : Session δ σ τ :=
  let stale := s.recvKeyCache.keys.filter fun counter =>
    pn.toUInt32 < counter ∧ counter < s.recvWindowBase
  { s with recvKeyCache := stale.foldl (fun cache counter => cache.erase counter) s.recvKeyCache }

def resetRecvWindow (s : Session δ σ τ) : Session δ σ τ :=
  { s with
    recvWindowBase := 1
    recvFillMark := 1
    nextRecvTagCounter := 1
    recvKeyCache := ∅ }

/-! ## The window of a chain -/

section
variable {P : Primitives δ σ τ} {c : SendChain P} {s s' : Session δ σ τ} {received : Finset ℕ}
  {counterHint : Option UInt32} {msg : Bytes} {now : Time} {sessionTag : Tag}

/-- The window of a session that has received these messages of a chain: the base is the least
number that is missing, and the cache holds the other keys up to the fill mark. -/
structure KeyWindow (c : SendChain P) (s : Session δ σ τ) (received : Finset ℕ) : Prop where
  ratchet : s.recvSymmetricRatchet = some (c.sym s.recvFillMark.toNat)
  base : s.recvWindowBase.toNat = missing (insert 0 received)
  base_le : s.recvWindowBase.toNat ≤ s.recvFillMark.toNat
  fill_le : s.recvFillMark.toNat ≤ s.recvWindowBase.toNat + recvWindowSize.toNat
  lt_fill : ∀ n ∈ received, n < s.recvFillMark.toNat
  lt_max : ∀ n ∈ received, n < maxMessageNumber.toNat
  cached : ∀ k, s.recvKeyCache.lookup k =
    if s.recvWindowBase ≤ k ∧ k < s.recvFillMark ∧ k.toNat ∉ received then some (c.key k.toNat)
    else none

theorem keyWindow_empty (hratchet : s.recvSymmetricRatchet = some (c.sym 1))
    (hbase : s.recvWindowBase = 1) (hfill : s.recvFillMark = 1) (hcache : s.recvKeyCache = ∅) :
    s.KeyWindow c ∅ where
  ratchet := by rw [hratchet, hfill]; rfl
  base := by
    rw [hbase]
    refine (missing_eq (by decide) fun m hm => ?_).symm
    obtain rfl : m = 0 := by simpa using hm
    exact Finset.mem_insert_self 0 _
  base_le := by rw [hbase, hfill]
  fill_le := by rw [hbase, hfill]; decide
  lt_fill n hn := absurd hn (Finset.notMem_empty n)
  lt_max n hn := absurd hn (Finset.notMem_empty n)
  cached k := by grind [AList.lookup_empty]

namespace KeyWindow

theorem base_pos (h : s.KeyWindow c received) : 0 < s.recvWindowBase.toNat := by
  rw [h.base]
  exact missing_insert_zero_pos received

theorem base_le_max (h : s.KeyWindow c received) :
    s.recvWindowBase.toNat ≤ maxMessageNumber.toNat := by
  have hpos := h.base_pos
  have hmem : s.recvWindowBase.toNat - 1 ∈ insert 0 received :=
    mem_of_lt_missing (by rw [← h.base]; omega)
  rcases Finset.mem_insert.mp hmem with h0 | hmem
  · have : maxMessageNumber.toNat = 65535 := rfl
    omega
  · have := h.lt_max _ hmem
    omega

theorem toNat_windowEnd (h : s.KeyWindow c received) :
    s.windowEnd.toNat = s.recvWindowBase.toNat + recvWindowSize.toNat := by
  have hle := h.base_le_max
  have hmax : maxMessageNumber.toNat = 65535 := rfl
  have hsize : recvWindowSize.toNat = 128 := rfl
  have hadd : (s.recvWindowBase + recvWindowSize).toNat =
      s.recvWindowBase.toNat + recvWindowSize.toNat := by
    rw [UInt32.toNat_add, Nat.mod_eq_of_lt (by omega)]
  have hno : ¬ s.recvWindowBase + recvWindowSize < s.recvWindowBase := by
    rw [UInt32.lt_iff_toNat_lt, hadd]
    omega
  unfold windowEnd
  rw [if_neg hno, hadd]

variable {k : UInt32}

theorem mem_cache (h : s.KeyWindow c received) :
    k ∈ s.recvKeyCache ↔
      s.recvWindowBase ≤ k ∧ k < s.recvFillMark ∧ k.toNat ∉ received := by
  rw [← AList.lookup_isSome, h.cached]
  split_ifs with hk <;> simp [hk]

theorem lookup_of_mem (h : s.KeyWindow c received) (hk : k ∈ s.recvKeyCache) :
    s.recvKeyCache.lookup k = some (c.key k.toNat) := by
  rw [h.cached, if_pos (h.mem_cache.mp hk)]

end KeyWindow

/-! ### Filling -/

theorem fillLoop_of_chain (turns : ℕ) (hpos : 0 < s.recvFillMark.toNat)
    (hratchet : s.recvSymmetricRatchet = some (c.sym s.recvFillMark.toNat))
    (hlt : s.recvFillMark.toNat + turns < 2 ^ 32) :
    ∃ cache : GoMap UInt32 Key,
      s.fillLoop P turns (c.sym s.recvFillMark.toNat) =
        (.ok (), { s with
          recvSymmetricRatchet := some (c.sym (s.recvFillMark.toNat + turns))
          recvKeyCache := cache
          recvFillMark := UInt32.ofNat (s.recvFillMark.toNat + turns) }) ∧
      ∀ k, cache.lookup k =
        if s.recvFillMark.toNat ≤ k.toNat ∧ k.toNat < s.recvFillMark.toNat + turns then
          some (c.key k.toNat)
        else s.recvKeyCache.lookup k := by
  induction turns generalizing s with
  | zero =>
    refine ⟨s.recvKeyCache, ?_, fun k => (if_neg (by omega)).symm⟩
    rw [fillLoop, Nat.add_zero, UInt32.ofNat_toNat, ← hratchet]
  | succ turns ih =>
    have hderive := c.derive _ hpos
    rw [UInt32.ofNat_toNat] at hderive
    have hnext : (s.recvFillMark + 1).toNat = s.recvFillMark.toNat + 1 := by
      rw [UInt32.toNat_add, UInt32.toNat_one, Nat.mod_eq_of_lt (by omega)]
    obtain ⟨cache, hloop, hcache⟩ := ih (s := { s with
        recvSymmetricRatchet := some (c.sym (s.recvFillMark.toNat + 1))
        recvKeyCache := s.recvKeyCache.insert s.recvFillMark (c.key s.recvFillMark.toNat)
        recvFillMark := s.recvFillMark + 1 }) (by simp only [hnext]; omega) (by simp only [hnext])
      (by simp only [hnext]; omega)
    simp only [hnext, Nat.add_right_comm _ 1 turns] at hloop hcache
    refine ⟨cache, ?_, fun k => ?_⟩
    · rw [fillLoop, hderive]
      exact hloop
    · rw [hcache]
      by_cases hk : k = s.recvFillMark
      · subst hk
        rw [if_neg (by omega), if_pos (by omega), AList.lookup_insert]
      · have hne : k.toNat ≠ s.recvFillMark.toNat := fun he => hk (UInt32.toNat_inj.mp he)
        rw [AList.lookup_insert_ne hk]
        by_cases hin : s.recvFillMark.toNat + 1 ≤ k.toNat ∧
            k.toNat < s.recvFillMark.toNat + turns + 1
        · rw [if_pos hin, if_pos (by omega)]
        · rw [if_neg hin, if_neg (by omega)]

theorem KeyWindow.fill (h : s.KeyWindow c received) :
    ∃ s', s.fillRecvKeyCache P s.windowEnd = (.ok (), s') ∧ s'.KeyWindow c received ∧
      s'.recvWindowBase = s.recvWindowBase ∧ s'.recvFillMark = s.windowEnd := by
  have hend := h.toNat_windowEnd
  have hle := h.base_le_max
  have hmax : maxMessageNumber.toNat = 65535 := rfl
  have hsize : recvWindowSize.toNat = 128 := rfl
  have hfill := h.fill_le
  have hbase := h.base_le
  have hpos := h.base_pos
  have hsum : s.recvFillMark.toNat + (s.windowEnd.toNat - s.recvFillMark.toNat) =
      s.windowEnd.toNat := by omega
  obtain ⟨cache, hloop, hcache⟩ := fillLoop_of_chain
    (s.windowEnd.toNat - s.recvFillMark.toNat) (by omega) h.ratchet (by omega)
  simp only [hsum, UInt32.ofNat_toNat] at hloop hcache
  refine ⟨{ s with
      recvSymmetricRatchet := some (c.sym s.windowEnd.toNat)
      recvKeyCache := cache
      recvFillMark := s.windowEnd }, ?_,
    ⟨rfl, h.base, ?_, ?_, fun n hn => ?_, h.lt_max, fun k => ?_⟩, rfl, rfl⟩
  · unfold fillRecvKeyCache
    rw [h.ratchet]
    exact hloop
  · show s.recvWindowBase.toNat ≤ s.windowEnd.toNat
    omega
  · show s.windowEnd.toNat ≤ s.recvWindowBase.toNat + recvWindowSize.toNat
    omega
  · have := h.lt_fill n hn
    show n < s.windowEnd.toNat
    omega
  · have hlt := h.lt_fill k.toNat
    rw [hcache, h.cached]
    simp only [UInt32.le_iff_toNat_le, UInt32.lt_iff_toNat_lt]
    by_cases hmem : k.toNat ∈ received
    · have := hlt hmem
      rw [if_neg (by omega), if_neg (fun hk => hk.2.2 hmem), if_neg (fun hk => hk.2.2 hmem)]
    · grind

/-! ### Opening -/

section
variable {ciphertext payload : Bytes} {tag : FixedBytes 16} {sessionTag : Tag} {n : ℕ} {k : UInt32}
  {e : UInt32} {found : Bytes × UInt32} {turns : ℕ}

theorem openAt_of_scanFrom (h : s.scanFrom P ciphertext tag sessionTag turns k = some found) :
    ∃ k', s.openAt P ciphertext tag sessionTag k' = some found := by
  induction turns generalizing k with
  | zero => cases h
  | succ turns ih => grind [scanFrom]

theorem scanFrom_ne_none {start : UInt32} (hle : start.toNat ≤ k.toNat)
    (hlt : k.toNat < start.toNat + turns)
    (hopen : s.openAt P ciphertext tag sessionTag k = some found) :
    s.scanFrom P ciphertext tag sessionTag turns start ≠ none := by
  induction turns generalizing start with
  | zero => omega
  | succ turns ih =>
    rw [scanFrom]
    split
    next => exact fun h => by cases h
    next hnone =>
      have hne : start.toNat ≠ k.toNat := by grind [UInt32.toNat_inj.mp]
      have hk := k.toNat_lt
      have hnext : (start + 1).toNat = start.toNat + 1 := by
        rw [UInt32.toNat_add, UInt32.toNat_one, Nat.mod_eq_of_lt (by omega)]
      exact ih (by omega) (by omega)

theorem KeyWindow.of_openAt (h : s.KeyWindow c received) (hc : c.Authentic) (hn : n < 2 ^ 32)
    (hsealed : encryptWithSessionKey P (c.key n) payload (c.tag n) (UInt32.ofNat n) =
      .ok (ciphertext, tag))
    (hopen : s.openAt P ciphertext tag (c.tag n) k = some found) :
    k = UInt32.ofNat n ∧ k ∈ s.recvKeyCache ∧ found = (payload, UInt32.ofNat n) := by
  unfold openAt at hopen
  by_cases hin : k ∈ s.recvKeyCache
  · rw [h.lookup_of_mem hin] at hopen
    dsimp only at hopen
    split at hopen
    · cases hopen
    next plaintext hplain =>
      have hkn : k.toNat = n := hc.only hsealed k.toNat_lt hn (by rwa [UInt32.ofNat_toNat])
      obtain rfl : k = UInt32.ofNat n := by rw [← hkn, UInt32.ofNat_toNat]
      rw [hkn, hc.opens hsealed] at hplain
      cases hplain
      exact ⟨rfl, hin, (Option.some.inj hopen).symm⟩
  · rw [AList.lookup_eq_none.mpr hin] at hopen
    cases hopen

theorem KeyWindow.openAt (h : s.KeyWindow c received) (hc : c.Authentic) (hn : n < 2 ^ 32)
    (hsealed : encryptWithSessionKey P (c.key n) payload (c.tag n) (UInt32.ofNat n) =
      .ok (ciphertext, tag)) (hin : UInt32.ofNat n ∈ s.recvKeyCache) :
    s.openAt P ciphertext tag (c.tag n) (UInt32.ofNat n) = some (payload, UInt32.ofNat n) := by
  unfold Session.openAt
  rw [h.lookup_of_mem hin, UInt32.toNat_ofNat_of_lt' hn]
  dsimp only
  rw [hc.opens hsealed]

/-- With hint or scan, a message of the chain is opened exactly if its key is cached. -/
theorem KeyWindow.opened (h : s.KeyWindow c received) (hc : c.Authentic) (hn : n < 2 ^ 32)
    (hsealed : encryptWithSessionKey P (c.key n) payload (c.tag n) (UInt32.ofNat n) =
      .ok (ciphertext, tag)) (hfull : s.recvFillMark = e) (counterHint : Option UInt32) :
    (s.tryCounterHintDecrypt P counterHint ciphertext tag (c.tag n) e).or
        (s.scanWindowDecrypt P ciphertext tag (c.tag n) e) =
      if UInt32.ofNat n ∈ s.recvKeyCache then some (payload, UInt32.ofNat n) else none := by
  have hhint : ∀ found, s.tryCounterHintDecrypt P counterHint ciphertext tag (c.tag n) e =
      some found → ∃ k, s.openAt P ciphertext tag (c.tag n) k = some found := by
    intro found hfound
    unfold tryCounterHintDecrypt at hfound
    split at hfound
    · cases hfound
    next k => grind
  have hsound : ∀ found, (s.tryCounterHintDecrypt P counterHint ciphertext tag (c.tag n) e).or
      (s.scanWindowDecrypt P ciphertext tag (c.tag n) e) = some found →
        UInt32.ofNat n ∈ s.recvKeyCache ∧ found = (payload, UInt32.ofNat n) := by
    intro found hfound
    obtain ⟨k, hopen⟩ : ∃ k, s.openAt P ciphertext tag (c.tag n) k = some found := by
      rcases Option.or_eq_some_iff.mp hfound with hfound | ⟨-, hfound⟩
      · exact hhint found hfound
      · exact openAt_of_scanFrom hfound
    obtain ⟨rfl, hin, hpayload⟩ := h.of_openAt hc hn hsealed hopen
    exact ⟨hin, hpayload⟩
  rcases hres : (s.tryCounterHintDecrypt P counterHint ciphertext tag (c.tag n) e).or
      (s.scanWindowDecrypt P ciphertext tag (c.tag n) e) with _ | found
  · -- the scan would have found a cached key
    rw [if_neg]
    intro hin
    obtain ⟨hle, hlt, -⟩ := h.mem_cache.mp hin
    rw [UInt32.le_iff_toNat_le] at hle
    rw [hfull, UInt32.lt_iff_toNat_lt] at hlt
    exact scanFrom_ne_none hle (by omega) (h.openAt hc hn hsealed hin)
      (Option.or_eq_none_iff.mp hres).2
  · obtain ⟨hin, rfl⟩ := hsound found hres
    rw [if_pos hin]

end

/-! ### Moving the base -/

theorem advanceBase_spec (cache : GoMap UInt32 Key) (turns : ℕ) (base : UInt32)
    (hlt : base.toNat + turns < 2 ^ 32) :
    base.toNat ≤ (advanceBase cache turns base).toNat ∧
      (advanceBase cache turns base).toNat ≤ base.toNat + turns ∧
      (∀ k : UInt32, base ≤ k → k < advanceBase cache turns base → k ∉ cache) ∧
      ((advanceBase cache turns base).toNat = base.toNat + turns ∨
        advanceBase cache turns base ∈ cache) := by
  induction turns generalizing base with
  | zero =>
    refine ⟨Nat.le_refl _, Nat.le_refl _, fun k hle hk => ?_, Or.inl rfl⟩
    exact absurd hle (UInt32.not_le.mpr hk)
  | succ turns ih =>
    rw [advanceBase]
    split_ifs with hmem
    · refine ⟨Nat.le_refl _, Nat.le_add_right _ _, fun k hle hk => ?_, Or.inr hmem⟩
      exact absurd hle (UInt32.not_le.mpr hk)
    · have hnext : (base + 1).toNat = base.toNat + 1 := by
        rw [UInt32.toNat_add, UInt32.toNat_one, Nat.mod_eq_of_lt (by omega)]
      obtain ⟨hle, hge, hskip, hstop⟩ := ih (base + 1) (by omega)
      refine ⟨by omega, by omega, fun k hk hlt => ?_, hstop.imp_left fun he => by omega⟩
      by_cases heq : k = base
      · rwa [heq]
      · refine hskip k (UInt32.le_iff_toNat_le.mpr ?_) hlt
        have hne : k.toNat ≠ base.toNat := fun he => heq (UInt32.toNat_inj.mp he)
        have := UInt32.le_iff_toNat_le.mp hk
        omega

section
variable {n : ℕ}

theorem KeyWindow.mem_erase (h : s.KeyWindow c received) (hn : n < 2 ^ 32) {k : UInt32} :
    k ∈ s.recvKeyCache.erase (UInt32.ofNat n) ↔
      s.recvWindowBase ≤ k ∧ k < s.recvFillMark ∧ k.toNat ∉ insert n received := by
  rw [AList.mem_erase, h.mem_cache, Ne, ← UInt32.toNat_inj, UInt32.toNat_ofNat_of_lt' hn,
    Finset.mem_insert, not_or, and_left_comm, and_left_comm (a := k < s.recvFillMark)]

theorem KeyWindow.missing_eq_of_stop (h : s.KeyWindow c received) (hn : n < s.recvFillMark.toNat)
    {b : UInt32} (hle : s.recvWindowBase ≤ b) (hend : b.toNat ≤ s.recvFillMark.toNat)
    (hskip : ∀ k : UInt32, s.recvWindowBase ≤ k → k < b →
      k ∉ s.recvKeyCache.erase (UInt32.ofNat n))
    (hstop : b.toNat = s.recvFillMark.toNat ∨ b ∈ s.recvKeyCache.erase (UInt32.ofNat n)) :
    missing (insert 0 (insert n received)) = b.toNat := by
  have hn32 : n < 2 ^ 32 := Nat.lt_trans hn s.recvFillMark.toNat_lt
  have hb := b.toNat_lt
  have hpos := h.base_pos
  rw [UInt32.le_iff_toNat_le] at hle
  refine missing_eq ?_ fun m hm => ?_
  · rw [Finset.mem_insert, not_or]
    refine ⟨by omega, ?_⟩
    rcases hstop with hstop | hstop
    · rw [hstop, Finset.mem_insert, not_or]
      exact ⟨by omega, fun hr => lt_irrefl _ (h.lt_fill _ hr)⟩
    · exact ((h.mem_erase hn32).mp hstop).2.2
  · by_cases hlow : m < s.recvWindowBase.toNat
    · rw [h.base] at hlow
      rcases Finset.mem_insert.mp (mem_of_lt_missing hlow) with h0 | hr
      · exact Finset.mem_insert.mpr (Or.inl h0)
      · exact Finset.mem_insert_of_mem (Finset.mem_insert_of_mem hr)
    · have hm' : (UInt32.ofNat m).toNat = m :=
        UInt32.toNat_ofNat_of_lt' (show m < 2 ^ 32 by omega)
      have hout := hskip (UInt32.ofNat m) (by rw [UInt32.le_iff_toNat_le]; omega)
        (by rw [UInt32.lt_iff_toNat_lt]; omega)
      rw [h.mem_erase hn32, UInt32.le_iff_toNat_le, UInt32.lt_iff_toNat_lt, hm'] at hout
      by_contra hnone
      rw [Finset.mem_insert, not_or] at hnone
      exact hout ⟨by omega, by omega, hnone.2⟩

theorem KeyWindow.consume (h : s.KeyWindow c received) (hn : n < maxMessageNumber.toNat)
    (hin : UInt32.ofNat n ∈ s.recvKeyCache) :
    (s.consumeKey (UInt32.ofNat n)).KeyWindow c (insert n received) := by
  have hn32 : n < 2 ^ 32 := Nat.lt_trans hn (by decide)
  have hbase := h.base_le
  have hmark := s.recvFillMark.toNat_lt
  have hfill := h.fill_le
  have hlt : n < s.recvFillMark.toNat := by
    have := UInt32.lt_iff_toNat_lt.mp (h.mem_cache.mp hin).2.1
    rwa [UInt32.toNat_ofNat_of_lt' hn32] at this
  obtain ⟨hge, hend, hskip, hstop⟩ := advanceBase_spec (s.recvKeyCache.erase (UInt32.ofNat n))
    (s.recvFillMark.toNat - s.recvWindowBase.toNat) s.recvWindowBase (by omega)
  rw [Nat.add_sub_cancel' hbase] at hend hstop
  rw [← UInt32.le_iff_toNat_le] at hge
  unfold consumeKey
  dsimp only
  generalize advanceBase (s.recvKeyCache.erase (UInt32.ofNat n))
    (s.recvFillMark.toNat - s.recvWindowBase.toNat) s.recvWindowBase = b at hge hend hskip hstop ⊢
  refine ⟨h.ratchet, (h.missing_eq_of_stop hlt hge hend hskip hstop).symm, hend, ?_, ?_, ?_,
    fun k => ?_⟩
  · grind [UInt32.le_iff_toNat_le]
  · exact Finset.forall_mem_insert _ _ _ |>.mpr ⟨hlt, h.lt_fill⟩
  · exact Finset.forall_mem_insert _ _ _ |>.mpr ⟨hn, h.lt_max⟩
  · -- between the old base and the new one nothing is cached
    have hmem : k ∈ s.recvKeyCache.erase (UInt32.ofNat n) ↔
        b ≤ k ∧ k < s.recvFillMark ∧ k.toNat ∉ insert n received := by
      rw [h.mem_erase hn32]
      constructor
      · rintro ⟨h₁, h₂, h₃⟩
        refine ⟨UInt32.not_lt.mp fun hlow => ?_, h₂, h₃⟩
        exact hskip k h₁ hlow ((h.mem_erase hn32).mpr ⟨h₁, h₂, h₃⟩)
      · rintro ⟨h₁, h₂, h₃⟩
        exact ⟨UInt32.le_trans hge h₁, h₂, h₃⟩
    split_ifs with hk
    · obtain ⟨hne, hold⟩ := AList.mem_erase.mp (hmem.mpr hk)
      rw [AList.lookup_erase_ne hne, h.lookup_of_mem hold]
    · exact AList.lookup_eq_none.mpr fun hin => hk (hmem.mp hin)

end

/-! ### One message -/

/-- The fields for the receiving keys agree. -/
structure SameKeys (s s' : Session δ σ τ) : Prop where
  recvSymmetricRatchet : s'.recvSymmetricRatchet = s.recvSymmetricRatchet
  recvWindowBase : s'.recvWindowBase = s.recvWindowBase
  recvFillMark : s'.recvFillMark = s.recvFillMark
  recvKeyCache : s'.recvKeyCache = s.recvKeyCache

/-- The fields that receive tags. -/
structure SameTags (s s' : Session δ σ τ) : Prop where
  recvTagRatchet : s'.recvTagRatchet = s.recvTagRatchet
  pendingTags : s'.pendingTags = s.pendingTags
  nextRecvTagCounter : s'.nextRecvTagCounter = s.nextRecvTagCounter

theorem SameTags.refl (s : Session δ σ τ) : SameTags s s := ⟨rfl, rfl, rfl⟩

theorem sameTags_fillLoop (P : Primitives δ σ τ) (turns : ℕ) (r : σ) (s : Session δ σ τ) :
    SameTags s (s.fillLoop P turns r).2 := by
  induction turns generalizing r s with
  | zero => exact .refl s
  | succ turns ih =>
    rw [fillLoop]
    split
    · exact ⟨rfl, rfl, rfl⟩
    next key r' hderive =>
      obtain ⟨h₁, h₂, h₃⟩ := ih r' { s with
        recvSymmetricRatchet := some r'
        recvKeyCache := s.recvKeyCache.insert s.recvFillMark key
        recvFillMark := s.recvFillMark + 1 }
      exact ⟨h₁, h₂, h₃⟩

theorem sameTags_fillRecvKeyCache (P : Primitives δ σ τ) (upTo : UInt32) (s : Session δ σ τ) :
    SameTags s (s.fillRecvKeyCache P upTo).2 := by
  unfold fillRecvKeyCache
  split
  · exact .refl s
  · exact sameTags_fillLoop P _ _ s

theorem sameTags_decryptExistingSession (P : Primitives δ σ τ) (now : Time) (msg : Bytes)
    (sessionTag : Tag) (counterHint : Option UInt32) (s : Session δ σ τ) :
    SameTags s (s.decryptExistingSession P now msg sessionTag counterHint).2 := by
  unfold decryptExistingSession
  split
  · exact .refl s
  · have hfill := sameTags_fillRecvKeyCache P s.windowEnd s
    dsimp only
    split
    next heq => rwa [heq] at hfill
    next heq =>
      rw [heq] at hfill
      split
      · exact hfill
      · obtain ⟨h₁, h₂, h₃⟩ := hfill
        split_ifs <;> exact ⟨h₁, h₂, h₃⟩

/-- The tag that decryption returns is the one that it was called with, and the session was used
just now. -/
theorem of_decryptExistingSession {plaintext : Bytes} {tag : Tag}
    (h : (s.decryptExistingSession P now msg sessionTag counterHint).1 = .ok (plaintext, tag)) :
    tag = sessionTag ∧
      (s.decryptExistingSession P now msg sessionTag counterHint).2.lastUsed = now := by
  revert h
  unfold decryptExistingSession
  split
  · rintro ⟨⟩
  · grind

/-- A message of the chain is opened exactly if its key is in the window, whatever the hint, and
the window goes on. -/
theorem KeyWindow.decrypt (h : s.KeyWindow c received) (hc : c.Authentic) {n : ℕ} {payload : Bytes}
    (he : c.Emits n payload msg) (now : Time) (counterHint : Option UInt32) :
    if s.recvWindowBase.toNat ≤ n ∧ n < s.recvWindowBase.toNat + recvWindowSize.toNat ∧
        n ∉ received then
      ∃ s', s.decryptExistingSession P now (msg.drop 8) (c.tag n) counterHint =
          (.ok (payload, c.tag n), s') ∧ s'.KeyWindow c (insert n received)
    else
      ∃ e s', s.decryptExistingSession P now (msg.drop 8) (c.tag n) counterHint = (.error e, s') ∧
        s'.KeyWindow c received := by
  obtain ⟨hn₀, hn, ciphertext, tag, hsealed, rfl⟩ := he
  have hmax : maxMessageNumber.toNat = 65535 := rfl
  have hn32 : n < 2 ^ 32 := by omega
  have hnat : (UInt32.ofNat n).toNat = n := UInt32.toNat_ofNat_of_lt' hn32
  obtain ⟨s₁, hfill, h₁, hbase, hmark⟩ := h.fill
  have hrange : UInt32.ofNat n ∈ s₁.recvKeyCache ↔ s.recvWindowBase.toNat ≤ n ∧
      n < s.recvWindowBase.toNat + recvWindowSize.toNat ∧ n ∉ received := by
    rw [h₁.mem_cache, hbase, hmark, UInt32.le_iff_toNat_le, UInt32.lt_iff_toNat_lt, hnat,
      h.toNat_windowEnd]
  have hopened := h₁.opened hc hn32 hsealed hmark counterHint
  unfold decryptExistingSession
  rw [parseExistingSessionMessage_build]
  dsimp only
  rw [hfill]
  dsimp only
  rw [hopened]
  split_ifs with hin hcached hcached
  · have h₂ := h₁.consume hn hcached
    dsimp only
    split_ifs
    · exact ⟨_, rfl, { h₂ with }⟩
    · exact ⟨_, rfl, { h₂ with }⟩
  · exact absurd (hrange.mpr hin) hcached
  · exact absurd (hrange.mp hcached) hin
  · exact ⟨_, _, rfl, h₁⟩

end

end Session
end GoNoise.Ratchet
