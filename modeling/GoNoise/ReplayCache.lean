import GoNoise.Oops
import GoNoise.Library.Bytes
import GoNoise.Library.Eviction
import GoNoise.Library.Traces

/-!
# `mod/replaycache`: keys that were seen

The cache remembers a key for a time to live. A sweep in the background drops what has expired, and
a cache that is full gives up the oldest tenth of its entries before it records the next key.
-/

namespace GoNoise.ReplayCache

open Trace

/-- `TTLCache`, without the channel and the interval of the background sweep. -/
structure TTLCache where
  /-- when each key was first seen -/
  entries : GoMap (FixedBytes 32) Time
  ttl : Duration
  maxSize : ℕ

namespace TTLCache

def new (ttl : Duration) (maxSize : ℤ) : TTLCache :=
  ⟨∅, ttl, if maxSize ≤ 0 then 10000 else maxSize.toNat⟩

/-- `evictOldestLocked`; `order` is the order in which Go visits the map. -/
def evictOldestLocked (order : List (FixedBytes 32)) (c : TTLCache) : TTLCache :=
  let evictCount := c.entries.size / 10
  let evictCount := if evictCount < 1 then 1 else evictCount
  { c with entries := c.entries.evictOldest id order evictCount }

/-- The key was first seen less than a time to live ago. -/
def seen (now : Time) (key : FixedBytes 32) (c : TTLCache) : Bool :=
  match c.entries.lookup key with
  | none => false
  | some firstSeen => now - firstSeen < c.ttl

/-- `CheckAndAdd`, with the clock and the order in which Go visits the map: `true` for a replay. -/
def checkAndAdd (now : Time) (order : List (FixedBytes 32)) (key : FixedBytes 32) (c : TTLCache) :
    Bool × TTLCache :=
  if c.seen now key then (true, c)
  else
    let c := if c.maxSize ≤ c.entries.size then c.evictOldestLocked order else c
    (false, { c with entries := c.entries.insert key now })

def evictExpired (now : Time) (c : TTLCache) : TTLCache :=
  let cutoff := now - c.ttl
  let expired := c.entries.keys.filter fun key => c.entries.timeOf id key < cutoff
  { c with entries := expired.foldl (fun entries key => entries.erase key) c.entries }

/-- How many entries an eviction from a full cache leaves. -/
def keep (maxSize : ℕ) : ℕ := maxSize - max 1 (maxSize / 10)

theorem maxSize_new_pos (ttl : Duration) (maxSize : ℤ) : 0 < (new ttl maxSize).maxSize := by
  unfold new
  dsimp only
  split_ifs <;> omega

variable {c : TTLCache} {now t : Time} {order : List (FixedBytes 32)} {key : FixedBytes 32}

theorem seen_of_lookup (h : c.entries.lookup key = some t) :
    c.seen now key = decide (now - t < c.ttl) := by
  rw [seen, h]

theorem lookup_of_seen (h : c.seen now key) :
    ∃ t, c.entries.lookup key = some t ∧ now - t < c.ttl := by
  unfold seen at h
  split at h
  · cases h
  next firstSeen hlook => exact ⟨firstSeen, hlook, of_decide_eq_true h⟩

theorem fst_checkAndAdd : (c.checkAndAdd now order key).1 = c.seen now key := by
  unfold checkAndAdd
  split
  next hseen => exact hseen.symm
  next hseen => exact (Bool.eq_false_iff.mpr hseen).symm

theorem size_evictOldestLocked (hfull : c.entries.size = c.maxSize) :
    (c.evictOldestLocked order).entries.size = keep c.maxSize := by
  unfold evictOldestLocked keep
  rw [GoMap.size_evictOldest, hfull]
  split_ifs <;> omega

theorem expired_of_evictExpired (h : c.entries.lookup key = some t)
    (hout : (c.evictExpired now).entries.lookup key = none) : c.ttl ≤ now - t := by
  have hmem : key ∈ c.entries := AList.lookup_isSome.mp (by rw [h]; rfl)
  have hexpired : key ∈ c.entries.keys.filter fun key => c.entries.timeOf id key < now - c.ttl := by
    by_contra hkept
    exact AList.lookup_eq_none.mp hout (GoMap.mem_foldl_erase.mpr ⟨hmem, hkept⟩)
  rw [List.mem_filter, GoMap.timeOf_eq id h, decide_eq_true_eq, id] at hexpired
  lia

end TTLCache

/-! ## Runs -/

/-- A cache and the keys it has recorded so far, with their times. -/
structure Run where
  cache : TTLCache
  added : List (FixedBytes 32 × Time)

/-- A call of `CheckAndAdd`, or a sweep of the background loop. -/
inductive Event where
  | checkAndAdd (now : Time) (order : List (FixedBytes 32)) (key : FixedBytes 32)
  | evictExpired (now : Time)

def Event.now : Event → Time
  | .checkAndAdd now _ _ => now
  | .evictExpired now => now

/-- The clock does not run backwards. -/
abbrev ClockMonotone (es : List Event) : Prop := es.Pairwise fun e e' => e.now ≤ e'.now

namespace Run

def start (ttl : Duration) (maxSize : ℤ) : Run := ⟨.new ttl maxSize, []⟩

def step (r : Run) : Event → Run
  | .checkAndAdd now order key =>
    let checked := r.cache.checkAndAdd now order key
    ⟨checked.2, if checked.1 then r.added else (key, now) :: r.added⟩
  | .evictExpired now => { r with cache := r.cache.evictExpired now }

/-- Other keys, as many as an eviction leaves, were recorded at or after a time. -/
def Displaced (maxSize : ℕ) (added : List (FixedBytes 32 × Time)) (key : FixedBytes 32) (t : Time) :
    Prop :=
  ∃ others : List (FixedBytes 32), others.Nodup ∧ TTLCache.keep maxSize ≤ others.length ∧
    ∀ key' ∈ others, key' ≠ key ∧ ∃ t' ≥ t, (key', t') ∈ added

theorem Displaced.cons {maxSize : ℕ} {added : List (FixedBytes 32 × Time)} {key : FixedBytes 32}
    {t : Time} (h : Displaced maxSize added key t) (entry : FixedBytes 32 × Time) :
    Displaced maxSize (entry :: added) key t := by
  obtain ⟨others, hnodup, hlen, hothers⟩ := h
  refine ⟨others, hnodup, hlen, fun key' hkey' => ?_⟩
  obtain ⟨hne, t', ht', hadded⟩ := hothers key' hkey'
  exact ⟨hne, t', ht', List.mem_cons_of_mem _ hadded⟩

/-- What a cache that has run up to a time knows of the keys it has recorded. -/
structure Remembers (ttl : Duration) (maxSize : ℕ) (clock : Time) (r : Run) : Prop where
  ttl_eq : r.cache.ttl = ttl
  maxSize_eq : r.cache.maxSize = maxSize
  size_le : r.cache.entries.size ≤ maxSize
  added_of_lookup : ∀ key t, r.cache.entries.lookup key = some t → (key, t) ∈ r.added
  le_clock : ∀ key t, (key, t) ∈ r.added → t ≤ clock
  kept : ∀ key t, (key, t) ∈ r.added →
    (∃ t' ≥ t, r.cache.entries.lookup key = some t') ∨ ttl ≤ clock - t ∨
      Displaced maxSize r.added key t

variable {ttl : Duration} {maxSize : ℕ} {clock now : Time} {r : Run} {order : List (FixedBytes 32)}
  {key : FixedBytes 32}

namespace Remembers

theorem mono (h : Remembers ttl maxSize clock r) (hclock : clock ≤ now) :
    Remembers ttl maxSize now r where
  __ := h
  le_clock key t hadded := Int.le_trans (h.le_clock key t hadded) hclock
  kept key t hadded := by
    rcases h.kept key t hadded with hin | hexpired | hdisplaced
    · exact .inl hin
    · exact .inr (.inl (by lia))
    · exact .inr (.inr hdisplaced)

theorem evictExpired (h : Remembers ttl maxSize now r) :
    Remembers ttl maxSize now (r.step (.evictExpired now)) where
  __ := h
  size_le := Nat.le_trans (GoMap.size_foldl_erase_le _ _) h.size_le
  added_of_lookup key t hlook := h.added_of_lookup key t (GoMap.lookup_of_lookup_foldl_erase hlook)
  kept key t hadded := by
    rcases h.kept key t hadded with ⟨t', ht', hlook⟩ | hexpired | hdisplaced
    · cases hafter : (r.cache.evictExpired now).entries.lookup key with
      | none =>
        have hexpired := TTLCache.expired_of_evictExpired hlook hafter
        rw [h.ttl_eq] at hexpired
        exact .inr (.inl (by lia))
      | some t'' =>
        have hsame : t' = t'' :=
          Option.some.inj (hlook.symm.trans (GoMap.lookup_of_lookup_foldl_erase hafter))
        exact .inl ⟨t', ht', by rw [hsame]; exact hafter⟩
    · exact .inr (.inl hexpired)
    · exact .inr (.inr hdisplaced)

/-- Room for one more: what the eviction of a full cache gives up, the rest displaces. -/
theorem makeRoom (order : List (FixedBytes 32)) (h : Remembers ttl maxSize clock r)
    (hpos : 0 < maxSize) :
    Remembers ttl maxSize clock ⟨if r.cache.maxSize ≤ r.cache.entries.size then
      r.cache.evictOldestLocked order else r.cache, r.added⟩ ∧
    (if r.cache.maxSize ≤ r.cache.entries.size then
      r.cache.evictOldestLocked order else r.cache).entries.size < maxSize := by
  have hmax := h.maxSize_eq
  have hsize := h.size_le
  split_ifs with hfull
  · have hkeep : (r.cache.evictOldestLocked order).entries.size = TTLCache.keep maxSize := by
      rw [TTLCache.size_evictOldestLocked (by omega), hmax]
    have hless : TTLCache.keep maxSize < maxSize := by
      unfold TTLCache.keep
      omega
    refine ⟨⟨h.ttl_eq, hmax, by rw [hkeep]; omega, fun key t hlook => ?_, h.le_clock,
      fun key t hadded => ?_⟩, by rw [hkeep]; exact hless⟩
    · exact h.added_of_lookup key t (GoMap.lookup_of_lookup_evictOldest id order hlook)
    · rcases h.kept key t hadded with ⟨t', ht', hlook⟩ | hexpired | hdisplaced
      · by_cases hstays : key ∈ (r.cache.evictOldestLocked order).entries
        · exact .inl ⟨t', ht', (GoMap.lookup_evictOldest id order hstays).trans hlook⟩
        -- the key goes: the keys that stay are other keys, and no older
        · refine .inr (.inr ⟨_, (r.cache.evictOldestLocked order).entries.keys_nodup, ?_, ?_⟩)
          · rw [GoMap.length_keys, hkeep]
          · intro key' hkey'
            rw [← AList.mem_keys] at hkey'
            obtain ⟨t'', ht''⟩ := Option.isSome_iff_exists.mp (AList.lookup_isSome.mpr hkey')
            have hlook' := GoMap.lookup_of_lookup_evictOldest id order ht''
            have hmem : key ∈ r.cache.entries := AList.lookup_isSome.mp (by rw [hlook]; rfl)
            have hle := GoMap.timeOf_le_of_evicted id order hmem hstays hkey'
            rw [GoMap.timeOf_eq id hlook, GoMap.timeOf_eq id hlook'] at hle
            refine ⟨?_, t'', Int.le_trans ht' hle, h.added_of_lookup key' t'' hlook'⟩
            rintro rfl
            exact hstays hkey'
      · exact .inr (.inl hexpired)
      · exact .inr (.inr hdisplaced)
  · exact ⟨⟨h.ttl_eq, hmax, hsize, h.added_of_lookup, h.le_clock, h.kept⟩, by omega⟩

theorem checkAndAdd (h : Remembers ttl maxSize now r) (hpos : 0 < maxSize) :
    Remembers ttl maxSize now (r.step (.checkAndAdd now order key)) := by
  by_cases hseen : r.cache.seen now key
  · have hstep : r.step (.checkAndAdd now order key) = r := by
      rw [step, TTLCache.checkAndAdd, if_pos hseen]
      rfl
    rw [hstep]
    exact h
  obtain ⟨hroom, hsize⟩ := h.makeRoom order hpos
  rw [step, TTLCache.checkAndAdd, if_neg hseen]
  refine ⟨hroom.ttl_eq, hroom.maxSize_eq, ?_, ?_, ?_, ?_⟩
  · have hinsert := GoMap.size_insert_le (if r.cache.maxSize ≤ r.cache.entries.size then
      r.cache.evictOldestLocked order else r.cache).entries key now
    dsimp only
    omega
  · intro key' t hlook
    rcases GoMap.lookup_of_lookup_insert hlook with ⟨rfl, rfl⟩ | hlook
    · exact List.mem_cons_self
    · exact List.mem_cons_of_mem _ (hroom.added_of_lookup key' t hlook)
  · intro key' t hadded
    rcases List.mem_cons.mp hadded with heq | hadded
    · cases heq
      exact Int.le_refl _
    · exact h.le_clock key' t hadded
  · intro key' t hadded
    by_cases hkey : key' = key
    · have hle : t ≤ now := by
        rcases List.mem_cons.mp hadded with heq | hadded
        · cases heq
          exact Int.le_refl _
        · exact h.le_clock key' t hadded
      exact .inl ⟨now, hle, by rw [hkey]; exact AList.lookup_insert _⟩
    · have hbefore : (key', t) ∈ r.added := by
        rcases List.mem_cons.mp hadded with heq | hadded
        · cases heq
          exact absurd rfl hkey
        · exact hadded
      rcases hroom.kept key' t hbefore with ⟨t', ht', hlook⟩ | hexpired | hdisplaced
      · exact .inl ⟨t', ht', by rw [AList.lookup_insert_ne hkey]; exact hlook⟩
      · exact .inr (.inl hexpired)
      · exact .inr (.inr (hdisplaced.cons _))

theorem step (hpos : 0 < maxSize) {e : Event} (h : Remembers ttl maxSize e.now r) :
    Remembers ttl maxSize e.now (r.step e) := by
  cases e with
  | checkAndAdd now order key => exact h.checkAndAdd hpos
  | evictExpired now => exact h.evictExpired

end Remembers

/-- A run with a monotone clock, at any time from its last event on. -/
theorem remembers_exec (ttl : Duration) (maxSize : ℤ) {es : List Event}
    (hclock : ClockMonotone es) {now : Time} (hnow : ∀ e ∈ es, e.now ≤ now) :
    Remembers ttl (TTLCache.new ttl maxSize).maxSize now (exec step (start ttl maxSize) es) := by
  -- the invariant holds at every time that no event of the past is ahead of
  let H (past : List Event) (r : Run) : Prop := ∀ now, (∀ e ∈ past, e.now ≤ now) →
    Remembers ttl (TTLCache.new ttl maxSize).maxSize now r
  have hstep : ∀ past r e, H past r → (∀ e' ∈ past, e'.now ≤ e.now) →
      H (past ++ [e]) (step r e) := by
    intro past r e hpast hbefore now hnow
    have hnext := (hpast e.now hbefore).step (TTLCache.maxSize_new_pos ttl maxSize)
    exact hnext.mono (hnow e (List.mem_append_right past List.mem_cons_self))
  have hstart : H [] (start ttl maxSize) := fun now _ => ⟨rfl, rfl, Nat.zero_le _,
    (fun _ _ h => by cases h), (fun _ _ h => by cases h), fun _ _ h => by cases h⟩
  exact exec_of_pairwise (H := H) hstep hstart hclock now hnow

/-- **A call after any run.** A replay is reported only for a key that was recorded less than a time
to live ago; such a key is reported unless it was displaced; and the cache stays in its bounds. -/
theorem checkAndAdd_of_run (ttl : Duration) (maxSize : ℤ) (es : List Event) (now : Time)
    (order : List (FixedBytes 32)) (key : FixedBytes 32)
    (hclock : ClockMonotone (es ++ [.checkAndAdd now order key])) :
    let r := exec step (start ttl maxSize) es
    let limit := (TTLCache.new ttl maxSize).maxSize
    let checked := r.cache.checkAndAdd now order key
    (r.cache.entries.size ≤ limit ∧ checked.2.entries.size ≤ limit) ∧
      (checked.1 = true → ∃ t ≤ now, (key, t) ∈ r.added ∧ now - t < ttl) ∧
      ∀ t, (key, t) ∈ r.added → now - t < ttl → ¬Displaced limit r.added key t →
        checked.1 = true := by
  intro r limit checked
  obtain ⟨hes, -, hlast⟩ := List.pairwise_append.mp hclock
  have hbefore : Remembers ttl limit now r :=
    remembers_exec ttl maxSize hes fun e he => hlast e he _ List.mem_cons_self
  have hafter : Remembers ttl limit now (r.step (.checkAndAdd now order key)) :=
    hbefore.checkAndAdd (TTLCache.maxSize_new_pos ttl maxSize)
  have hchecked : checked.1 = r.cache.seen now key := TTLCache.fst_checkAndAdd
  refine ⟨⟨hbefore.size_le, hafter.size_le⟩, fun hreplay => ?_, fun t hadded hfresh hnot => ?_⟩
  · obtain ⟨t, hlook, hfresh⟩ := TTLCache.lookup_of_seen (hchecked.symm.trans hreplay)
    have hadded := hbefore.added_of_lookup key t hlook
    rw [hbefore.ttl_eq] at hfresh
    exact ⟨t, hbefore.le_clock key t hadded, hadded, hfresh⟩
  · rcases hbefore.kept key t hadded with ⟨t', ht', hlook⟩ | hexpired | hdisplaced
    · rw [hchecked, TTLCache.seen_of_lookup hlook, hbefore.ttl_eq, decide_eq_true_eq]
      lia
    · exact absurd hfresh (Int.not_lt.mpr hexpired)
    · exact absurd hdisplaced hnot

/-- A key that is presented again after a sweep. -/
theorem checkAndAdd_of_run_again :
    let es : List Event := [.checkAndAdd 0 [] (.ofNat 32 1), .evictExpired 5]
    let r := exec step (start 10 2) es
    (r.cache.checkAndAdd 7 [] (.ofNat 32 1)).1 = true ∧
      ∃ t ≤ (7 : Time), (.ofNat 32 1, t) ∈ r.added ∧ 7 - t < 10 := by
  intro es r
  have hreplay : (r.cache.checkAndAdd 7 [] (.ofNat 32 1)).1 = true := by decide +kernel
  exact ⟨hreplay, (checkAndAdd_of_run 10 2 es 7 [] (.ofNat 32 1) (by decide)).2.1 hreplay⟩

end Run
end GoNoise.ReplayCache
