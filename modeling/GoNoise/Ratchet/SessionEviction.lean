import Mathlib
import GoNoise.Ratchet.NewSession

/-!
# `ratchet/session_table.go`: eviction and the order of the map

A full table gives up the session that was used least recently, and so does a peer that has as many
sessions as it may have. Both loops go through a map, whose order is Go's.
-/

namespace GoNoise.Ratchet

open GoMap

variable {δ σ τ : Type}

theorem bytesLess_iff (a b : Bytes) :
    bytesLess a b = true ↔ a.map UInt8.toNat < b.map UInt8.toNat := by
  fun_induction bytesLess a b with
  | case1 b => cases b <;> simp
  | case2 => simp
  | case3 x a y b hlt => simp [List.cons_lt_cons_iff, UInt8.lt_iff_toNat_lt.mp hlt]
  | case4 x a y b hlt hgt =>
    rw [UInt8.lt_iff_toNat_lt] at hgt
    simp only [List.map_cons, List.cons_lt_cons_iff, Bool.false_eq_true, false_iff]
    omega
  | case5 x a y b hlt hgt ih =>
    rw [UInt8.lt_iff_toNat_lt] at hlt hgt
    have hxy : x.toNat = y.toNat := by omega
    simp [ih, hxy]

namespace SessionManager

/-- When the session of a hash was last used. -/
def lastUsed (sm : SessionManager δ σ τ) : Key → Time :=
  sm.sessions.timeOf fun p => ((sm.heap.lookup p).map Session.lastUsed).getD 0

variable {sm : SessionManager δ σ τ} {pub h h' : Key} {order : List Key} {s : Session δ σ τ}

theorem lastUsed_eq (hs : sm.sessionAt h = some s) : sm.lastUsed h = s.lastUsed := by
  obtain ⟨p, hp, hheap⟩ := Option.bind_eq_some_iff.mp hs
  rw [lastUsed, timeOf_eq _ hp, hheap]
  rfl

/-! ## The global step -/

/-- Sessions by their last use, and by their hash where they agree in it. -/
def rank (sm : SessionManager δ σ τ) (hash : Key) : Time ×ₗ List ℕ :=
  toLex (sm.lastUsed hash, hash.val.map UInt8.toNat)

theorem rank_injective : Function.Injective sm.rank := by
  intro h h' hrank
  have hval := (Prod.mk.inj (toLex.injective hrank)).2
  exact Subtype.ext (List.map_injective_iff.mpr (fun _ _ => UInt8.toNat_inj.mp) hval)

theorem leastRecentlyUsed_eq_foldl (ks : List Key) (best : Option Key) :
    sm.leastRecentlyUsed (best.map fun h => (h, sm.lastUsed h)) ks =
      ((ks.filter fun h => (sm.sessionAt h).isSome).foldl
        (List.argAux fun h h' => sm.rank h < sm.rank h') best).map fun h => (h, sm.lastUsed h) := by
  induction ks generalizing best with
  | nil => rfl
  | cons h ks ih =>
    rw [leastRecentlyUsed]
    cases hs : sm.sessionAt h with
    | none =>
      rw [List.filter_cons_of_neg (by simp [hs]), ← ih]
    | some s =>
      rw [List.filter_cons_of_pos (by rw [hs]; rfl), List.foldl_cons, ← ih]
      cases best with
      | none =>
        dsimp only [Option.map, List.argAux]
        rw [lastUsed_eq hs]
      | some h' =>
        simp only [Option.map_some, List.argAux, rank, Prod.Lex.toLex_lt_toLex, bytesLess_iff]
        rw [← lastUsed_eq hs]
        split_ifs <;> rfl

/-- The global step finds the same session in every order of the map. -/
theorem leastRecentlyUsed_of_perm {ks : List Key} (hperm : order.Perm ks) :
    sm.leastRecentlyUsed none order = sm.leastRecentlyUsed none ks := by
  rw [← Option.map_none, leastRecentlyUsed_eq_foldl, leastRecentlyUsed_eq_foldl]
  exact congrArg _ (argmin_congr (fun h => (hperm.filter _).mem_iff) fun h hh h' hh' hmin hmin' =>
    rank_injective (le_antisymm (hmin h' hh') (hmin' h hh)))

/-! ## The step for one peer -/

/-- The session belongs to the peer. -/
def ofPeer (pub : Key) (sm : SessionManager δ σ τ) (hash : Key) : Bool :=
  (sm.sessionAt hash).any fun s => s.remotePublicKey = pub

/-- No handshake of the session is under way. -/
def established (sm : SessionManager δ σ τ) (hash : Key) : Bool :=
  (sm.sessionAt hash).any fun s => s.nsrTag.isNone ∧ s.handshakeState.isNone

/-- The sessions that the quota chooses from, in the order of the loop. -/
def choices (pub : Key) (sm : SessionManager δ σ τ) (order : List Key) : List Key :=
  let peer := order.filter (sm.ofPeer pub)
  let preferred := peer.filter sm.established
  if preferred = [] then peer else preferred

/-- A session that the quota may evict, with the least time of the last use. -/
def Oldest (pub : Key) (sm : SessionManager δ σ τ) (hash : Key) : Prop :=
  hash ∈ sm.choices pub sm.sessions.keys ∧
    ∀ hash' ∈ sm.choices pub sm.sessions.keys, sm.lastUsed hash ≤ sm.lastUsed hash'

theorem sessionAt_of_ofPeer (hpeer : sm.ofPeer pub h) :
    h ∈ sm.sessions ∧ ∃ s, sm.sessionAt h = some s := by
  cases hs : sm.sessionAt h with
  | none => simp [ofPeer, hs] at hpeer
  | some s =>
    obtain ⟨p, hp, -⟩ := Option.bind_eq_some_iff.mp hs
    exact ⟨AList.lookup_isSome.mp (by rw [hp]; rfl), s, rfl⟩

theorem ofPeer_of_mem_choices (hh : h ∈ sm.choices pub order) : sm.ofPeer pub h := by
  unfold choices at hh
  dsimp only at hh
  split_ifs at hh
  · exact (List.mem_filter.mp hh).2
  · exact (List.mem_filter.mp (List.mem_filter.mp hh).1).2

variable (sm pub) in
theorem choices_perm {order' : List Key} (hperm : order.Perm order') :
    (sm.choices pub order).Perm (sm.choices pub order') := by
  have hpeer := hperm.filter (sm.ofPeer pub)
  have hpreferred := hpeer.filter sm.established
  unfold choices
  dsimp only
  split_ifs with hnone hnone' hnone'
  · exact hpeer
  · exact absurd (hnone ▸ hpreferred).nil_eq.symm hnone'
  · exact absurd (hnone' ▸ hpreferred).eq_nil hnone
  · exact hpreferred

/-- The quota evicts the first of the oldest sessions that it meets. -/
theorem enforcePerPeerQuotaLocked_eq (hperm : order.Perm sm.sessions.keys) :
    sm.enforcePerPeerQuotaLocked order pub =
      if (order.filter (sm.ofPeer pub)).length < maxSessionsPerPeer then sm
      else ((sm.choices pub order).argmin sm.lastUsed).elim sm sm.dropSession := by
  have hold : ∀ {l : List Key}, (∀ h ∈ l, sm.ofPeer pub h) →
      sm.sessions.oldest (fun p => ((sm.heap.lookup p).map Session.lastUsed).getD 0) none l =
        (l.argmin sm.lastUsed).map fun h => (h, sm.lastUsed h) := fun hl =>
    oldest_eq_foldl _ (fun h hh => (sessionAt_of_ofPeer (hl h hh)).1) none
  have hpeer := hold fun h (hh : h ∈ order.filter (sm.ofPeer pub)) => (List.mem_filter.mp hh).2
  have hpreferred := hold
    fun h (hh : h ∈ (order.filter (sm.ofPeer pub)).filter sm.established) =>
      (List.mem_filter.mp (List.mem_filter.mp hh).1).2
  unfold enforcePerPeerQuotaLocked choices
  dsimp only
  rw [inOrder_of_perm order hperm]
  refine if_congr .rfl rfl ?_
  split_ifs with hnone
  · rw [hnone] at hpreferred
    unfold established ofPeer at *
    rw [hpeer, hnone, hpreferred]
    cases List.argmin sm.lastUsed (order.filter _) <;> rfl
  · have hfound : ∀ {l : List Key}, l ≠ [] → ∃ h, l.argmin sm.lastUsed = some h := fun hl =>
      Option.ne_none_iff_exists'.mp (mt List.argmin_eq_none.mp hl)
    obtain ⟨h, hh⟩ := hfound hnone
    obtain ⟨h', hh'⟩ := hfound (l := order.filter (sm.ofPeer pub)) fun hnil =>
      hnone (by rw [hnil]; rfl)
    rw [hh', Option.map_some] at hpeer
    rw [hh] at hpreferred ⊢
    unfold established ofPeer at *
    rw [hpeer]
    dsimp only
    rw [hpreferred]
    rfl

theorem dropSession_injective (hpeer : sm.ofPeer pub h) (hpeer' : sm.ofPeer pub h')
    (hsame : sm.dropSession h = sm.dropSession h') : h = h' := by
  have herase : ∀ {h}, sm.ofPeer pub h → (sm.dropSession h).sessions = sm.sessions.erase h := by
    intro h hpeer
    obtain ⟨-, s, hs⟩ := sessionAt_of_ofPeer hpeer
    rw [dropSession, hs]
    rfl
  by_contra hne
  have hmem : h ∈ sm.sessions.erase h' :=
    AList.mem_erase.mpr ⟨hne, (sessionAt_of_ofPeer hpeer).1⟩
  rw [← herase hpeer', ← hsame, herase hpeer] at hmem
  exact (AList.mem_erase.mp hmem).1 rfl

/-- The loop that begins with an oldest session evicts it. -/
theorem quota_evicts_first (hold : sm.Oldest pub h)
    (hfull : maxSessionsPerPeer ≤ (sm.sessions.keys.filter (sm.ofPeer pub)).length) :
    ∃ order, order.Perm sm.sessions.keys ∧
      sm.enforcePerPeerQuotaLocked order pub = sm.dropSession h := by
  have hpeer := ofPeer_of_mem_choices hold.1
  have hperm := (List.perm_cons_erase (AList.mem_keys.mp (sessionAt_of_ofPeer hpeer).1)).symm
  have hchoices := choices_perm sm pub hperm
  refine ⟨h :: sm.sessions.keys.erase h, hperm, ?_⟩
  obtain ⟨rest, hrest⟩ : ∃ rest, sm.choices pub (h :: sm.sessions.keys.erase h) = h :: rest := by
    have hmem := hchoices.mem_iff.mpr hold.1
    unfold choices at hmem ⊢
    dsimp only at hmem ⊢
    rw [List.filter_cons_of_pos hpeer] at hmem ⊢
    split_ifs at hmem ⊢ with hnone
    · exact ⟨_, rfl⟩
    · exact ⟨_, List.filter_cons_of_pos (List.mem_filter.mp hmem).2⟩
  rw [enforcePerPeerQuotaLocked_eq hperm, if_neg, hrest, argmin_cons_of_le]
  · rfl
  · exact fun h' hh' => hold.2 h' (hchoices.mem_iff.mp (hrest ▸ List.mem_cons_of_mem h hh'))
  · rw [(hperm.filter _).length_eq]
    exact not_lt.mpr hfull

/-- **Eviction and the order of the map.** The global step evicts the same session in every order.
The step for a peer does so exactly if the peer is below its quota or only one of the sessions that
may be evicted has the least time. -/
theorem eviction_order_iff (pub : Key) (sm : SessionManager δ σ τ) :
    (∀ order, order.Perm sm.sessions.keys →
      (sm.leastRecentlyUsed none order).elim sm (fun found => sm.dropSession found.1) =
        sm.evictLRUSessionLocked) ∧
    ((∀ order order', order.Perm sm.sessions.keys → order'.Perm sm.sessions.keys →
      sm.enforcePerPeerQuotaLocked order pub = sm.enforcePerPeerQuotaLocked order' pub) ↔
        (sm.sessions.keys.filter (sm.ofPeer pub)).length < maxSessionsPerPeer ∨
          ∀ h h', sm.Oldest pub h → sm.Oldest pub h' → h = h') := by
  refine ⟨fun order hperm => ?_, fun hsame => ?_, ?_⟩
  · rw [leastRecentlyUsed_of_perm hperm, evictLRUSessionLocked]
    cases sm.leastRecentlyUsed none sm.sessions.keys <;> rfl
  · by_contra! hnot
    obtain ⟨hfull, h, h', hh, hh', hne⟩ := hnot
    obtain ⟨order, hperm, hdrop⟩ := quota_evicts_first hh hfull
    obtain ⟨order', hperm', hdrop'⟩ := quota_evicts_first hh' hfull
    refine hne (dropSession_injective (ofPeer_of_mem_choices hh.1) (ofPeer_of_mem_choices hh'.1) ?_)
    rw [← hdrop, ← hdrop', hsame order order' hperm hperm']
  · intro hcases order order' hperm hperm'
    rw [enforcePerPeerQuotaLocked_eq hperm, enforcePerPeerQuotaLocked_eq hperm',
      (hperm.filter _).length_eq, (hperm'.filter _).length_eq]
    refine if_ctx_congr .rfl (fun _ => rfl) fun hfull => ?_
    refine congrArg (Option.elim · sm sm.dropSession) ?_
    have hchoices := choices_perm sm pub hperm
    refine argmin_congr (fun h => (hchoices.trans (choices_perm sm pub hperm').symm).mem_iff) ?_
    simp only [hchoices.mem_iff]
    exact fun h hh h' hh' hmin hmin' => hcases.resolve_left hfull h h' ⟨hh, hmin⟩ ⟨hh', hmin'⟩

/-- A peer with 32 sessions that were last used at the same time. -/
def crowded : SessionManager ℕ (ℕ × ℕ) (ℕ × ℕ) :=
  let keys : SessionKeys := ⟨.ofNat 32 1, .ofNat 32 2⟩
  let empty := newSessionManager (.ofNat 32 8) (.ofNat 32 9) (5 * minute) (2 * minute)
  match createSession countingPrimitives 0 (.ofNat 32 9) keys (.ofNat 32 8) false with
  | .error _ => empty
  | .ok s => (List.range maxSessionsPerPeer).foldl (fun sm i => { sm with
      heap := sm.heap.insert i s
      sessions := sm.sessions.insert (.ofNatLE 32 i) i }) empty

/-- Of two orders of the map, only one evicts session 0. -/
theorem eviction_depends_on_order :
    let keys := crowded.sessions.keys
    keys.reverse.Perm keys ∧
      (crowded.enforcePerPeerQuotaLocked keys (.ofNat 32 9)).sessions.lookup
        (.ofNatLE 32 0) = some 0 ∧
      (crowded.enforcePerPeerQuotaLocked keys.reverse (.ofNat 32 9)).sessions.lookup
        (.ofNatLE 32 0) = none := by
  refine ⟨List.reverse_perm _, ?_⟩
  decide +kernel

end SessionManager
end GoNoise.Ratchet
