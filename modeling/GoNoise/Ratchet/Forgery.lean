import GoNoise.Ratchet.Rejection

/-!
# Genuine messages after a forged one

A message that fails authentication should not keep a genuine message from being opened. The tag of
an Existing Session message, and the tag and the handshake state of a New Session Reply, are used up
before the message is authenticated, so a forged message can take them away.
-/

namespace GoNoise.Ratchet

variable {δ σ τ : Type} {N : NoiseLibrary} {P : Primitives δ σ τ}

/-- What a message with a tag of the manager gives. -/
inductive Opened where
  | existing (plaintext : Bytes)
  | reply (plaintext : Bytes)
  deriving DecidableEq

def Opened.plaintext : Opened → Bytes
  | .existing plaintext => plaintext
  | .reply plaintext => plaintext

namespace SessionManager

variable {sm sm' : SessionManager δ σ τ} {env env' : Env} {msg msg' plaintext : Bytes} {p : ℕ}
  {s s' : Session δ σ τ} {w w' : Session δ σ τ × SessionManager δ σ τ} {counter : UInt32}
  {now : Time} {nsrKeys : NSRSessionKeys} {tag tag' : Tag} {turns : ℕ}

/-- What `DecryptGarlicMessage` makes of an Existing Session message or a New Session Reply. -/
def opened (N : NoiseLibrary) (P : Primitives δ σ τ) (env : Env) (msg : Bytes)
    (sm : SessionManager δ σ τ) : Option Opened :=
  if msg.length < 8 then none
  else
    match sm.tryDecryptExisting P env.now (msgTag msg) msg with
    | (some (.ok (plaintext, _)), _) => some (.existing plaintext)
    | (some (.error _), _) => none
    | (none, sm) =>
      match (sm.tryDecryptNSR (handshakes N P env) (msgTag msg) msg).1 with
      | some (.ok plaintext) => some (.reply plaintext)
      | _ => none

/-! ## Existing Session messages -/

/-- An Existing Session message is opened by the valid session of its tag. -/
theorem opened_existing_iff : sm.opened N P env msg = some (.existing plaintext) ↔
    8 ≤ msg.length ∧ ∃ p s, sm.tagIndex.lookup (msgTag msg) = some p ∧ sm.heap.lookup p = some s ∧
      sm.isSessionValid env.now s ∧
      ∃ sessionTag, (s.decryptExistingSession P env.now (msg.drop 8) (msgTag msg)
        (sm.tagCounterIndex.lookup (msgTag msg))).1 = .ok (plaintext, sessionTag) := by
  have hreceived : ∀ p s, (received P env.now (msgTag msg) msg p s sm).1 =
      (s.decryptExistingSession P env.now (msg.drop 8) (msgTag msg)
        (sm.tagCounterIndex.lookup (msgTag msg))).1 := by
    intro p s
    have huse : s.SameKeys (s.useTag (msgTag msg)) := ⟨rfl, rfl, rfl, rfl⟩
    exact huse.decrypt
  unfold opened
  constructor
  · intro h
    split_ifs at h with hlen
    refine ⟨Nat.le_of_not_lt hlen, ?_⟩
    split at h
    next tag sm₁ heq =>
      obtain ⟨p, s, hp, hs, hvalid⟩ := existing_of_isSome (by rw [heq]; rfl)
      refine ⟨p, s, hp, hs, hvalid, ?_⟩
      rw [← hreceived p s]
      rcases hres : (received P env.now (msgTag msg) msg p s sm).1 with e | ⟨opened, tag'⟩
      · rw [tryDecryptExisting_of_error hp hs hvalid hres] at heq
        cases heq
      · rw [tryDecryptExisting_of_ok hp hs hvalid hres] at heq
        cases heq
        cases h
        exact ⟨_, rfl⟩
    · cases h
    · split at h <;> cases h
  · rintro ⟨hlen, p, s, hp, hs, hvalid, sessionTag, hok⟩
    rw [← hreceived p s] at hok
    rw [if_neg (Nat.not_lt.mpr hlen), tryDecryptExisting_of_ok hp hs hvalid hok]

theorem filled_of_ok {hint : Option UInt32} {answer : Bytes × Tag}
    (h : (s.decryptExistingSession P now msg tag hint).1 = .ok answer) :
    ∃ s₁, s.fillRecvKeyCache P s.windowEnd = (.ok (), s₁) := by
  unfold Session.decryptExistingSession at h
  split at h
  · cases h
  · grind

/-! ## New Session Replies -/

/-- The tags that the keys of a finished handshake register, up to that many turns. -/
def newTags (P : Primitives δ σ τ) (turns : ℕ) (recvKey : Key) : List Tag :=
  match deriveTagAndSymKeysFromChainKey P recvKey with
  | .error _ => []
  | .ok (recvTagKey, _) => P.nextTags turns (P.newTagRatchet recvTagKey)

theorem collides_registerTag
    (h : (registerTag p tag' counter w).2.collides p tag) : tag ≠ tag' ∧ w.2.collides p tag := by
  unfold collides registerTag at h
  by_cases htag : tag = tag'
  · grind [AList.lookup_insert]
  · rw [AList.lookup_insert_ne htag] at h
    exact ⟨htag, h⟩

theorem collides_of_ne (h : tag ≠ tag') :
    (registerTag p tag' counter w).2.collides p tag = w.2.collides p tag := by
  unfold collides registerTag
  rw [AList.lookup_insert_ne h]

/-- Fewer collisions: a tag window that is filled is also filled where the ratchet meets no more
tags of other sessions. -/
theorem generateTagWindow_mono (hratchet : w'.1.recvTagRatchet = w.1.recvTagRatchet)
    (hpending : w.1.pendingTags.length ≤ w'.1.pendingTags.length)
    (hcollides : ∀ r ∈ w.1.recvTagRatchet, ∀ tag ∈ P.nextTags turns r,
      w'.2.collides p tag → w.2.collides p tag)
    (h : ∃ v, generateTagWindow P p turns w = some (.ok (), v)) :
    ∃ v, generateTagWindow P p turns w' = some (.ok (), v) := by
  induction turns generalizing w w' with
  | zero =>
    obtain ⟨v, hv⟩ := h
    cases hv
  | succ turns ih =>
    obtain ⟨v, hv⟩ := h
    obtain ⟨s, sm⟩ := w
    obtain ⟨s', sm'⟩ := w'
    dsimp only at hratchet hpending hcollides
    rw [generateTagWindow] at hv ⊢
    rw [hratchet]
    rcases hr : s.recvTagRatchet with _ | r
    · rw [hr] at hv
      cases hv
    · rw [hr] at hv
      dsimp only at hv ⊢
      by_cases hfull' : tagWindowSize ≤ s'.pendingTags.length
      · rw [if_pos hfull']
        exact ⟨_, rfl⟩
      rw [if_neg hfull']
      rw [if_neg (by omega)] at hv
      rcases hgen : P.generateNextTag r with ⟨_ | tag, r₁⟩
      · rw [hgen] at hv
        cases hv
      · rw [hgen] at hv
        dsimp only at hv ⊢
        have hnext : ∀ u ∈ P.nextTags turns r₁, u ∈ P.nextTags (turns + 1) r := by
          intro u hu
          rw [Primitives.nextTags, hgen]
          exact List.mem_cons_of_mem _ hu
        have htag : tag ∈ P.nextTags (turns + 1) r := by grind [Primitives.nextTags]
        by_cases hcol' : sm'.collides p tag
        · -- then it is the tag of another session in both
          rw [if_pos (hcollides r hr tag htag hcol')] at hv
          rw [if_pos hcol']
          refine ih ?_ ?_ (fun r₂ hr₂ u hu => ?_) ⟨v, hv⟩
          · rfl
          · exact hpending
          · obtain rfl : r₁ = r₂ := Option.some.inj hr₂
            exact hcollides r hr u (hnext u hu)
        · rw [if_neg hcol']
          by_cases hcol : sm.collides p tag
          · rw [if_pos hcol] at hv
            refine ih ?_ ?_ (fun r₂ hr₂ u hu hu' => ?_) ⟨v, hv⟩
            · rfl
            · simp only [registerTag, List.length_append]
              omega
            · obtain rfl : r₁ = r₂ := Option.some.inj hr₂
              exact hcollides r hr u (hnext u hu) (collides_registerTag hu').2
          · rw [if_neg hcol] at hv
            refine ih ?_ ?_ (fun r₂ hr₂ u hu hu' => ?_) ⟨v, hv⟩
            · rfl
            · simp only [registerTag, List.length_append]
              omega
            · obtain rfl : r₁ = r₂ := Option.some.inj hr₂
              obtain ⟨hne, hold⟩ := collides_registerTag hu'
              rw [collides_of_ne hne]
              exact hcollides r hr u (hnext u hu) hold

theorem applyNSRKeys_mono
    (hcollides : ∀ tag ∈ newTags P turns nsrKeys.keyBA,
      (w'.2.deleteTags w'.1.pendingTags).collides p tag →
        (w.2.deleteTags w.1.pendingTags).collides p tag)
    (h : ∃ v, applyNSRKeysToSessionWhileLocked P turns p nsrKeys true w = some (.ok (), v)) :
    ∃ v, applyNSRKeysToSessionWhileLocked P turns p nsrKeys true w' = some (.ok (), v) := by
  unfold newTags at hcollides
  unfold applyNSRKeysToSessionWhileLocked at h ⊢
  simp only [↓reduceIte] at h ⊢
  rcases hsend : deriveTagAndSymKeysFromChainKey P nsrKeys.keyAB with e | ⟨sendTagKey, sendSymKey⟩
  · grind
  · rw [hsend] at h
    rcases hrecv : deriveTagAndSymKeysFromChainKey P nsrKeys.keyBA with e | ⟨recvTagKey, recvSymKey⟩
    · grind
    · rw [hrecv] at h hcollides
      refine generateTagWindow_mono ?_ ?_ ?_ h
      · rfl
      · exact Nat.le_refl _
      · intro r hr tag htag
        obtain rfl : P.newTagRatchet recvTagKey = r := Option.some.inj hr
        exact hcollides tag htag

theorem collides_deleteTags {tags : List Tag} :
    (sm.deleteTags tags).collides p tag ↔ tag ∉ tags ∧ sm.collides p tag := by
  unfold collides deleteTags
  rw [GoMap.lookup_foldl_erase]
  by_cases htag : tag ∈ tags
  · simp [htag]
  · rw [if_neg htag]
    exact (and_iff_right htag).symm

theorem applyNSRKeys_congr {w w' : Session δ σ τ × SessionManager δ σ τ}
    (hindex : ∀ tag, w'.2.tagIndex.lookup tag = w.2.tagIndex.lookup tag)
    (hpending : w'.1.pendingTags = w.1.pendingTags) :
    (∃ v, applyNSRKeysToSessionWhileLocked P turns p nsrKeys true w = some (.ok (), v)) ↔
      ∃ v, applyNSRKeysToSessionWhileLocked P turns p nsrKeys true w' = some (.ok (), v) := by
  have hcollides : ∀ tag, (w'.2.deleteTags w'.1.pendingTags).collides p tag ↔
      (w.2.deleteTags w.1.pendingTags).collides p tag := by
    intro tag
    rw [collides_deleteTags, collides_deleteTags, hpending]
    unfold collides
    rw [hindex]
  exact ⟨applyNSRKeys_mono fun tag _ => (hcollides tag).mp,
    applyNSRKeys_mono fun tag _ => (hcollides tag).mpr⟩

theorem decryptIncomingNSR_ok_iff :
    (sm.decryptIncomingNSR N P env p msg).1 = .ok plaintext ↔
      ∃ s hs nsrKeys, sm.heap.lookup p = some s ∧ s.handshakeState = some hs ∧
        readNoiseIKMessage2 N P hs sm.ourPrivateKey msg = .ok (plaintext, nsrKeys) ∧
        ∃ v, applyNSRKeysToSessionWhileLocked P env.turns p nsrKeys true (s, sm) =
          some (.ok (), v) := by
  unfold decryptIncomingNSR
  constructor
  · intro h
    split at h
    · cases h
    next s hs =>
      split at h
      · cases h
      next hs₁ hstate =>
        dsimp only at h
        split at h
        · cases h
        next opened nsrKeys hread =>
          split at h
          · cases h
          · cases h
          next hfinish =>
            cases h
            refine ⟨s, hs₁, nsrKeys, hs, hstate, hread, ?_⟩
            unfold finishHandshake at hfinish
            split at hfinish
            · cases hfinish
            · cases hfinish
            next happly =>
              refine (applyNSRKeys_congr ?_ ?_).mpr ⟨_, happly⟩
              · exact fun _ => rfl
              · rfl
  · rintro ⟨s, hs₁, nsrKeys, hs, hstate, hread, happly⟩
    have happly' : ∃ v, applyNSRKeysToSessionWhileLocked P env.turns p nsrKeys true
        ({ s with handshakeState := none },
          { sm with heap := sm.heap.insert p { s with handshakeState := none } }) =
        some (.ok (), v) := by
      refine (applyNSRKeys_congr ?_ ?_).mp happly
      · exact fun _ => rfl
      · rfl
    obtain ⟨v, hv⟩ := happly'
    rw [hs]
    dsimp only
    rw [hstate]
    dsimp only
    rw [hread]
    dsimp only
    unfold finishHandshake
    rw [hv]

theorem tryDecryptNSR_ok_iff :
    (sm.tryDecryptNSR (handshakes N P env) tag msg).1 = some (.ok plaintext) ↔
      ∃ p s hs nsrKeys, sm.nsrTagIndex.lookup tag = some p ∧ sm.heap.lookup p = some s ∧
        s.handshakeState = some hs ∧
        readNoiseIKMessage2 N P hs sm.ourPrivateKey msg = .ok (plaintext, nsrKeys) ∧
        ∃ v, applyNSRKeysToSessionWhileLocked P env.turns p nsrKeys true (s, sm) =
          some (.ok (), v) := by
  rcases hp : sm.nsrTagIndex.lookup tag with _ | p
  · unfold tryDecryptNSR
    rw [hp]
    simp
  obtain ⟨heap, -, habsent, hsession, htry⟩ := tryDecryptNSR_spec (handshakes N P env) hp msg
  rw [htry, Option.some.injEq]
  refine decryptIncomingNSR_ok_iff.trans ⟨?_, ?_⟩
  · rintro ⟨s', hs₁, nsrKeys, hs', hstate, hread, happly⟩
    rcases hs : sm.heap.lookup p with _ | s
    · exact absurd ((habsent hs).symm.trans hs') nofun
    · obtain ⟨nsrTag, hs₂⟩ := hsession s hs
      cases hs₂.symm.trans hs'
      refine ⟨p, s, hs₁, nsrKeys, rfl, hs, hstate, hread, (applyNSRKeys_congr ?_ ?_).mpr happly⟩
      · exact fun _ => rfl
      · rfl
  · rintro ⟨q, s, hs₁, nsrKeys, hq, hs, hstate, hread, happly⟩
    obtain rfl := Option.some.inj hq
    obtain ⟨nsrTag, hs₂⟩ := hsession s hs
    refine ⟨_, hs₁, nsrKeys, hs₂, hstate, hread, (applyNSRKeys_congr ?_ ?_).mp happly⟩
    · exact fun _ => rfl
    · rfl

theorem tryDecryptExisting_eq_none_iff (P : Primitives δ σ τ) (msg : Bytes) :
    (sm.tryDecryptExisting P now tag msg).1 = none ↔ sm.existingAt now tag = none := by
  constructor
  · intro h
    have heq : sm.tryDecryptExisting P now tag msg =
        (none, (sm.tryDecryptExisting P now tag msg).2) := Prod.ext h rfl
    exact existingAt_of_tryDecryptExisting heq
  · intro h
    by_contra hsome
    obtain ⟨p, s, hp, hs, hvalid⟩ := existing_of_isSome (Option.isSome_iff_ne_none.mpr hsome)
    rw [existingAt_eq_some.mpr ⟨hp, s, hs, hvalid⟩] at h
    cases h

theorem opened_reply_iff : sm.opened N P env msg = some (.reply plaintext) ↔
    8 ≤ msg.length ∧ sm.existingAt env.now (msgTag msg) = none ∧
      ∃ p s hs nsrKeys, sm.nsrTagIndex.lookup (msgTag msg) = some p ∧ sm.heap.lookup p = some s ∧
        s.handshakeState = some hs ∧
        readNoiseIKMessage2 N P hs sm.ourPrivateKey msg = .ok (plaintext, nsrKeys) ∧
        ∃ v, applyNSRKeysToSessionWhileLocked P env.turns p nsrKeys true
          (s, sm.deleteTags [msgTag msg]) = some (.ok (), v) := by
  rw [← tryDecryptExisting_eq_none_iff P msg]
  unfold opened
  rcases hexisting : sm.tryDecryptExisting P env.now (msgTag msg) msg with ⟨_ | e | opened, sm₁⟩
  · have hreply : (sm₁.tryDecryptNSR (handshakes N P env) (msgTag msg) msg).1 =
        some (.ok plaintext) ↔ ∃ p s hs nsrKeys, sm.nsrTagIndex.lookup (msgTag msg) = some p ∧
          sm.heap.lookup p = some s ∧
          s.handshakeState = some hs ∧
          readNoiseIKMessage2 N P hs sm.ourPrivateKey msg = .ok (plaintext, nsrKeys) ∧
          ∃ v, applyNSRKeysToSessionWhileLocked P env.turns p nsrKeys true
            (s, sm.deleteTags [msgTag msg]) = some (.ok (), v) := by
      rcases tables_of_tryDecryptExisting hexisting with ⟨hlook, rfl⟩ | rfl
      · have hindex : ∀ tag, (sm₁.deleteTags [msgTag msg]).tagIndex.lookup tag =
            sm₁.tagIndex.lookup tag := by
          intro tag
          by_cases htag : tag = msgTag msg
          · rw [htag, hlook]
            exact AList.lookup_erase _ _
          · exact AList.lookup_erase_ne htag
        rw [tryDecryptNSR_ok_iff]
        have hcongr : ∀ p s nsrKeys,
            (∃ v, applyNSRKeysToSessionWhileLocked P env.turns p nsrKeys true (s, sm₁) =
              some (.ok (), v)) ↔
            ∃ v, applyNSRKeysToSessionWhileLocked P env.turns p nsrKeys true
              (s, sm₁.deleteTags [msgTag msg]) = some (.ok (), v) :=
          fun p s nsrKeys => applyNSRKeys_congr hindex rfl
        simp only [hcongr]
      · exact tryDecryptNSR_ok_iff
    rw [← hreply]
    dsimp only
    constructor
    · grind
    · rintro ⟨hlen, -, hok⟩
      rw [if_neg (Nat.not_lt.mpr hlen), hok]
  · grind
  · grind

/-! ## After a forged message -/

theorem error_of_not_authentic (h : sm.authentic N P env msg = false) :
    ∃ e, (sm.decrypt N P env msg).1 = .error e := by
  unfold authentic at h
  have hspec := decrypts (N := N) (P := P) env msg sm
  generalize sm.decrypt N P env msg = result at hspec ⊢
  cases hspec with
  | short e hlen => exact ⟨e, rfl⟩
  | @existing answer sm' hlen hexisting =>
    rw [decide_eq_true hlen, Bool.true_and, hexisting] at h
    cases answer with
    | error e => exact ⟨e, rfl⟩
    | ok opened => cases h
  | @reply answer sm₁ sm' hlen hexisting hreply =>
    rw [decide_eq_true hlen, Bool.true_and, hexisting] at h
    cases answer with
    | error e => exact ⟨e, rfl⟩
    | ok plaintext =>
      obtain ⟨p, s, hs₁, nsrKeys, hp, hs, hstate, hread, -⟩ :=
        tryDecryptNSR_ok_iff.mp (congrArg Prod.fst hreply)
      dsimp only at h
      rw [hp] at h
      dsimp only at h
      rw [hs, Option.bind_some, hstate, Option.any_some, hread] at h
      cases h
  | @oneTime answer sm₁ sm' hlen hexisting hreply honeTime =>
    rw [decide_eq_true hlen, Bool.true_and, hexisting] at h
    dsimp only at h
    rw [hreply] at h
    rw [honeTime] at h
    cases answer with
    | error e => exact ⟨e, rfl⟩
    | ok plaintext => cases h
  | @newSession answer sm₁ sm' hlen hexisting hreply honeTime hnew =>
    rw [decide_eq_true hlen, Bool.true_and, hexisting] at h
    have hone : (sm₁.tryDecryptOneTimeKey P (msgTag msg) msg).1 = none := by
      unfold tryDecryptOneTimeKey
      rw [honeTime]
    dsimp only at h
    rw [hreply] at h
    rw [hone] at h
    unfold decryptNewSession at hnew
    rcases hread : readNoiseIKMessage1 N sm₁.ourPrivateKey sm₁.ourPublicKey msg with e | m
    · rw [hread] at hnew
      cases hnew
      exact ⟨_, rfl⟩
    · rw [hread] at h
      cases h

def replyTags (N : NoiseLibrary) (P : Primitives δ σ τ) (env : Env) (msg : Bytes)
    (sm : SessionManager δ σ τ) : List Tag :=
  match ((sm.nsrTagIndex.lookup (msgTag msg)).bind sm.heap.lookup).bind Session.handshakeState with
  | none => []
  | some hs =>
    match readNoiseIKMessage2 N P hs sm.ourPrivateKey msg with
    | .error _ => []
    | .ok (_, nsrKeys) => newTags P env.turns nsrKeys.keyBA

/-- The tags that a session draws next are neither the tag of another message nor tags that this
message registers. Tags have 8 bytes. -/
def NoCollision (N : NoiseLibrary) (P : Primitives δ σ τ) (env : Env) (msg msg' : Bytes)
    (sm : SessionManager δ σ τ) : Prop :=
  ∀ tag ∈ sm.upcomingTags P (msgTag msg'), tag ≠ msgTag msg ∧ tag ∉ sm.replyTags N P env msg

instance (env : Env) (msg msg' : Bytes) (sm : SessionManager δ σ τ) :
    Decidable (NoCollision N P env msg msg' sm) :=
  inferInstanceAs (Decidable (∀ tag ∈ sm.upcomingTags P (msgTag msg'), _))

/-- What a forged message takes away: the tag of an Existing Session message, or its keys where the
window overflows; and the handshake that a reply ends. -/
def Blocks (env' : Env) (msg' : Bytes) (o : Opened) (msg : Bytes) (sm : SessionManager δ σ τ) :
    Prop :=
  8 ≤ msg'.length ∧
    match o with
    | .existing _ => msgTag msg' = msgTag msg ∨
      24 ≤ msg'.length ∧
        sm.existingAt env'.now (msgTag msg') = sm.tagIndex.lookup (msgTag msg) ∧
        ∃ p ∈ sm.tagIndex.lookup (msgTag msg), ∃ s ∈ sm.heap.lookup p, s.Overflows
    | .reply _ => sm.existingAt env'.now (msgTag msg') = none ∧
      sm.nsrTagIndex.lookup (msgTag msg') = sm.nsrTagIndex.lookup (msgTag msg)

section
variable (hafter : Aftermath P env' msg' sm sm') (hfresh : NoCollision N P env msg msg' sm)
  {now : Time} {tag : Tag}
include hafter hfresh

omit hfresh in
theorem isSessionValid_after (hs : s'.lastUsed = s.lastUsed) :
    sm'.isSessionValid now s' = sm.isSessionValid now s := by
  have htables := hafter.tables
  unfold isSessionValid
  rw [hs, htables]

omit hfresh in
theorem existingAt_after (hnew : tag ∉ sm.upcomingTags P (msgTag msg'))
    (h : sm.existingAt now tag = none) : sm'.existingAt now tag = none := by
  by_contra hsome
  obtain ⟨q, hq⟩ := Option.ne_none_iff_exists'.mp hsome
  obtain ⟨hlook, t', ht', hvalid⟩ := existingAt_eq_some.mp hq
  by_cases htag : 8 ≤ msg'.length ∧ tag = msgTag msg'
  · have hused := hafter.used htag.1 (htag.2 ▸ hnew)
    rw [← htag.2, hlook] at hused
    cases hused
  · have hentry := hafter.entry tag hnew fun h8 he => htag ⟨h8, he⟩
    rcases ht : sm.heap.lookup q with _ | t
    · exact absurd ((hafter.absent q ht).symm.trans ht') nofun
    · obtain ⟨t₁, ht₁, hleft⟩ := hafter.sessions q t ht
      cases ht₁.symm.trans ht'
      rw [isSessionValid_after hafter hleft.lastUsed] at hvalid
      rw [existingAt_eq_some.mpr ⟨hentry.1.symm.trans hlook, t, ht, hvalid⟩] at h
      cases h

omit hfresh in
theorem collides_after (hnew : tag ∉ sm.upcomingTags P (msgTag msg'))
    (hcollides : sm'.collides p tag) :
    (8 ≤ msg'.length → tag ≠ msgTag msg') ∧ sm.collides p tag := by
  have hne : 8 ≤ msg'.length → tag ≠ msgTag msg' := by
    rintro h8 rfl
    unfold collides at hcollides
    rw [hafter.used h8 hnew] at hcollides
    cases hcollides
  refine ⟨hne, ?_⟩
  unfold collides at hcollides ⊢
  rwa [(hafter.entry tag hnew hne).1] at hcollides

theorem opened_existing_after (h : sm.opened N P env msg = some (.existing plaintext)) :
    sm'.opened N P env msg = some (.existing plaintext) ↔
      ¬Blocks env' msg' (.existing plaintext) msg sm := by
  obtain ⟨hlen, p, s, hp, hs, hvalid, sessionTag, hok⟩ := opened_existing_iff.mp h
  obtain ⟨s', hs', hleft⟩ := hafter.sessions p s hs
  have hnew : msgTag msg ∉ sm.upcomingTags P (msgTag msg') := fun hmem => (hfresh _ hmem).1 rfl
  unfold Blocks
  by_cases htag : 8 ≤ msg'.length ∧ msgTag msg' = msgTag msg
  · refine iff_of_false (fun hopened => ?_) (not_not.mpr ⟨htag.1, Or.inl htag.2⟩)
    obtain ⟨-, q, -, hq, -⟩ := opened_existing_iff.mp hopened
    have hused := hafter.used htag.1 (htag.2 ▸ hnew)
    rw [htag.2, hq] at hused
    cases hused
  · have hentry := hafter.entry (msgTag msg) hnew fun h8 he => htag ⟨h8, he.symm⟩
    have hstill : sm'.opened N P env msg = some (.existing plaintext) ↔
        ∃ sessionTag, (s'.decryptExistingSession P env.now (msg.drop 8) (msgTag msg)
          (sm.tagCounterIndex.lookup (msgTag msg))).1 = .ok (plaintext, sessionTag) := by
      rw [opened_existing_iff, hentry.1, hentry.2]
      constructor
      · grind
      · exact fun hopened => ⟨hlen, p, s', hp, hs',
          (isSessionValid_after hafter hleft.lastUsed).trans hvalid, hopened⟩
    rw [hstill]
    by_cases hfilled : 24 ≤ msg'.length ∧ sm.existingAt env'.now (msgTag msg') = some p
    · obtain ⟨s₁, hfill⟩ := filled_of_ok hok
      have hkeys := hleft.keys
      rw [if_pos hfilled, hfill] at hkeys
      rw [hkeys.decrypt]
      by_cases hover : s.Overflows
      · refine iff_of_false ?_ (not_not.mpr ⟨by omega, Or.inr ⟨hfilled.1, ?_, p, hp, s, hs, hover⟩⟩)
        · rintro ⟨tag, hopened⟩
          obtain ⟨e, he⟩ := Session.error_of_overflows hover hok hfill
          rw [he] at hopened
          cases hopened
        · rw [hfilled.2, hp]
      · grind [Session.decryptExistingSession_of_filled]
    · have hkeys := hleft.keys
      rw [if_neg hfilled] at hkeys
      rw [hkeys.decrypt]
      refine iff_of_true ⟨sessionTag, hok⟩ ?_
      rintro ⟨h8, he | ⟨h24, hexisting, -⟩⟩
      · exact htag ⟨h8, he⟩
      · exact hfilled ⟨h24, hexisting.trans hp⟩

theorem opened_reply_after (h : sm.opened N P env msg = some (.reply plaintext)) :
    sm'.opened N P env msg = some (.reply plaintext) ↔
      ¬Blocks env' msg' (.reply plaintext) msg sm := by
  obtain ⟨hlen, hexisting, p, s, hs₁, nsrKeys, hp, hs, hstate, hread, happly⟩ :=
    opened_reply_iff.mp h
  obtain ⟨s', hs', hleft⟩ := hafter.sessions p s hs
  have hnew : msgTag msg ∉ sm.upcomingTags P (msgTag msg') := fun hmem => (hfresh _ hmem).1 rfl
  have hreplies := hafter.replies (msgTag msg)
  unfold Blocks
  rw [hp]
  by_cases hblocks : 8 ≤ msg'.length ∧ sm.existingAt env'.now (msgTag msg') = none ∧
      sm.nsrTagIndex.lookup (msgTag msg') = some p
  · -- the handshake has ended
    refine iff_of_false (fun hopened => ?_) (not_not.mpr hblocks)
    obtain ⟨-, -, q, t, hs₂, -, hq, ht, hstate', -⟩ := opened_reply_iff.mp hopened
    have hqp : some q = some p := by grind
    obtain rfl := Option.some.inj hqp
    cases hs'.symm.trans ht
    rw [hleft.handshakeState, if_pos hblocks] at hstate'
    cases hstate'
  · refine iff_of_true (opened_reply_iff.mpr ?_) hblocks
    have htables := hafter.tables
    have hkey : sm'.ourPrivateKey = sm.ourPrivateKey := by rw [htables]
    refine ⟨hlen, existingAt_after hafter hnew hexisting, p, s', hs₁, nsrKeys, ?_, hs', ?_,
      hkey ▸ hread, applyNSRKeys_mono ?_ happly⟩
    · grind
    · rw [hleft.handshakeState, if_neg hblocks, hstate]
    · intro tag htag hcollides
      have hreply : tag ∈ sm.replyTags N P env msg := by
        unfold replyTags
        rw [hp, Option.bind_some, hs, Option.bind_some, hstate]
        dsimp only
        rw [hread]
        exact htag
      rw [collides_deleteTags, collides_deleteTags] at hcollides ⊢
      obtain ⟨hpending, hother, hcollides⟩ := hcollides
      obtain ⟨hne, hold⟩ := collides_after hafter (fun hmem => (hfresh tag hmem).2 hreply) hcollides
      exact ⟨fun hmem => hpending (hleft.pendingTags tag hmem hne), hother, hold⟩

end

/-- **A forged message blocks a genuine one** exactly if it has its tag, or is for the session that
awaits the same reply, or overflows the window; where no tags collide. -/
theorem opened_after_forgery {o : Opened} (h : sm.opened N P env msg = some o)
    (hforged : sm.authentic N P env' msg' = false) (hfresh : NoCollision N P env msg msg' sm) :
    (∃ e, (sm.decrypt N P env' msg').1 = .error e) ∧
      ((sm.decrypt N P env' msg').2.opened N P env msg = some o ↔ ¬Blocks env' msg' o msg sm) := by
  refine ⟨error_of_not_authentic hforged, ?_⟩
  have hafter := aftermath hforged
  cases o with
  | existing plaintext => exact opened_existing_after hafter hfresh h
  | reply plaintext => exact opened_reply_after hafter hfresh h

def secondTag : Tag := .copyFrom 8 [1, 0, 0, 0, 6, 0, 0, 0]

/-- The responder opens the first message after one that has only the tag of the second. -/
theorem opened_after_forgery_secondTag :
    ((counting false).decrypt countingNoise countingPrimitives (countingEnv 0 second second)
        secondTag.val).2.opened countingNoise countingPrimitives (countingEnv 0 second second)
      nextKeyMessage = some (.existing nextKeyPayload) := by
  have hno : (((counting false).tagIndex.lookup (msgTag nextKeyMessage)).bind
      (counting false).heap.lookup).all fun s => ¬s.Overflows := by decide +kernel
  refine (opened_after_forgery ?_ ?_ ?_).2.mpr ?_
  · decide +kernel
  · decide +kernel
  · decide +kernel
  · rintro ⟨-, htag | ⟨-, -, p, hp, s, hs, hover⟩⟩
    · revert htag
      decide +kernel
    · rw [hp, Option.bind_some, hs, Option.all_some] at hno
      exact of_decide_eq_true hno hover

/-- The manager with private key 3 awaits a reply. -/
def countingAwaiting : SessionManager ℕ (ℕ × ℕ) (ℕ × ℕ) :=
  HandshakeRun.countingEncrypt.apply countingNoise countingPrimitives
    (countingManager 3 (5 * minute) (2 * minute))

/-- A message with only the tag of the first message, and a forged reply with the awaited tag, block
the genuine ones. -/
theorem forgery_blocks :
    let env := countingEnv 0 second second
    let decrypt := decrypt countingNoise countingPrimitives env
    let opened := opened countingNoise countingPrimitives env
    ((counting false).authentic countingNoise countingPrimitives env nextKeyTag.val = false ∧
        opened nextKeyMessage (counting false) = some (.existing nextKeyPayload) ∧
        opened nextKeyMessage (decrypt nextKeyTag.val (counting false)).2 = none) ∧
      countingAwaiting.authentic countingNoise countingPrimitives env HandshakeRun.forgedReply =
          false ∧
        opened HandshakeRun.countingReply countingAwaiting = some (.reply countingPayload) ∧
        opened HandshakeRun.countingReply
          (decrypt HandshakeRun.forgedReply countingAwaiting).2 = none := by
  decide +kernel

end SessionManager
end GoNoise.Ratchet
