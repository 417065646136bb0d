import GoNoise.Library.Eviction
import GoNoise.Library.Traces
import GoNoise.SSU2.Wire.Block
import GoNoise.SSU2.Wire.Packet

/-!
# `ssu2/wire/token_cache.go`: retry tokens

A token is a random value that the listener hands to an address and accepts once from it. The cache
holds one token for each address, under the text of the address, and drops the oldest when it is
full.
-/

namespace GoNoise.SSU2

open Trace GoMap

/-! ## The code -/

def maxTokenCacheSize : ℕ := 10000

structure Token where
  value : Bytes
  address : UDPAddr
  createdAt : Time
  deriving DecidableEq

/-- `TokenCache`; both constructors replace a bound that is not positive. -/
structure TokenCache where
  /-- the key is the text of the address -/
  tokens : GoMap String Token
  ttl : Duration
  maxSize : ℕ
  maxSize_pos : 0 < maxSize

namespace TokenCache

def newTokenCache (ttl : Duration) : TokenCache :=
  ⟨∅, if ttl ≤ 0 then 60000 * millisecond else ttl, maxTokenCacheSize, by decide⟩

def newTokenCacheWithMaxSize (ttl : Duration) (maxSize : ℤ) : TokenCache :=
  if h : maxSize > 0 then
    { newTokenCache ttl with maxSize := maxSize.toNat, maxSize_pos := by omega }
  else newTokenCache ttl

/-- `evictOldestLocked`; `order` is the order in which Go visits the map. -/
def evictOldestLocked (order : List String) (tc : TokenCache) : TokenCache :=
  match oldest Token.createdAt tc.tokens none (tc.tokens.inOrder order) with
  | none => tc
  | some (oldestKey, _) => { tc with tokens := tc.tokens.erase oldestKey }

/-- The eviction before a token is stored. -/
def makeRoom (order : List String) (tc : TokenCache) : TokenCache :=
  if tc.tokens.size ≥ tc.maxSize then tc.evictOldestLocked order else tc

def validToken (now : Time) (addrStr : String) (tc : TokenCache) : Option Token :=
  (tc.tokens.lookup addrStr).filter fun token => now - token.createdAt ≤ tc.ttl

variable (addrString : UDPAddr → String) {a : UDPAddr} {k : String} {now t : Time}
  {tc tc' : TokenCache} {token : Token} {v : Bytes} (ttl : Duration) (order : List String)
  (maxSize : ℤ)

/-- `GenerateToken`; `random` is what `rand.Read` gives. -/
def generateToken (now : Time) (random : Except Oops Bytes) (order : List String)
    (addr : Option UDPAddr) (tc : TokenCache) : Except Oops Bytes × TokenCache :=
  match addr with
  | none => (.error ⟨"NIL_ADDRESS", "wire", [], "address cannot be nil"⟩, tc)
  | some addr =>
    match tc.validToken now (addrString addr) with
    | some existingToken => (.ok existingToken.value, tc)
    | none =>
      match random with
      | .error e => (.error { e.wrapf "failed to generate random token" with
          code := "TOKEN_GENERATION_FAILED", domain := "wire" }, tc)
      | .ok tokenValue =>
        let tc := tc.makeRoom order
        (.ok tokenValue,
          { tc with tokens := tc.tokens.insert (addrString addr) ⟨tokenValue, addr, now⟩ })

def validateToken (now : Time) (tokenValue : Bytes) (addr : Option UDPAddr) (tc : TokenCache) :
    Bool :=
  match addr with
  | none => false
  | some addr =>
    if tokenValue.length ≠ tokenSize then false
    else (tc.validToken now (addrString addr)).any fun token => token.value = tokenValue

def consumeToken (now : Time) (tokenValue : Bytes) (addr : Option UDPAddr) (tc : TokenCache) :
    Bool × TokenCache :=
  match addr with
  | none => (false, tc)
  | some addr =>
    let addrStr := addrString addr
    if tokenValue.length ≠ tokenSize then (false, tc)
    else
      match tc.tokens.lookup addrStr with
      | none => (false, tc)
      | some token =>
        if now - token.createdAt > tc.ttl then
          (false, { tc with tokens := tc.tokens.erase addrStr })
        else if token.value ≠ tokenValue then (false, tc)
        else (true, { tc with tokens := tc.tokens.erase addrStr })

def cleanup (now : Time) (tc : TokenCache) : ℕ × TokenCache :=
  let expired := tc.tokens.keys.filter fun addrStr => tc.validToken now addrStr = none
  (expired.length, { tc with tokens := expired.foldl (fun m k => m.erase k) tc.tokens })

def clear (tc : TokenCache) : TokenCache := { tc with tokens := ∅ }

def invalidateAddress (addr : Option UDPAddr) (tc : TokenCache) : TokenCache :=
  match addr with
  | none => tc
  | some addr => { tc with tokens := tc.tokens.erase (addrString addr) }

/-! ## What the operations do to the map -/

/-- The tokens of the first are tokens of the second, and there are no more of them. -/
structure Within (tc' tc : TokenCache) : Prop where
  tokens : ∀ k token, tc'.tokens.lookup k = some token → tc.tokens.lookup k = some token
  size : tc'.tokens.size ≤ tc.tokens.size
  ttl : tc'.ttl = tc.ttl
  maxSize : tc'.maxSize = tc.maxSize

@[refl] theorem Within.refl (tc : TokenCache) : Within tc tc :=
    ⟨fun _ _ h => h, le_refl _, rfl, rfl⟩

theorem within_erase (tc : TokenCache) (k : String) :
    Within { tc with tokens := tc.tokens.erase k } tc :=
  ⟨fun _ _ h => (lookup_of_lookup_erase h).2, size_erase_le _ _, rfl, rfl⟩

theorem within_makeRoom (tc : TokenCache) : Within (tc.makeRoom order) tc := by
  rw [makeRoom, evictOldestLocked]
  split_ifs
  · split
    · rfl
    · exact within_erase tc _
  · rfl

theorem size_makeRoom_lt
    (h : tc.tokens.size ≤ tc.maxSize) : (tc.makeRoom order).tokens.size < tc.maxSize := by
  rw [makeRoom]
  split_ifs with hfull
  · obtain ⟨k, hk⟩ := exists_mem_of_size_pos (tc.maxSize_pos.trans_le hfull)
    obtain ⟨k', hk', hold, -⟩ := oldest_spec Token.createdAt (fun _ => mem_inOrder.mp)
      (List.ne_nil_of_mem (mem_inOrder.mpr hk : k ∈ tc.tokens.inOrder order))
    rw [evictOldestLocked, hold]
    have hsize := size_erase_of_mem (mem_inOrder.mp hk')
    show size (tc.tokens.erase k') < tc.maxSize
    omega
  · omega

theorem validToken_eq_some_iff :
    tc.validToken now k = some token ↔
      tc.tokens.lookup k = some token ∧ now - token.createdAt ≤ tc.ttl := by
  simp [validToken, Option.filter_eq_some_iff]

/-- `GenerateToken` makes a token, or nothing changes. -/
theorem generateToken_cases (now : Time) (random : Except Oops Bytes) (order : List String)
    (addr : Option UDPAddr) (tc : TokenCache) :
    (tc.generateToken addrString now random order addr).2 = tc ∧
        ((tc.generateToken addrString now random order addr).1.toOption.isSome = true →
          ∃ a ∈ addr, (tc.validToken now (addrString a)).isSome = true) ∨
      ∃ a v, addr = some a ∧ random = .ok v ∧ tc.validToken now (addrString a) = none ∧
        tc.generateToken addrString now random order addr = (.ok v, { tc.makeRoom order with
          tokens := (tc.makeRoom order).tokens.insert (addrString a) ⟨v, a, now⟩ }) := by
  unfold generateToken
  cases addr with
  | none => exact Or.inl ⟨rfl, by simp [Except.toOption]⟩
  | some a => grind [Except.toOption]

theorem consumeToken_cases (now : Time) (v : Bytes) (addr : Option UDPAddr) (tc : TokenCache) :
    (tc.consumeToken addrString now v addr).1 = false ∧
        Within (tc.consumeToken addrString now v addr).2 tc ∨
      ∃ a token, addr = some a ∧ tc.validToken now (addrString a) = some token ∧ token.value = v ∧
        tc.consumeToken addrString now v addr =
          (true, { tc with tokens := tc.tokens.erase (addrString a) }) := by
  unfold consumeToken
  cases addr with
  | none => exact Or.inl ⟨rfl, .refl tc⟩
  | some a =>
    dsimp only
    split_ifs
    · exact Or.inl ⟨rfl, .refl tc⟩
    cases hlook : tc.tokens.lookup (addrString a) with
    | none => exact Or.inl ⟨rfl, .refl tc⟩
    | some token =>
      dsimp only
      split_ifs with hexpired hvalue
      · exact Or.inl ⟨rfl, within_erase tc _⟩
      · exact Or.inl ⟨rfl, .refl tc⟩
      · exact Or.inr ⟨a, token, rfl, validToken_eq_some_iff.mpr ⟨hlook, not_lt.mp hexpired⟩,
          not_not.mp hvalue, rfl⟩

theorem validateToken_eq (now : Time) (v : Bytes) (addr : Option UDPAddr) (tc : TokenCache) :
    tc.validateToken addrString now v addr = (tc.consumeToken addrString now v addr).1 := by
  unfold validateToken consumeToken
  cases addr with
  | none => rfl
  | some a =>
    dsimp only
    split_ifs
    · rfl
    cases hlook : tc.tokens.lookup (addrString a) with
    | none => simp [validToken, hlook]
    | some token =>
      dsimp only
      split_ifs with hexpired hvalue
      · have hnone : tc.validToken now (addrString a) = none := by
          rw [validToken, hlook, Option.filter_eq_none_iff]
          rintro token' ⟨⟩
          simpa only [decide_eq_true_eq, not_le] using hexpired
        rw [hnone, Option.any_none]
      all_goals
        rw [validToken_eq_some_iff.mpr ⟨hlook, not_lt.mp hexpired⟩, Option.any_some]
        simpa using hvalue

theorem consumeToken_eq_true_iff :
    (tc.consumeToken addrString now v (some a)).1 = true ↔
      v.length = tokenSize ∧ ∃ token, tc.validToken now (addrString a) = some token ∧
        token.value = v := by
  rw [← validateToken_eq, validateToken]
  split_ifs with hlen
  · exact iff_of_false id fun h => hlen h.1
  · simp [Option.any_eq_true, not_not.mp hlen]

theorem stored_of_generateToken {random : Except Oops Bytes} {order : List String}
    (h : tc.generateToken addrString now random order (some a) = (.ok v, tc'))
    (hlook : tc'.tokens.lookup k = some token) :
    tc.tokens.lookup k = some token ∨ k = addrString a ∧ token.value = v := by
  rcases generateToken_cases addrString now random order (some a) tc with
    ⟨hsame, -⟩ | ⟨a', w, ha, -, -, hres⟩
  · grind
  · obtain rfl := Option.some.inj ha
    rw [h] at hres
    cases hres
    rcases lookup_of_lookup_insert hlook with ⟨hk, rfl⟩ | hold
    · exact Or.inr ⟨hk, rfl⟩
    · exact Or.inl ((within_makeRoom order tc).tokens k token hold)

theorem lookup_of_generateToken {random : Except Oops Bytes} {order : List String}
    (h : tc.generateToken addrString now random order (some a) = (.ok v, tc')) :
    ∃ token, tc'.tokens.lookup (addrString a) = some token ∧ token.value = v := by
  unfold generateToken at h
  dsimp only at h
  split at h
  · rename_i token hvalid
    cases h
    exact ⟨token, (validToken_eq_some_iff.mp hvalid).1, rfl⟩
  · split at h
    · cases h
    · cases h
      exact ⟨_, AList.lookup_insert _, rfl⟩

theorem within_cleanup (now : Time) (tc : TokenCache) : Within (tc.cleanup now).2 tc :=
  ⟨fun _ _ h => lookup_of_lookup_foldl_erase h, size_foldl_erase_le _ _, rfl, rfl⟩

/-! ## A token for an address whose token has expired -/

theorem validToken_makeRoom {k' : String} {old : Token} (hold : tc.tokens.lookup k = some old)
    (hexpired : now - old.createdAt > tc.ttl) (hvalid : tc.validToken now k' = some token) :
    (tc.makeRoom order).validToken now k' = some token := by
  rw [validToken_eq_some_iff] at hvalid ⊢
  refine ⟨?_, (within_makeRoom order tc).ttl ▸ hvalid.2⟩
  unfold makeRoom evictOldestLocked
  split_ifs
  · split
    · exact hvalid.1
    · rename_i oldestKey _ holdest
      have hne : k' ≠ oldestKey := by
        rintro rfl
        have hle := time_le_of_oldest Token.createdAt order holdest hvalid.1 hold
        lia
      exact (AList.lookup_erase_ne hne).trans hvalid.1
  · exact hvalid.1

/-- **A new token for an expired one harms no other address.** In whatever state the cache is, if
`GenerateToken` is called for an address whose token has expired, every token that has not expired
is still there, although the cache may be full and the oldest token of all is dropped. -/
theorem generateToken_keeps_valid (now : Time) (random : Except Oops Bytes) (order : List String)
    (addr : UDPAddr) {tc : TokenCache} {old : Token}
    (hold : tc.tokens.lookup (addrString addr) = some old) (hexpired : now - old.createdAt > tc.ttl)
    {k : String} {token : Token} (hvalid : tc.validToken now k = some token) :
    (tc.generateToken addrString now random order (some addr)).2.validToken now k = some token := by
  rcases generateToken_cases addrString now random order (some addr) tc with
    ⟨hsame, -⟩ | ⟨a, v, ha, -, hnone, hres⟩
  · rwa [hsame]
  · obtain rfl := Option.some.inj ha
    have hkept := validToken_makeRoom order hold hexpired hvalid
    have hne : k ≠ addrString addr := by grind
    rw [hres]
    rw [validToken_eq_some_iff] at hkept ⊢
    exact ⟨(AList.lookup_insert_ne hne).trans hkept.1, hkept.2⟩

/-- A full cache of two tokens: the one of 9001 stays when the one of 9000 is issued again. -/
theorem generateToken_keeps_valid_two :
    let text : UDPAddr → String := fun addr => toString addr.port
    let generate (tc : TokenCache) (now : Time) (v : Bytes) (port : ℕ) :=
      (tc.generateToken text now (.ok v) [] (some ⟨[], port⟩)).2
    let tc := generate (generate (newTokenCacheWithMaxSize 10 2) 0 [1] 9000) 5 [2] 9001
    tc.tokens.size ≥ tc.maxSize ∧
      (generate tc 11 [3] 9000).validToken 11 "9001" = some ⟨[2], ⟨[], 9001⟩, 5⟩ :=
  ⟨by decide +kernel, generateToken_keeps_valid _ 11 (.ok [3]) [] ⟨[], 9000⟩
    (show _ = some ⟨[1], ⟨[], 9000⟩, 0⟩ by decide +kernel) (by decide +kernel) (by decide +kernel)⟩

/-! ## Runs -/

/-- What happened to the tokens. -/
inductive Entry where
  | generated (v : Bytes) (addr : UDPAddr) (now : Time)
  | consumed (v : Bytes) (addr : UDPAddr) (now : Time)
  | invalidated (addr : UDPAddr)
  | cleared
  deriving DecidableEq

def Entry.consumes (v : Bytes) : Entry → Bool
  | .consumed w _ _ => w = v
  | _ => false

/-- After it the value must not be accepted from an address of that text. -/
def Entry.Revokes (v : Bytes) (addrStr : String) : Entry → Prop
  | .generated _ _ _ => False
  | .consumed w _ _ => w = v
  | .invalidated addr => addrString addr = addrStr
  | .cleared => True

inductive Call where
  | generateToken (random : Except Oops Bytes) (order : List String) (addr : Option UDPAddr)
  | consumeToken (v : Bytes) (addr : Option UDPAddr)
  | cleanup
  | invalidateAddress (addr : Option UDPAddr)
  | clear

/-- A call, with what the clock shows. -/
structure Event where
  now : Time
  call : Call

/-- The random value that the call may use. -/
def Event.random (e : Event) : Option Bytes :=
  match e.call with
  | .generateToken (.ok v) _ _ => some v
  | _ => none

/-- The cache and its history. -/
structure Run where
  cache : TokenCache
  log : List Entry

/-- What a call does, and what is written down of it. -/
def Run.step (r : Run) (e : Event) : Run :=
  match e.call with
  | .generateToken random order addr =>
    match r.cache.generateToken addrString e.now random order addr, addr with
    | (.ok v, tc), some a =>
      -- a token that was there already is handed out again, and not generated
      if (r.cache.validToken e.now (addrString a)).isSome then ⟨tc, r.log⟩
      else ⟨tc, r.log ++ [.generated v a e.now]⟩
    | (_, tc), _ => ⟨tc, r.log⟩
  | .consumeToken v addr =>
    match r.cache.consumeToken addrString e.now v addr, addr with
    | (true, tc), some a => ⟨tc, r.log ++ [.consumed v a e.now]⟩
    | (_, tc), _ => ⟨tc, r.log⟩
  | .cleanup => ⟨(r.cache.cleanup e.now).2, r.log⟩
  | .invalidateAddress addr =>
    ⟨r.cache.invalidateAddress addrString addr, r.log ++ (addr.map Entry.invalidated).toList⟩
  | .clear => ⟨r.cache.clear, r.log ++ [.cleared]⟩

/-- What a step can do. -/
inductive Change (e : Event) (r : Run) : Run → Prop
  | dropped {tc : TokenCache} (new : List Entry) (hwithin : Within tc r.cache)
      (hnew : ∀ x ∈ new, (∃ a, x = .invalidated a) ∨ x = .cleared)
      (hkept : ∀ k token, tc.tokens.lookup k = some token →
        ∀ x ∈ new, ¬ x.Revokes addrString token.value k) : Change e r ⟨tc, r.log ++ new⟩
  | generated {tc : TokenCache} (v : Bytes) (a : UDPAddr) (hwithin : Within tc r.cache)
      (hroom : r.cache.tokens.size ≤ r.cache.maxSize → tc.tokens.size < tc.maxSize)
      (hrandom : e.random = some v) :
      Change e r ⟨{ tc with tokens := tc.tokens.insert (addrString a) ⟨v, a, e.now⟩ },
        r.log ++ [.generated v a e.now]⟩
  | consumed (a : UDPAddr) (token : Token)
      (hvalid : r.cache.validToken e.now (addrString a) = some token) :
      Change e r ⟨{ r.cache with tokens := r.cache.tokens.erase (addrString a) },
        r.log ++ [.consumed token.value a e.now]⟩

theorem Change.silent {e : Event} {r : Run} (hwithin : Within tc r.cache) :
    Change addrString e r ⟨tc, r.log⟩ := by
  have h : Change addrString e r ⟨tc, r.log ++ []⟩ := .dropped [] hwithin (by simp) (by simp)
  rwa [List.append_nil] at h

theorem step_change (r : Run) (e : Event) : Change addrString e r (r.step addrString e) := by
  obtain ⟨now, call⟩ := e
  cases call with
  | generateToken random order addr =>
    rcases generateToken_cases addrString now random order addr r.cache with
      ⟨hsame, hexisting⟩ | ⟨a, v, rfl, rfl, hnone, hres⟩
    · generalize hgen :
        r.cache.generateToken addrString now random order addr = res at hsame hexisting
      obtain ⟨res, tc⟩ := res
      obtain rfl : tc = r.cache := hsame
      have hstep : r.step addrString ⟨now, .generateToken random order addr⟩ =
        ⟨r.cache, r.log⟩ := by
        simp only [Run.step, hgen]
        cases res with
        | error err => rfl
        | ok v =>
          obtain ⟨a, rfl, hsome⟩ := hexisting rfl
          exact if_pos hsome
      rw [hstep]
      exact .silent addrString (.refl _)
    · have hstep : r.step addrString ⟨now, .generateToken (.ok v) order (some a)⟩ =
          ⟨{ r.cache.makeRoom order with
            tokens := (r.cache.makeRoom order).tokens.insert (addrString a) ⟨v, a, now⟩ },
            r.log ++ [.generated v a now]⟩ := by
        simp only [Run.step, hres, hnone, Option.isSome_none, Bool.false_eq_true, if_false]
      rw [hstep]
      refine .generated v a (within_makeRoom order r.cache) (fun h => ?_) rfl
      rw [(within_makeRoom order r.cache).maxSize]
      exact size_makeRoom_lt order h
  | consumeToken v addr =>
    rcases consumeToken_cases addrString now v addr r.cache with
      ⟨hfalse, hwithin⟩ | ⟨a, token, rfl, hvalid, rfl, hres⟩
    · have hstep : r.step addrString ⟨now, .consumeToken v addr⟩ =
          ⟨(r.cache.consumeToken addrString now v addr).2, r.log⟩ := by grind [Run.step]
      rw [hstep]
      exact .silent addrString hwithin
    · have hstep : r.step addrString ⟨now, .consumeToken token.value (some a)⟩ =
          ⟨{ r.cache with tokens := r.cache.tokens.erase (addrString a) },
            r.log ++ [.consumed token.value a now]⟩ := by
        simp only [Run.step, hres]
      rw [hstep]
      exact .consumed a token hvalid
  | cleanup => exact .silent addrString (within_cleanup now r.cache)
  | invalidateAddress addr =>
    cases addr with
    | none => exact .dropped [] (.refl _) (by simp) (by simp)
    | some a =>
      refine .dropped [.invalidated a] (within_erase r.cache _) (by simp) fun k token hlook x hx =>
        ?_
      rw [List.mem_singleton.mp hx]
      exact fun hrev => (lookup_of_lookup_erase hlook).1 hrev.symm
  | clear =>
    refine .dropped [.cleared] ⟨fun k token h => ?_, Nat.zero_le _, rfl, rfl⟩ (by simp)
      fun k token h => ?_
    all_goals cases h

/-- Along the log the value was generated at `t` for an address of that text, and not revoked
since. -/
def Live (log : List Entry) (v : Bytes) (addrStr : String) (t : Time) : Prop :=
  ∃ pre a post, log = pre ++ .generated v a t :: post ∧ addrString a = addrStr ∧
    ∀ x ∈ post, ¬ x.Revokes addrString v addrStr

variable {addrString}

theorem Live.append {log new : List Entry} (h : Live addrString log v k t)
    (hnew : ∀ x ∈ new, ¬ x.Revokes addrString v k) : Live addrString (log ++ new) v k t := by
  obtain ⟨pre, a, post, rfl, ha, hpost⟩ := h
  refine ⟨pre, a, post ++ new, by simp, ha, fun x hx => ?_⟩
  exact (List.mem_append.mp hx).elim (hpost x) (hnew x)

theorem Live.generated_mem {log : List Entry}
    (h : Live addrString log v k t) : ∃ a, .generated v a t ∈ log ∧ addrString a = k := by
  obtain ⟨pre, a, post, rfl, ha, -⟩ := h
  exact ⟨a, by simp, ha⟩

/-- What holds after the calls `past`. -/
structure Inv (addrString : UDPAddr → String) (tc₀ : TokenCache) (past : List Event) (r : Run) :
    Prop where
  ttl : r.cache.ttl = tc₀.ttl
  maxSize : r.cache.maxSize = tc₀.maxSize
  size : r.cache.tokens.size ≤ r.cache.maxSize
  live : ∀ k token, r.cache.tokens.lookup k = some token →
    Live addrString r.log token.value k token.createdAt
  /-- what was generated is a random value of the past -/
  drawn : ∀ v a t, .generated v a t ∈ r.log → ∃ e ∈ past, e.now = t ∧ e.random = some v
  /-- what was consumed had been generated -/
  consumed : ∀ v a t, .consumed v a t ∈ r.log → ∃ a' t', .generated v a' t' ∈ r.log
  unused : ∀ k token, r.cache.tokens.lookup k = some token →
    ∀ x ∈ r.log, ¬ x.consumes token.value
  distinct : ∀ k token k' token', r.cache.tokens.lookup k = some token →
    r.cache.tokens.lookup k' = some token' → token.value = token'.value → k = k'
  once : ∀ v, r.log.countP (Entry.consumes v) ≤ 1

/-- How a call differs from those before it: the clock does not go back, and no random value comes
twice. -/
def Event.Follows (e' e : Event) : Prop := e'.now ≤ e.now ∧ ∀ v ∈ e'.random, v ∉ e.random

section Step

variable {tc₀ : TokenCache} {past : List Event} {r : Run} {e : Event} {a : UDPAddr}
  {tc : TokenCache}

section
variable (h : Inv addrString tc₀ past r)
include h

theorem Inv.dropped {new : List Entry} (hwithin : Within tc r.cache)
    (hnew : ∀ x ∈ new, (∃ a, x = .invalidated a) ∨ x = .cleared)
    (hkept : ∀ k token, tc.tokens.lookup k = some token →
      ∀ x ∈ new, ¬ x.Revokes addrString token.value k) :
    Inv addrString tc₀ (past ++ [e]) ⟨tc, r.log ++ new⟩ := by
  have hold : ∀ x ∈ r.log ++ new, (∃ a, x = .invalidated a) ∨ x = .cleared ∨ x ∈ r.log := by grind
  refine ⟨hwithin.ttl.trans h.ttl, hwithin.maxSize.trans h.maxSize, ?_, fun k token hlook => ?_,
    fun v a t hmem => ?_, fun v a t hmem => ?_, fun k token hlook x hx => ?_,
    fun k token k' token' hlook hlook' => ?_, fun v => ?_⟩
  · rw [hwithin.maxSize]
    exact hwithin.size.trans h.size
  · exact (h.live k token (hwithin.tokens k token hlook)).append (hkept k token hlook)
  · obtain ⟨a', ha'⟩ | hcl | hmem := hold _ hmem
    · cases ha'
    · cases hcl
    · obtain ⟨e', he', hrest⟩ := h.drawn v a t hmem
      exact ⟨e', List.mem_append_left _ he', hrest⟩
  · obtain ⟨a', ha'⟩ | hcl | hmem := hold _ hmem
    · cases ha'
    · cases hcl
    · obtain ⟨a', t', hgen⟩ := h.consumed v a t hmem
      exact ⟨a', t', List.mem_append_left _ hgen⟩
  · obtain ⟨a', rfl⟩ | rfl | hmem := hold x hx
    · exact Bool.false_ne_true
    · exact Bool.false_ne_true
    · exact h.unused k token (hwithin.tokens k token hlook) x hmem
  · exact h.distinct k token k' token' (hwithin.tokens k token hlook)
      (hwithin.tokens k' token' hlook')
  · have hzero : new.countP (Entry.consumes v) = 0 := by
      rw [List.countP_eq_zero]
      intro x hx
      obtain ⟨a', rfl⟩ | rfl := hnew x hx <;> exact Bool.false_ne_true
    rw [List.countP_append, hzero]
    exact h.once v

theorem Inv.generated {v : Bytes} (hwithin : Within tc r.cache)
    (hroom : r.cache.tokens.size ≤ r.cache.maxSize → tc.tokens.size < tc.maxSize)
    (hrandom : e.random = some v) (hfollows : ∀ e' ∈ past, Event.Follows e' e) :
    Inv addrString tc₀ (past ++ [e])
      ⟨{ tc with tokens := tc.tokens.insert (addrString a) ⟨v, a, e.now⟩ },
        r.log ++ [.generated v a e.now]⟩ := by
  -- the value is new, so that nothing in the log or in the cache has it
  have hnew : ∀ a' t, .generated v a' t ∉ r.log := by
    intro a' t hmem
    obtain ⟨e', he', -, hv⟩ := h.drawn v a' t hmem
    exact (hfollows e' he').2 v hv hrandom
  have hnotUsed : ∀ x ∈ r.log, ¬ x.consumes v := by
    rintro (_ | ⟨w, a', t⟩ | _ | _) hx hcon
    case consumed =>
      obtain rfl : w = v := of_decide_eq_true hcon
      obtain ⟨a', t', hgen⟩ := h.consumed w a' t hx
      exact hnew a' t' hgen
    all_goals exact Bool.false_ne_true hcon
  have hnotStored : ∀ k token, r.cache.tokens.lookup k = some token → token.value ≠ v := by
    rintro k token hlook rfl
    obtain ⟨a', hgen, -⟩ := (h.live k token hlook).generated_mem
    exact hnew a' _ hgen
  have hgen : ∀ w k, ¬ (Entry.generated v a e.now).Revokes addrString w k := fun _ _ => id
  refine ⟨hwithin.ttl.trans h.ttl, hwithin.maxSize.trans h.maxSize, ?_, fun k token hlook => ?_,
    fun w a' t hmem => ?_, fun w a' t hmem => ?_, fun k token hlook x hx => ?_,
    fun k token k' token' hlook hlook' heq => ?_, fun w => ?_⟩
  · exact (size_insert_le tc.tokens _ _).trans (hroom h.size)
  · rcases lookup_of_lookup_insert hlook with ⟨rfl, rfl⟩ | hlook
    · exact ⟨r.log, a, [], rfl, rfl, by simp⟩
    · refine (h.live k token (hwithin.tokens k token hlook)).append fun x hx => ?_
      rw [List.mem_singleton.mp hx]
      exact hgen _ _
  · rcases List.mem_append.mp hmem with hmem | hmem
    · obtain ⟨e', he', hrest⟩ := h.drawn w a' t hmem
      exact ⟨e', List.mem_append_left _ he', hrest⟩
    · obtain ⟨rfl, rfl, rfl⟩ : w = v ∧ a' = a ∧ t = e.now := by simpa using hmem
      exact ⟨e, by simp, rfl, hrandom⟩
  · obtain ⟨a'', t', hmem⟩ := h.consumed w a' t (by simpa using hmem)
    exact ⟨a'', t', List.mem_append_left _ hmem⟩
  · rcases List.mem_append.mp hx with hx | hx
    · rcases lookup_of_lookup_insert hlook with ⟨rfl, rfl⟩ | hlook
      · exact hnotUsed x hx
      · exact h.unused k token (hwithin.tokens k token hlook) x hx
    · rw [List.mem_singleton.mp hx]
      exact Bool.false_ne_true
  · rcases lookup_of_lookup_insert hlook with ⟨rfl, rfl⟩ | hlook <;>
      rcases lookup_of_lookup_insert hlook' with ⟨rfl, rfl⟩ | hlook'
    · rfl
    · exact absurd heq.symm (hnotStored k' token' (hwithin.tokens _ _ hlook'))
    · exact absurd heq (hnotStored k token (hwithin.tokens _ _ hlook))
    · exact h.distinct k token k' token' (hwithin.tokens _ _ hlook) (hwithin.tokens _ _ hlook') heq
  · rw [List.countP_append]
    exact h.once w

theorem Inv.consume {token : Token} (hlook : r.cache.tokens.lookup (addrString a) = some token) :
    Inv addrString tc₀ (past ++ [e])
      ⟨{ r.cache with tokens := r.cache.tokens.erase (addrString a) },
        r.log ++ [.consumed token.value a e.now]⟩ := by
  have hwithin := within_erase r.cache (addrString a)
  -- a token that stays has another value
  have hother : ∀ k token', (r.cache.tokens.erase (addrString a)).lookup k = some token' →
      token.value ≠ token'.value := by
    intro k token' hlook' heq
    obtain ⟨hne, hlook'⟩ := lookup_of_lookup_erase hlook'
    exact hne (h.distinct _ _ _ _ hlook hlook' heq).symm
  refine ⟨h.ttl, h.maxSize, hwithin.size.trans h.size, fun k token' hlook' => ?_,
    fun w a' t hmem => ?_, fun w a' t hmem => ?_, fun k token' hlook' x hx => ?_,
    fun k token k' token' hlook hlook' => ?_, fun w => ?_⟩
  · refine (h.live k token' (hwithin.tokens k token' hlook')).append fun x hx => ?_
    rw [List.mem_singleton.mp hx]
    exact hother k token' hlook'
  · obtain ⟨e', he', hrest⟩ := h.drawn w a' t (by simpa using hmem)
    exact ⟨e', List.mem_append_left _ he', hrest⟩
  · rcases List.mem_append.mp hmem with hmem | hmem
    · obtain ⟨a'', t', hgen⟩ := h.consumed w a' t hmem
      exact ⟨a'', t', List.mem_append_left _ hgen⟩
    · obtain ⟨rfl, rfl, rfl⟩ : w = token.value ∧ a' = a ∧ t = e.now := by simpa using hmem
      obtain ⟨a'', hgen, -⟩ := (h.live _ _ hlook).generated_mem
      exact ⟨a'', _, List.mem_append_left _ hgen⟩
  · rcases List.mem_append.mp hx with hx | hx
    · exact h.unused k token' (hwithin.tokens k token' hlook') x hx
    · rw [List.mem_singleton.mp hx]
      exact fun heq => hother k token' hlook' (of_decide_eq_true heq)
  · exact h.distinct k token k' token' (hwithin.tokens _ _ hlook) (hwithin.tokens _ _ hlook')
  · rw [List.countP_append]
    by_cases hw : token.value = w
    · have hzero : r.log.countP (Entry.consumes w) = 0 := by
        rw [List.countP_eq_zero, ← hw]
        intro x hx
        simpa using h.unused _ _ hlook x hx
      rw [hzero, List.countP_singleton]
      split_ifs <;> omega
    · simpa [List.countP_singleton, Entry.consumes, hw] using h.once w

theorem Inv.step (hfollows : ∀ e' ∈ past, Event.Follows e' e) :
    Inv addrString tc₀ (past ++ [e]) (r.step addrString e) := by
  have hchange := step_change addrString r e
  generalize r.step addrString e = r' at hchange ⊢
  cases hchange with
  | dropped new hwithin hnew hkept => exact h.dropped hwithin hnew hkept
  | generated v a hwithin hroom hrandom => exact h.generated hwithin hroom hrandom hfollows
  | consumed a token hvalid => exact h.consume (validToken_eq_some_iff.mp hvalid).1

end

end Step

theorem newTokenCacheWithMaxSize_tokens : (newTokenCacheWithMaxSize ttl maxSize).tokens = ∅ := by
  rw [newTokenCacheWithMaxSize]
  split_ifs <;> rfl

theorem inv_new :
    Inv addrString (newTokenCacheWithMaxSize ttl maxSize) []
      ⟨newTokenCacheWithMaxSize ttl maxSize, []⟩ where
  ttl := rfl
  maxSize := rfl
  size := by
    rw [newTokenCacheWithMaxSize_tokens]
    exact Nat.zero_le _
  live k token h := by
    rw [newTokenCacheWithMaxSize_tokens] at h
    cases h
  drawn v a t h := by cases h
  consumed v a t h := by cases h
  unused k token _ x h := by cases h
  distinct k token k' token' h := by simp [newTokenCacheWithMaxSize_tokens]
  once v := Nat.zero_le _

theorem Inv.accepted {tc₀ : TokenCache} {past : List Event} {r : Run}
    (h : Inv addrString tc₀ past r) (hnow : ∀ e ∈ past, e.now ≤ now) {addr : Option UDPAddr}
    (hok : (r.cache.consumeToken addrString now v addr).1 = true) :
    ∃ a t, addr = some a ∧ Live addrString r.log v (addrString a) t ∧ t ≤ now ∧
      now - t ≤ tc₀.ttl := by
  rcases consumeToken_cases addrString now v addr r.cache with
    ⟨hfalse, -⟩ | ⟨a, token, rfl, hvalid, rfl, -⟩
  · rw [hfalse] at hok
    cases hok
  · obtain ⟨hlook, hfresh⟩ := validToken_eq_some_iff.mp hvalid
    have hlive := h.live _ _ hlook
    obtain ⟨a', hgen, -⟩ := hlive.generated_mem
    obtain ⟨e, he, htime, -⟩ := h.drawn _ _ _ hgen
    exact ⟨a, token.createdAt, rfl, hlive, htime ▸ hnow e he, h.ttl ▸ hfresh⟩

/-- **Retry tokens.** With a clock that does not go back and random values that all differ, a value
that `ConsumeToken` accepts from an address was generated for that address at most `ttl` ago and
has not been consumed, invalidated or cleared since; no value is consumed twice; and the cache never
has more than `maxSize` tokens. -/
theorem retry_tokens (addrString : UDPAddr → String) (ttl : Duration) (maxSize : ℤ)
    (es : List Event) (hclock : es.Pairwise fun e e' => e.now ≤ e'.now)
    (hrandom : es.Pairwise fun e e' => ∀ v ∈ e.random, v ∉ e'.random) :
    let tc := newTokenCacheWithMaxSize ttl maxSize
    Always (Run.step addrString) (fun r e => ∀ v addr, e.call = .consumeToken v addr →
        (r.cache.consumeToken addrString e.now v addr).1 = true →
        ∃ a t, addr = some a ∧ Live addrString r.log v (addrString a) t ∧ t ≤ e.now ∧
          e.now - t ≤ tc.ttl) ⟨tc, []⟩ es ∧
      (∀ v, (exec (Run.step addrString) ⟨tc, []⟩ es).log.countP (Entry.consumes v) ≤ 1) ∧
      (exec (Run.step addrString) ⟨tc, []⟩ es).cache.tokens.size ≤ tc.maxSize := by
  intro tc
  have hfollows : es.Pairwise Event.Follows := hclock.and hrandom
  have hinv : Inv addrString tc es (exec (Run.step addrString) ⟨tc, []⟩ es) :=
    exec_of_pairwise (fun past r e h => h.step) (inv_new ttl maxSize) hfollows
  refine ⟨?_, hinv.once, hinv.maxSize ▸ hinv.size⟩
  refine always_of_pairwise (fun past r e h => h.step) ?_ (inv_new ttl maxSize) hfollows
  intro past r e h hpast v addr _ hok
  exact h.accepted (fun e' he' => (hpast e' he').1) hok

/-- A token is generated, handed out again, consumed, and offered once more, with a cache of one
token. -/
def demoCalls : List Event :=
  let alice : UDPAddr := ⟨[192, 0, 2, 1], 9000⟩
  let token : Bytes := [1, 2, 3, 4, 5, 6, 7, 8]
  [⟨0, .generateToken (.ok token) [] (some alice)⟩,
    ⟨5, .generateToken (.ok [8, 7, 6, 5, 4, 3, 2, 1]) [] (some alice)⟩,
    ⟨10, .consumeToken token (some alice)⟩, ⟨15, .consumeToken token (some alice)⟩]

theorem retry_tokens_demoCalls :
    let text : UDPAddr → String := fun addr => toString addr.port
    let run := exec (Run.step text) ⟨newTokenCacheWithMaxSize 10 1, []⟩
    (run (demoCalls.take 2)).cache.tokens.size = 1 ∧
      (run demoCalls).log.countP (Entry.consumes [1, 2, 3, 4, 5, 6, 7, 8]) = 1 ∧
      ∀ v, (run demoCalls).log.countP (Entry.consumes v) ≤ 1 := by
  refine ⟨by decide +kernel, by decide +kernel, ?_⟩
  exact (retry_tokens (fun addr => toString addr.port) 10 1 demoCalls (by simp [demoCalls])
    (by simp [demoCalls, Event.random])).2.1

end TokenCache
end GoNoise.SSU2
