import GoNoise.Conn.Handshake

/-!
# `conn/retry.go`: attempts of a handshake

What an attempt comes to, when the context is cancelled and which case a `select` takes are given
by the environment, turn by turn. Without a backoff the loop never looks at the context.
-/

namespace GoNoise.Conn

/-- One turn of the retry loop. -/
structure Turn where
  /-- the context is cancelled when the attempt starts -/
  cancelled : Bool
  /-- what `Handshake` returns -/
  err : Option Oops
  /-- the state that `Handshake` leaves -/
  state : ConnState
  /-- `ctx.Err()`, or `none` if the `select` of `waitForRetry` takes the case of the timer -/
  wait : Option Oops

namespace ConnConfig

variable (c : ConnConfig)

/-- `shouldRetry`. With `maxRetries` -1 there is no limit, and only a connection in its first state
is tried again. -/
def shouldRetry (attempt : ℕ) (maxRetries : ℤ) (state : ConnState) : Bool :=
  if maxRetries ≠ -1 ∧ maxRetries ≤ attempt then false else state = .init

/-- `waitForRetry`. How long the timer runs is up to the environment. -/
def waitForRetry (t : Turn) : Option Oops := if c.retryBackoff ≤ 0 then none else t.wait

def wrapRetryError (err : Oops) (totalAttempts : ℕ) : Oops :=
  (err.wrapf s!"handshake failed after {totalAttempts} attempts").wrap "HANDSHAKE_RETRY_FAILED"
    "noise" [("total_attempts", totalAttempts), ("max_retries", c.handshakeRetries)]

/-- `executeRetryLoop`, for at most `turns` turns: what it returns, `none` if it goes on after that,
and the attempts that it makes. -/
def executeRetryLoop (env : ℕ → Turn) : (turns attempt : ℕ) → Option (Option Oops) × List Turn
  | 0, _ => (none, [])
  | turns + 1, attempt =>
    let t := env attempt
    match t.err with
    | none => (some none, [t])
    | some e =>
      if ¬ shouldRetry attempt c.handshakeRetries t.state then
        (some (some (c.wrapRetryError e (attempt + 1))), [t])
      else
        match c.waitForRetry t with
        | some e => (some (some (c.wrapRetryError e (attempt + 1))), [t])
        | none =>
          let (result, attempts) := executeRetryLoop env turns (attempt + 1)
          (result, t :: attempts)

def handshakeWithRetry (env : ℕ → Turn) (turns : ℕ) : Option (Option Oops) × List Turn :=
  if c.handshakeRetries = 0 then (some (env 0).err, [env 0])
  else c.executeRetryLoop env turns 0

variable {c} {env : ℕ → Turn}

theorem length_executeRetryLoop_le (turns : ℕ) {attempt : ℕ} (h : attempt ≤ c.handshakeRetries) :
    attempt + (c.executeRetryLoop env turns attempt).2.length ≤ c.handshakeRetries + 1 := by
  fun_induction executeRetryLoop c env turns attempt with
  | case1 => rw [List.length_nil]; omega
  | case2 => rw [List.length_singleton]; omega
  | case3 => rw [List.length_singleton]; omega
  | case4 => rw [List.length_singleton]; omega
  | case5 turns attempt t e he hretry hwait result attempts hrest ih =>
    have hlt : attempt < c.handshakeRetries := by
      unfold shouldRetry at hretry
      grind
    rw [hrest] at ih
    have hle := ih (by push_cast; omega)
    rw [List.length_cons]
    push_cast at hle ⊢
    omega

/-- A wait that begins after the context was cancelled ends with it. -/
def Prompt (env : ℕ → Turn) : Prop := ∀ k, (env k).cancelled → (env k).wait ≠ none

theorem countP_executeRetryLoop_le (hbackoff : 0 < c.retryBackoff) (henv : Prompt env)
    (turns attempt : ℕ) :
    (c.executeRetryLoop env turns attempt).2.countP Turn.cancelled ≤ 1 := by
  fun_induction executeRetryLoop c env turns attempt with
  | case1 => exact Nat.zero_le 1
  | case2 => exact List.countP_le_length
  | case3 => exact List.countP_le_length
  | case4 => exact List.countP_le_length
  | case5 turns attempt t e he hretry hwait result attempts hrest ih =>
    rw [hrest] at ih
    rw [waitForRetry, if_neg (not_le.mpr hbackoff)] at hwait
    have hbefore : ¬ t.cancelled := fun hcancelled => henv attempt hcancelled hwait
    rwa [List.countP_cons_of_neg hbefore]

/-- An environment in which the context is cancelled at the start and every attempt fails. -/
def failing (_ : ℕ) : Turn := ⟨true, some (.errorf "timeout"), .init, some (.errorf "cancelled")⟩

theorem executeRetryLoop_failing (hbackoff : c.retryBackoff ≤ 0) {turns attempt : ℕ}
    (h : c.handshakeRetries = -1 ∨ attempt < c.handshakeRetries) :
    (c.executeRetryLoop failing (turns + 1) attempt).2 =
      failing attempt :: (c.executeRetryLoop failing turns (attempt + 1)).2 := by
  have herr : (failing attempt).err = some (.errorf "timeout") := rfl
  have hretry : shouldRetry attempt c.handshakeRetries (failing attempt).state = true := by
    rw [shouldRetry, if_neg (by omega)]
    rfl
  simp [executeRetryLoop, herr, hretry, waitForRetry, hbackoff]

/-- **Retries.** There is one attempt more than there are retries, at most. After the context was
cancelled there is at most one, whatever the attempts come to, exactly if there is a backoff or
there are no retries. -/
theorem handshakeWithRetry_attempts (c : ConnConfig) :
    (0 ≤ c.handshakeRetries → ∀ env turns,
      (c.handshakeWithRetry env turns).2.length ≤ c.handshakeRetries + 1) ∧
    (validateRetryConfig c.handshakeRetries c.retryBackoff "noise" = .ok () →
      ((∀ env, Prompt env → ∀ turns,
        (c.handshakeWithRetry env turns).2.countP Turn.cancelled ≤ 1) ↔
          0 < c.retryBackoff ∨ c.handshakeRetries = 0)) := by
  refine ⟨fun hretries env turns => ?_, fun hvalid => ⟨fun h => ?_, fun h env henv turns => ?_⟩⟩
  · unfold handshakeWithRetry
    split_ifs with hzero
    · rw [hzero]
      rfl
    · exact (zero_add _).symm.trans_le (length_executeRetryLoop_le turns hretries)
  · by_contra! hnot
    obtain ⟨hbackoff, hzero⟩ := hnot
    have hrange : ¬ c.handshakeRetries < -1 := fun hlt => by
      rw [validateRetryConfig, if_pos hlt] at hvalid
      cases hvalid
    have htwo := h failing (fun _ _ => Option.some_ne_none _) 2
    have hsecond : 0 < (c.executeRetryLoop failing 1 (0 + 1)).2.countP Turn.cancelled := by
      unfold executeRetryLoop
      grind [failing]
    rw [handshakeWithRetry, if_neg hzero, executeRetryLoop_failing hbackoff (by omega),
      List.countP_cons_of_pos rfl] at htwo
    omega
  · unfold handshakeWithRetry
    split_ifs with hzero
    · exact List.countP_le_length
    · exact countP_executeRetryLoop_le (h.resolve_right hzero) henv turns 0

/-- Unlimited retries without a backoff: the attempts go on after the cancellation. -/
theorem handshakeWithRetry_goes_on :
    let c : ConnConfig := ⟨"XX", true, [], [], 30000000000, 0, 0, -1, 0, [], []⟩
    c.validate = .ok () ∧ (c.handshakeWithRetry failing 5).1 = none ∧
      (c.handshakeWithRetry failing 5).2.countP Turn.cancelled = 5 := by
  decide

end ConnConfig
end GoNoise.Conn
