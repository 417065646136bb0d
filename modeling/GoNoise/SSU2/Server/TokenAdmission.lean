import Mathlib.Data.Rat.Defs
import GoNoise.Oops
import GoNoise.Library.Assoc

/-!
# `ssu2/server`: admission

The gates in front of the token cache and of new sessions: `token_admission.go`, and the limiter of
`listener.go` that counts session requests for each IP address. Rates and buckets are exact
rationals.
-/

namespace GoNoise.SSU2

def seconds (d : Duration) : ℚ := d / second

/-! ## First sight -/

structure FirstSightEntry where
  addr : String
  ts : Time
  deriving DecidableEq

/-- `firstSightTracker`. The elements of the list are numbered, and the map refers to them by
number. -/
structure FirstSightTracker where
  entries : GoMap String ℕ
  /-- the least recently used first -/
  order : List (ℕ × FirstSightEntry)
  window : Duration
  maxEntries : ℕ
  /-- the number of the next element -/
  next : ℕ

namespace FirstSightTracker

def newFirstSightTracker (window : Duration) (maxEntries : ℤ) : FirstSightTracker where
  entries := ∅
  order := []
  window := if window ≤ 0 then 30 * second else window
  maxEntries := if maxEntries ≤ 0 then 50000 else maxEntries.toNat
  next := 0

def evictOldestLocked (f : FirstSightTracker) : FirstSightTracker :=
  match f.order with
  | [] => f
  | (_, entry) :: rest => { f with order := rest, entries := f.entries.erase entry.addr }

def record (now : Time) (addr : String) (f : FirstSightTracker) : FirstSightTracker :=
  let f := if f.entries.size ≥ f.maxEntries then f.evictOldestLocked else f
  { f with
    order := f.order ++ [(f.next, ⟨addr, now⟩)]
    entries := f.entries.insert addr f.next
    next := f.next + 1 }

def observeAndAllow (now : Time) (addr : String) (f : FirstSightTracker) :
    Bool × FirstSightTracker :=
  match (f.entries.lookup addr).bind fun elem => f.order.find? (·.1 = elem) with
  | none => (false, f.record now addr)
  | some (elem, entry) =>
    let rest := f.order.filter (·.1 ≠ elem)
    if now - entry.ts < f.window then
      (true, { f with order := rest ++ [(elem, { entry with ts := now })] })
    else
      (false, record now addr { f with order := rest, entries := f.entries.erase addr })

end FirstSightTracker

/-! ## Token buckets -/

structure TokenIssuanceLimiter where
  rate : ℚ
  burst : ℚ
  tokens : ℚ
  lastRefill : Time
  deriving DecidableEq

namespace TokenIssuanceLimiter

def newTokenIssuanceLimiter (rate burst : ℚ) (now : Time) : TokenIssuanceLimiter :=
  let rate := if rate < 0 then 0 else rate
  let burst := if burst ≤ 0 then (if rate < 1 then 1 else rate) else burst
  ⟨rate, burst, burst, now⟩

def refill (now : Time) (t : TokenIssuanceLimiter) : TokenIssuanceLimiter :=
  let elapsed := seconds (now - t.lastRefill)
  if elapsed > 0 then
    let tokens := t.tokens + elapsed * t.rate
    { t with tokens := if tokens > t.burst then t.burst else tokens, lastRefill := now }
  else t

def allow (now : Time) (t : TokenIssuanceLimiter) : Bool × TokenIssuanceLimiter :=
  if t.rate = 0 then (false, t)
  else
    let t := t.refill now
    if t.tokens ≥ 1 then (true, { t with tokens := t.tokens - 1 }) else (false, t)

end TokenIssuanceLimiter

def sessionRequestsPerSecond : ℕ := 10
def sessionRateLimiterMaxIPs : ℕ := 10000

structure RateLimitEntry where
  tokens : ℚ
  lastCheck : Time
  deriving DecidableEq

structure IPRateLimiter where
  entries : GoMap String RateLimitEntry
  rate : ℕ
  maxIPs : ℕ

namespace IPRateLimiter

def newIPRateLimiter (rate maxIPs : ℕ) : IPRateLimiter := ⟨∅, rate, maxIPs⟩

/-- The loop for the oldest entry. The empty text stands for no entry, as in the source. -/
def oldestIP (entries : GoMap String RateLimitEntry) : String → Time → List String → String
  | oldest, _, [] => oldest
  | oldest, oldestTime, k :: ks =>
    match entries.lookup k with
    | none => oldestIP entries oldest oldestTime ks
    | some v =>
      if oldest = "" ∨ v.lastCheck < oldestTime then oldestIP entries k v.lastCheck ks
      else oldestIP entries oldest oldestTime ks

/-- `Allow`; `order` is the order in which Go visits the map. -/
def allow (now : Time) (order : List String) (ip : String) (rl : IPRateLimiter) :
    Bool × IPRateLimiter :=
  match rl.entries.lookup ip with
  | none =>
    let entries := if rl.entries.size ≥ rl.maxIPs then
      rl.entries.erase (oldestIP rl.entries "" 0 (rl.entries.inOrder order)) else rl.entries
    (true, { rl with entries := entries.insert ip ⟨rl.rate - 1, now⟩ })
  | some entry =>
    let tokens := entry.tokens + seconds (now - entry.lastCheck) * rl.rate
    let tokens := if tokens > rl.rate then (rl.rate : ℚ) else tokens
    if tokens ≥ 1 then (true, { rl with entries := rl.entries.insert ip ⟨tokens - 1, now⟩ })
    else (false, { rl with entries := rl.entries.insert ip ⟨tokens, now⟩ })

end IPRateLimiter
end GoNoise.SSU2
