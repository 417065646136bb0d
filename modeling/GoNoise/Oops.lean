import Mathlib.Algebra.Group.Nat.Defs
import Mathlib.Algebra.Ring.Int.Defs
import Mathlib.Data.Int.Basic
import Mathlib.Order.Lattice

/-!
# Errors and clocks

The repository builds every error with the `oops` package: a text, and optionally a code, a domain
(`In`) and attached values (`With`). `Wrapf` puts a text in front of the text of an error and keeps
the rest. Times are nanoseconds on one clock; `time.Time{}` is `0`.
-/

namespace GoNoise

/-- An error of the `oops` package. -/
structure Oops where
  code : String
  domain : String
  /-- `With`, in the order attached -/
  fields : List (String × ℤ)
  /-- the text of the error -/
  message : String
  deriving DecidableEq

namespace Oops

def errorf (message : String) : Oops := ⟨"", "", [], message⟩

def wrapf (e : Oops) (message : String) : Oops := { e with message := s!"{message}: {e.message}" }

/-- `oops.Code(..).In(..).With(..).Wrap`. Code and domain are those nearest to the cause. -/
def wrap (e : Oops) (code domain : String) (fields : List (String × ℤ)) : Oops where
  code := if e.code = "" then code else e.code
  domain := if e.domain = "" then domain else e.domain
  fields := fields ++ e.fields
  message := e.message

end Oops

/-- A point in time, in nanoseconds. -/
abbrev Time := ℤ

/-- A `time.Duration`, in nanoseconds. -/
abbrev Duration := ℤ

def millisecond : Duration := 1000000

def second : Duration := 1000000000

def unix (t : Time) : ℤ := t / second

/-! ## Durations -/

/-- `Time.Sub`, which stops at the bounds of a `time.Duration`. -/
def timeSub (t u : Time) : Duration := max (-2 ^ 63) (min (2 ^ 63 - 1) (t - u))

/-- A decimal fraction of `places` digits without its trailing zeros. -/
def fraction (places n : ℕ) : String :=
  let digits := (List.range places).map fun i => Nat.digitChar (n / 10 ^ (places - 1 - i) % 10)
  let kept := (digits.reverse.dropWhile (· = '0')).reverse
  if kept = [] then "" else "." ++ String.ofList kept

def durationString (d : Duration) : String :=
  let u := d.natAbs
  let text :=
    if u = 0 then "0s"
    else if u < 10 ^ 3 then s!"{u}ns"
    else if u < 10 ^ 6 then s!"{u / 10 ^ 3}{fraction 3 (u % 10 ^ 3)}µs"
    else if u < 10 ^ 9 then s!"{u / 10 ^ 6}{fraction 6 (u % 10 ^ 6)}ms"
    else
      let seconds := s!"{u / 10 ^ 9 % 60}{fraction 9 (u % 10 ^ 9)}s"
      let minutes := u / (60 * 10 ^ 9)
      if minutes = 0 then seconds
      else if minutes / 60 = 0 then s!"{minutes}m" ++ seconds
      else s!"{minutes / 60}h{minutes % 60}m" ++ seconds
  if d < 0 then "-" ++ text else text

end GoNoise
