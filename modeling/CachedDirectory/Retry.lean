import CachedDirectory.Error
import CachedDirectory.Number.Rounding

/-!
# Retrying

A call that fails for want of access is repeated after a delay, which grows by a
factor up to a maximum. Every other failure is final, and so is a failure on the
last permitted attempt. Delays are numbers of nanoseconds; scaling one goes
through seconds with 53 binary digits. A product that is negative or too long is
no delay, and a call that needs it for its next attempt is stranded.
-/

namespace CachedDirectory

/-- How often and after which delays a call is repeated. -/
structure RetryPolicy where
  /-- The delay after the first attempt. -/
  initialDelay : Nat
  /-- The bound of every later delay. -/
  maxDelay : Nat
  /-- By how much delays grow; absent if that is infinite or no number. -/
  factor : Option Rat
  /-- The number of attempts, one at least; unlimited if absent. -/
  limit : Option Nat
deriving DecidableEq, Repr

/-- How a repeated call ends. -/
inductive Ending (α : Type) where
  /-- The last attempt gave the answer. -/
  | answered (answer : Answer α)
  /-- There is no next delay, and so there is no answer. -/
  | stranded
  /-- The attempts that were looked at did not end the call. -/
  | unfinished
deriving Repr

namespace RetryPolicy

/-- Nanoseconds in a millisecond. -/
def millisecond : Nat :=
  1000000

/-- Nanoseconds in a second. -/
def second : Nat :=
  1000000000

/-- The policy for opening the store. -/
def startup : RetryPolicy :=
  ⟨200 * millisecond, 2 * second, some 2, some 5⟩

/-- The policy for calls to the authority. -/
def query : RetryPolicy :=
  ⟨100 * millisecond, 2 * second, some 2, some 3⟩

/-- The policy with a name. -/
def ofName? (text : String) : Option RetryPolicy :=
  match text with
  | "startup" => some startup
  | "query" | "default" => some query
  | _ => none

/-- A delay in seconds, with 53 binary digits. -/
def seconds (delay : Nat) : Rat :=
  Number.binary64
    (Number.binary64 (delay / second : Nat) +
      Number.binary64 (Number.binary64 (delay % second : Nat) / second))

/-- The least number of seconds that is too long for a delay. -/
def excessive : Rat :=
  18446744073709551616

/-- A delay multiplied by a factor, unless the product is negative or too
long. -/
def scale? (factor : Rat) (delay : Nat) : Option Nat :=
  let size := Number.binary64 (Number.binary64 factor.abs * seconds delay)
  if factor < 0 ∧ size ≠ 0 ∨ excessive ≤ size then
    none
  else
    some (Number.nearest (size * second)).toNat

/-- The delay after the next attempt, if there is one. -/
def nextDelay? (policy : RetryPolicy) (delay : Nat) : Option Nat := do
  let factor ← policy.factor
  let scaled ← scale? factor delay
  return min scaled policy.maxDelay

/-- Whether another attempt may follow that many failed ones. -/
def permits (policy : RetryPolicy) (failures : Nat) : Bool :=
  match policy.limit with
  | some limit => failures < limit
  | none => true

variable {σ α : Type}

/-- Whether an answer is a failure that another attempt may mend. -/
def mayMend : Answer α → Bool
  | .ok _ => false
  | .error error => error.isRetryable

/-- Makes attempts, as many as there are rounds at most, until one is final. So
many attempts failed before, and the delay is the next one; between two attempts
`wait` passes it. -/
def runWithin (policy : RetryPolicy) (attempt : σ → Answer α × σ)
    (wait : Nat → σ → σ) :
    (rounds failures delay : Nat) → σ → Ending α × σ
  | 0, _, _, state => (.unfinished, state)
  | rounds + 1, failures, delay, state =>
      let (answer, after) := attempt state
      if mayMend answer && policy.permits (failures + 1) then
        let waited := wait delay after
        match policy.nextDelay? delay with
        | some next =>
            runWithin policy attempt wait rounds (failures + 1) next waited
        | none => (.stranded, waited)
      else
        (.answered answer, after)

/-- The number of attempts that a policy permits, if it is limited. -/
def attempts? (policy : RetryPolicy) : Option Nat :=
  policy.limit.map (max 1)

/-- Runs a call under a policy that ends it, as every policy does that is
limited and has all its delays. -/
def run (policy : RetryPolicy) (attempt : σ → Answer α × σ) (state : σ) :
    Answer α × σ :=
  match policy.runWithin attempt (fun _ after => after)
    (policy.attempts?.getD 1) 0
      policy.initialDelay state with
  | (.answered answer, after) => (answer, after)
  | (_, after) => (.error (.internal "the call has no end"), after)

end RetryPolicy

/-- What is recorded of a repeated call: the clock in milliseconds, when its
attempts began, and the delays between them; in both lists the latest stands
first. -/
structure CallLog where
  clock : Nat := 0
  starts : List Nat := []
  waits : List Nat := []
deriving DecidableEq, Repr

namespace CallLog

variable {α : Type}

/-- The next attempt. Its answer depends on how many there were before. -/
def attempt (answers : Nat → Answer α) (log : CallLog) : Answer α × CallLog :=
  (answers log.starts.length, { log with starts := log.clock :: log.starts })

/-- The longest that the clock waits at once, in milliseconds: thirty years of
365 days. -/
def longestWait : Nat :=
  30 * 365 * 24 * 60 * 60 * 1000

/-- The log after a delay, for which the clock takes whole milliseconds. -/
def wait (delay : Nat) (log : CallLog) : CallLog :=
  let ticks := (delay + RetryPolicy.millisecond - 1) / RetryPolicy.millisecond
  { log with
    clock := log.clock + min ticks longestWait, waits := delay :: log.waits }

end CallLog

namespace RetryPolicy

variable {α : Type}

/-- How a call ends whose attempts have the given answers, and what is recorded
of it. -/
def rehearse (policy : RetryPolicy) (answers : Nat → Answer α) (rounds : Nat) :
    Ending α × CallLog :=
  policy.runWithin (CallLog.attempt answers) CallLog.wait rounds 0
    policy.initialDelay {}

/-- The answers of a plan, of which the last one repeats. -/
def planned (answers : List (Answer α)) (made : Nat) : Answer α :=
  (answers[min made (answers.length - 1)]?).getD
    (.error (.internal "no planned answer"))

/-- How a call with planned answers ends. It is unfinished if the policy has no
limit and every answer of the plan, the last one included, is a failure that may
be mended. -/
def rehearsePlan (policy : RetryPolicy) (answers : List (Answer α)) :
    Ending α × CallLog :=
  policy.rehearse (planned answers)
    (policy.attempts?.getD (max 1 answers.length))

end RetryPolicy

end CachedDirectory
