import LoadTest.Failure
import LoadTest.Time.Duration

/-!
# The operation under load

A target is called without arguments and either succeeds, gives an error or panics. A call that
outlasts the timeout of its request counts as timed out, whatever becomes of it.
-/

namespace LoadTest

/-- How a call of the target ends. -/
inductive CallEnd where
  | success
  /-- An error, as its causes from the outermost inwards. -/
  | error (causes : List String)
  /-- A panic, with its message if it carries one. -/
  | panic (message : Option String)
  deriving DecidableEq, Repr, Inhabited

/-- What a call of the target does: it takes a while and then ends. -/
structure Call where
  delay : Duration := .zero
  finish : CallEnd := .success
  deriving Inhabited

/-- A target whose calls repeat a list of scripted ones. -/
structure Script where
  calls : List Call
  /-- Whether calls return without any time passing. -/
  blocking : Bool := false
  deriving Inhabited

namespace Script

/-- The call that is made after `n` others. -/
def call (script : Script) (n : Nat) : Call :=
  let call := script.calls.getD (n % script.calls.length) {}
  if script.blocking then { call with delay := .zero } else call

end Script

/-- How a request ends: its call ends in time, or the timeout comes first. -/
inductive Ending where
  | returned (finish : CallEnd)
  | timedOut
  deriving DecidableEq, Repr, Inhabited

namespace Ending

/-- The message of a panic that carries none. -/
def unknownPanic : String := "non-string panic payload"

/-- Why a request with the given timeout did not succeed. -/
def failure? (timeout : Duration) : Ending → Option RequestFailure
  | .returned .success => none
  | .returned (.error causes) => some (.failed (": ".intercalate causes))
  | .returned (.panic message) => some (.panicked (message.getD unknownPanic))
  | .timedOut => some (.timedOut timeout.wireMillis)

end Ending

end LoadTest
