/-!
# Failures

What stops a call, and why a single request did not succeed. A request's failure never stops a
call: its text is recorded with the request.
-/

namespace LoadTest

inductive Failure where
  /-- The specification of a load test cannot be executed. -/
  | invalidSpec (reason : String)
  | baselineNotFound (name : String)
  /-- A worker of a distributed run ended without a result. -/
  | workerFailure (worker : Nat) (reason : String)
  | configuration (reason : String)
  | serialization (reason : String)
  | io (reason : String)
  deriving DecidableEq, Repr

namespace Failure

def message : Failure → String
  | .invalidSpec reason => "Invalid load test spec: " ++ reason
  | .baselineNotFound name => "Baseline not found: " ++ name
  | .workerFailure worker reason => "Worker " ++ toString worker ++ " failed: " ++ reason
  | .configuration reason => "Configuration error: " ++ reason
  | .serialization reason => "Serialization error: " ++ reason
  | .io reason => "IO error: " ++ reason

/-- Whether the caller's input is to blame. -/
def isUserError : Failure → Bool
  | .invalidSpec _ | .baselineNotFound _ | .configuration _ => true
  | _ => false

/-- Whether a run ends without a report. A lost worker only degrades the report. -/
def isFatal : Failure → Bool
  | .workerFailure .. => false
  | _ => true

end Failure

/-- Why a request did not succeed. -/
inductive RequestFailure where
  | failed (reason : String)
  | panicked (reason : String)
  | timedOut (millis : Nat)
  /-- The worker that was to issue the request never reported back. -/
  | workerLost (worker : Nat) (reason : String)
  deriving DecidableEq, Repr

namespace RequestFailure

def message : RequestFailure → String
  | .failed reason => "request failed: " ++ reason
  | .panicked reason => "request panicked: " ++ reason
  | .timedOut millis => "request timed out after " ++ toString millis ++ "ms"
  | .workerLost worker reason =>
    "worker " ++ toString worker ++ " terminated before reporting: " ++ reason

def isTimeout : RequestFailure → Bool
  | .timedOut _ => true
  | _ => false

end RequestFailure

end LoadTest
