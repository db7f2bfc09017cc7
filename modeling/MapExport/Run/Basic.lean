import MapExport.Instant.Basic
import MapExport.Uid

/-!
# Runs

A run is one execution of a job. Its files are kept until it expires; before that its owner is warned
twice, and `notified` keeps when the last warning was sent.
-/

set_option autoImplicit false

namespace MapExport

/-- **How far a run has come.** -/
inductive RunStatus where
  | submitted
  | running
  | completed
  | cancelled
  | incomplete
  | failed
  deriving DecidableEq, Repr

/-- **A run** of a job. -/
structure Run where
  uid : Uid
  job : Uid
  owner : Uid
  status : RunStatus
  createdAt : Instant
  expiration : Instant
  notified : Option Instant
  deriving DecidableEq

/-- **The two warnings** before a run expires. -/
inductive Threshold where
  | sevenDay
  | twoDay
  deriving DecidableEq, Repr

/-- How many days before the expiration a warning is due. -/
def Threshold.days : Threshold → Nat
  | .sevenDay => 7
  | .twoDay => 2

/-- **A run with what its owner is told:** the name of the job and where to write to. -/
structure ExpiringRun where
  run : Run
  jobName : String
  email : Option String
  deriving DecidableEq

/-- **A user** of the service. -/
structure User where
  id : Uid
  username : String
  email : Option String
  deriving DecidableEq, Repr

end MapExport
