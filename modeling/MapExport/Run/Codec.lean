import MapExport.Failure
import MapExport.Json.Record
import MapExport.Run.Basic

/-!
# Runs in documents

How runs and users stand in documents, and the names of statuses and thresholds.
-/

set_option autoImplicit false

namespace MapExport

open Json

/-- The name of a status. -/
def RunStatus.name : RunStatus → String
  | .submitted => "SUBMITTED"
  | .running => "RUNNING"
  | .completed => "COMPLETED"
  | .cancelled => "CANCELLED"
  | .incomplete => "INCOMPLETE"
  | .failed => "FAILED"

/-- The statuses by name. -/
def RunStatus.names : List (String × RunStatus) :=
  [("SUBMITTED", .submitted), ("RUNNING", .running), ("COMPLETED", .completed),
    ("CANCELLED", .cancelled), ("INCOMPLETE", .incomplete), ("FAILED", .failed)]

/-- A status by name. -/
def RunStatus.ofName (name : String) : Except Failure RunStatus :=
  match names.find? (·.1 == name) with
  | some (_, s) => .ok s
  | none => .error (.unreadable ("Unknown run status: " ++ name))

/-- Statuses in documents. -/
def RunStatus.codec : Codec RunStatus := Codec.choice names name

/-- The name of a threshold in documents. -/
def Threshold.label : Threshold → String
  | .sevenDay => "SevenDay"
  | .twoDay => "TwoDay"

/-- Thresholds in documents. -/
def Threshold.codec : Codec Threshold :=
  Codec.choice [("SevenDay", .sevenDay), ("TwoDay", .twoDay)] label

/-- The name of a threshold in messages to people. -/
def Threshold.name : Threshold → String
  | .sevenDay => "7-day"
  | .twoDay => "2-day"

/-- Runs in documents. -/
def Run.codec : Codec Run :=
  Codec.record "ExportRun"
    (.cons (.required "uid" .uid) (.cons (.required "job_uid" .uid)
      (.cons (.required "user_id" .uid) (.cons (.required "status" RunStatus.codec)
        (.cons (.required "created_at" .instant) (.cons (.required "expiration" .instant)
          (.cons (.optional "notified" .instant) .nil)))))))
    (fun r => (r.uid, r.job, r.owner, r.status, r.createdAt, r.expiration, r.notified, ()))
    (fun (uid, job, owner, status, createdAt, expiration, notified, ()) =>
      ⟨uid, job, owner, status, createdAt, expiration, notified⟩)

/-- Users in documents. -/
def User.codec : Codec User :=
  Codec.record "User"
    (.cons (.required "id" .uid) (.cons (.required "username" .text)
      (.cons (.optional "email" .text) .nil)))
    (fun u => (u.id, u.username, u.email, ()))
    (fun (id, username, email, ()) => ⟨id, username, email⟩)

end MapExport
