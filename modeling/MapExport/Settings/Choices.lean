import MapExport.Failure
import MapExport.Json.Codec
import MapExport.Text.LowerCase

/-!
# Choices of the operator

Where the service keeps its data, and what becomes of a job whose preset cannot be read. Both are given
by name, in any case.
-/

set_option autoImplicit false

namespace MapExport

/-- **Where data is kept.** -/
inductive Backend where
  | postgres
  | memory
  deriving DecidableEq, Repr

/-- **What becomes of a job whose preset cannot be read:** it is refused, or gets the default tags. -/
inductive PresetPolicy where
  | reject
  | defaults
  deriving DecidableEq, Repr

/-- The name of a backend. -/
def Backend.name : Backend → String
  | .postgres => "postgres"
  | .memory => "memory"

/-- The backends by name. -/
def Backend.names : List (String × Backend) := [("postgres", .postgres), ("memory", .memory)]

/-- A backend by name, in any case. -/
def Backend.ofName (name : String) : Except Failure Backend :=
  match names.find? (·.1 == Text.lower name) with
  | some (_, b) => .ok b
  | none =>
    .error (.configuration
      ("STORE_BACKEND must be 'postgres' or 'memory', got '" ++ Text.lower name ++ "'"))

/-- Backends in documents. -/
def Backend.codec : Json.Codec Backend := .choice names name

/-- The name of a policy. -/
def PresetPolicy.name : PresetPolicy → String
  | .reject => "reject"
  | .defaults => "defaults"

/-- The policies by name. -/
def PresetPolicy.names : List (String × PresetPolicy) :=
  [("reject", .reject), ("defaults", .defaults)]

/-- A policy by name, in any case. -/
def PresetPolicy.ofName (name : String) : Except Failure PresetPolicy :=
  match names.find? (·.1 == Text.lower name) with
  | some (_, p) => .ok p
  | none =>
    .error (.configuration
      ("PRESET_FAILURE_POLICY must be 'reject' or 'defaults', got '" ++ Text.lower name ++ "'"))

/-- Policies in documents. -/
def PresetPolicy.codec : Json.Codec PresetPolicy := .choice names name

end MapExport
