import MapExport.Database.Statement
import MapExport.Failure
import MapExport.Geometry.Codec

/-!
# Columns

Reading the columns of a row. A column without a value is a fault unless it may lack one, and the fault
names the column. Instants are kept in microseconds.
-/

set_option autoImplicit false

namespace MapExport.Database

/-- A column that cannot be read. -/
def columnFailure (place : Nat) (reason : String) : Failure :=
  .database ("error occurred while decoding column " ++ toString place ++ ": " ++ reason)

/-- A column without a value that has to have one. -/
def nullFailure (place : Nat) : Failure :=
  columnFailure place "unexpected null; try decoding as an `Option`"

/-- The value of a column. -/
def Row.value (row : Row) (place : Nat) : Value := row.getD place .null

/-- A column that has to have a value of a kind. -/
def Row.required {α : Type} (read : Value → Option α) (row : Row) (place : Nat) :
    Except Failure α :=
  match row.value place with
  | .null => .error (nullFailure place)
  | v =>
    match read v with
    | some a => .ok a
    | none => .error (columnFailure place "mismatched types")

/-- A column that may lack a value. -/
def Row.optional {α : Type} (read : Value → Option α) (row : Row) (place : Nat) :
    Except Failure (Option α) :=
  match row.value place with
  | .null => .ok none
  | _ => (row.required read place).map some

/-- An identifier. -/
def Value.uid? : Value → Option Uid | uid u => some u | _ => none

/-- A text. -/
def Value.text? : Value → Option String | text s => some s | _ => none

/-- A truth value. -/
def Value.bool? : Value → Option Bool | bool b => some b | _ => none

/-- A double. -/
def Value.real? : Value → Option Float | real x => some x | _ => none

/-- An instant. -/
def Value.instant? : Value → Option Instant | instant t => some t | _ => none

/-- A geometry, read from the text of its document. -/
def Row.geometry (row : Row) (place : Nat) : Except Failure (Geometry Position) :=
  match row.value place with
  | .document j =>
    (Geometry.codec.ofText j.render).mapError fun e => columnFailure place e.message
  | .null => .error (nullFailure place)
  | _ => .error (columnFailure place "mismatched types")

/-- The start of the year 2000, from which the database counts. -/
def epochDay : Int := Calendar.yearStart 2000

/-- An instant in whole microseconds, the rest dropped towards the year 2000. -/
def microseconds (t : Instant) : Int :=
  let nanos := ((t.day - epochDay) * 86400 + t.second) * 1000000000 + t.nano
  nanos.tdiv 1000

/-- The instant of a number of microseconds. -/
def ofMicroseconds? (micros : Int) : Option Instant :=
  let seconds := micros / 1000000
  Instant.make? (epochDay + seconds / 86400) (seconds % 86400).toNat
    ((micros % 1000000).toNat * 1000)

/-- An instant as the database keeps it. -/
def kept (t : Instant) : Instant := (ofMicroseconds? (microseconds t)).getD t

end MapExport.Database
