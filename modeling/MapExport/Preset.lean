import MapExport.Job.Codec
import MapExport.Text.Blank

/-!
# Presets

A preset is a file that says which features an export is to hold: a table from names of tags to the kinds
of features they select. A preset entry without a name or without a kind selects nothing and is refused.
Jobs without a preset use the default table.
-/

set_option autoImplicit false

namespace MapExport.Preset

/-- An entry that selects nothing. -/
def isIdle (entry : String × List FeatureKind) : Bool :=
  Text.isBlankText entry.1 || entry.2.isEmpty

/-- **Reading a preset.** Of the entries that select nothing the first in order of names is reported. -/
def ofText (content : String) : Except Failure TagTable :=
  match TagTable.codec.ofText content with
  | .error e => .error (.unreadable ("invalid preset: " ++ e.message))
  | .ok table =>
    match table.find? isIdle with
    | some (name, _) =>
      .error (.unreadable
        ("preset entry '" ++ name ++ "' must have a name and at least one geometry type"))
    | none => .ok table

open FeatureKind in
/-- **The default table,** ordered by name. -/
def defaultTable : TagTable :=
  [("aeroway", [point, line, polygon]), ("amenity", [point, polygon]), ("barrier", [point, line]),
    ("building", [point, polygon]), ("highway", [point, line]), ("landuse", [point, polygon]),
    ("leisure", [point, polygon]), ("man_made", [point, polygon]),
    ("natural", [point, line, polygon]), ("place", [point, polygon]), ("railway", [point, line]),
    ("shop", [point, polygon]), ("tourism", [point, polygon]), ("waterway", [point, line, polygon])]

end MapExport.Preset
