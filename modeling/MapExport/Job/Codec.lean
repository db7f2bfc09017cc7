import MapExport.Failure
import MapExport.Geometry.Codec
import MapExport.Job.Basic
import MapExport.Json.Record
import MapExport.Text.LowerCase

/-!
# Jobs in documents

How jobs and what belongs to them stand in requests and answers, and the names of the two enumerations.
-/

set_option autoImplicit false

namespace MapExport

open Json

/-- The name of a kind of features. -/
def FeatureKind.name : FeatureKind → String
  | .point => "point"
  | .line => "line"
  | .polygon => "polygon"

/-- The kinds of features by name. -/
def FeatureKind.names : List (String × FeatureKind) :=
  [("point", .point), ("line", .line), ("polygon", .polygon)]

/-- A kind of features by name, in any case. -/
def FeatureKind.ofName (name : String) : Except Failure FeatureKind :=
  match names.find? (·.1 == Text.lower name) with
  | some (_, k) => .ok k
  | none => .error (.unreadable ("Unknown geometry type: " ++ Text.lower name))

/-- Kinds of features in documents. -/
def FeatureKind.codec : Codec FeatureKind := Codec.choice names name

/-- The name of a kind of configuration. -/
def ConfigKind.name : ConfigKind → String
  | .preset => "PRESET"
  | .translation => "TRANSLATION"
  | .transform => "TRANSFORM"

/-- The kinds of configurations by name. -/
def ConfigKind.names : List (String × ConfigKind) :=
  [("PRESET", .preset), ("TRANSLATION", .translation), ("TRANSFORM", .transform)]

/-- A kind of configuration by name. -/
def ConfigKind.ofName (name : String) : Except Failure ConfigKind :=
  match names.find? (·.1 == name) with
  | some (_, k) => .ok k
  | none => .error (.unreadable ("Unknown config type: " ++ name))

/-- Kinds of configurations in documents. -/
def ConfigKind.codec : Codec ConfigKind := Codec.choice names name

/-- Formats in documents. -/
def Format.codec : Codec Format :=
  Codec.record "ExportFormat"
    (.cons (.required "slug" .text) (.cons (.required "name" .text)
      (.cons (.required "description" .text) .nil)))
    (fun f => (f.slug, f.name, f.description, ()))
    (fun (slug, name, description, ()) => ⟨slug, name, description⟩)

/-- Configurations in documents. -/
def Config.codec : Codec Config :=
  Codec.record "ExportConfig"
    (.cons (.required "uid" .uid) (.cons (.required "name" .text)
      (.cons (.required "config_type" ConfigKind.codec) (.cons (.required "upload" .text)
        (.cons (.required "published" .bool) (.cons (.required "created_at" .instant) .nil))))))
    (fun c => (c.uid, c.name, c.kind, c.upload, c.published, c.createdAt, ()))
    (fun (uid, name, kind, upload, published, createdAt, ()) =>
      ⟨uid, name, kind, upload, published, createdAt⟩)

/-- Tag tables in documents. -/
def TagTable.codec : Codec TagTable := FeatureKind.codec.list.table

/-- Tags in documents. A printed tag does not name its job, because it stands inside of it. -/
def Tag.codec : Codec Tag :=
  Codec.record "Tag"
    (.cons (.required "id" .uid) (.cons (.unshown (.required "job_uid" .uid))
      (.cons (.required "name" .text) (.cons (.required "geom_types" FeatureKind.codec.list) .nil))))
    (fun t => (t.id, t.job, t.name, t.kinds, ()))
    (fun (id, job, name, kinds, ()) => ⟨id, job, name, kinds⟩)

/-- Jobs in documents. -/
def Job.codec : Codec Job :=
  Codec.record "Job"
    (.cons (.required "uid" .uid) (.cons (.required "name" .text)
      (.cons (.required "description" .text) (.cons (.required "geometry" Geometry.codec)
        (.cons (.required "owner" .uid) (.cons (.required "created_at" .instant)
          (.cons (.required "published" .bool) .nil)))))))
    (fun j => (j.uid, j.name, j.description, j.geometry, j.owner, j.createdAt, j.published, ()))
    (fun (uid, name, description, geometry, owner, createdAt, published, ()) =>
      ⟨uid, name, description, geometry, owner, createdAt, published⟩)

/-- A job with all that belongs to it, as one record. -/
def JobDetail.print (d : JobDetail) : Json :=
  match Job.codec.print d.job with
  | .record members =>
    .record (members ++ [("formats", Format.codec.list.print d.formats),
      ("tags", Tag.codec.list.print d.tags), ("configs", Config.codec.list.print d.configs),
      ("providers", .texts d.providers)])
  | j => j

end MapExport
