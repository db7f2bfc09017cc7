import MapExport.Geometry.Check
import MapExport.Job.Codec
import MapExport.Text.Blank

/-!
# Requests for jobs

What a client sends to order an export, and what has to hold of it before anything is looked up: the
name and the description are not blank and not too long, and the geometry is usable. All complaints are
made at once. Lengths are counted in characters of the text as it was sent, blanks included.
-/

set_option autoImplicit false

namespace MapExport

open Json

/-- **A request for a job.** -/
structure JobRequest where
  name : String
  description : String
  geometry : Geometry Position
  formats : List String
  preset : Option Uid
  translation : Option Uid
  transform : Option Uid
  providers : List String
  published : Bool

namespace JobRequest

/-- Requests in documents. Only the name, the description and the geometry have to be there. -/
def codec : Codec JobRequest :=
  Codec.record "NewJobRequest"
    (.cons (.required "name" .text) (.cons (.required "description" .text)
      (.cons (.required "geometry" Geometry.codec)
        (.cons (.defaulted "formats" Codec.text.list [])
          (.cons (.defaulted "preset" Codec.uid.option none)
            (.cons (.defaulted "translation" Codec.uid.option none)
              (.cons (.defaulted "transform" Codec.uid.option none)
                (.cons (.defaulted "providers" Codec.text.list [])
                  (.cons (.defaulted "published" .bool false) .nil)))))))))
    (fun r => (r.name, r.description, r.geometry, r.formats, r.preset, r.translation, r.transform,
      r.providers, r.published, ()))
    (fun (name, description, geometry, formats, preset, translation, transform, providers, published,
        ()) =>
      ⟨name, description, geometry, formats, preset, translation, transform, providers, published⟩)

/-- What is said of a field that holds blanks only. -/
def blankComplaint : Complaint := ⟨"blank", some "Ce champ ne peut pas être vide"⟩

/-- What is wrong with a text that should not be blank. -/
def notBlank? (s : String) : Option Complaint :=
  if Text.isBlankText s then some blankComplaint else none

/-- What is wrong with the length of a text, which is between one character and `most`. -/
def length? (most : Nat) (message : String) (s : String) : Option Complaint :=
  if 1 ≤ s.length ∧ s.length ≤ most then none else some ⟨"length", some message⟩

/-- The complaints about the name. -/
def nameComplaints (s : String) : List Complaint :=
  (notBlank? s).toList ++
    (length? 100 "Le nom doit faire entre 1 et 100 caractères" s).toList

/-- The complaints about the description. -/
def descriptionComplaints (s : String) : List Complaint :=
  (notBlank? s).toList ++
    (length? 1000 "La description doit faire entre 1 et 1000 caractères" s).toList

/-- What is said of a geometry with a defect. -/
def geometryComplaint (d : Geometry.Defect) : Complaint := ⟨"geometry", some d.message⟩

/-- The complaints about the geometry, whose area is measured on some map. -/
def geometryComplaints (project : Position → Float × Float) (g : Geometry Position) : List Complaint :=
  ((g.defectOn? project).map geometryComplaint).toList

/-- **All complaints about a request;** a field without any is not listed. -/
def complaints (project : Position → Float × Float) (r : JobRequest) : Complaints :=
  [("name", nameComplaints r.name), ("description", descriptionComplaints r.description),
    ("geometry", geometryComplaints project r.geometry)].filter fun (_, cs) => !cs.isEmpty

/-- **Checking a request** whose area is measured on some map. -/
def checkOn (project : Position → Float × Float) (r : JobRequest) : Except Failure Unit :=
  if (r.complaints project).isEmpty then .ok () else .error (.invalid (r.complaints project))

/-- **Checking a request** on the web map. -/
def check (r : JobRequest) : Except Failure Unit := r.checkOn WebMap.project

end JobRequest

end MapExport
