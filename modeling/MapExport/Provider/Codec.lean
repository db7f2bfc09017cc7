import MapExport.Json.Record
import MapExport.Provider.Basic

/-!
# Providers in documents
-/

set_option autoImplicit false

namespace MapExport

open Json

/-- Providers in documents. -/
def Provider.codec : Codec Provider :=
  Codec.record "DataProvider"
    (.cons (.required "uid" .uid) (.cons (.required "name" .text) (.cons (.required "slug" .text)
      (.cons (.optional "size_estimate_constant" .real) .nil))))
    (fun p => (p.uid, p.name, p.slug, p.sizeEstimate, ()))
    (fun (uid, name, slug, sizeEstimate, ()) => ⟨uid, name, slug, sizeEstimate⟩)

/-- Results in documents. -/
def TaskResult.codec : Codec TaskResult :=
  Codec.record "FileProducingTaskResult" (.cons (.optional "size" .real) .nil)
    (fun r => (r.size, ())) (fun (size, ()) => ⟨size⟩)

/-- Tasks in documents. -/
def Task.codec : Codec Task :=
  Codec.record "ExportTaskRecord"
    (.cons (.required "uid" .uid) (.cons (.required "name" .text)
      (.cons (.optional "result" TaskResult.codec) .nil)))
    (fun t => (t.uid, t.name, t.result, ()))
    (fun (uid, name, result, ()) => ⟨uid, name, result⟩)

/-- The tasks of a run in documents. -/
def TaskRecord.codec : Codec TaskRecord :=
  Codec.record "DataProviderTaskRecord"
    (.cons (.required "uid" .uid) (.cons (.required "run_uid" .uid) (.cons (.required "name" .text)
      (.cons (.required "slug" .text) (.cons (.required "created_at" .instant)
        (.cons (.required "tasks" Task.codec.list) .nil))))))
    (fun r => (r.uid, r.run, r.name, r.slug, r.createdAt, r.tasks, ()))
    (fun (uid, run, name, slug, createdAt, tasks, ()) => ⟨uid, run, name, slug, createdAt, tasks⟩)

end MapExport
