import MapExport.Json.Record
import MapExport.Web.Message

/-!
# Exchanges

A process that listens on the network hands over each request as a document, with the time at which it
arrived, and gets the answer as a document too.
-/

set_option autoImplicit false

namespace MapExport.Web

open Json

/-- **A request that has arrived.** -/
structure Arrival where
  time : Instant
  request : Request

/-- A text for bytes; bytes that are no text are shown as none. -/
def bytesCodec : Codec (List UInt8) :=
  Codec.text.via Text.bytesOfText fun bytes => (Text.textOfBytes? bytes).getD ""

/-- **Arrivals in documents.** Headers and body may be missing. -/
def Arrival.codec : Codec Arrival :=
  Codec.record "Arrival"
    (.cons (.required "time" .instant) (.cons (.required "method" .text)
      (.cons (.required "path" .text) (.cons (.defaulted "headers" bytesCodec.table [])
        (.cons (.defaulted "body" bytesCodec []) .nil)))))
    (fun a => (a.time, a.request.method, a.request.target, a.request.headers, a.request.body, ()))
    (fun (time, method, target, headers, body, ()) => ⟨time, ⟨method, target, headers, body⟩⟩)

/-- **An answer as a document.** -/
def Response.print (r : Response) : Json :=
  .record [("status", .whole r.status),
    ("content_type", (r.contentType.map Json.text).getD .null), ("body", r.body.getD .null)]

end MapExport.Web
