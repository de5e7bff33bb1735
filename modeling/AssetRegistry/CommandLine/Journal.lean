import AssetRegistry.Http.Server
import AssetRegistry.Json.Record

/-! # Journals

A database file is a journal: a heading once the database is set up, and then the
requests that were answered with success, one a line.  Reading it means to answer them
again. -/

namespace AssetRegistry.CommandLine.Journal

open Text

/-- The first line of the journal of a database that is set up. -/
def heading : String :=
  "asset-registry 1"

/-- The JSON form of bytes: the text that they spell, and a list where they spell none. -/
def bytesCodec : Json.Codec (List UInt8) :=
  let byte : Json.Codec UInt8 :=
    (Json.Codec.integer 0 255).map (fun n => UInt8.ofNat n.toNat) (fun byte => byte.toNat)
  { decode := fun room ts =>
      match ts with
      | .string text :: ts => .ok (Utf8.encode text.toList, ts)
      | ts => (Json.Codec.list byte).decode room ts
    encode := fun bytes =>
      match Utf8.decode? bytes with
      | some text => .string text
      | none => (Json.Codec.list byte).encode bytes }

/-- The JSON form of a request. -/
def requestCodec : Json.Codec Http.Request :=
  .record
    (.required "method" .string <| .required "target" .string <|
      .defaulted "contentType" (.option .string) (some "application/json") <|
      .defaulted "body" bytesCodec [] .nil)
    (fun (method, target, contentType, body, ()) => { method, target, contentType, body })
    (fun r => (r.method, r.target, r.contentType, r.body, ()))

/-- The JSON form of a response. -/
def responseJson (response : Http.Response) : Json :=
  .object
    [("status", .ofNat response.status),
     ("body",
      match response.body with
      | .json value => value
      | .empty | .notice => .null)]

/-- Answers a request, after which the clock goes on. -/
def answer (request : Http.Request) (r : Registry) : Http.Response × Registry :=
  let (response, r) := Http.handle request r
  (response, { r with operation := r.operation + 1 })

/-- Whether a request belongs in the journal. -/
def isKept (request : Http.Request) (response : Http.Response) : Bool :=
  response.status < 300 && !(["GET", "HEAD", "OPTIONS"].contains request.method)

/-- Answers the requests on some lines.  Other lines are passed over. -/
def replay (lines : List String) (r : Registry) : Registry :=
  lines.foldl
    (fun r line =>
      match requestCodec.ofText line with
      | .ok request => (answer request r).2
      | .error _ => r)
    r

/-- The registry of a journal, if the lines are one. -/
def read? : List String → Option Registry
  | [] => some .unprepared
  | first :: lines => if first = heading then some (replay lines {}) else none

end AssetRegistry.CommandLine.Journal
