import AssetRegistry.Http.Endpoint

/-! # Answering requests

A request is answered at once, or it comes to one operation on the registry. -/

namespace AssetRegistry.Http

/-- The method whose endpoint answers a request. -/
def answeringMethod (method : String) : String :=
  if method = "HEAD" then "GET" else method

/-- What a request comes to.  There is no endpoint for every path and method, except
    that `OPTIONS` is answered everywhere. -/
def interpret (request : Request) : Reading Call :=
  if request.method = "OPTIONS" then .error (.bare 200)
  else
    match request.segments?.bind endpoints with
    | none => .error (.bare 404)
    | some found =>
      match found.find? (·.method = answeringMethod request.method) with
      | none => .error (.bare 405)
      | some endpoint => endpoint.read request

/-- The response to a call that succeeded. -/
def Call.response (call : Call) (reply : Reply) : Response :=
  if call.success = 204 then .bare 204 else ⟨call.success, .json reply.toJson⟩

/-- Runs a call. -/
def Call.perform (call : Call) (r : Registry) : Response × Registry :=
  match call.operation.perform r with
  | (.ok reply, r) => (call.response reply, r)
  | (.error e, r) => (.ofError e, r)

/-- The response as it is sent: without a body in answer to `HEAD`. -/
def Response.sentTo (request : Request) (response : Response) : Response :=
  if request.method = "HEAD" then .bare response.status else response

/-- Answers a request. -/
def handle (request : Request) (r : Registry) : Response × Registry :=
  match interpret request with
  | .error response => (response.sentTo request, r)
  | .ok call =>
    let (response, r) := call.perform r
    (response.sentTo request, r)

end AssetRegistry.Http
