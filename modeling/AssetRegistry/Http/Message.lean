import AssetRegistry.RegistryError
import AssetRegistry.Text.Basic

/-! # Requests and responses -/

namespace AssetRegistry.Http

open Text

/-- A request.  The target is a path, and a query after a question mark.  It may be a whole
    URI, which names a scheme and a host before the path.  The body is any bytes. -/
structure Request where
  method : String
  target : String
  contentType : Option String
  body : List UInt8
  deriving DecidableEq, Repr

namespace Request

/-- Whether a character can stand in the scheme of a URI. -/
def isSchemeCharacter (c : Char) : Bool :=
  c.isAlphanum || "+-.~".toList.contains c

/-- What follows the scheme and the host of a URI, or all of a text without them. -/
def withoutHost (cs : List Char) : List Char :=
  match cs.dropWhile isSchemeCharacter with
  | ':' :: '/' :: '/' :: rest => rest.dropWhile fun c => c ≠ '/' && c ≠ '?'
  | _ => cs

/-- The target from its path on, up to a number sign. -/
def reference (request : Request) : List Char :=
  withoutHost (splitFirst '#' request.target.toList).1

/-- The path. -/
def path (request : Request) : List Char :=
  (splitFirst '?' request.reference).1

/-- The query, empty where there is none. -/
def query (request : Request) : List Char :=
  (splitFirst '?' request.reference).2

/-- The parts of the path after the slashes in it, and `none` where it does not start
    with a slash. -/
def segments? (request : Request) : Option (List String) :=
  match splitAt '/' request.path with
  | [] :: parts => some (parts.map String.ofList)
  | _ => none

end Request

/-- The body of a response.  `notice` is a text in plain words about the request. -/
inductive Body where
  | empty
  | notice
  | json (value : Json)
  deriving Repr

/-- A response. -/
structure Response where
  status : Nat
  body : Body
  deriving Repr

namespace Response

/-- A response without a body. -/
def bare (status : Nat) : Response :=
  ⟨status, .empty⟩

/-- A response to a request that cannot be read. -/
def unreadable (status : Nat) : Response :=
  ⟨status, .notice⟩

/-- A response with a message. -/
def message (status : Nat) (text : String) : Response :=
  ⟨status, .json (.object [("message", .string text)])⟩

/-- The status of a response to an operation that failed. -/
def errorStatus : RegistryError → Nat
  | .invalidField .. | .invalidMetadataValue .. | .reservedDatabase _ | .selfLink
  | .unknownAssetReference .. | .linkLimitExceeded .. | .cycleDetected
  | .pipelineDisabled _ => 400
  | .notFound _ => 404
  | .duplicateLink _ | .duplicateMetadataKey _ | .alreadyExists _ | .executionAlreadyRunning
  | .invalidTransition .. => 409
  | .database => 500

/-- The response to an operation that failed. -/
def ofError (e : RegistryError) : Response :=
  message (errorStatus e) e.message

end Response

end AssetRegistry.Http
