import AssetRegistry.Json.Record
import AssetRegistry.Moment

/-! # Databases

A database is a namespace that groups assets, pipelines and workflows.  The
pipelines and workflows of the reserved database `GLOBAL` are visible from every
database. -/

namespace AssetRegistry

open Json

/-- The name of the reserved database. -/
def globalDatabaseId : String :=
  "GLOBAL"

/-- A stored database. -/
structure Database where
  databaseId : String
  description : String
  archived : Bool
  createdAt : Moment
  deriving DecidableEq, Repr

/-- The reserved database as it is when a registry is set up. -/
def Database.global : Database where
  databaseId := globalDatabaseId
  description := "Pipelines and workflows shared by every database"
  archived := false
  createdAt := .epoch

/-- The JSON form of a stored database. -/
def Database.codec : Codec Database :=
  .record
    (.required "databaseId" .string <| .required "description" .string <|
      .required "archived" .bool <| .required "createdAt" Moment.codec .nil)
    (fun (databaseId, description, archived, createdAt, ()) =>
      { databaseId, description, archived, createdAt })
    (fun d => (d.databaseId, d.description, d.archived, d.createdAt, ()))

/-- What a caller supplies to create a database. -/
structure NewDatabase where
  databaseId : String
  description : String := ""
  deriving DecidableEq, Repr

/-- The JSON form of a request for a database. -/
def NewDatabase.codec : Codec NewDatabase :=
  .record
    (.required "databaseId" .string <| .defaulted "description" .string "" .nil)
    (fun (databaseId, description, ()) => { databaseId, description })
    (fun d => (d.databaseId, d.description, ()))

end AssetRegistry
