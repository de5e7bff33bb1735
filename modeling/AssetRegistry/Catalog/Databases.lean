import AssetRegistry.Registry
import AssetRegistry.Validation.Field

/-! # Databases of the catalog

The reserved database can neither be created nor archived.  What belongs to it is listed
after what belongs to another database. -/

namespace AssetRegistry.Catalog

/-- Refuses the reserved database. -/
def requireUnreserved (databaseId : String) : Except RegistryError Unit :=
  if databaseId = globalDatabaseId then .error (.reservedDatabase databaseId) else .ok ()

/-- The row of a new database. -/
def newDatabase (request : NewDatabase) (now : Moment) : Database where
  databaseId := request.databaseId
  description := request.description
  archived := false
  createdAt := now

/-- Creates a database. -/
def createDatabase (request : NewDatabase) : Action Database := do
  Action.check do
    requireUnreserved request.databaseId
    Validation.identifier "databaseId" request.databaseId
    Validation.freeText "description" request.description
  let now ← Action.get Registry.now
  Action.execute (Store.insertDatabase (newDatabase request now))
    (Action.conflict (.database request.databaseId))

/-- A database, archived or not. -/
def getDatabase (databaseId : String) : Action Database := do
  let found ← Action.query (·.database? databaseId)
  Action.orElse (.notFound (.database databaseId)) found

/-- A database that is not archived. -/
def activeDatabase (databaseId : String) : Action Database := do
  let database ← getDatabase databaseId
  if database.archived then throw (.notFound (.database databaseId))
  return database

/-- The databases by id. -/
def listDatabases (includeArchived : Bool) : Action (List Database) :=
  Action.query (·.listDatabases includeArchived)

/-- Archives a database.  What is in it stays. -/
def archiveDatabase (databaseId : String) : Action Unit := do
  Action.check (requireUnreserved databaseId)
  Action.execute (Store.setDatabaseArchived databaseId true)
    (Action.missing (.database databaseId))

/-! ### Merged listings -/

/-- The items whose key is neither among the seen ones nor that of an earlier item. -/
def keepFirst [BEq κ] (key : α → κ) : (seen : List κ) → List α → List α
  | _, [] => []
  | seen, item :: items =>
    if seen.contains (key item) then keepFirst key seen items
    else item :: keepFirst key (key item :: seen) items

/-- The local items followed by the shared ones.  Of several with one key the first
    stays. -/
def mergeWithGlobal [BEq κ] (key : α → κ) (locals shared : List α) : List α :=
  keepFirst key [] (locals ++ shared)

end AssetRegistry.Catalog
