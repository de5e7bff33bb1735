import AssetRegistry.Catalog.Databases

/-! # Assets of the catalog

An archived asset keeps its links, which listings then hide.  A deleted one takes its
links and their metadata with it. -/

namespace AssetRegistry.Catalog

/-- Refuses a request for an asset that breaks a rule. -/
def checkAsset (databaseId : String) (request : NewAsset) : Except RegistryError Unit := do
  Validation.identifier "databaseId" databaseId
  Validation.assetId "assetId" request.assetId
  Validation.freeText "assetName" request.assetName
  Validation.freeText "description" request.description
  Validation.require (!Text.isAllBlank request.assetName) "assetName" .notBlank

/-- The row of a new asset. -/
def newAsset (databaseId : String) (request : NewAsset) (now : Moment) : Asset where
  databaseId
  assetId := request.assetId
  assetName := request.assetName
  description := request.description
  assetType := request.assetType
  isDistributable := request.isDistributable
  currentVersionId := request.currentVersionId
  previewLocation := request.previewLocation
  gltfLocation := request.gltfLocation
  lazLocation := request.lazLocation
  archived := false
  createdAt := now

/-- Creates an asset in a database that is not archived. -/
def createAsset (databaseId : String) (request : NewAsset) : Action Asset := do
  Action.check (checkAsset databaseId request)
  let _ ← activeDatabase databaseId
  let now ← Action.get Registry.now
  let row := newAsset databaseId request now
  Action.execute (Store.insertAsset row) (Action.conflict (.asset row.key))

/-- An asset, archived or not. -/
def getAsset (key : AssetKey) : Action Asset := do
  let found ← Action.query (·.asset? key)
  Action.orElse (.notFound (.asset key)) found

/-- The assets of a database by name. -/
def listAssets (databaseId : String) (includeArchived : Bool) : Action (List Asset) := do
  let _ ← getDatabase databaseId
  Action.query (·.listAssets databaseId includeArchived)

/-- Archives an asset. -/
def archiveAsset (key : AssetKey) : Action Unit :=
  Action.execute (Store.setAssetArchived key true) (Action.missing (.asset key))

/-- Takes an asset back from the archive. -/
def restoreAsset (key : AssetKey) : Action Asset := do
  Action.execute (Store.setAssetArchived key false) (Action.missing (.asset key))
  getAsset key

/-- Deletes an asset for good and answers with the number of links that went with
    it. -/
def deleteAsset (key : AssetKey) : Action Nat :=
  Action.execute (Store.deleteAssetCascade key) (Action.missing (.asset key))

end AssetRegistry.Catalog
