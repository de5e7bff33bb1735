import AssetRegistry.Links.Reach
import AssetRegistry.Registry
import AssetRegistry.Validation.Field

/-! # Creating and changing links

A link joins two different stored assets, neither of which has its fill of links.
Two assets have one related link at most, in whatever direction.  They may have
several parent-child links, all in one direction and with different aliases, and no
asset becomes its own descendant. -/

namespace AssetRegistry.Links

/-! ### Requests -/

/-- Refuses a tag that is too long. -/
def checkTags (tags : List String) : Except RegistryError Unit :=
  tags.forM (Validation.freeText "tags")

/-- Refuses a request that breaks a rule by itself. -/
def checkRequest (request : NewAssetLink) : Except RegistryError Unit := do
  Validation.databaseId "fromDatabaseId" request.fromDatabaseId
  Validation.assetId "fromAssetId" request.fromAssetId
  Validation.databaseId "toDatabaseId" request.toDatabaseId
  Validation.assetId "toAssetId" request.toAssetId
  request.alias?.forM (Validation.freeText "assetLinkAliasId")
  checkTags request.tags
  if request.source = request.target then
    throw .selfLink

/-! ### Checks against the store -/

/-- Refuses an end that is not stored.  An archived asset is. -/
def requireEnd (side : Side) (key : AssetKey) : Action Unit := do
  let found ← Action.query (·.asset? key)
  let _ ← Action.orElse (.unknownAssetReference key side) found

/-- Refuses an end that has as many links as it may have. -/
def requireCapacity (key : AssetKey) : Action Unit := do
  let limit ← Action.get Registry.linkLimit
  let count ← Action.query (·.linkCount key)
  if limit ≤ count then
    throw (.linkLimitExceeded key limit)

/-- Refuses a second related link. -/
def requireUnrelated (source target : AssetKey) : Action Unit := do
  let forward ← Action.query (·.linksBetween source target .related)
  let backward ← Action.query (·.linksBetween target source .related)
  if !forward.isEmpty || !backward.isEmpty then
    throw (.duplicateLink .related)

/-- Refuses a second parent-child link with the same alias, and one between a parent
    and its child in the reverse direction. -/
def requireNewChild (source target : AssetKey) (alias? : Option String) : Action Unit := do
  let existing ← Action.query (·.linksBetween source target .parentChild)
  if existing.any (·.assetLinkAliasId = alias?) then
    throw (.duplicateLink .sameAlias)
  let reverse ← Action.query (·.linksBetween target source .parentChild)
  if !reverse.isEmpty then
    throw (.duplicateLink .reversed)

/-- Refuses a child that is an ancestor of its parent. -/
def requireAcyclic (source target : AssetKey) : Action Unit := do
  -- A new edge closes a cycle exactly where there is a path from its end to its start.
  let closes ← Action.query (isAncestorOrSelf · target source)
  if closes then
    throw .cycleDetected

/-- Refuses a link that the links between the same assets do not admit. -/
def requireAdmissible (request : NewAssetLink) : Action Unit :=
  match request.relationshipType with
  | .related => requireUnrelated request.source request.target
  | .parentChild => do
    requireNewChild request.source request.target request.alias?
    requireAcyclic request.source request.target

/-! ### Operations -/

/-- The row of a new link. -/
def newLink (request : NewAssetLink) (assetLinkId : String) (now : Moment) : AssetLink where
  assetLinkId
  fromDatabaseId := request.fromDatabaseId
  fromAssetId := request.fromAssetId
  toDatabaseId := request.toDatabaseId
  toAssetId := request.toAssetId
  relationshipType := request.relationshipType
  assetLinkAliasId := request.alias?
  tags := request.tags
  createdAt := now

/-- Stores a new link under the next name. -/
def storeLink (request : NewAssetLink) : Action AssetLink := do
  let row ← Action.get fun r => newLink request r.nextLinkId r.now
  let stored ← Action.execute (Store.insertLink row) Action.broken
  modify fun r => { r with linksMade := r.linksMade + 1 }
  return stored

/-- Creates a link. -/
def createLink (request : NewAssetLink) : Action AssetLink := do
  Action.check (checkRequest request)
  requireEnd .source request.source
  requireEnd .target request.target
  -- From here on everything is about the links that are stored already.
  requireCapacity request.source
  requireCapacity request.target
  requireAdmissible request
  storeLink request

/-- A link. -/
def getLink (assetLinkId : String) : Action AssetLink := do
  let found ← Action.query (·.link? assetLinkId)
  Action.orElse (.notFound (.assetLink assetLinkId)) found

/-- Replaces the tags of a link. -/
def updateTags (assetLinkId : String) (tags : List String) : Action AssetLink := do
  Action.check (checkTags tags)
  Action.execute (Store.setLinkTags assetLinkId tags) (Action.missing (.assetLink assetLinkId))
  getLink assetLinkId

/-- Deletes a link with its metadata. -/
def deleteLink (assetLinkId : String) : Action Unit := do
  let _ ← Action.execute (Store.deleteLinkCascade assetLinkId)
    (Action.missing (.assetLink assetLinkId))

end AssetRegistry.Links
