import AssetRegistry.Links.Creation
import AssetRegistry.Validation.Value

/-! # Metadata of stored links

The metadata of a link is a map from keys to values with types.  A new value needs
a new key, and a value is replaced or deleted under the key that it has. -/

namespace AssetRegistry.Links

/-- A refusal of a value whose key is taken. -/
def takenKey (metadataKey : String) : StoreError → RegistryError
  | .uniqueViolation => .duplicateMetadataKey metadataKey
  | _ => .database

/-- Attaches a value to a link. -/
def createMetadata (row : LinkMetadata) : Action LinkMetadata := do
  let _ ← getLink row.assetLinkId
  Action.check do
    Validation.metadataKey row.metadataKey
    Validation.metadataValue row.metadataValue row.metadataValueType
  Action.execute (Store.insertMetadata row) (takenKey row.metadataKey)
  return row

/-- The metadata of a link by key. -/
def listMetadata (assetLinkId : String) : Action (List LinkMetadata) := do
  let _ ← getLink assetLinkId
  Action.query (·.listMetadata assetLinkId)

/-- Replaces a value and its type. -/
def updateMetadata (row : LinkMetadata) : Action LinkMetadata := do
  Action.check (Validation.metadataValue row.metadataValue row.metadataValueType)
  Action.execute (Store.setMetadata row)
    (Action.missing (.metadata row.assetLinkId row.metadataKey))
  return row

/-- Deletes a value. -/
def deleteMetadata (assetLinkId metadataKey : String) : Action Unit :=
  Action.execute (Store.deleteMetadata assetLinkId metadataKey)
    (Action.missing (.metadata assetLinkId metadataKey))

end AssetRegistry.Links
