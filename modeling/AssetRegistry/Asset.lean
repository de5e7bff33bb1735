import AssetRegistry.Json.Record
import AssetRegistry.Moment

/-! # Assets

An asset is known by its database and its own id within it. -/

namespace AssetRegistry

open Json

/-- What identifies an asset. -/
structure AssetKey where
  databaseId : String
  assetId : String
  deriving DecidableEq, Repr

/-- The key as texts show it. -/
def AssetKey.text (k : AssetKey) : String :=
  k.databaseId ++ "/" ++ k.assetId

/-- The JSON form of a key. -/
def AssetKey.codec : Codec AssetKey :=
  .record
    (.required "databaseId" .string <| .required "assetId" .string .nil)
    (fun (databaseId, assetId, ()) => { databaseId, assetId })
    (fun k => (k.databaseId, k.assetId, ()))

/-- A stored asset. -/
structure Asset where
  databaseId : String
  assetId : String
  assetName : String
  description : String
  assetType : String
  isDistributable : Bool
  currentVersionId : Option String
  previewLocation : Option String
  gltfLocation : Option String
  lazLocation : Option String
  archived : Bool
  createdAt : Moment
  deriving DecidableEq, Repr

/-- The key of a stored asset. -/
def Asset.key (a : Asset) : AssetKey :=
  ⟨a.databaseId, a.assetId⟩

/-- The JSON form of a stored asset. -/
def Asset.codec : Codec Asset :=
  .record
    (.required "databaseId" .string <| .required "assetId" .string <|
      .required "assetName" .string <| .required "description" .string <|
      .required "assetType" .string <| .required "isDistributable" .bool <|
      .required "currentVersionId" (.option .string) <|
      .required "previewLocation" (.option .string) <|
      .required "gltfLocation" (.option .string) <|
      .required "lazLocation" (.option .string) <|
      .required "archived" .bool <| .required "createdAt" Moment.codec .nil)
    (fun (databaseId, assetId, assetName, description, assetType, isDistributable,
        currentVersionId, previewLocation, gltfLocation, lazLocation, archived, createdAt, ()) =>
      { databaseId, assetId, assetName, description, assetType, isDistributable,
        currentVersionId, previewLocation, gltfLocation, lazLocation, archived, createdAt })
    (fun a => (a.databaseId, a.assetId, a.assetName, a.description, a.assetType,
      a.isDistributable, a.currentVersionId, a.previewLocation, a.gltfLocation, a.lazLocation,
      a.archived, a.createdAt, ()))

/-- What a caller supplies to create an asset in a database. -/
structure NewAsset where
  assetId : String
  assetName : String
  description : String := ""
  assetType : String := ""
  isDistributable : Bool := false
  currentVersionId : Option String := none
  previewLocation : Option String := none
  gltfLocation : Option String := none
  lazLocation : Option String := none
  deriving DecidableEq, Repr

/-- The JSON form of a request for an asset. -/
def NewAsset.codec : Codec NewAsset :=
  .record
    (.required "assetId" .string <| .required "assetName" .string <|
      .defaulted "description" .string "" <| .defaulted "assetType" .string "" <|
      .defaulted "isDistributable" .bool false <|
      .defaulted "currentVersionId" (.option .string) none <|
      .defaulted "previewLocation" (.option .string) none <|
      .defaulted "gltfLocation" (.option .string) none <|
      .defaulted "lazLocation" (.option .string) none .nil)
    (fun (assetId, assetName, description, assetType, isDistributable, currentVersionId,
        previewLocation, gltfLocation, lazLocation, ()) =>
      { assetId, assetName, description, assetType, isDistributable, currentVersionId,
        previewLocation, gltfLocation, lazLocation })
    (fun a => (a.assetId, a.assetName, a.description, a.assetType, a.isDistributable,
      a.currentVersionId, a.previewLocation, a.gltfLocation, a.lazLocation, ()))

end AssetRegistry
