import AssetRegistry.Asset

/-! # Asset links

A link is a directed edge between two assets.  In a parent-child link the asset
that it comes from is the parent. -/

namespace AssetRegistry

open Json

/-- What a link says of its two assets. -/
inductive RelationshipType where
  | related
  | parentChild
  deriving DecidableEq, Repr

namespace RelationshipType

/-- The name of a relationship. -/
def name : RelationshipType → String
  | .related => "related"
  | .parentChild => "parentChild"

/-- The relationship of a name. -/
def ofName? (s : String) : Option RelationshipType :=
  [related, parentChild].find? (·.name == s)

/-- Relationships are written as their names. -/
def codec : Codec RelationshipType :=
  .choice ofName? name

end RelationshipType

/-- A stored link. -/
structure AssetLink where
  assetLinkId : String
  fromDatabaseId : String
  fromAssetId : String
  toDatabaseId : String
  toAssetId : String
  relationshipType : RelationshipType
  assetLinkAliasId : Option String
  tags : List String
  createdAt : Moment
  deriving DecidableEq, Repr

namespace AssetLink

/-- The asset that a link comes from. -/
def source (l : AssetLink) : AssetKey :=
  ⟨l.fromDatabaseId, l.fromAssetId⟩

/-- The asset that a link goes to. -/
def target (l : AssetLink) : AssetKey :=
  ⟨l.toDatabaseId, l.toAssetId⟩

/-- Whether an asset is at either end of a link. -/
def touches (l : AssetLink) (k : AssetKey) : Bool :=
  l.source = k || l.target = k

/-- The order of listings: by creation, then by id. -/
def le (a b : AssetLink) : Bool :=
  a.createdAt.before b.createdAt ||
    (!b.createdAt.before a.createdAt && a.assetLinkId ≤ b.assetLinkId)

/-- The JSON form of a stored link. -/
def codec : Codec AssetLink :=
  .record
    (.required "assetLinkId" .string <| .required "fromDatabaseId" .string <|
      .required "fromAssetId" .string <| .required "toDatabaseId" .string <|
      .required "toAssetId" .string <|
      .required "relationshipType" RelationshipType.codec <|
      .required "assetLinkAliasId" (.option .string) <|
      .required "tags" (.list .string) <| .required "createdAt" Moment.codec .nil)
    (fun (assetLinkId, fromDatabaseId, fromAssetId, toDatabaseId, toAssetId, relationshipType,
        assetLinkAliasId, tags, createdAt, ()) =>
      { assetLinkId, fromDatabaseId, fromAssetId, toDatabaseId, toAssetId, relationshipType,
        assetLinkAliasId, tags, createdAt })
    (fun l => (l.assetLinkId, l.fromDatabaseId, l.fromAssetId, l.toDatabaseId, l.toAssetId,
      l.relationshipType, l.assetLinkAliasId, l.tags, l.createdAt, ()))

end AssetLink

/-- What a caller supplies to create a link. -/
structure NewAssetLink where
  fromDatabaseId : String
  fromAssetId : String
  toDatabaseId : String
  toAssetId : String
  relationshipType : RelationshipType
  assetLinkAliasId : Option String := none
  tags : List String := []
  deriving DecidableEq, Repr

namespace NewAssetLink

/-- The asset that the link is to come from. -/
def source (l : NewAssetLink) : AssetKey :=
  ⟨l.fromDatabaseId, l.fromAssetId⟩

/-- The asset that the link is to go to. -/
def target (l : NewAssetLink) : AssetKey :=
  ⟨l.toDatabaseId, l.toAssetId⟩

/-- The alias, where it is not blank. -/
def alias? (l : NewAssetLink) : Option String :=
  l.assetLinkAliasId.filter (!Text.isAllBlank ·)

/-- The JSON form of a request for a link. -/
def codec : Codec NewAssetLink :=
  .record
    (.required "fromDatabaseId" .string <| .required "fromAssetId" .string <|
      .required "toDatabaseId" .string <| .required "toAssetId" .string <|
      .required "relationshipType" RelationshipType.codec <|
      .defaulted "assetLinkAliasId" (.option .string) none <|
      .defaulted "tags" (.list .string) [] .nil)
    (fun (fromDatabaseId, fromAssetId, toDatabaseId, toAssetId, relationshipType,
        assetLinkAliasId, tags, ()) =>
      { fromDatabaseId, fromAssetId, toDatabaseId, toAssetId, relationshipType,
        assetLinkAliasId, tags })
    (fun l => (l.fromDatabaseId, l.fromAssetId, l.toDatabaseId, l.toAssetId,
      l.relationshipType, l.assetLinkAliasId, l.tags, ()))

end NewAssetLink

/-- What a caller supplies to replace the tags of a link. -/
structure TagUpdate where
  tags : List String
  deriving DecidableEq, Repr

/-- The JSON form of a request for new tags. -/
def TagUpdate.codec : Codec TagUpdate :=
  .record (.required "tags" (.list .string) .nil) (fun (tags, ()) => { tags })
    (fun u => (u.tags, ()))

end AssetRegistry
