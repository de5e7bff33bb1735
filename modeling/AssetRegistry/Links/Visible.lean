import AssetRegistry.LinkListing
import AssetRegistry.Store.Basic

/-! # What is visible along links

An asset is visible where it is stored and not archived.  Of the links at an asset
a listing shows those whose other end is visible, and counts the other ones. -/

namespace AssetRegistry.Links

/-- A link with the asset at its other end. -/
def linked (link : AssetLink) (other : Asset) : LinkedAsset where
  assetLinkId := link.assetLinkId
  assetId := other.assetId
  assetName := other.assetName
  databaseId := other.databaseId
  assetLinkAliasId := link.assetLinkAliasId

/-- The links of one relationship. -/
def ofType (type : RelationshipType) (links : List AssetLink) : List AssetLink :=
  links.filter (·.relationshipType = type)

/-- The links whose other end is visible, with it. -/
def visible (s : Store) (other : AssetLink → AssetKey) (links : List AssetLink) :
    List LinkedAsset :=
  links.filterMap fun l => (s.activeAsset? (other l)).map (linked l)

/-- The number of links whose other end is not visible. -/
def hiddenCount (s : Store) (other : AssetLink → AssetKey) (links : List AssetLink) : Nat :=
  links.countP fun l => (s.activeAsset? (other l)).isNone

/-- The visible children of an asset by some of the links, the oldest link first. -/
def childrenAmong (s : Store) (links : List AssetLink) (parent : AssetKey) : List LinkedAsset :=
  visible s AssetLink.target
    (ofType .parentChild ((links.filter (·.source = parent)).mergeSort AssetLink.le))

/-- There are no more children than links from the parent. -/
theorem length_childrenAmong_le (s : Store) (links : List AssetLink) (parent : AssetKey) :
    (childrenAmong s links parent).length ≤ (links.filter (·.source = parent)).length :=
  Nat.le_trans (List.length_filterMap_le ..) <|
    Nat.le_trans (List.length_filter_le ..) (Nat.le_of_eq (List.length_mergeSort ..))

end AssetRegistry.Links
