import AssetRegistry.Links.Tree
import AssetRegistry.Registry

/-! # Listing the links of an asset

A related link is listed alike at both of its ends; a parent-child link is listed
among the children of its parent and among the parents of its child. -/

namespace AssetRegistry.Links

/-- The links that a listing leaves out. -/
def hiddenAt (s : Store) (key : AssetKey) : HiddenCounts where
  related :=
    hiddenCount s AssetLink.target (ofType .related (s.linksFrom key)) +
      hiddenCount s AssetLink.source (ofType .related (s.linksTo key))
  parents := hiddenCount s AssetLink.source (ofType .parentChild (s.linksTo key))
  children := hiddenCount s AssetLink.target (ofType .parentChild (s.linksFrom key))

/-- What is linked to an asset: the links that come from it before those that go to
    it. -/
def linksAt (s : Store) (key : AssetKey) (childTreeView : Bool) : AssetLinks where
  related :=
    visible s AssetLink.target (ofType .related (s.linksFrom key)) ++
      visible s AssetLink.source (ofType .related (s.linksTo key))
  parents := visible s AssetLink.source (ofType .parentChild (s.linksTo key))
  children :=
    if childTreeView then .tree (descendants s key)
    else .flat (childrenAmong s s.links key)
  hidden := hiddenAt s key

/-- Refuses an asset that is not stored.  An archived one is. -/
def requireListed (key : AssetKey) : Action Unit := do
  let found ← Action.query (·.asset? key)
  let _ ← Action.orElse (.notFound (.asset key)) found

/-- Everything that is linked to an asset. -/
def listLinks (key : AssetKey) (childTreeView : Bool) : Action AssetLinks := do
  requireListed key
  Action.query (linksAt · key childTreeView)

end AssetRegistry.Links
