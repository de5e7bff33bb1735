import AssetRegistry.AssetLink

/-! # Listings of links

What is linked to an asset, as seen from there.  The children are listed flat, or as
the tree of all descendants.  A listing shows no archived asset, and counts the
links that it leaves out for that. -/

namespace AssetRegistry

open Json

/-- The asset at the other end of a link. -/
structure LinkedAsset where
  assetLinkId : String
  assetId : String
  assetName : String
  databaseId : String
  assetLinkAliasId : Option String
  deriving DecidableEq, Repr

namespace LinkedAsset

/-- The key of the asset. -/
def key (a : LinkedAsset) : AssetKey :=
  ⟨a.databaseId, a.assetId⟩

/-- The JSON form of a linked asset. -/
def codec : Codec LinkedAsset :=
  .record
    (.required "assetLinkId" .string <| .required "assetId" .string <|
      .required "assetName" .string <| .required "databaseId" .string <|
      .required "assetLinkAliasId" (.option .string) .nil)
    (fun (assetLinkId, assetId, assetName, databaseId, assetLinkAliasId, ()) =>
      { assetLinkId, assetId, assetName, databaseId, assetLinkAliasId })
    (fun a => (a.assetLinkId, a.assetId, a.assetName, a.databaseId, a.assetLinkAliasId, ()))

end LinkedAsset

/-! ### Trees of descendants -/

/-- A child with its own children. -/
inductive TreeNode where
  | node (asset : LinkedAsset) (children : List TreeNode)
  deriving Repr

namespace TreeNode

/-- The child. -/
def asset : TreeNode → LinkedAsset
  | node asset _ => asset

/-- Its own children. -/
def children : TreeNode → List TreeNode
  | node _ children => children

mutual

/-- A node is written as its asset with one more member, its children. -/
def encode : TreeNode → Json
  | node asset children =>
    .object (((LinkedAsset.codec.encode asset).object?.getD []) ++
      [("children", .array (encodeAll children))])

/-- Nodes are written one by one. -/
def encodeAll : List TreeNode → List Json
  | [] => []
  | first :: rest => first.encode :: encodeAll rest

end

/-- What is known of a node while its object is read: the children, and the other
    members. -/
abbrev Partial : Type :=
  Option (List TreeNode) × List (String × Json)

/-- Continues a node over one member.  Children are read where they stand, other
    members are kept as values. -/
def member (child : Decoder TreeNode) (key : String) (found : Partial) : Decoder Partial :=
  fun room ts =>
    if key = "children" then
      match found.1 with
      | some _ => .error .mismatched
      | none => do
        let (children, ts) ← Decoder.list child room (← expect .colon ts)
        return ((some children, found.2), ts)
    else do
      let (value, ts) ← Json.value room (← expect .colon ts)
      return ((found.1, found.2 ++ [(key, value)]), ts)

/-- The node that was found.  It has children, and an asset in its other members. -/
def ofPartial? (found : Partial) : Option TreeNode := do
  let children ← found.1
  let asset ← (LinkedAsset.codec.ofJson (.object found.2)).toOption
  return .node asset children

/-- A node, through at most that many nested steps.  It is written as an object
    only. -/
def decodeWithin : Nat → Decoder TreeNode
  | 0, _, _ => .error .malformed
  | steps + 1, room, .braceOpen :: ts => do
    let (found, ts) ←
      members (member (decodeWithin steps)) (← enter room) (ts.length + 1) true (none, []) ts
    match ofPartial? found with
    | some found => return (found, ← expect .braceClose ts)
    | none => .error .mismatched
  | _, _, ts => .error (unexpected ts)

/-- The JSON form of a node.  Each nested node is deeper, so one step more than
    there is room is enough. -/
def codec : Codec TreeNode where
  decode room := decodeWithin (room + 1) room
  encode

end TreeNode

/-! ### Children of an asset -/

/-- The children of an asset: the direct ones, or the tree of all descendants. -/
inductive ChildLinks where
  | flat (children : List LinkedAsset)
  | tree (children : List TreeNode)
  deriving Repr

namespace ChildLinks

/-- The number of direct children. -/
def length : ChildLinks → Nat
  | flat children => children.length
  | tree children => children.length

/-- Whether there is no child. -/
def isEmpty (c : ChildLinks) : Bool :=
  c.length = 0

/-- The children that a value is: direct ones where it can be read as such,
    otherwise a tree. -/
def ofJson? (j : Json) : Option ChildLinks :=
  match (Codec.list LinkedAsset.codec).ofJson j with
  | .ok children => some (flat children)
  | .error _ => ((Codec.list TreeNode.codec).ofJson j).toOption.map tree

/-- Children are written as an array, with nothing that tells the two forms
    apart. -/
def codec : Codec ChildLinks where
  decode room ts := do
    let (value, ts) ← Json.value room ts
    match ofJson? value with
    | some children => return (children, ts)
    | none => .error .mismatched
  encode
    | flat children => .array (children.map LinkedAsset.codec.encode)
    | tree children => .array (TreeNode.encodeAll children)

end ChildLinks

/-! ### Whole listings -/

/-- How many links a listing leaves out because the asset at their other end is
    archived or missing. -/
structure HiddenCounts where
  related : Nat
  parents : Nat
  children : Nat
  deriving DecidableEq, Repr

/-- The JSON form of the counts. -/
def HiddenCounts.codec : Codec HiddenCounts :=
  .record
    (.required "related" .count <| .required "parents" .count <|
      .required "children" .count .nil)
    (fun (related, parents, children, ()) => { related, parents, children })
    (fun h => (h.related, h.parents, h.children, ()))

/-- Everything that is linked to an asset. -/
structure AssetLinks where
  related : List LinkedAsset
  parents : List LinkedAsset
  children : ChildLinks
  hidden : HiddenCounts
  deriving Repr

/-- The JSON form of a listing. -/
def AssetLinks.codec : Codec AssetLinks :=
  .record
    (.required "related" (.list LinkedAsset.codec) <|
      .required "parents" (.list LinkedAsset.codec) <|
      .required "children" ChildLinks.codec <|
      .required "hidden" HiddenCounts.codec .nil)
    (fun (related, parents, children, hidden, ()) => { related, parents, children, hidden })
    (fun l => (l.related, l.parents, l.children, l.hidden, ()))

end AssetRegistry
