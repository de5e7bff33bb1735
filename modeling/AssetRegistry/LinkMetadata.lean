import AssetRegistry.Json.Record

/-! # Metadata of links

A link carries values under keys.  A value is kept as a text and has a type, which
says what the text has to look like. -/

namespace AssetRegistry

open Json

/-- What the text of a metadata value has to look like. -/
inductive ValueType where
  | string
  | multilineString
  | inlineControlledList
  | number
  | boolean
  | date
  | json
  | xyz
  | wxyz
  | matrix4x4
  | geopoint
  | geojson
  | lla
  deriving DecidableEq, Repr

namespace ValueType

/-- The types in the order in which they are listed. -/
def all : List ValueType :=
  [string, multilineString, inlineControlledList, number, boolean, date, json, xyz, wxyz,
   matrix4x4, geopoint, geojson, lla]

/-- The name of a type. -/
def name : ValueType → String
  | .string => "string"
  | .multilineString => "multiline_string"
  | .inlineControlledList => "inline_controlled_list"
  | .number => "number"
  | .boolean => "boolean"
  | .date => "date"
  | .json => "json"
  | .xyz => "xyz"
  | .wxyz => "wxyz"
  | .matrix4x4 => "matrix4x4"
  | .geopoint => "geopoint"
  | .geojson => "geojson"
  | .lla => "lla"

/-- The type of a name. -/
def ofName? (s : String) : Option ValueType :=
  all.find? (·.name == s)

/-- The type that a text names, whatever the case of its letters, or a message
    that lists the names. -/
def parse (s : String) : Except String ValueType :=
  match ofName? s.toLower with
  | some t => .ok t
  | none =>
    .error ("invalid metadata value type: " ++ s ++ ". Supported types are: " ++
      ", ".intercalate (all.map name))

/-- Types are written as their names. -/
def codec : Codec ValueType :=
  .choice ofName? name

end ValueType

/-- A stored metadata value. -/
structure LinkMetadata where
  assetLinkId : String
  metadataKey : String
  metadataValue : String
  metadataValueType : ValueType
  deriving DecidableEq, Repr

/-- The JSON form of a stored metadata value. -/
def LinkMetadata.codec : Codec LinkMetadata :=
  .record
    (.required "assetLinkId" .string <| .required "metadataKey" .string <|
      .required "metadataValue" .string <|
      .required "metadataValueType" ValueType.codec .nil)
    (fun (assetLinkId, metadataKey, metadataValue, metadataValueType, ()) =>
      { assetLinkId, metadataKey, metadataValue, metadataValueType })
    (fun m => (m.assetLinkId, m.metadataKey, m.metadataValue, m.metadataValueType, ()))

/-- What a caller supplies to attach a value to a link.  The type is a name in any
    case. -/
structure NewMetadata where
  metadataKey : String
  metadataValue : String := ""
  metadataValueType : String := "string"
  deriving DecidableEq, Repr

/-- The JSON form of a request for a metadata value. -/
def NewMetadata.codec : Codec NewMetadata :=
  .record
    (.required "metadataKey" .string <| .defaulted "metadataValue" .string "" <|
      .defaulted "metadataValueType" .string "string" .nil)
    (fun (metadataKey, metadataValue, metadataValueType, ()) =>
      { metadataKey, metadataValue, metadataValueType })
    (fun m => (m.metadataKey, m.metadataValue, m.metadataValueType, ()))

/-- What a caller supplies to replace a value. -/
structure MetadataUpdate where
  metadataValue : String := ""
  metadataValueType : String := "string"
  deriving DecidableEq, Repr

/-- The JSON form of a request to replace a value. -/
def MetadataUpdate.codec : Codec MetadataUpdate :=
  .record
    (.defaulted "metadataValue" .string "" <|
      .defaulted "metadataValueType" .string "string" .nil)
    (fun (metadataValue, metadataValueType, ()) => { metadataValue, metadataValueType })
    (fun m => (m.metadataValue, m.metadataValueType, ()))

end AssetRegistry
