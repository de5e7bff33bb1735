import AssetRegistry.Calendar.Reading
import AssetRegistry.Json.Embedded
import AssetRegistry.Numeric.Literal
import AssetRegistry.RegistryError

/-! # Metadata values

What the text of a metadata value has to look like, by its type.  The empty text is
a value of every type. -/

namespace AssetRegistry.Validation

/-- Refuses a value where a condition does not hold. -/
def requireValue (holds : Bool) (rule : ValueRule) : Except ValueRule Unit :=
  if holds then .ok () else .error rule

/-- What is there, or else a broken rule. -/
def orBroken (rule : ValueRule) : Option α → Except ValueRule α
  | some a => .ok a
  | none => .error rule

/-- The JSON value of a text. -/
def jsonOf (s : String) : Except ValueRule Json :=
  orBroken .json (Json.ofText? s)

/-- An object with numbers under certain keys, which are looked at in order. -/
def numbersUnder (keys : List String) (s : String) : Except ValueRule Unit := do
  let members ← orBroken .jsonObject (← jsonOf s).object?
  keys.forM fun key => do
    let value ← orBroken (.coordinateKeys keys) (Json.lookup? key members)
    requireValue value.isNumber (.coordinate key)

/-- A row of four numbers. -/
def matrixRow (row : Nat) (value : Json) : Except ValueRule Unit := do
  let elements ← orBroken (.rowArray row) value.array?
  requireValue (elements.length = 4) (.fourElements row)
  match elements.findIdx? (!·.isNumber) with
  | some column => .error (.matrixElement row column)
  | none => .ok ()

/-- Rows of four numbers, which are looked at in order. -/
def matrixRows (first : Nat) : List Json → Except ValueRule Unit
  | [] => .ok ()
  | row :: rows => do
    matrixRow first row
    matrixRows (first + 1) rows

/-- An array of four rows of four numbers. -/
def matrix (s : String) : Except ValueRule Unit := do
  let rows ← orBroken .jsonArray (← jsonOf s).array?
  requireValue (rows.length = 4) .fourRows
  matrixRows 0 rows

/-- A point with an array of two or three numbers. -/
def geopoint (s : String) : Except ValueRule Unit := do
  let value ← jsonOf s
  requireValue ((value.get? "type").bind Json.string? == some "Point") .pointType
  let coordinates ← orBroken .coordinatesArray ((value.get? "coordinates").bind Json.array?)
  requireValue (2 ≤ coordinates.length && coordinates.length ≤ 3 &&
    coordinates.all Json.isNumber) .coordinatesNumbers

/-- The types of geometries and features. -/
def geometryTypes : List String :=
  ["Point", "MultiPoint", "LineString", "MultiLineString", "Polygon", "MultiPolygon",
   "GeometryCollection", "Feature", "FeatureCollection"]

/-- An object with the type of a geometry or a feature. -/
def geojson (s : String) : Except ValueRule Unit := do
  let value ← jsonOf s
  requireValue (((value.get? "type").bind Json.string?).any geometryTypes.contains)
    .knownGeometry

/-- The number under a key of a position. -/
def positionNumber (members : List (String × Json)) (key : String) :
    Except ValueRule Json.Number := do
  match ← orBroken .positionKeys (Json.lookup? key members) with
  | .number n => .ok n
  | _ => .error (.positionNumber key)

/-- A position: latitude, longitude and altitude, the first two within their
    ranges. -/
def position (s : String) : Except ValueRule Unit := do
  let members ← orBroken .jsonObject (← jsonOf s).object?
  let latitude ← positionNumber members "lat"
  let longitude ← positionNumber members "long"
  let _ ← positionNumber members "alt"
  requireValue (latitude.isWithin 90) .latitude
  requireValue (longitude.isWithin 180) .longitude

/-- The rule that a text which is not empty breaks as a value of a type, if any. -/
def checkText (s : String) : ValueType → Except ValueRule Unit
  | .string | .multilineString | .inlineControlledList => .ok ()
  | .number => requireValue (Numeric.isLiteral (Text.trim s.toList)) .number
  | .boolean => requireValue (s.toLower == "true" || s.toLower == "false") .boolean
  | .date => requireValue (Calendar.isIsoDate s.toList) .date
  | .json => (jsonOf s).map fun _ => ()
  | .xyz => numbersUnder ["x", "y", "z"] s
  | .wxyz => numbersUnder ["w", "x", "y", "z"] s
  | .matrix4x4 => matrix s
  | .geopoint => geopoint s
  | .geojson => geojson s
  | .lla => position s

/-- Refuses the text of a metadata value that is not of its type. -/
def metadataValue (value : String) (type : ValueType) : Except RegistryError Unit :=
  if value.isEmpty then .ok ()
  else
    match checkText value type with
    | .ok () => .ok ()
    | .error rule => .error (.invalidMetadataValue type rule)

end AssetRegistry.Validation
