import AssetRegistry.Database
import AssetRegistry.RegistryError

/-! # Request fields

The forms of identifiers and of free text.  Each check names the field that it is
made for. -/

namespace AssetRegistry.Validation

open Text

/-- The greatest number of characters of a free text and of an asset id. -/
def maxTextLength : Nat :=
  256

/-- Refuses a field where a condition does not hold. -/
def require (holds : Bool) (field : String) (rule : FieldRule) : Except RegistryError Unit :=
  if holds then .ok () else .error (.invalidField field rule)

/-- A lower-case ASCII letter. -/
def isLowerLetter (c : Char) : Bool :=
  'a' ≤ c && c ≤ 'z'

/-- A lower-case ASCII letter or a digit. -/
def isLowerAlphanumeric (c : Char) : Bool :=
  isLowerLetter c || c.isDigit

/-- Whether the text is an identifier: a lower-case letter and then lower-case letters,
    digits, hyphens and underscores, 4 to 64 bytes in all. -/
def isIdentifier (s : String) : Bool :=
  match s.toList with
  | [] => false
  | first :: rest =>
    isLowerLetter first && rest.all (fun c => isLowerAlphanumeric c || c = '-' || c = '_') &&
      4 ≤ s.utf8ByteSize && s.utf8ByteSize ≤ 64

/-- Identifiers of databases other than the reserved one, pipelines and workflows. -/
def identifier (field value : String) : Except RegistryError Unit :=
  require (isIdentifier value) field .identifier

/-- Identifiers of databases, the reserved one included. -/
def databaseId (field value : String) : Except RegistryError Unit :=
  if value = globalDatabaseId then .ok () else identifier field value

/-- A character that an asset id may hold. -/
def isAssetIdCharacter (c : Char) : Bool :=
  c.isAlphanum || c = '-' || c = '_' || c = '.'

/-- Asset ids: 1 to 256 letters, digits, hyphens, underscores and points that do not
    start with a point or a hyphen.  The length is in bytes, and is checked before
    the characters are. -/
def assetId (field value : String) : Except RegistryError Unit := do
  require (1 ≤ value.utf8ByteSize && value.utf8ByteSize ≤ maxTextLength) field .assetIdLength
  require (!(value.toList.head? == some '.' || value.toList.head? == some '-')) field
    .assetIdStart
  require (value.toList.all isAssetIdCharacter) field .assetIdCharacters

/-- Free text: at most 256 characters. -/
def freeText (field value : String) : Except RegistryError Unit :=
  require (value.length ≤ maxTextLength) field .textLength

/-- Whether the text is a file extension: a point and then 1 to 7 bytes of lower-case
    letters and digits. -/
def isFileExtension (s : String) : Bool :=
  match s.toList with
  | '.' :: rest =>
    1 ≤ (String.ofList rest).utf8ByteSize && (String.ofList rest).utf8ByteSize ≤ 7 &&
      rest.all isLowerAlphanumeric
  | _ => false

/-- File extensions. -/
def fileExtension (field value : String) : Except RegistryError Unit :=
  require (isFileExtension value) field .fileExtension

/-- Metadata keys: 1 to 256 characters. -/
def metadataKey (value : String) : Except RegistryError Unit :=
  require (1 ≤ value.length && value.length ≤ maxTextLength) "metadataKey" .metadataKeyLength

/-- The time limits of a pipeline: both are positive, and the heartbeat needs a
    callback and is below the limit of the task. -/
def timeouts (p : NewPipeline) : Except RegistryError Unit := do
  if let some timeout := p.taskTimeoutSeconds then
    require (0 < timeout) "taskTimeoutSeconds" .positive
  if let some heartbeat := p.taskHeartbeatTimeoutSeconds then
    require p.waitForCallback "taskHeartbeatTimeoutSeconds" .needsCallback
    require (0 < heartbeat) "taskHeartbeatTimeoutSeconds" .positive
    require (p.taskTimeoutSeconds.all (heartbeat < ·)) "taskHeartbeatTimeoutSeconds"
      .belowTimeout

end AssetRegistry.Validation
