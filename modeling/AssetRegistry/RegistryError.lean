import AssetRegistry.AssetLink
import AssetRegistry.Execution
import AssetRegistry.LinkMetadata
import AssetRegistry.Workflow

/-! # Why an operation is refused

The errors of registry operations as causes.  `RegistryError.message` is the one
place that words them. -/

namespace AssetRegistry

/-- The rule that a field of a request breaks. -/
inductive FieldRule where
  | identifier
  | fileExtension
  | assetIdLength
  | assetIdStart
  | assetIdCharacters
  | textLength
  | metadataKeyLength
  | notBlank
  | positive
  | needsCallback
  | belowTimeout
  | atLeastOnePipeline
  | ownPipeline (step : PipelineRef) (databaseId : String)
  deriving DecidableEq, Repr

/-- The wording of a broken rule. -/
def FieldRule.message : FieldRule → String
  | .identifier => "must follow the regexp ^[a-z]([-_a-z0-9])\x7b3,63\x7d$"
  | .fileExtension => "must follow the regexp ^[\\.]([a-z0-9])\x7b1,7\x7d$"
  | .assetIdLength => "must be between 1 and 256 characters"
  | .assetIdStart => "must not start with '.' or '-'"
  | .assetIdCharacters => "may only contain letters, digits, '-', '_' and '.'"
  | .textLength => "must be lower than 256 characters"
  | .metadataKeyLength => "must be between 1 and 256 characters"
  | .notBlank => "must not be empty"
  | .positive => "must be positive"
  | .needsCallback => "requires waitForCallback"
  | .belowTimeout => "must be lower than taskTimeoutSeconds"
  | .atLeastOnePipeline => "must contain at least one pipeline"
  | .ownPipeline step databaseId =>
    "pipeline '" ++ step.text ++ "' must belong to '" ++ databaseId ++ "' or GLOBAL"

/-- The rule that the text of a metadata value breaks. -/
inductive ValueRule where
  | number
  | boolean
  | date
  | json
  | jsonObject
  | jsonArray
  | coordinate (key : String)
  | coordinateKeys (keys : List String)
  | fourRows
  | rowArray (row : Nat)
  | fourElements (row : Nat)
  | matrixElement (row column : Nat)
  | pointType
  | coordinatesArray
  | coordinatesNumbers
  | knownGeometry
  | positionKeys
  | positionNumber (key : String)
  | latitude
  | longitude
  deriving DecidableEq, Repr

/-- The wording of a broken rule. -/
def ValueRule.message : ValueRule → String
  | .number => "must be a valid number"
  | .boolean => "must be 'true' or 'false'"
  | .date => "must be a valid ISO date format"
  | .json => "must be valid JSON"
  | .jsonObject => "must be a JSON object"
  | .jsonArray => "must be a JSON array"
  | .coordinate key => "coordinate '" ++ key ++ "' must be a number"
  | .coordinateKeys keys => "must contain the keys " ++ ", ".intercalate keys
  | .fourRows => "must be a 4x4 matrix (4 rows)"
  | .rowArray row => "row " ++ toString row ++ " must be an array"
  | .fourElements row => "row " ++ toString row ++ " must contain exactly 4 elements"
  | .matrixElement row column =>
    "element at [" ++ toString row ++ "][" ++ toString column ++ "] must be a number"
  | .pointType => "type must be 'Point'"
  | .coordinatesArray => "must have a 'coordinates' array"
  | .coordinatesNumbers => "coordinates must be 2 or 3 numbers"
  | .knownGeometry => "must be a GeoJSON object with a known 'type'"
  | .positionKeys => "must contain 'lat', 'long', and 'alt' keys"
  | .positionNumber key => "'" ++ key ++ "' must be a number"
  | .latitude => "latitude must be between -90 and 90"
  | .longitude => "longitude must be between -180 and 180"

/-- Something that a registry stores, or that a caller takes to be stored. -/
inductive Subject where
  | database (databaseId : String)
  | asset (key : AssetKey)
  | pipeline (ref : PipelineRef)
  | workflow (key : WorkflowKey)
  | visibleWorkflow (workflowId : String)
  | assetLink (assetLinkId : String)
  | metadata (assetLinkId metadataKey : String)
  | execution (key : ExecutionKey)
  | named (name : String)
  deriving DecidableEq, Repr

/-- How messages name a subject. -/
def Subject.text : Subject → String
  | .database databaseId => "database '" ++ databaseId ++ "'"
  | .asset key => "asset '" ++ key.text ++ "'"
  | .pipeline ref => "pipeline '" ++ ref.text ++ "'"
  | .workflow key => "workflow '" ++ key.text ++ "'"
  | .visibleWorkflow workflowId => "workflow '" ++ workflowId ++ "'"
  | .assetLink assetLinkId => "asset link '" ++ assetLinkId ++ "'"
  | .metadata assetLinkId metadataKey =>
    "metadata '" ++ metadataKey ++ "' on asset link '" ++ assetLinkId ++ "'"
  | .execution key => "execution '" ++ key.text ++ "'"
  | .named name => name

/-- An end of a link. -/
inductive Side where
  | source
  | target
  deriving DecidableEq, Repr

/-- The name of an end. -/
def Side.name : Side → String
  | .source => "from"
  | .target => "to"

/-- What makes a new link the repetition of a stored one. -/
inductive Duplication where
  | related
  | sameAlias
  | reversed
  deriving DecidableEq, Repr

/-- The wording of a repetition. -/
def Duplication.message : Duplication → String
  | .related => "a relationship already exists between these assets"
  | .sameAlias =>
    "a parent-child relationship already exists between these assets with the provided alias"
  | .reversed => "a parent-child relationship already exists in the reverse direction"

/-- Why an operation is refused.  `database` is a failure of the store itself. -/
inductive RegistryError where
  | invalidField (field : String) (rule : FieldRule)
  | invalidMetadataValue (type : ValueType) (rule : ValueRule)
  | reservedDatabase (databaseId : String)
  | selfLink
  | unknownAssetReference (key : AssetKey) (side : Side)
  | duplicateLink (duplication : Duplication)
  | cycleDetected
  | linkLimitExceeded (key : AssetKey) (limit : Nat)
  | duplicateMetadataKey (metadataKey : String)
  | alreadyExists (subject : Subject)
  | notFound (subject : Subject)
  | pipelineDisabled (ref : PipelineRef)
  | executionAlreadyRunning
  | invalidTransition (current wanted : ExecutionStatus)
  | database
  deriving DecidableEq, Repr

/-- The wording of an error.  A failure of the store tells nothing of itself. -/
def RegistryError.message : RegistryError → String
  | .invalidField field rule => field ++ " is invalid: " ++ rule.message
  | .invalidMetadataValue type rule =>
    "metadataValue is not a valid " ++ type.name ++ ": " ++ rule.message
  | .reservedDatabase databaseId => "database ID '" ++ databaseId ++ "' is reserved"
  | .selfLink => "cannot create asset link to the same asset"
  | .unknownAssetReference key side =>
    "asset '" ++ key.text ++ "' does not exist (" ++ side.name ++ " side)"
  | .duplicateLink duplication => duplication.message
  | .cycleDetected => "creating this parent-child relationship would create a cycle"
  | .linkLimitExceeded key limit =>
    "asset '" ++ key.text ++ "' exceeds the " ++ toString limit ++ " asset link total limit"
  | .duplicateMetadataKey metadataKey =>
    "metadata key '" ++ metadataKey ++ "' already exists on this asset link"
  | .alreadyExists subject => subject.text ++ " already exists"
  | .notFound subject => subject.text ++ " not found"
  | .pipelineDisabled ref => "pipeline '" ++ ref.text ++ "' is not enabled"
  | .executionAlreadyRunning => "workflow has a currently running execution on the asset"
  | .invalidTransition current wanted =>
    "cannot change execution status from " ++ current.name ++ " to " ++ wanted.name
  | .database => "internal server error"

end AssetRegistry
