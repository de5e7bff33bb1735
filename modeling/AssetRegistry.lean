import AssetRegistry.Asset
import AssetRegistry.AssetLink
import AssetRegistry.Calendar.Date
import AssetRegistry.Calendar.Instant
import AssetRegistry.Calendar.Reading
import AssetRegistry.Catalog.Assets
import AssetRegistry.Catalog.Databases
import AssetRegistry.Catalog.Pipelines
import AssetRegistry.Catalog.Workflows
import AssetRegistry.CommandLine.Arguments
import AssetRegistry.CommandLine.FileUri
import AssetRegistry.CommandLine.Files
import AssetRegistry.CommandLine.Invocation
import AssetRegistry.CommandLine.Journal
import AssetRegistry.CommandLine.Location
import AssetRegistry.CommandLine.Program
import AssetRegistry.Database
import AssetRegistry.Execution
import AssetRegistry.Executions.Lifecycle
import AssetRegistry.Http.Endpoint
import AssetRegistry.Http.MediaType
import AssetRegistry.Http.Message
import AssetRegistry.Http.Query
import AssetRegistry.Http.Server
import AssetRegistry.Json.Basic
import AssetRegistry.Json.Codec
import AssetRegistry.Json.Decoder
import AssetRegistry.Json.Embedded
import AssetRegistry.Json.Printer
import AssetRegistry.Json.Record
import AssetRegistry.Json.Token
import AssetRegistry.LinkListing
import AssetRegistry.LinkMetadata
import AssetRegistry.Links.Creation
import AssetRegistry.Links.Listing
import AssetRegistry.Links.Metadata
import AssetRegistry.Links.Reach
import AssetRegistry.Links.Tree
import AssetRegistry.Links.Visible
import AssetRegistry.Main
import AssetRegistry.Moment
import AssetRegistry.Numeric.Binary64
import AssetRegistry.Numeric.Literal
import AssetRegistry.Operation
import AssetRegistry.Pipeline
import AssetRegistry.Registry
import AssetRegistry.RegistryError
import AssetRegistry.Store.Basic
import AssetRegistry.Store.Call
import AssetRegistry.Store.Write
import AssetRegistry.Text.Basic
import AssetRegistry.Text.Utf8
import AssetRegistry.Validation.Field
import AssetRegistry.Validation.Value
import AssetRegistry.Watch
import AssetRegistry.Workflow
import AssetRegistry.Proofs.Action
import AssetRegistry.Proofs.Statement
import AssetRegistry.Proofs.Reading
import AssetRegistry.Proofs.OperationStep
import AssetRegistry.Proofs.OperationAtomic
import AssetRegistry.Proofs.LinkAcyclic
import AssetRegistry.Proofs.LinkDistinct
import AssetRegistry.Proofs.LinkLimit
import AssetRegistry.Proofs.LinkStages
import AssetRegistry.Proofs.LinkRace
import AssetRegistry.Proofs.StoreConsistent
import AssetRegistry.Proofs.ExecutionSlot
import AssetRegistry.Proofs.ExecutionLife
import AssetRegistry.Proofs.JsonTokens
import AssetRegistry.Proofs.JsonReading
import AssetRegistry.Proofs.JsonRecord
import AssetRegistry.Proofs.ListingText
import AssetRegistry.Proofs.CascadeRollback
import AssetRegistry.Proofs.StatementRefusal
import AssetRegistry.Proofs.RowOrigin
import AssetRegistry.Proofs.FieldForm
import AssetRegistry.Proofs.HttpStatus
import AssetRegistry.Proofs.Survival
import AssetRegistry.Proofs.StoreFailure
import AssetRegistry.Proofs.StoredFields
import AssetRegistry.Proofs.ReservedDatabase
import AssetRegistry.Proofs.ClosedDatabase
import AssetRegistry.Proofs.Crowd
import AssetRegistry.Proofs.Repetition
import AssetRegistry.Proofs.Utf8Order
import AssetRegistry.Proofs.Utf8Text
import AssetRegistry.Proofs.BodyText
import AssetRegistry.Proofs.MetadataMap
import AssetRegistry.Proofs.MetadataAnswers
import AssetRegistry.Proofs.InstantText
import AssetRegistry.Proofs.JsonRereading
import AssetRegistry.Proofs.RecordText
import AssetRegistry.Proofs.Routes
import AssetRegistry.Proofs.HttpRefinement
import AssetRegistry.Proofs.DatabaseView
import AssetRegistry.Proofs.FirstOccurrence
import AssetRegistry.Proofs.DescendantTree
import AssetRegistry.Proofs.LinkRefusals
import AssetRegistry.Proofs.ExpandedOnce
import AssetRegistry.Proofs.CreationOrder
import AssetRegistry.Proofs.ListingPartition
import AssetRegistry.Proofs.ExactDeletion
import AssetRegistry.Proofs.Refusals
import AssetRegistry.Proofs.ExecutionStart
import AssetRegistry.Proofs.ExecutionGroups
import AssetRegistry.Proofs.WatchCourse
import AssetRegistry.Proofs.CatalogListing
import AssetRegistry.Proofs.FewerLinks
import AssetRegistry.Proofs.ArchivedAsset
import AssetRegistry.Proofs.MergedListing
import AssetRegistry.Proofs.ValueShapes
import AssetRegistry.Proofs.TextLanguage
import AssetRegistry.Proofs.NumberText
import AssetRegistry.Proofs.DateParts
import AssetRegistry.Proofs.DateText
