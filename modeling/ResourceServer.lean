import ResourceServer.Api.Dispatch
import ResourceServer.Json.Reader
import ResourceServer.Mapping.Registration
import ResourceServer.Proofs.Steps
import ResourceServer.Proofs.Atomicity
import ResourceServer.Proofs.Results
import ResourceServer.Proofs.Typing
import ResourceServer.Proofs.Columns
import ResourceServer.Proofs.Meaning
import ResourceServer.Proofs.Merging
import ResourceServer.Proofs.Joins
import ResourceServer.Proofs.Subqueries
import ResourceServer.Proofs.Compilation
import ResourceServer.Proofs.Selection
import ResourceServer.Proofs.Requests
import ResourceServer.Proofs.Statements
import ResourceServer.Proofs.Writes
import ResourceServer.Proofs.Layout
import ResourceServer.Proofs.References
import ResourceServer.Proofs.Acceptance
import ResourceServer.Proofs.Guarding
import ResourceServer.Proofs.Execution
import ResourceServer.Proofs.Agreement
import ResourceServer.Proofs.Changes
import ResourceServer.Proofs.Linking
import ResourceServer.Proofs.Lookup
import ResourceServer.Proofs.Decimals
import ResourceServer.Proofs.Rounding
import ResourceServer.Proofs.Numerals
import ResourceServer.Proofs.CalendarTexts
import ResourceServer.Proofs.Spelling
import ResourceServer.Proofs.Targets
import ResourceServer.Proofs.Resources
import ResourceServer.Proofs.Removal
import ResourceServer.Proofs.Preservation
import ResourceServer.Proofs.Filtering
import ResourceServer.Proofs.Integrity
import ResourceServer.Proofs.Constraints
import ResourceServer.Proofs.Housing
import ResourceServer.Proofs.Loading
import ResourceServer.Proofs.Identities
import ResourceServer.Proofs.LinkSets
import ResourceServer.Proofs.LinkSteps
import ResourceServer.Proofs.LinkChanges
import ResourceServer.Proofs.LinkActions
import ResourceServer.Proofs.StorageIndependence
import ResourceServer.Proofs.ToManyRequests
import ResourceServer.Proofs.Respelling
import ResourceServer.Proofs.RespelledRequests
import ResourceServer.Proofs.Occurrences
import ResourceServer.Proofs.Cardinality
import ResourceServer.Proofs.OrderJoins
import ResourceServer.Proofs.ToOneRequests
import ResourceServer.Proofs.Paths
import ResourceServer.Proofs.Traversal
import ResourceServer.Proofs.Inclusions
import ResourceServer.Proofs.Ties
import ResourceServer.Proofs.TieSteps
import ResourceServer.Proofs.TieRequests
import ResourceServer.Proofs.Partners
import ResourceServer.Proofs.Arrangement
import ResourceServer.Proofs.Counting
import ResourceServer.Proofs.KeyOrder
import ResourceServer.Proofs.Following
import ResourceServer.Proofs.FilterValues
import ResourceServer.Proofs.OrderKeys
import ResourceServer.Proofs.SortedQueries
import ResourceServer.Proofs.QueryStrings
import ResourceServer.Proofs.UrlSuffixes
import ResourceServer.Proofs.UrlTexts
import ResourceServer.Proofs.PageLinks
import ResourceServer.Proofs.Readings
import ResourceServer.Proofs.PartialLoading
import ResourceServer.Proofs.PartialInclusion
import ResourceServer.Proofs.PartialRendering
import ResourceServer.Proofs.PageDocuments
import ResourceServer.Proofs.PageWalks
import ResourceServer.Proofs.FieldRows
import ResourceServer.Proofs.UniqueIdentities
import ResourceServer.Proofs.StoredFields
import ResourceServer.Proofs.IdleLinkage
import ResourceServer.Proofs.PlainRequests
import ResourceServer.Proofs.RoundTrips
import ResourceServer.Proofs.IdleUpdates
import ResourceServer.Proofs.WritingBack
import ResourceServer.Proofs.Together
import ResourceServer.Proofs.Veils
import ResourceServer.Proofs.SecretFields
import ResourceServer.Proofs.VeiledOrders
import ResourceServer.Proofs.VeiledResources
import ResourceServer.Proofs.VeiledDocuments
import ResourceServer.Proofs.HiddenAttributes
import ResourceServer.Proofs.Sessions
import ResourceServer.Proofs.Operations
import ResourceServer.Proofs.Scoping
import ResourceServer.Proofs.Closedness
import ResourceServer.Proofs.Sheltering
import ResourceServer.Proofs.FieldUpdates
import ResourceServer.Proofs.Deletion
import ResourceServer.Proofs.PlainPaths
import ResourceServer.Proofs.PlainHosts
import ResourceServer.Proofs.Routes
import ResourceServer.Proofs.CreatedResources
import ResourceServer.Proofs.Locations
import ResourceServer.Proofs.RouteOrder
import ResourceServer.Proofs.FilterArity
import ResourceServer.Proofs.PlainReads
import ResourceServer.Proofs.Replaying
import ResourceServer.Proofs.OwnedLinks
import ResourceServer.Proofs.ReplayedLinks
import ResourceServer.Proofs.ReplayedRequests
import ResourceServer.Proofs.Refusals
import ResourceServer.Proofs.Replays
import ResourceServer.Proofs.Positions
import ResourceServer.Proofs.Coalescing
import ResourceServer.Proofs.BatchedLinks
import ResourceServer.Proofs.RenderedObjects
import ResourceServer.Proofs.InsertedRecords
import ResourceServer.Proofs.FiniteNumbers
import ResourceServer.Proofs.DescribedResources
import ResourceServer.Proofs.PresentedResources
import ResourceServer.Proofs.NewResources
import ResourceServer.Proofs.PageRanges
import ResourceServer.Proofs.Registrations
import ResourceServer.Proofs.SerialNumbers
import ResourceServer.Proofs.Rearrangement
import ResourceServer.Proofs.IgnoredCase
import ResourceServer.Proofs.FreshNumbers
import ResourceServer.Proofs.RowOrder
import ResourceServer.Proofs.PathTrees
import ResourceServer.Proofs.QuotedNames
