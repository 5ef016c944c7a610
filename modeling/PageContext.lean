import PageContext.Main
import PageContext.Proofs.Json.Reading
import PageContext.Proofs.Transform.DayGroups
import PageContext.Proofs.Query.Grammar
import PageContext.Proofs.Template.Pointwise
import PageContext.Proofs.Template.Schedules
import PageContext.Files.Tree
import PageContext.Proofs.Text.Cuts
import PageContext.Proofs.Query.ParamsText
import PageContext.Proofs.Query.RoundTrip
import PageContext.Proofs.Text.Decimal
import PageContext.Proofs.Params.Limits
import PageContext.Proofs.Store.Listings
import PageContext.Proofs.Template.Listings
import PageContext.Proofs.Query.Routing
import PageContext.Proofs.Store.Loading
import PageContext.Proofs.Number.Whole
import PageContext.Proofs.Store.Views
import PageContext.Proofs.Store.Recency
import PageContext.Proofs.Template.Refusals
import PageContext.Proofs.Command.TemplateFiles
import PageContext.Proofs.Template.Timeouts
import PageContext.Proofs.Settings.Layering
import PageContext.Proofs.Settings.Validity
import PageContext.Proofs.Page.Containment
import PageContext.Proofs.Calendar.Timelines
import PageContext.Proofs.Settings.Variables
import PageContext.Proofs.Transform.WholeKeys
import PageContext.Proofs.Transform.FieldOrder
import PageContext.Proofs.Transform.Partition
import PageContext.Proofs.Transform.DuplicateValues
import PageContext.Proofs.Transform.StaleLabels
import PageContext.Proofs.Transform.DisplayRuns
import PageContext.Proofs.Calendar.Spans
import PageContext.Proofs.Transform.SortedHeadings
import PageContext.Proofs.Transform.OwnHeadings
import PageContext.Proofs.Transform.CalendarRuns
import PageContext.Proofs.Transform.RequestedFields
import PageContext.Proofs.Calendar.TimelineMarkers
import PageContext.Proofs.Calendar.References
import PageContext.Proofs.Calendar.Distances
import PageContext.Proofs.Calendar.DayDistances
import PageContext.Proofs.Params.Merging
import PageContext.Proofs.Params.Arguments
import PageContext.Proofs.Transform.DerivedImages
import PageContext.Proofs.Transform.Spellings
import PageContext.Proofs.Json.Copies
import PageContext.Proofs.Log.Setup
