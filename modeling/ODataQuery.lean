import ODataQuery.Main
import ODataQuery.Deferred.Session
import ODataQuery.Encoding.Query
import ODataQuery.Files.Tree
import ODataQuery.Records.Interleaving
import ODataQuery.Proofs.Pipeline.Meaning
import ODataQuery.Proofs.QueryString.Completeness
import ODataQuery.Proofs.Sql.Paging
import ODataQuery.Proofs.Records.Enumeration
import ODataQuery.Proofs.Records.Interleaving
import ODataQuery.Proofs.Expression.Parts
import ODataQuery.Proofs.Pipeline.Ordering
import ODataQuery.Proofs.Records.TypedValues
import ODataQuery.Proofs.DateTime.RoundTrip
import ODataQuery.Proofs.QueryString.Balance
import ODataQuery.Proofs.QueryString.ReadBack
import ODataQuery.Proofs.Sql.Faults
import ODataQuery.Proofs.QueryString.Parameters
import ODataQuery.Proofs.Configuration.Catalog
import ODataQuery.Proofs.Configuration.Queries
import ODataQuery.Proofs.Configuration.Validation
import ODataQuery.Proofs.Expression.Outline
import ODataQuery.Proofs.Sql.Literals
import ODataQuery.Proofs.Deferred.InlineCount
import ODataQuery.Proofs.Deferred.Discipline
import ODataQuery.Proofs.Deferred.Continuation
import ODataQuery.Proofs.Sql.Placeholders
import ODataQuery.Proofs.Sql.UniqueReading
import ODataQuery.Proofs.Records.Absence
import ODataQuery.Proofs.Records.Laziness
import ODataQuery.Proofs.Sql.Positions
import ODataQuery.Proofs.Sql.OrderedPages
import ODataQuery.Proofs.Sql.Escaping
import ODataQuery.Proofs.Sql.BaseRelation
import ODataQuery.Proofs.QueryString.Spelling
import ODataQuery.Proofs.Records.KeyOrder
import ODataQuery.Proofs.Deferred.Description
import ODataQuery.Proofs.CommandLine.Answers
import ODataQuery.Proofs.Pipeline.SortKeys
import ODataQuery.Proofs.Sql.DistinctKeys
import ODataQuery.Proofs.QueryString.FaultPlaces
import ODataQuery.Proofs.QueryString.Progress
import ODataQuery.Proofs.QueryString.Pairs
import ODataQuery.Proofs.CommandLine.QueryStrings
import ODataQuery.Proofs.Records.IntegerArithmetic
import ODataQuery.Proofs.Json.Fields
import ODataQuery.Proofs.Encoding.Expression
import ODataQuery.Proofs.Encoding.Query
import ODataQuery.Proofs.Encoding.Configuration
import ODataQuery.Proofs.Json.Text
import ODataQuery.Proofs.Configuration.Stored
