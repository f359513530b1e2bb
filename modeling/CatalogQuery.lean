import CatalogQuery.Engine.Run
import CatalogQuery.Filter.RunHistory
import CatalogQuery.Proofs.InlineFlag
import CatalogQuery.Proofs.Negation
import CatalogQuery.Proofs.NormalForm
import CatalogQuery.Proofs.Backing
import CatalogQuery.Proofs.Sql.FilledColumns
import CatalogQuery.Proofs.ColumnContract
import CatalogQuery.Proofs.Depth
import CatalogQuery.Proofs.Containment
import CatalogQuery.Proofs.Distinct
import CatalogQuery.Proofs.StoredQueries
import CatalogQuery.Proofs.Windows
import CatalogQuery.Proofs.Catalogue
import CatalogQuery.Proofs.Statements
import CatalogQuery.Proofs.Sql.Applications
import CatalogQuery.Proofs.RowOrder
import CatalogQuery.Proofs.Splicing
import CatalogQuery.Proofs.Typing
import CatalogQuery.Proofs.RecordSets
import CatalogQuery.Proofs.Sql.Patterns
import CatalogQuery.Proofs.RightOperands
import CatalogQuery.Proofs.ExpansionRuns
import CatalogQuery.Proofs.RunLookups
import CatalogQuery.Proofs.IntegerTests
import CatalogQuery.Proofs.Terms
import CatalogQuery.Proofs.Faults
import CatalogQuery.Proofs.Counting
import CatalogQuery.Proofs.Sql.Escapes
import CatalogQuery.Proofs.Sql.Descendants
import CatalogQuery.Proofs.Slices
import CatalogQuery.Proofs.WindowCounts
import CatalogQuery.Proofs.FileLists
import CatalogQuery.Proofs.Attribution
import CatalogQuery.Proofs.Shares
import CatalogQuery.Proofs.Chunks
import CatalogQuery.Proofs.Provenance
