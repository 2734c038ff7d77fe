import CrudQuery.Catalog.DefaultQuery
import CrudQuery.DocumentStore.Render
import CrudQuery.Log.Logger
import CrudQuery.Proofs.Catalog.Acceptance
import CrudQuery.Proofs.Catalog.Composition
import CrudQuery.Proofs.Catalog.Generation
import CrudQuery.Proofs.Catalog.Guards
import CrudQuery.Proofs.Catalog.Marks
import CrudQuery.Proofs.Catalog.Refusal
import CrudQuery.Proofs.Conjunction
import CrudQuery.Proofs.DocumentStore.Acceptance
import CrudQuery.Proofs.DocumentStore.Refusal
import CrudQuery.Proofs.DocumentStore.Truth
import CrudQuery.Proofs.Draft
import CrudQuery.Proofs.Draft.Chain
import CrudQuery.Proofs.Draft.Content
import CrudQuery.Proofs.Draft.Independence
import CrudQuery.Proofs.Draft.Insertion
import CrudQuery.Proofs.Number.PageText
import CrudQuery.Proofs.Portability
import CrudQuery.Proofs.Record
import CrudQuery.Proofs.Reporting
import CrudQuery.Proofs.Row
import CrudQuery.Proofs.Row.Assignment
import CrudQuery.Proofs.Row.Order
import CrudQuery.Proofs.Sql.Acceptance
import CrudQuery.Proofs.Sql.Alphabet
import CrudQuery.Proofs.Sql.Compilation
import CrudQuery.Proofs.Sql.Decoding
import CrudQuery.Proofs.Sql.Layout
import CrudQuery.Proofs.Sql.Placeholders
import CrudQuery.Proofs.Sql.Predicate
import CrudQuery.Proofs.Sql.Redaction
import CrudQuery.Proofs.Sql.RowNames
import CrudQuery.Proofs.Sql.Text
import CrudQuery.Proofs.Sql.Unambiguity
import CrudQuery.Proofs.Sql.Word
import CrudQuery.Proofs.StoredData
import CrudQuery.Proofs.Text.Decoding
import CrudQuery.Proofs.Text.Order
import CrudQuery.Sql.Render
import CrudQuery.Proofs.Sql.Quotation
import CrudQuery.Proofs.DocumentStore.Sorting
import CrudQuery.Proofs.Sql.Affixes
import CrudQuery.Proofs.Draft.Naming
import CrudQuery.Proofs.DocumentStore.Projection
import CrudQuery.Proofs.DocumentStore.Leaves
import CrudQuery.Proofs.DocumentStore.Wildcard.Matching
import CrudQuery.Proofs.Record.Listing
import CrudQuery.Proofs.Row.RoundTrip
import CrudQuery.Proofs.Catalog.Columns
import CrudQuery.Proofs.Number.Notation
import CrudQuery.Proofs.Sql.PageOperands
import CrudQuery.Proofs.Log.History
import CrudQuery.Proofs.Sql.Derivation
import CrudQuery.Proofs.Draft.Derivation
