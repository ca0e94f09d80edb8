import ScopedSql.Configuration
import ScopedSql.Fault.Making
import ScopedSql.Query.Call
import ScopedSql.Traffic.Connection
import ScopedSql.Traffic.RawAccess
import ScopedSql.Proofs.Keys
import ScopedSql.Proofs.Reading.Lexeme
import ScopedSql.Proofs.Reading.Separation
import ScopedSql.Proofs.Reading.Rendering
import ScopedSql.Proofs.Reading.Command
import ScopedSql.Proofs.Access.Guards
import ScopedSql.Proofs.Statement.Independence
import ScopedSql.Proofs.Access.Calls
import ScopedSql.Proofs.Access.Assignment
import ScopedSql.Proofs.Access.Naming
import ScopedSql.Proofs.Tenancy.Prefix
import ScopedSql.Proofs.Tenancy.Schema
import ScopedSql.Proofs.Statement.Framing
import ScopedSql.Proofs.Access.SharedClauses
import ScopedSql.Proofs.Tenancy.Column
import ScopedSql.Proofs.Tenancy.Alike
import ScopedSql.Proofs.Tenancy.Blank
import ScopedSql.Proofs.Predicate.Truth
import ScopedSql.Proofs.Policy.AbsentAttribute
import ScopedSql.Proofs.Tenancy.Visibility
import ScopedSql.Proofs.Query.Builders
import ScopedSql.Proofs.Traffic.Regions
import ScopedSql.Proofs.Traffic.NamedBinds
import ScopedSql.Proofs.Statement.Portable
import ScopedSql.Proofs.Policy.Resolution
import ScopedSql.Proofs.Policy.Selection
import ScopedSql.Proofs.Policy.Replacement
import ScopedSql.Proofs.Policy.Exposure
import ScopedSql.Proofs.Number.Amount
import ScopedSql.Proofs.Number.Rounding
import ScopedSql.Proofs.Number.Spelling
import ScopedSql.Proofs.Number.Numeral
import ScopedSql.Proofs.Policy.Bounds
import ScopedSql.Proofs.Traffic.Operation
import ScopedSql.Proofs.Verdict
import ScopedSql.Proofs.Traffic.Queues
import ScopedSql.Proofs.Traffic.Denial
import ScopedSql.Proofs.Traffic.Insertion
import ScopedSql.Proofs.Traffic.Bracketing
import ScopedSql.Proofs.Policy.Spelling
import ScopedSql.Proofs.Policy.Completeness
import ScopedSql.Proofs.Statement.Validity
import ScopedSql.Proofs.Statement.Grammar
import ScopedSql.Proofs.Statement.Spacing
import ScopedSql.Proofs.Statement.Selection
import ScopedSql.Proofs.Definition.Quoting
import ScopedSql.Proofs.Definition.Table
import ScopedSql.Proofs.Definition.Escape
import ScopedSql.Proofs.Traffic.BindReferences
import ScopedSql.Proofs.Definition.Binds
import ScopedSql.Proofs.Traffic.Placeholders
import ScopedSql.Proofs.Query.Page
import ScopedSql.Proofs.Dialect.Table
import ScopedSql.Proofs.Value.Arrangement
import ScopedSql.Proofs.Value.Order
import ScopedSql.Proofs.Predicate.Membership
import ScopedSql.Proofs.Dialect.QuotedName
import ScopedSql.Proofs.Predicate.Offset
import ScopedSql.Proofs.Query.Merging
import ScopedSql.Proofs.Query.Description
import ScopedSql.Proofs.Items
import ScopedSql.Proofs.Policy.Loading
