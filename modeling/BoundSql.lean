import BoundSql.Builder.Modifier
import BoundSql.Connection.Embedded
import BoundSql.Connection.ScriptedConnector
import BoundSql.Json.Reading
import BoundSql.Proofs.Positional.Lossless
import BoundSql.Proofs.Query.Names
import BoundSql.Proofs.Statement.Distinct
import BoundSql.Proofs.Statement.Nesting
import BoundSql.Proofs.Statement.Outline
import BoundSql.Proofs.Statement.Placement
import BoundSql.Proofs.Transaction.Scope
import BoundSql.Proofs.Page.Window
import BoundSql.Proofs.Registry.Calls
import BoundSql.Proofs.Registry.Cache
import BoundSql.Proofs.Builder.Terminal
import BoundSql.Proofs.Query.Recorded
import BoundSql.Proofs.Builder.Persistence
import BoundSql.Proofs.Query.Scripted
import BoundSql.Proofs.Builder.Pagination
import BoundSql.Proofs.Clause.Unflatten
import BoundSql.Proofs.Positional.Agreement
import BoundSql.Proofs.Positional.Idempotent
import BoundSql.Proofs.Clause.Calls
import BoundSql.Proofs.Statement.Scalars
import BoundSql.Proofs.Statement.Found
import BoundSql.Proofs.Positional.BlockComment
import BoundSql.Query.Accessor
import BoundSql.Proofs.Query.Accessor
import BoundSql.Proofs.Builder.Order
import BoundSql.Proofs.Statement.Joining
import BoundSql.Proofs.Builder.Limits
import BoundSql.Proofs.Config.File
import BoundSql.Proofs.Clause.Token
import BoundSql.Proofs.Query.ResultSet
import BoundSql.Proofs.Value.Integer
import BoundSql.Proofs.Value.Json
import BoundSql.Proofs.Error.Layers
