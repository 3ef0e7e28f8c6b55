import JsonFilter.Proofs.Condition.Depth
import JsonFilter.Proofs.Dialect.Extraction
import JsonFilter.Proofs.Key.Cut
import JsonFilter.Proofs.Key.Written
import JsonFilter.Proofs.Path.DollarReading
import JsonFilter.Proofs.Path.Quoting
import JsonFilter.Proofs.Predicate.Conjunction
import JsonFilter.Proofs.Session.Bindings
import JsonFilter.Proofs.Session.CastTypes
import JsonFilter.Proofs.Session.Chains
import JsonFilter.Proofs.Session.Complement
import JsonFilter.Proofs.Session.Grouping
import JsonFilter.Proofs.Session.NestedNulls
import JsonFilter.Proofs.Session.NullMode
import JsonFilter.Proofs.Session.NullTests
import JsonFilter.Proofs.Session.Placeholders
import JsonFilter.Proofs.Sql.QuotedReading
import JsonFilter.Proofs.Value.Obstacles
import JsonFilter.Proofs.Value.ReadBack
import JsonFilter.Value.Mapping
