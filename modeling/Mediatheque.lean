import Mediatheque.Predicate.Form
import Mediatheque.Proofs.Criteria.Acceptance
import Mediatheque.Proofs.Gap.Agreement
import Mediatheque.Proofs.Predicate.Literals
import Mediatheque.Proofs.Sql.Meaning
import Mediatheque.Proofs.Store.Fetch
import Mediatheque.Settings.Source
import Mediatheque.Proofs.Listing.Leaves
import Mediatheque.Proofs.Sql.Sending
import Mediatheque.Proofs.Listing.Resolution
import Mediatheque.Proofs.Gap.Coverage
import Mediatheque.Proofs.Listing.Restoration
import Mediatheque.Proofs.Json.Depth
import Mediatheque.Proofs.Json.Text
import Mediatheque.Proofs.Calendar.Text
import Mediatheque.Proofs.Identity
import Mediatheque.Proofs.Json.Form
import Mediatheque.Proofs.Predicate.Storage
import Mediatheque.Proofs.Sort.TotalOrder
import Mediatheque.Proofs.Sql.Binding
import Mediatheque.Proofs.Listing.Reload
import Mediatheque.Proofs.Listing.Register
import Mediatheque.Proofs.Media.CaughtUp
import Mediatheque.Proofs.Criteria.Years
import Mediatheque.Proofs.Sql.Grammar
import Mediatheque.Proofs.Criteria.Session
import Mediatheque.Proofs.Sql.Fault
import Mediatheque.Proofs.Media.ProgressText
import Mediatheque.Proofs.Sql.ProgressOrder
import Mediatheque.Proofs.Sql.TitleOrder
import Mediatheque.Proofs.Criteria.SeasonOrder
import Mediatheque.Proofs.Sort.Direction
import Mediatheque.Proofs.Criteria.Activity
import Mediatheque.Proofs.Predicate.Grouping
import Mediatheque.Proofs.Predicate.ValueText
