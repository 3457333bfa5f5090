import Junction.Config.Watch
import Junction.Http.Outbound
import Junction.Http.Shutdown
import Junction.Main
import Junction.Proofs.Cache.Key
import Junction.Proofs.Cache.Timed
import Junction.Proofs.Change.Action
import Junction.Proofs.Engine.Assembly
import Junction.Proofs.Engine.Forwarding
import Junction.Proofs.Engine.Grouping
import Junction.Proofs.Engine.Hosts
import Junction.Proofs.Engine.Moment
import Junction.Proofs.Engine.Omission
import Junction.Proofs.Engine.OmittedBody
import Junction.Proofs.Exchange.Lifecycle
import Junction.Proofs.Exchange.Substitution
import Junction.Proofs.Http.BrokenCache
import Junction.Proofs.Http.Refusal
import Junction.Proofs.Json.Dropped
import Junction.Proofs.Json.KeyCase
import Junction.Proofs.Json.OmitEmpty
import Junction.Proofs.Json.Renaming
import Junction.Proofs.Json.Spelling
import Junction.Proofs.Json.Words
import Junction.Proofs.Json.Written
import Junction.Proofs.Limit.Bound
import Junction.Proofs.Message.Edits
import Junction.Proofs.Message.OrderedUnion
import Junction.Proofs.Message.QueryText
import Junction.Proofs.Route.Reach
import Junction.Proofs.Xml.Kept
import Junction.Proofs.Xml.RoundTrip
import Junction.Proofs.Xml.WellFormed
