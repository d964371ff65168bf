import MethodRoutes.Client.Basic
import MethodRoutes.Http.Canned
import MethodRoutes.Method.Json
import MethodRoutes.Proofs.Client.Collected
import MethodRoutes.Proofs.Client.ErrorOnStatus
import MethodRoutes.Proofs.Client.Joining
import MethodRoutes.Proofs.Client.Malformed
import MethodRoutes.Proofs.Client.Precedence
import MethodRoutes.Proofs.Client.Prepare
import MethodRoutes.Proofs.Client.Saved
import MethodRoutes.Proofs.Destination.Cuts
import MethodRoutes.Proofs.Destination.Grammar
import MethodRoutes.Proofs.Destination.Joined
import MethodRoutes.Proofs.Destination.Pieces
import MethodRoutes.Proofs.Json.Grammar
import MethodRoutes.Proofs.Json.Numeral
import MethodRoutes.Proofs.Json.Restoring
import MethodRoutes.Proofs.Json.RoundTrip
import MethodRoutes.Proofs.Json.Scalars
import MethodRoutes.Proofs.Json.Spelling
import MethodRoutes.Proofs.Method.Signature
import MethodRoutes.Proofs.Method.Written
import MethodRoutes.Proofs.Route.Arguments
import MethodRoutes.Proofs.Route.Decoding
import MethodRoutes.Proofs.Route.Faults
import MethodRoutes.Proofs.Route.Headers
import MethodRoutes.Proofs.Route.JsonBodies
import MethodRoutes.Proofs.Route.StatusAware
import MethodRoutes.Proofs.Route.Statuses
import MethodRoutes.Proofs.Route.Strict
import MethodRoutes.Proofs.Router.Build
import MethodRoutes.Proofs.Router.Interleaving
import MethodRoutes.Proofs.Router.Invocations
import MethodRoutes.Proofs.Router.Order
import MethodRoutes.Proofs.Router.Requests
import MethodRoutes.Proofs.Router.Served
import MethodRoutes.Route.Outline
