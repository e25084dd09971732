import MockApi.Http
import MockApi.Main
import MockApi.Random.Script
import MockApi.Proofs.Cache.Refinement
import MockApi.Proofs.Generation.Soundness
import MockApi.Proofs.Validation.Completeness
import MockApi.Proofs.Validation.Hiding
import MockApi.Crowd
import MockApi.Http.Traffic
import MockApi.Proofs.Engine.Stages
import MockApi.Proofs.Traffic.Alone
import MockApi.Generation.Calls
import MockApi.Proofs.Cache.Contents
import MockApi.Proofs.Traffic.Draining
import MockApi.Proofs.Preparation.Calls
import MockApi.Proofs.Session.Serving
import MockApi.Proofs.Session.Coherence
import MockApi.Proofs.Route.Table
import MockApi.Proofs.Engine.Statistics
import MockApi.Proofs.Session.Storage
import MockApi.Proofs.Session.Refusals
import MockApi.Generation.Uses
import MockApi.Proofs.Generation.Reproduction
import MockApi.Proofs.Route.Derived
import MockApi.Proofs.Session.Assembly
import MockApi.Proofs.Generation.Keeping.Leaves
import MockApi.Proofs.Generation.Keeping.Patterns
import MockApi.Proofs.Generation.Keeping.Walks
import MockApi.Proofs.Generation.Failures
import MockApi.Proofs.Session.Demands
import MockApi.Proofs.Json.Table
import MockApi.Proofs.Schema.RoundTrip
import MockApi.Proofs.Http.Routing
import MockApi.Proofs.Session.Override
import MockApi.Proofs.Route.Body
import MockApi.Proofs.Route.Choice
import MockApi.Proofs.Engine.Framing
import MockApi.Proofs.Validation.Reordering
import MockApi.Proofs.Validation.Reports
import MockApi.Proofs.Validation.Depth
import MockApi.Proofs.Generation.Nesting
import MockApi.Proofs.Generation.Types
import MockApi.Proofs.Generation.Following
import MockApi.Proofs.Generation.Sizes
import MockApi.Proofs.Generation.Filler
import MockApi.Proofs.Generation.Patterns.Language
import MockApi.Proofs.Generation.Patterns.Steering
import MockApi.Proofs.Generation.Overflow
import MockApi.Proofs.Schema.Pointers
import MockApi.Proofs.Schema.Chains
import MockApi.Proofs.Route.Collections
import MockApi.Proofs.Generation.Patterns.Suffixes
import MockApi.Proofs.Cache.Slots
import MockApi.Proofs.Session.Scenarios
import MockApi.Proofs.Config.Loading
