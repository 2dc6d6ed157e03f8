import ObjectGraph.Mapper
import ObjectGraph.Proofs.Value.First
import ObjectGraph.Proofs.Value.Ascending
import ObjectGraph.Proofs.Value.Hash
import ObjectGraph.Proofs.Merge.Arrange
import ObjectGraph.Proofs.Mapper.Hydration
import ObjectGraph.Proofs.Mapper.Reconfigured
import ObjectGraph.Proofs.Tracker.Faithful
import ObjectGraph.Proofs.Cache.Calls
import ObjectGraph.Proofs.Cache.Recency
import ObjectGraph.Proofs.Tracker.Rostered
import ObjectGraph.Proofs.Tracker.Loyal
import ObjectGraph.Proofs.Merge.Direct
import ObjectGraph.Proofs.Merge.Failure
import ObjectGraph.Proofs.Merge.Reload
import ObjectGraph.Proofs.Merge.Rearranged
import ObjectGraph.Proofs.Tracker.Transparent
import ObjectGraph.Proofs.Tracker.Sealed
import ObjectGraph.Proofs.Heap.Written
import ObjectGraph.Proofs.Mapper.AllOrNothing
import ObjectGraph.Proofs.Tracker.NoTrace
import ObjectGraph.Proofs.Tracker.RoundTrip
import ObjectGraph.Proofs.Tracker.Bounded
import ObjectGraph.Proofs.Coercion.Integers
import ObjectGraph.Proofs.Mapper.Neighbours
import ObjectGraph.Proofs.Merge.Characters
import ObjectGraph.Proofs.Identity.Placeholder
import ObjectGraph.Proofs.Merge.Canonical
import ObjectGraph.Proofs.Schema.Labels
import ObjectGraph.Proofs.Merge.Unordered
import ObjectGraph.Proofs.Json.Types
import ObjectGraph.Proofs.Mapper.Settings
