import Gateway.State.Records

namespace Gateway
namespace State

open Foundation

/-!
# Request routes

A request route remembers which connection issued a request, so that the
response can be sent to that connection alone.
-/

namespace GatewayState

/-- Above the size bound, remove the routes that are too old or whose
connection is gone.  Only removals are made, so their order does not matter. -/
def pruneRequestRoutes (now : Int) (state : GatewayState) : GatewayState :=
  if state.requestRoutes.entries.length ≤ requestRouteMax then state
  else
    let stale := state.requestRoutes.entries.filter fun entry =>
      decide (requestRouteTtlSeconds < saturatingSub now entry.2.updatedAt) ||
        decide (entry.2.connectionId ∉ state.connections)
    { state with requestRoutes := state.requestRoutes.eraseAll (stale.map Sigma.fst) }

def bindRequestRoute (now : Int) (state : GatewayState)
    (requestId connectionId userId : String) : GatewayState :=
  if trim requestId = "" ∨ connectionId = "" ∨ userId = "" then state
  else
    let route : RequestRoute :=
      { connectionId := connectionId, userId := userId, updatedAt := now }
    { state with requestRoutes := state.requestRoutes.insert (trim requestId) route }
      |>.pruneRequestRoutes now

def clearRequestRoute (state : GatewayState) (requestId : String) : GatewayState :=
  if trim requestId = "" then state
  else { state with requestRoutes := state.requestRoutes.erase (trim requestId) }

/-- Find the connection of a request.  Routes that are expired, dangling or
bound to another user are removed on the way.  A subject list without a match
hides the route and leaves it in place. -/
def resolveRequestRoute (now : Int) (state : GatewayState) (requestId : String)
    (subjects : List String) : Option String × GatewayState :=
  if trim requestId = "" then (none, state)
  else
    let removed : GatewayState :=
      { state with requestRoutes := state.requestRoutes.erase (trim requestId) }
    match state.requestRoutes.lookup (trim requestId) with
    | none => (none, state)
    | some route =>
        if requestRouteTtlSeconds < saturatingSub now route.updatedAt then (none, removed)
        else
          match state.connections.lookup route.connectionId with
          | none => (none, removed)
          | some handle =>
              if handle.info.userId ≠ route.userId then (none, removed)
              else if subjects ≠ [] ∧
                  (subjects.any fun subject => decide (subject ∈ handle.info.subjects)) = false
              then (none, state)
              else (some route.connectionId, state)

end GatewayState

end State
end Gateway
