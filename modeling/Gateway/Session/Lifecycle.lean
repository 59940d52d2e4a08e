import Gateway.State.Operations

namespace Gateway
namespace Session

open Foundation State

/-!
# Sessions and their presence events

Each session runs a handler, the same for both transports: it authenticates,
registers its connection, greets the client, publishes `connected`, serves the
connection until something ends it, and finally unregisters.  `disconnected` is
published by whoever gets the connection's info back from the removal, as far
as that caller publishes at all: the handler does for its own unregistration
and the prune task for the connections it removed.  Evictions by a later
registration or by the cap and removals after a failed send publish nothing.

Redis is configured and publishing succeeds.
-/

inductive PresenceKind where
  | connected
  | disconnected
  deriving DecidableEq, Repr

/-- The payload of an event on the events stream. -/
structure PresenceEvent where
  kind : PresenceKind
  connectionId : String
  userId : String
  subjects : List String
  connectedAt : Int
  deriving DecidableEq, Repr

def presenceEvent (kind : PresenceKind) (info : ConnectionInfo) : PresenceEvent where
  kind := kind
  connectionId := info.connectionId
  userId := info.userId
  subjects := info.subjects
  connectedAt := info.connectedAt

/-- Where a handler is.  `finishing` is the point where the session has ended,
with or without an error, and its connection is about to be unregistered. -/
inductive HandlerPhase where
  | arriving
  | greeting (info : ConnectionInfo) (receiver : Nat)
  | serving (info : ConnectionInfo) (receiver : Nat)
  | finishing
  | publishing (info : ConnectionInfo)
  | returned
  deriving DecidableEq, Repr

structure SessionHandler where
  connectionId : String
  phase : HandlerPhase
  deriving DecidableEq, Repr

/-- The gateway, the events published so far, the handlers, and the connections
that the prune task has removed and not yet published. -/
structure SessionWorld where
  gateway : GatewayState
  events : List PresenceEvent
  handlers : List SessionHandler
  pruned : List ConnectionInfo

/-- No session has begun. -/
def SessionWorld.initial (maxConnectionsPerUser : Option Nat) (connectionIds : List String) :
    SessionWorld where
  gateway := GatewayState.new maxConnectionsPerUser
  events := []
  handlers := connectionIds.map fun connectionId => ⟨connectionId, .arriving⟩
  pruned := []

namespace SessionWorld

def moveHandler (world : SessionWorld) (index : Nat) (connectionId : String)
    (phase : HandlerPhase) : SessionWorld :=
  { world with handlers := world.handlers.set index ⟨connectionId, phase⟩ }

def publish (world : SessionWorld) (kind : PresenceKind) (info : ConnectionInfo) :
    SessionWorld :=
  { world with events := world.events ++ [presenceEvent kind info] }

end SessionWorld

inductive SessionEvent where
  | authenticationFailed (index : Nat)
  | registered (index : Nat)
  | greetingFailed (index : Nat)
  | connectedPublished (index : Nat)
  | ended (index : Nat)
  | unregistered (index : Nat)
  | disconnectedPublished (index : Nat)
  | pruneTick
  | prunePublished
  | traffic (operation : Operation)

section Steps

variable (toLowercase : String -> String)

/-- The subjects of a connection: the user, and the normalised user if it
differs. -/
def connectionSubjects (userId : String) : List String :=
  let normalized := State.normalize toLowercase userId
  if normalized ≠ "" ∧ normalized ≠ userId then ["user:" ++ userId, "user:" ++ normalized]
  else ["user:" ++ userId]

/-- One step of a handler, of the prune task, or of the traffic of all
sessions and of the outbox. -/
inductive SessionStep : SessionWorld -> SessionEvent -> SessionWorld -> Prop where
  | authenticationFail {world : SessionWorld} {index : Nat} {connectionId : String}
      (handler : world.handlers[index]? = some ⟨connectionId, .arriving⟩) :
      SessionStep world (.authenticationFailed index)
        (world.moveHandler index connectionId .finishing)
  | register {world : SessionWorld} {index : Nat} {connectionId : String}
      (handler : world.handlers[index]? = some ⟨connectionId, .arriving⟩) (order : HashOrder String)
      (now : Int) (userId clientInstanceId : String) (connectedAt : Int)
      {registration : Registration} {after : GatewayState}
      (registers : world.gateway.registerConnection order now connectionId userId
        clientInstanceId (connectionSubjects toLowercase userId) connectedAt =
          (registration, after)) :
      SessionStep world (.registered index)
        ({ world with gateway := after }.moveHandler index connectionId
          (.greeting registration.info registration.receiver))
  | greetingFail {world : SessionWorld} {index : Nat} {connectionId : String}
      {info : ConnectionInfo} {receiver : Nat}
      (handler : world.handlers[index]? = some ⟨connectionId, .greeting info receiver⟩) :
      SessionStep world (.greetingFailed index)
        ({ world with gateway := world.gateway.dropReceiver receiver }.moveHandler index
          connectionId .finishing)
  | publishConnected {world : SessionWorld} {index : Nat} {connectionId : String}
      {info : ConnectionInfo} {receiver : Nat}
      (handler : world.handlers[index]? = some ⟨connectionId, .greeting info receiver⟩) :
      SessionStep world (.connectedPublished index)
        ((world.publish .connected info).moveHandler index connectionId (.serving info receiver))
  | stop {world : SessionWorld} {index : Nat} {connectionId : String} {info : ConnectionInfo}
      {receiver : Nat}
      (handler : world.handlers[index]? = some ⟨connectionId, .serving info receiver⟩) :
      SessionStep world (.ended index)
        ({ world with gateway := world.gateway.dropReceiver receiver }.moveHandler index
          connectionId .finishing)
  | unregister {world : SessionWorld} {index : Nat} {connectionId : String}
      (handler : world.handlers[index]? = some ⟨connectionId, .finishing⟩)
      {info : ConnectionInfo} {after : GatewayState}
      (removes : world.gateway.unregisterConnection connectionId = (some info, after)) :
      SessionStep world (.unregistered index)
        ({ world with gateway := after }.moveHandler index connectionId (.publishing info))
  | unregisterAbsent {world : SessionWorld} {index : Nat} {connectionId : String}
      (handler : world.handlers[index]? = some ⟨connectionId, .finishing⟩) {after : GatewayState}
      (removes : world.gateway.unregisterConnection connectionId = (none, after)) :
      SessionStep world (.unregistered index)
        ({ world with gateway := after }.moveHandler index connectionId .returned)
  | publishDisconnected {world : SessionWorld} {index : Nat} {connectionId : String}
      {info : ConnectionInfo}
      (handler : world.handlers[index]? = some ⟨connectionId, .publishing info⟩) :
      SessionStep world (.disconnectedPublished index)
        ((world.publish .disconnected info).moveHandler index connectionId .returned)
  | prune {world : SessionWorld} (idle : world.pruned = []) (order : HashOrder String)
      (now staleAfterSeconds : Int) {evicted : List ConnectionInfo} {after : GatewayState}
      (prunes : world.gateway.pruneStaleConnections order now staleAfterSeconds =
        (evicted, after)) :
      SessionStep world .pruneTick { world with gateway := after, pruned := evicted }
  | prunePublish {world : SessionWorld} {info : ConnectionInfo} {rest : List ConnectionInfo}
      (removed : world.pruned = info :: rest) :
      SessionStep world .prunePublished
        { world.publish .disconnected info with pruned := rest }
  | traffic {world : SessionWorld} (operation : Operation)
      (traffic : operation.isTraffic = true) :
      SessionStep world (.traffic operation)
        { world with gateway := operation.apply toLowercase world.gateway }

end Steps

end Session
end Gateway
