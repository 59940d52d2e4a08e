import Gateway.State.Pending
import Gateway.State.RequestRoutes

namespace Gateway
namespace State

open Foundation

/-!
# Connections, subscriptions and dispatch

A connection is registered under a fresh id, listed in the subject index under
each of its subjects, and owns the receiving half of one outbound channel.
Five paths take it out again: its own unregistration, eviction by a later
registration of the same client instance, eviction by the connection cap,
pruning of stale connections, and a send that finds the channel closed.
All five end in `unregisterConnection`.

Every operation that iterates over a hashed container takes the iteration
order of that call as an argument.
-/

/-- Put a message on a channel.  Sending fails when the receiver is gone. -/
def sendOn (channels : List Channel) (sender : Nat) (message : OutboundMessage) :
    Bool × List Channel :=
  match channels[sender]? with
  | some channel =>
      if channel.receiverAlive then
        (true, channels.set sender { channel with sent := channel.sent ++ [message] })
      else (false, channels)
  | none => (false, channels)

/-- What `register_connection` returns: the registered info, the receiver of
the new channel, and the infos of the evicted predecessors. -/
structure Registration where
  info : ConnectionInfo
  receiver : Nat
  evicted : List ConnectionInfo
  deriving DecidableEq, Repr

namespace GatewayState

/-- The receiving task drops its half of the channel. -/
def dropReceiver (state : GatewayState) (receiver : Nat) : GatewayState :=
  { state with
    channels := state.channels.modify receiver fun channel =>
      { channel with receiverAlive := false } }

def unregisterConnection (state : GatewayState) (connectionId : String) :
    Option ConnectionInfo × GatewayState :=
  match state.connections.lookup connectionId with
  | none => (none, state)
  | some handle =>
      let staleRequestIds := (state.requestRoutes.entries.filter fun entry =>
        decide (entry.2.connectionId = connectionId)).map Sigma.fst
      (some handle.info,
        { state with
          connections := state.connections.erase connectionId
          readyConnections := state.readyConnections.erase connectionId
          subjects := state.subjects.delistAll connectionId handle.info.subjects
          requestRoutes := state.requestRoutes.eraseAll staleRequestIds })

/-- Unregister a list of connections and collect the infos of those that were
still registered. -/
def unregisterEach (state : GatewayState) (connectionIds : List String) :
    List ConnectionInfo × GatewayState :=
  connectionIds.foldl (fun removed connectionId =>
    let result := removed.2.unregisterConnection connectionId
    (removed.1 ++ result.1.toList, result.2)) ([], state)

/-- Tell the connection why it is closed, if a reason is given, and then
unregister it. -/
def evictConnection (state : GatewayState) (connectionId : String)
    (close : Option (Nat × String)) : Option ConnectionInfo × GatewayState :=
  let notified : GatewayState :=
    match close, state.connections.lookup connectionId with
    | some (code, reason), some handle =>
        { state with channels := (sendOn state.channels handle.sender (.close code reason)).2 }
    | _, _ => state
  notified.unregisterConnection connectionId

def evictEach (close : Option (Nat × String)) (state : GatewayState)
    (connectionIds : List String) : List ConnectionInfo × GatewayState :=
  connectionIds.foldl (fun evicted connectionId =>
    let result := evicted.2.evictConnection connectionId close
    (evicted.1 ++ result.1.toList, result.2)) ([], state)

/-- The other connections of the same user and client instance. -/
def sameInstanceConnections (order : HashOrder String) (state : GatewayState)
    (connectionId userId clientInstanceId : String) : List String :=
  ((state.connections.iterate order).filter fun entry =>
    decide (entry.2.info.userId = userId) &&
      decide (entry.2.info.clientInstanceId = clientInstanceId) &&
      decide (entry.1 ≠ connectionId)).map Prod.fst

/-- One live connection per client instance: a reconnect evicts its stale
predecessors. -/
def evictSameInstance (order : HashOrder String) (state : GatewayState)
    (connectionId userId clientInstanceId : String) : List ConnectionInfo × GatewayState :=
  if clientInstanceId = "" then ([], state)
  else
    state.evictEach (some (1000, "reconnect"))
      (state.sameInstanceConnections order connectionId userId clientInstanceId)

/-- Insert the connection with a new channel and list it under its subjects. -/
def insertConnection (state : GatewayState) (info : ConnectionInfo) : GatewayState :=
  { state with
    channels := state.channels ++ [{ sent := [], receiverAlive := true }]
    connections :=
      state.connections.insert info.connectionId
        { info := info, sender := state.channels.length }
    subjects := state.subjects.enlistAll info.connectionId info.subjects }

/-- Put texts on a channel one after the other.  Failed sends are ignored. -/
def sendTexts (state : GatewayState) (sender : Nat) (texts : List String) : GatewayState :=
  { state with
    channels := texts.foldl
      (fun channels text => (sendOn channels sender (.text text)).2) state.channels }

def registerConnection (order : HashOrder String) (now : Int) (state : GatewayState)
    (connectionId userId clientInstanceId : String) (subjects : List String)
    (connectedAt : Int) : Registration × GatewayState :=
  let evicted := state.evictSameInstance order connectionId userId clientInstanceId
  let info : ConnectionInfo :=
    { connectionId := connectionId
      userId := userId
      clientInstanceId := clientInstanceId
      subjects := subjects
      connectedAt := connectedAt
      lastSeenAt := connectedAt }
  let receiver := evicted.2.channels.length
  let inserted := evicted.2.insertConnection info
  let taken := inserted.takePendingForSubjects now subjects
  ({ info := info, receiver := receiver, evicted := evicted.1 },
    taken.2.sendTexts receiver taken.1)

/-- The ready connections of a user that are still registered, oldest first. -/
def readyConnectionsOf (order : HashOrder String) (state : GatewayState) (userId : String) :
    List (String × Int) :=
  let ready := (state.readyConnections.iterate order).filterMap fun entry =>
    if entry.2.userId ≠ userId then none
    else (state.connections.lookup entry.1).map fun handle => (entry.1, handle.info.connectedAt)
  ready.insertionSort fun left right => left.2 ≤ right.2

/-- Evict the oldest ready connections other than the caller until the
overflow is gone.  Only evictions that found a connection are counted. -/
def evictOverflow (state : GatewayState) (connectionId : String) (overflow : Nat)
    (ready : List (String × Int)) : List ConnectionInfo × GatewayState :=
  ready.foldl (fun evicted entry =>
    if overflow ≤ evicted.1.length then evicted
    else if entry.1 = connectionId then evicted
    else
      let result := evicted.2.evictConnection entry.1 (some (4409, "session_replaced"))
      (evicted.1 ++ result.1.toList, result.2)) ([], state)

def markSessionReady (order : HashOrder String) (now : Int) (state : GatewayState)
    (connectionId userId : String) : List ConnectionInfo × GatewayState :=
  if connectionId = "" ∨ userId = "" then ([], state)
  else
    let marked : GatewayState :=
      { state with
        readyConnections :=
          state.readyConnections.insert connectionId { userId := userId, readyAt := now } }
    match marked.maxConnectionsPerUser with
    | none => ([], marked)
    | some maxConnectionsPerUser =>
        let ready := marked.readyConnectionsOf order userId
        if ready.length ≤ maxConnectionsPerUser then ([], marked)
        else marked.evictOverflow connectionId (ready.length - maxConnectionsPerUser) ready

/-- The connections listed under any of the subjects. -/
def targetIds (state : GatewayState) (subjects : List String) : Finset String :=
  subjects.foldl (fun targets subject => targets ∪ state.subjects.members subject) ∅

/-- The outcome of the send loop: how many messages were put on a channel, and
which targets turned out to be gone. -/
structure SendOutcome where
  enqueued : Nat
  staleIds : List String
  channels : List Channel

/-- Try to send to one target. -/
def sendToTarget (connections : HashTable String ConnectionHandle) (message : String)
    (outcome : SendOutcome) (id : String) : SendOutcome :=
  match connections.lookup id with
  | none => { outcome with staleIds := outcome.staleIds ++ [id] }
  | some handle =>
      match sendOn outcome.channels handle.sender (.text message) with
      | (true, channels) =>
          { outcome with enqueued := outcome.enqueued + 1, channels := channels }
      | (false, channels) =>
          { outcome with staleIds := outcome.staleIds ++ [id], channels := channels }

def sendToTargets (state : GatewayState) (message : String) (ids : List String) : SendOutcome :=
  ids.foldl (sendToTarget state.connections message)
    { enqueued := 0, staleIds := [], channels := state.channels }

/-- The part of a dispatch after sticky buffering.  Targets that turned out to
be gone are unregistered, and a message that reached nobody is buffered for all
subjects if the caller asked for that. -/
def deliverToSubjects (order : HashOrder String) (now : Int) (state : GatewayState)
    (subjects : List String) (message : String) (bufferIfUndelivered : Bool) :
    DispatchResult × GatewayState :=
  let targets := state.targetIds subjects
  let outcome := state.sendToTargets message (order.enumerate targets)
  let sent : GatewayState := { state with channels := outcome.channels }
  let cleaned := (sent.unregisterEach outcome.staleIds).2
  ({ attemptedCount := targets.card, enqueuedCount := outcome.enqueued },
    if outcome.enqueued = 0 ∧ bufferIfUndelivered = true then
      cleaned.requeueForSubjects now subjects message
    else cleaned)

/-- A sticky message is buffered whether or not it is delivered. -/
def bufferSticky (now : Int) (state : GatewayState) (subjects : List String)
    (message : String) : Option String -> GatewayState
  | none => state
  | some key => state.bufferLatestForSubjects now subjects message key

/-- Deliver a message to every connection of the subjects.  The two buffers
read the clock separately. -/
def sendToSubjects (order : HashOrder String) (stickyNow now : Int) (state : GatewayState)
    (subjects : List String) (message : String) (bufferIfUndelivered : Bool)
    (stickyKey : Option String) : DispatchResult × GatewayState :=
  if subjects = [] ∨ message = "" then ({ attemptedCount := 0, enqueuedCount := 0 }, state)
  else
    (state.bufferSticky stickyNow subjects message stickyKey).deliverToSubjects order now subjects
      message bufferIfUndelivered

def sendToConnection (state : GatewayState) (connectionId message : String) :
    Bool × GatewayState :=
  if connectionId = "" ∨ message = "" then (false, state)
  else
    match state.connections.lookup connectionId with
    | none => (false, (state.unregisterConnection connectionId).2)
    | some handle =>
        match sendOn state.channels handle.sender (.text message) with
        | (true, channels) => (true, { state with channels := channels })
        | (false, channels) =>
            (false, ({ state with channels := channels }.unregisterConnection connectionId).2)

def markConnectionAlive (state : GatewayState) (connectionId : String) (timestamp : Int) :
    GatewayState :=
  { state with
    connections := state.connections.modify connectionId fun handle =>
      { handle with info := { handle.info with lastSeenAt := timestamp } } }

def pruneStaleConnections (order : HashOrder String) (state : GatewayState)
    (now staleAfterSeconds : Int) : List ConnectionInfo × GatewayState :=
  if staleAfterSeconds ≤ 0 then ([], state)
  else
    let staleIds := ((state.connections.iterate order).filter fun entry =>
      decide (staleAfterSeconds < saturatingSub now entry.2.info.lastSeenAt)).map Prod.fst
    state.unregisterEach staleIds

end GatewayState

end State
end Gateway
