import Gateway.Foundation.JsonCompact
import Gateway.Broker.Outbox
import Gateway.State.Fanout
import Gateway.State.RouteRefinement

namespace Gateway
namespace Broker

open Foundation State Ingress

/-!
# The audience of an outbox entry

An event goes along the request route of its payload or to the subjects of its
entry, and a route that fails is followed by the subjects.  On each of these
ways only connections of the subjects are reached, and none of them twice: a
route is resolved against the same subjects, and the fallback is taken only
after the routed connection turned out to be closed and was removed.
-/

section Audience

variable {before after : GatewayState} {subjects : List String} {text : String}

/-- The request route of the payload leads to this connection, which is open. -/
def RoutesTo (before : GatewayState) (now : Int) (requestId : Option String)
    (subjects : List String) (id : String) : Prop :=
  Exists fun request => requestId = some request /\
    (before.resolveRequestRoute now request subjects).1 = some id /\ before.reaches id = true

/-- Who receives the event of an entry.  The two cases are those of a payload
with and without an open route. -/
structure ReachesAudience (before after : GatewayState) (now : Int) (requestId : Option String)
    (subjects : List String) (text : String) (enqueued : Nat) : Prop where
  audience : forall index, after.channels[index]? ≠ before.channels[index]? ->
    Exists fun id => before.Addressee subjects id /\ before.senderOf id = index /\
      Received before after id text
  alone : forall id, RoutesTo before now requestId subjects id ->
    (forall other, Received before after other text <-> other = id) /\
      after.pendingBySubject = before.pendingBySubject
  everybody : (forall id, Not (RoutesTo before now requestId subjects id)) -> forall id,
    Received before after id text <-> before.Addressee subjects id /\ before.reaches id = true
  closed : (forall id, Not (RoutesTo before now requestId subjects id)) -> forall id,
    before.Addressee subjects id -> before.reaches id = false ->
      after.connections.lookup id = none
  counted : enqueued = (GatewayState.extended before after).card

/-- A dispatch to the subjects in the absence of an open route. -/
theorem ReachesAudience.of_fansOut (senders : GatewayState.SendersDistinct before) {now : Int}
    {requestId : Option String} {enqueued : Nat}
    (unrouted : forall id, Not (RoutesTo before now requestId subjects id))
    (fansOut : GatewayState.FansOut before after subjects text enqueued) :
    ReachesAudience before after now requestId subjects text enqueued where
  audience := by
    intro index changed
    rcases fansOut.reached_of_changed changed with ⟨id, handle, found, same, addressee, reached⟩
    refine ⟨id, addressee, ?_, (fansOut.received_iff senders id).mpr ⟨addressee, reached⟩⟩
    rw [GatewayState.senderOf, found, Option.map_some, Option.getD_some, same]
  alone := fun id routed => absurd routed (unrouted id)
  everybody := fun _ id => fansOut.received_iff senders id
  closed := fun _ id addressee dead => fansOut.gone id addressee dead
  counted := fansOut.counted

/-- A send along an open route. -/
theorem ReachesAudience.of_sent (senders : GatewayState.SendersDistinct before) {now : Int}
    {request id : String} {handle : ConnectionHandle}
    (resolved : (before.resolveRequestRoute now request subjects).1 = some id)
    (found : before.connections.lookup id = some handle)
    (addressee : before.Addressee subjects id) (reached : before.reaches id = true)
    (channels : after.channels = (sendOn before.channels handle.sender (.text text)).2)
    (pending : after.pendingBySubject = before.pendingBySubject) :
    ReachesAudience before after now (some request) subjects text 1 := by
  have routed : RoutesTo before now (some request) subjects id := ⟨request, rfl, resolved, reached⟩
  have only : forall index, after.channels[index]? ≠ before.channels[index]? ->
      handle.sender = index := by
    intro index changed
    rw [channels, getElem?_sendOn] at changed
    split at changed
    · next same => exact same.symm
    · exact absurd rfl changed
  have sender : before.senderOf id = handle.sender := by
    rw [GatewayState.senderOf, found, Option.map_some, Option.getD_some]
  rcases (GatewayState.reaches_iff before id).mp reached with
    ⟨same, channel, sameFound, stored, alive⟩
  rw [found] at sameFound
  cases sameFound
  have grown : after.channels[handle.sender]? =
      some { channel with sent := channel.sent ++ [.text text] } := by
    rw [channels, getElem?_sendOn, if_pos rfl, stored, Option.map_some,
      Channel.receive_of_alive alive]
  have differs : some { channel with sent := channel.sent ++ [.text text] } ≠ some channel := by
    rw [Ne, Option.some_inj, ← Channel.receive_of_alive alive]
    exact (Channel.receive_ne_iff _ channel).mpr alive
  have received : Received before after id text := ⟨handle, channel, found, stored, grown⟩
  constructor
  · intro index changed
    exact ⟨id, addressee, sender.trans (only index changed), received⟩
  · rintro other ⟨asked, same, otherResolved, _⟩
    cases same
    rw [resolved] at otherResolved
    cases otherResolved
    refine ⟨?_, pending⟩
    intro receiver
    constructor
    · intro otherReceived
      rcases GatewayState.changed_of_received otherReceived with ⟨otherHandle, otherFound, changed⟩
      exact senders.distinct receiver id otherHandle handle otherFound found
        (only _ changed).symm
    · rintro rfl
      exact received
  · exact fun unrouted => absurd routed (unrouted id)
  · exact fun unrouted => absurd routed (unrouted id)
  · have single : GatewayState.extended before after = {handle.sender} := by
      ext index
      rw [GatewayState.mem_extended, Finset.mem_singleton]
      constructor
      · rintro ⟨_, changed⟩
        exact (only index changed).symm
      · rintro rfl
        refine ⟨(List.getElem?_eq_some_iff.mp stored).1, ?_⟩
        rw [grown, stored]
        exact differs
    rw [single, Finset.card_singleton]

/-- Dispatching the text of an event. -/
theorem dispatchEvent_reachesAudience (wellFormed : WellFormed before)
    (proper : RoutesProper before) (reading : OutboxReading) (requestId : Option String)
    (nonempty : subjects ≠ []) (visible : text ≠ "") :
    ReachesAudience before (dispatchEvent reading before requestId subjects text).2
      reading.routeNow requestId subjects text
      (dispatchEvent reading before requestId subjects text).1.enqueuedCount := by
  cases requestId with
  | none =>
      refine .of_fansOut wellFormed.senders ?_ (GatewayState.sendToSubjects_fansOut wellFormed
        reading.order reading.stickyNow reading.bufferNow nonempty visible true)
      rintro id ⟨_, same, _⟩
      cases same
  | some request =>
      rcases GatewayState.resolveRequestRoute_touches reading.routeNow before request subjects with
        ⟨routes, touched⟩
      have still := wellFormed.withRoutes routes
      have leads := GatewayState.resolveRequestRoute_eq_some_iff reading.routeNow before request
        subjects
      rcases resolved : before.resolveRequestRoute reading.routeNow request subjects with
        ⟨target, next⟩
      rw [resolved] at touched leads
      dsimp only at touched leads
      subst touched
      cases target with
      | none =>
          have fansOut := GatewayState.sendToSubjects_fansOut still reading.order
            reading.stickyNow reading.bufferNow nonempty visible true
          simp only [dispatchEvent, sendAlongRoute, resolved, DispatchResult.add, Nat.zero_add]
          refine .of_fansOut wellFormed.senders ?_ fansOut.of_routes
          rintro id ⟨asked, same, otherResolved, _⟩
          cases same
          rw [resolved] at otherResolved
          cases otherResolved
      | some connectionId =>
          rcases (leads connectionId).mp rfl with
            ⟨_, route, handle, stored, _, found, _, matching, rfl⟩
          have named := (proper _ route stored).2
          have addressee : before.Addressee subjects route.connectionId :=
            ⟨handle, found, matching.resolve_left nonempty⟩
          by_cases reached : before.reaches route.connectionId = true
          · have sent : GatewayState.sendToConnection { before with requestRoutes := routes }
                route.connectionId text = (true, { before with
                  requestRoutes := routes
                  channels := (sendOn before.channels handle.sender (.text text)).2 }) :=
              GatewayState.sendToConnection_of_reaches named visible (by exact found)
                (by exact reached)
            simp only [dispatchEvent, sendAlongRoute, resolved, sent]
            exact .of_sent wellFormed.senders (congrArg Prod.fst resolved) found addressee reached
              rfl rfl
          · have closed := Bool.eq_false_of_not_eq_true reached
            have failed : GatewayState.sendToConnection { before with requestRoutes := routes }
                route.connectionId text = (false, (GatewayState.unregisterConnection
                  { before with requestRoutes := routes } route.connectionId).2) :=
              GatewayState.sendToConnection_of_closed named visible (by exact found)
                (by exact closed)
            rcases GatewayState.clearRequestRoute_touches (GatewayState.unregisterConnection
              { before with requestRoutes := routes } route.connectionId).2 request with
              ⟨cleared, clearedTouched⟩
            have removed :=
              (WellFormed.kept.unregister _ route.connectionId still).withRoutes cleared
            have fansOut := GatewayState.sendToSubjects_fansOut removed reading.order
              reading.stickyNow reading.bufferNow nonempty visible true
            simp only [dispatchEvent, sendAlongRoute, resolved, failed, DispatchResult.add,
              Nat.zero_add, clearedTouched]
            refine .of_fansOut wellFormed.senders ?_ (fansOut.of_removed wellFormed.senders
              addressee closed ?_ ?_)
            · rintro id ⟨asked, same, otherResolved, live⟩
              cases same
              rw [resolved] at otherResolved
              cases otherResolved
              exact reached live
            · exact GatewayState.lookup_unregisterConnection
                { before with requestRoutes := routes } route.connectionId
            · exact GatewayState.unregisterConnection_channels
                { before with requestRoutes := routes } route.connectionId

end Audience

/-- Every entry that is not a snapshot reaches its audience and nobody else. -/
theorem outbox_entry_reaches_audience (toLowercase : String -> String) (json : JsonText)
    (maxConnectionsPerUser : Option Nat) (operations : List Operation)
    (fresh : FreshIds operations) (reading : OutboxReading) (entry : ParsedEntry) (decoded : Json)
    (decodes : decodeEntry json entry.2 = some decoded)
    (nonempty : decoded.stringsField "subjects" ≠ [])
    (noSnapshot : parseRelayContextSnapshot toLowercase reading.snapshotNow
      ((decoded.get "payload").getD .null) = none)
    (text : String)
    (renders : json.render (eventEnvelope ((decoded.get "payload").getD .null)) = some text)
    (visible : text ≠ "") :
    let before := GatewayState.run toLowercase maxConnectionsPerUser operations
    let processed := processEntry toLowercase json reading before entry
    Exists fun result : DispatchResult => processed.1 = some result /\
      ReachesAudience before processed.2 reading.routeNow
        (extractRequestId ((decoded.get "payload").getD .null)) (decoded.stringsField "subjects")
        text result.enqueuedCount := by
  intro before processed
  have reaches := dispatchEvent_reachesAudience
    (WellFormed.run toLowercase maxConnectionsPerUser operations fresh)
    (RoutesProper.run toLowercase maxConnectionsPerUser operations) reading
    (extractRequestId ((decoded.get "payload").getD .null)) nonempty visible
  have dispatched : processed =
      (some (dispatchEvent reading before (extractRequestId ((decoded.get "payload").getD .null))
          (decoded.stringsField "subjects") text).1,
        (dispatchEvent reading before (extractRequestId ((decoded.get "payload").getD .null))
          (decoded.stringsField "subjects") text).2) := by
    simp only [processed, processEntry, decodes, if_neg nonempty, noSnapshot, renders]
  rw [dispatched]
  exact ⟨_, rfl, reaches⟩

/-- A response for two users, to a request of the first. -/
def responseEntry : Json :=
  Json.ofFields [("subjects", .array [.string "user:a", .string "user:b"]),
    ("payload", Json.ofFields [("request_id", .string " r1 ")])]

def responseText : String :=
  "\x7b\"payload\":\x7b\"request_id\":\" r1 \"\x7d," ++
    "\"subjects\":[\"user:a\",\"user:b\"]\x7d"

def responseEventText : String :=
  "\x7b\"payload\":\x7b\"request_id\":\" r1 \"\x7d,\"type\":\"event\"\x7d"

def responseJson : JsonText := .ofTexts [(responseText, responseEntry)]

def responseReading : OutboxReading where
  order := .sorted
  snapshotNow := 2
  applyNow := 2
  routeNow := 2
  stickyNow := 2
  bufferNow := 2

def responseOperations : List Operation :=
  [.registerConnection .sorted 0 "c1" "a" "" ["user:a"] 0,
    .registerConnection .sorted 0 "c2" "b" "" ["user:b"] 0, .bindRequestRoute 1 "r1" "c1" "a"]

/-- The response goes to the connection of the request alone. -/
theorem outbox_entry_reaches_audience_of_response :
    let before := GatewayState.run asciiLowercase none responseOperations
    let processed := processEntry asciiLowercase responseJson responseReading before
      ("1-0", AList.insert "data" responseText ∅)
    (Exists fun result : DispatchResult => processed.1 = some result /\
      ReachesAudience before processed.2 2 (some "r1") ["user:a", "user:b"] responseEventText
        result.enqueuedCount) /\
      RoutesTo before 2 (some "r1") ["user:a", "user:b"] "c1" := by
  intro before processed
  refine ⟨?_, "r1", rfl, by decide +kernel, by decide +kernel⟩
  exact outbox_entry_reaches_audience asciiLowercase responseJson none responseOperations
    (by decide) responseReading ("1-0", AList.insert "data" responseText ∅) responseEntry (by rfl)
    (by decide +kernel) (by decide +kernel) responseEventText (by decide +kernel) (by decide)

end Broker
end Gateway
