import Gateway.Broker.Audience
import Gateway.Process.Config
import Gateway.State.Listing

namespace Gateway
namespace Http

open Foundation State Ingress Broker Process

/-!
# The HTTP interface

Backends may publish events over HTTP instead of the outbox stream, and may list
the connections.  Publishing is guarded by a key if one is configured.  It
dispatches to the subjects in the way the outbox does, but knows neither
requests nor snapshots.
-/

structure PublishRequest where
  subjects : Option (List String)
  payload : Json
  apiKey : Option String

structure ListQuery where
  subject : Option String
  userId : Option String

/-- The status code and the body of an answer. -/
structure Response where
  status : Nat
  body : Json

/-- The clock readings and the iteration order of one request. -/
structure ApiReading where
  order : HashOrder String
  stickyNow : Int
  bufferNow : Int

def refusal (status : Nat) (error : String) : Response where
  status := status
  body := Json.ofFields [("ok", .bool false), ("error", .string error)]

def published (dispatch : DispatchResult) : Response where
  status := 200
  body := Json.ofFields
    [("ok", .bool true), ("attempted", .ofInt dispatch.attemptedCount),
      ("enqueued", .ofInt dispatch.enqueuedCount)]

/-- The key in the body wins over the one in the header. -/
def PublishRequest.providedKey (request : PublishRequest) (headerKey : Option String) : String :=
  (request.apiKey.or headerKey).getD ""

/-- No key is configured, or the request shows it. -/
def PublishRequest.Admitted (request : PublishRequest) (config : Config)
    (headerKey : Option String) : Prop :=
  config.gatewayApiKey = "" \/ request.providedKey headerKey = config.gatewayApiKey

instance (request : PublishRequest) (config : Config) (headerKey : Option String) :
    Decidable (request.Admitted config headerKey) :=
  inferInstanceAs (Decidable (_ ∨ _))

def publish (json : JsonText) (config : Config) (reading : ApiReading) (state : GatewayState)
    (headerKey : Option String) (request : PublishRequest) : Response × GatewayState :=
  if request.Admitted config headerKey then
    let subjects := request.subjects.getD []
    if subjects = [] then (refusal 400 "missing_subjects", state)
    else
      match json.render (eventEnvelope request.payload) with
      | some text =>
          let sent := state.sendToSubjects reading.order reading.stickyNow reading.bufferNow
            subjects text true none
          (published sent.1, sent.2)
      | none => (refusal 400 "invalid_payload", state)
  else (refusal 401 "invalid_api_key", state)

def connectionJson (info : ConnectionInfo) : Json :=
  Json.ofFields
    [("connection_id", .string info.connectionId), ("user_id", .string info.userId),
      ("client_instance_id", .string info.clientInstanceId),
      ("subjects", .array (info.subjects.map .string)), ("connected_at", .ofInt info.connectedAt),
      ("last_seen_at", .ofInt info.lastSeenAt)]

def listed (infos : List ConnectionInfo) : Response where
  status := 200
  body := Json.ofFields [("connections", .array (infos.map connectionJson))]

def listConnections (order : HashOrder String) (state : GatewayState) (query : ListQuery) :
    Response :=
  listed (state.listConnections order query.subject query.userId)

def userConnections (order : HashOrder String) (state : GatewayState) (userId : String) :
    Response :=
  listed (state.listConnections order none (some userId))

/-! ## What a publication does -/

section Publish

variable {json : JsonText} {config : Config} {reading : ApiReading} {state : GatewayState}
  {headerKey : Option String} {request : PublishRequest}

theorem publish_of_admitted (admitted : request.Admitted config headerKey)
    {subjects : List String} (given : request.subjects = some subjects) (nonempty : subjects ≠ [])
    {text : String} (renders : json.render (eventEnvelope request.payload) = some text) :
    publish json config reading state headerKey request =
      (published (state.sendToSubjects reading.order reading.stickyNow reading.bufferNow subjects
          text true none).1,
        (state.sendToSubjects reading.order reading.stickyNow reading.bufferNow subjects text true
          none).2) := by
  rw [publish, if_pos admitted, given, Option.getD_some, if_neg nonempty]
  dsimp only
  rw [renders]

theorem refusal_status {status : Nat} (failure : status ≠ 200) (error : String) :
    (refusal status error).status ≠ 200 :=
  failure

/-- Whoever is refused changes nothing, and only a dispatch is answered with
success. -/
theorem publish_cases (json : JsonText) (config : Config) (reading : ApiReading)
    (state : GatewayState) (headerKey : Option String) (request : PublishRequest) :
    ((publish json config reading state headerKey request).1.status ≠ 200 /\
      (publish json config reading state headerKey request).2 = state) \/
    Exists fun subjects => Exists fun text => request.Admitted config headerKey /\
      request.subjects = some subjects /\ subjects ≠ [] /\
      json.render (eventEnvelope request.payload) = some text := by
  unfold publish
  split
  · next admitted =>
    dsimp only
    split
    · exact Or.inl ⟨refusal_status (by decide) _, rfl⟩
    · next nonempty =>
      cases given : request.subjects with
      | none =>
          rw [given] at nonempty
          exact absurd rfl nonempty
      | some subjects =>
          rw [given, Option.getD_some] at nonempty
          cases renders : json.render (eventEnvelope request.payload) with
          | none => exact Or.inl ⟨refusal_status (by decide) _, rfl⟩
          | some text => exact Or.inr ⟨subjects, text, admitted, rfl, nonempty, rfl⟩
  · exact Or.inl ⟨refusal_status (by decide) _, rfl⟩

/-- A publication reaches everybody whom a listing shows and who still listens,
and the others are no longer listed afterwards. -/
theorem listedFor_publish (wellFormed : WellFormed state)
    (admitted : request.Admitted config headerKey) {subjects : List String}
    (given : request.subjects = some subjects) (nonempty : subjects ≠ []) {text : String}
    (renders : json.render (eventEnvelope request.payload) = some text) (visible : text ≠ "")
    (earlier later : HashOrder String) (id : String) :
    id ∈ (publish json config reading state headerKey request).2.listedFor later subjects <->
      id ∈ state.listedFor earlier subjects /\ state.reaches id = true := by
  have fansOut := GatewayState.sendToSubjects_fansOut wellFormed reading.order reading.stickyNow
    reading.bufferNow nonempty visible true
  have after := WellFormed.kept.delivery.sendToSubjects
    (fun _ _ held => WellFormed.kept.tables _ _ _ _ _ _ _ held) reading.order reading.stickyNow
    reading.bufferNow subjects text true none wellFormed
  rw [publish_of_admitted admitted given nonempty renders]
  dsimp only
  rw [GatewayState.mem_listedFor after.consistent, GatewayState.mem_listedFor wellFormed.consistent]
  constructor
  · rintro ⟨handle, found, subject, member, subscribed⟩
    -- Whoever is left was there before, and is not one of the closed ones.
    by_cases gone : state.Addressee subjects id /\ state.reaches id = false
    · rw [fansOut.gone id gone.1 gone.2] at found
      cases found
    · have live : state.Addressee subjects id -> state.reaches id = true :=
        fun addressee => by
          by_contra closed
          exact gone ⟨addressee, Bool.eq_false_of_not_eq_true closed⟩
      rw [fansOut.stays id live] at found
      have addressee : state.Addressee subjects id :=
        ⟨handle, found, subject, member, subscribed⟩
      exact ⟨addressee, live addressee⟩
  · rintro ⟨⟨handle, found, subject, member, subscribed⟩, reached⟩
    refine ⟨handle, ?_, subject, member, subscribed⟩
    rw [fansOut.stays id fun _ => reached]
    exact found

/-- The counts in the answer are the numbers of listed connections before and
after. -/
theorem publish_counts (wellFormed : WellFormed state)
    (admitted : request.Admitted config headerKey) {subjects : List String}
    (given : request.subjects = some subjects) (nonempty : subjects ≠ []) {text : String}
    (renders : json.render (eventEnvelope request.payload) = some text) (visible : text ≠ "")
    (earlier later : HashOrder String) :
    (publish json config reading state headerKey request).1 =
      published
        { attemptedCount := (state.listedFor earlier subjects).card
          enqueuedCount := ((publish json config reading state headerKey request).2.listedFor later
            subjects).card } := by
  have left : (publish json config reading state headerKey request).2.listedFor later subjects =
      (state.targetIds subjects).filter fun id => state.reaches id = true := by
    ext id
    rw [listedFor_publish wellFormed admitted given nonempty renders visible earlier,
      Finset.mem_filter, GatewayState.listedFor_eq_targetIds wellFormed.consistent]
  have counted :
      ((reading.order.enumerate (state.targetIds subjects)).filter state.reaches).length =
        ((state.targetIds subjects).filter fun id => state.reaches id = true).card := by
    rw [← List.toFinset_card_of_nodup ((reading.order.nodup _).filter _)]
    congr 1
    ext id
    rw [List.mem_toFinset, List.mem_filter, reading.order.mem_iff, Finset.mem_filter]
  rw [left, GatewayState.listedFor_eq_targetIds wellFormed.consistent, ← counted,
    publish_of_admitted admitted given nonempty renders,
    GatewayState.sendToSubjects_eq reading.order reading.stickyNow reading.bufferNow state nonempty
      visible, ← List.countP_eq_length_filter,
    ← (wellFormed.broadcast reading.order subjects text).enqueued]
  rfl

end Publish

/-- In every reachable state, an admitted publication answers with the number of
connections that a listing of its subjects shows before and with the number that
it shows afterwards.  The latter are exactly the connections that have received
the event.  Nobody else is touched, and a refused request changes nothing. -/
theorem publication_agrees_with_listings (toLowercase : String -> String)
    (maxConnectionsPerUser : Option Nat) (operations : List Operation)
    (fresh : FreshIds operations) (json : JsonText)
    (rendersVisibly : forall value text, json.render value = some text -> text ≠ "")
    (config : Config) (reading : ApiReading) (headerKey : Option String)
    (request : PublishRequest) (earlier later : HashOrder String) :
    let before := GatewayState.run toLowercase maxConnectionsPerUser operations
    let result := publish json config reading before headerKey request
    (result.1.status ≠ 200 -> result.2 = before) /\
      (result.1.status = 200 -> request.Admitted config headerKey /\
        Exists fun subjects => Exists fun text => request.subjects = some subjects /\
          json.render (eventEnvelope request.payload) = some text /\
          result.1 = published
            { attemptedCount := (before.listedFor earlier subjects).card
              enqueuedCount := (result.2.listedFor later subjects).card } /\
          result.2.listedFor later subjects ⊆ before.listedFor earlier subjects /\
          (forall id, Received before result.2 id text <->
            id ∈ result.2.listedFor later subjects) /\
          (forall index, result.2.channels[index]? ≠ before.channels[index]? ->
            Exists fun id => id ∈ result.2.listedFor later subjects /\
              before.senderOf id = index) /\
          (forall id, id ∉ before.listedFor earlier subjects ->
            result.2.connections.lookup id = before.connections.lookup id)) := by
  intro before result
  have wellFormed : WellFormed before :=
    WellFormed.run toLowercase maxConnectionsPerUser operations fresh
  rcases publish_cases json config reading before headerKey request with
    ⟨failure, same⟩ | ⟨subjects, text, admitted, given, nonempty, renders⟩
  · exact ⟨fun _ => same, fun success => absurd success failure⟩
  · have visible := rendersVisibly _ _ renders
    have dispatched := @publish_of_admitted json config reading before headerKey request admitted
      subjects given nonempty text renders
    have remain := @listedFor_publish json config reading before headerKey request wellFormed
      admitted subjects given nonempty text renders visible earlier later
    have fansOut := GatewayState.sendToSubjects_fansOut wellFormed reading.order reading.stickyNow
      reading.bufferNow nonempty visible true
    have after : result.2 = (before.sendToSubjects reading.order reading.stickyNow
        reading.bufferNow subjects text true none).2 := congrArg Prod.snd dispatched
    rw [← after] at fansOut
    have success : result.1.status = 200 := congrArg (fun answer => answer.1.status) dispatched
    refine ⟨fun failure => absurd success failure, fun _ => ⟨admitted, subjects, text, given,
      renders, publish_counts wellFormed admitted given nonempty renders visible earlier later, ?_,
      ?_, ?_, ?_⟩⟩
    · intro id member
      exact ((remain id).mp member).1
    · intro id
      rw [fansOut.received_iff wellFormed.senders, remain,
        GatewayState.mem_listedFor wellFormed.consistent]
    · intro index changed
      rcases fansOut.reached_of_changed changed with
        ⟨id, handle, found, same, addressee, reached⟩
      refine ⟨id, (remain id).mpr
        ⟨(GatewayState.mem_listedFor wellFormed.consistent earlier subjects id).mpr addressee,
          reached⟩, ?_⟩
      rw [GatewayState.senderOf, found, Option.map_some, Option.getD_some, same]
    · intro id unlisted
      refine fansOut.stays id fun addressee => ?_
      exact absurd
        ((GatewayState.mem_listedFor wellFormed.consistent earlier subjects id).mpr addressee)
        unlisted

def publishReading : ApiReading where
  order := .sorted
  stickyNow := 2
  bufferNow := 2

def publishRequest : PublishRequest where
  subjects := some ["user:a"]
  payload := .null
  apiKey := none

/-- Two connections are listed, and one of them does not listen any more. -/
theorem publication_agrees_with_listings_of_closed :
    let config := Config.fromEnv asciiLowercase ⟨fun _ => none, fun _ => none⟩
    let before := GatewayState.run asciiLowercase none
      [.registerConnection .sorted 0 "c1" "a" "" ["user:a"] 0,
        .registerConnection .sorted 0 "c2" "a" "" ["user:a"] 0, .dropReceiver 1]
    let result := publish (.ofTexts []) config publishReading before none publishRequest
    result.1.status = 200 /\
      Exists fun subjects => Exists fun text => publishRequest.subjects = some subjects /\
        (eventEnvelope .null).compact = some text /\ result.1 = published
          { attemptedCount := (before.listedFor .sorted subjects).card
            enqueuedCount := (result.2.listedFor .sorted subjects).card } /\
        forall id, Received before result.2 id text <->
          id ∈ result.2.listedFor .sorted subjects := by
  intro config before result
  have success : result.1.status = 200 := by rfl
  have agrees := publication_agrees_with_listings asciiLowercase none
    [.registerConnection .sorted 0 "c1" "a" "" ["user:a"] 0,
      .registerConnection .sorted 0 "c2" "a" "" ["user:a"] 0, .dropReceiver 1] (by decide)
    (.ofTexts []) (fun _ _ => Json.compact_ne_empty) config publishReading none publishRequest
    .sorted .sorted
  rcases agrees.2 success with ⟨_, subjects, text, given, rendered, counts, _, received, _⟩
  exact ⟨success, subjects, text, given, rendered, counts, received⟩

end Http
end Gateway
