import Gateway.Ingress.IterationOrder
import Gateway.Process.Events

namespace Gateway
namespace Process

open Foundation State Ingress Broker Http

/-!
# Runs do not depend on iteration orders

Two processes that receive the same calls differ in nothing but the seeds of
their hash functions, and with these in the orders in which they iterate.  All
their connections are sent the same texts, all their tables end up with the same
contents, and every call returns the same.  Only when the cap makes a session
give way and two sessions of a user are equally old, the seed decides which one
it is.
-/

section Entries

variable {left right : GatewayState} {reading : OutboxReading} (order : HashOrder String)

theorem sendAlongRoute_agrees (same : left.unindexed = right.unindexed) (requestId : String)
    (subjects : List String) (text : String) :
    (sendAlongRoute reading left requestId subjects text).1 =
        (sendAlongRoute { reading with order := order } right requestId subjects text).1 /\
      GatewayState.Agree (sendAlongRoute reading left requestId subjects text).2
        (sendAlongRoute { reading with order := order } right requestId subjects text).2 := by
  unfold sendAlongRoute
  dsimp only
  rcases (GatewayState.resolveRequestRoute_agrees same reading.routeNow requestId
    subjects).exists_states with ⟨target, leftFound, rightFound, leftDone, rightDone, resolved⟩
  rw [leftDone, rightDone]
  cases target with
  | none => exact ⟨rfl, rfl, resolved⟩
  | some connectionId =>
      dsimp only
      rcases (GatewayState.sendToConnection_agrees resolved connectionId text).exists_states with
        ⟨success, leftSent, rightSent, leftDone, rightDone, sent⟩
      rw [leftDone, rightDone]
      cases success with
      | true => exact ⟨rfl, rfl, sent⟩
      | false => exact ⟨rfl, rfl, GatewayState.clearRequestRoute_agrees sent requestId⟩

theorem dispatchEvent_agrees (same : left.unindexed = right.unindexed)
    (leftFormed : WellFormed left) (rightFormed : WellFormed right) (requestId : Option String)
    (subjects : List String) (text : String) :
    GatewayState.Agree (dispatchEvent reading left requestId subjects text)
      (dispatchEvent { reading with order := order } right requestId subjects text) := by
  cases requestId with
  | none =>
      exact GatewayState.sendToSubjects_agrees _ _ same leftFormed rightFormed _ _ subjects text
        true none
  | some requestId =>
      have routedFormed : forall (reading : OutboxReading) state, WellFormed state ->
          WellFormed (sendAlongRoute reading state requestId subjects text).2.2 :=
        fun reading _ formed => sendAlongRoute_keeps WellFormed.kept.changes.toKeptByDelivery
          (fun _ table held => held.withRoutes table) reading formed requestId subjects text
      have leftRouted := routedFormed reading left leftFormed
      have rightRouted := routedFormed { reading with order := order } right rightFormed
      rcases sendAlongRoute_agrees order same requestId subjects text with ⟨sent, routed⟩
      rcases routed.exists_states with ⟨result, leftAfter, rightAfter, leftDone, rightDone, after⟩
      have leftResult : sendAlongRoute reading left requestId subjects text =
          ((sendAlongRoute reading left requestId subjects text).1, result, leftAfter) :=
        Prod.ext rfl leftDone
      have rightResult : sendAlongRoute { reading with order := order } right requestId subjects
          text = ((sendAlongRoute reading left requestId subjects text).1, result, rightAfter) :=
        Prod.ext sent.symm rightDone
      rw [leftDone] at leftRouted
      rw [rightDone] at rightRouted
      unfold dispatchEvent
      dsimp only
      rw [leftResult, rightResult]
      cases (sendAlongRoute reading left requestId subjects text).1 with
      | true => exact ⟨rfl, after⟩
      | false =>
          have fallback := GatewayState.sendToSubjects_agrees reading.order order after leftRouted
            rightRouted reading.stickyNow reading.bufferNow subjects text true none
          exact ⟨congrArg (DispatchResult.add result) fallback.result, fallback.state⟩

theorem processEntry_agrees (same : left.unindexed = right.unindexed)
    (leftFormed : WellFormed left) (rightFormed : WellFormed right)
    (toLowercase : String -> String) (json : JsonText) (entry : ParsedEntry) :
    GatewayState.Agree (processEntry toLowercase json reading left entry)
      (processEntry toLowercase json { reading with order := order } right entry) := by
  unfold processEntry
  split
  · exact ⟨rfl, same⟩
  · dsimp only
    split
    · exact ⟨rfl, same⟩
    · split
      · exact ⟨rfl, GatewayState.applyRelayContextSnapshot_agrees same toLowercase _ _⟩
      · split
        · exact ⟨rfl, same⟩
        · have dispatched := @dispatchEvent_agrees left right reading order same leftFormed
            rightFormed
          exact ⟨congrArg some (dispatched _ _ _).result, (dispatched _ _ _).state⟩

end Entries

theorem publish_agrees {left right : GatewayState} (same : left.unindexed = right.unindexed)
    (leftFormed : WellFormed left) (rightFormed : WellFormed right) (json : JsonText)
    (config : Config) (reading : ApiReading) (order : HashOrder String)
    (headerKey : Option String) (request : PublishRequest) :
    GatewayState.Agree (publish json config reading left headerKey request)
      (publish json config { reading with order := order } right headerKey request) := by
  unfold publish
  split
  · dsimp only
    split
    · exact ⟨rfl, same⟩
    · split
      · have sent := GatewayState.sendToSubjects_agrees reading.order order same leftFormed
          rightFormed reading.stickyNow reading.bufferNow (request.subjects.getD [])
        exact ⟨congrArg published (sent _ _ _).result, (sent _ _ _).state⟩
      · exact ⟨rfl, same⟩
  · exact ⟨rfl, same⟩

/-! ## Runs with other orders -/

/-- The same call with other iteration orders. -/
inductive GatewayEvent.Reordered : GatewayEvent -> GatewayEvent -> Prop where
  | connect (order other : HashOrder String) (now : Int)
      (connectionId userId clientInstanceId : String) (connectedAt : Int) :
      Reordered (.connect order now connectionId userId clientInstanceId connectedAt)
        (.connect other now connectionId userId clientInstanceId connectedAt)
  | message (handled : HandledMessage) (readyOrder dispatchOrder : HashOrder String) :
      Reordered (.message handled)
        (.message
          { handled with reading := handled.reading.reordered readyOrder dispatchOrder })
  | requeue (now : Int) (subjects : List String) (text : String) :
      Reordered (.requeue now subjects text) (.requeue now subjects text)
  | release (receiver : Nat) : Reordered (.release receiver) (.release receiver)
  | disconnect (connectionId : String) :
      Reordered (.disconnect connectionId) (.disconnect connectionId)
  | entry (reading : OutboxReading) (order : HashOrder String) (parsed : ParsedEntry) :
      Reordered (.entry reading parsed) (.entry { reading with order := order } parsed)
  | publish (reading : ApiReading) (order : HashOrder String) (headerKey : Option String)
      (request : PublishRequest) :
      Reordered (.publish reading headerKey request)
        (.publish { reading with order := order } headerKey request)
  | pruneTick (order other : HashOrder String) (now : Int) :
      Reordered (.pruneTick order now) (.pruneTick other now)
  | list (order other : HashOrder String) (query : ListQuery) :
      Reordered (.list order query) (.list other query)
  | listOfUser (order other : HashOrder String) (userId : String) :
      Reordered (.listOfUser order userId) (.listOfUser other userId)

/-- What a call returns.  The sessions that a call removes or lists come in
iteration order, which is forgotten here. -/
inductive Answer where
  | nothing
  | registered (receiver : Nat) (evicted : Multiset ConnectionInfo)
  | handled (rejection : Option CommandRejection) (relay : Option RelayDispatch)
      (published : Option Json)
  | unregistered (info : Option ConnectionInfo)
  | dispatched (result : Option DispatchResult)
  | responded (response : Response)
  | pruned (infos : Multiset ConnectionInfo)
  | listed (status : Nat) (connections : Multiset Json)

/-- A listing with the order of its array forgotten. -/
def Answer.ofListing (response : Response) : Answer :=
  .listed response.status ((response.body.arrayField "connections").getD [])

def GatewayEvent.answer (environs : Environs) (state : GatewayState) : GatewayEvent -> Answer
  | .connect order now connectionId userId clientInstanceId connectedAt =>
      let registration := (state.registerConnection order now connectionId userId clientInstanceId
        (Session.connectionSubjects environs.toLowercase userId) connectedAt).1
      .registered registration.receiver registration.evicted
  | .message handled =>
      let outcome := handleClientMessage environs.registry environs.toLowercase environs.json
        handled.reading handled.hasRedis state handled.connectionId handled.info handled.raw
      .handled outcome.rejection outcome.relay outcome.published
  | .requeue _ _ _ => .nothing
  | .release _ => .nothing
  | .disconnect connectionId => .unregistered (state.unregisterConnection connectionId).1
  | .entry reading parsed =>
      .dispatched (processEntry environs.toLowercase environs.json reading state parsed).1
  | .publish reading headerKey request =>
      .responded (Http.publish environs.json environs.config reading state headerKey request).1
  | .pruneTick order now =>
      .pruned (state.pruneStaleConnections order now
        environs.config.staleConnectionTimeoutSeconds).1
  | .list order query => .ofListing (Http.listConnections order state query)
  | .listOfUser order userId => .ofListing (userConnections order state userId)

section Runs

variable (environs : Environs)

def answersFrom (state : GatewayState) : List GatewayEvent -> List Answer
  | [] => []
  | event :: events =>
      event.answer environs state :: answersFrom (event.apply environs state) events

/-- What the calls of a run return. -/
def answers (events : List GatewayEvent) : List Answer :=
  answersFrom environs (GatewayState.new environs.config.maxConnectionsPerUser) events

theorem answersFrom_concat (state : GatewayState) (events : List GatewayEvent)
    (event : GatewayEvent) :
    answersFrom environs state (events ++ [event]) =
      answersFrom environs state events ++
        [event.answer environs (events.foldl (GatewayEvent.apply environs) state)] := by
  induction events generalizing state with
  | nil => rfl
  | cons first events ih =>
      rw [List.cons_append, answersFrom, ih]
      rfl

theorem answers_concat (events : List GatewayEvent) (event : GatewayEvent) :
    answers environs (events ++ [event]) =
      answers environs events ++ [event.answer environs (GatewayEvent.run environs events)] :=
  answersFrom_concat environs _ events event

theorem GatewayEvent.Reordered.registered {left right : GatewayEvent}
    (reordered : Reordered left right) :
    left.registered environs = right.registered environs := by
  cases reordered <;> rfl

theorem sessionInfos_of_reordered {left right : List GatewayEvent}
    (reordered : List.Forall₂ GatewayEvent.Reordered left right) :
    sessionInfos environs left = sessionInfos environs right := by
  induction reordered with
  | nil => rfl
  | @cons _ second _ _ here _ ih =>
      rw [sessionInfos, sessionInfos, List.filterMap_cons, List.filterMap_cons,
        here.registered environs]
      cases second.registered environs with
      | none => exact ih
      | some info => exact congrArg (List.cons info) ih

theorem SecondsDistinct.of_append {earlier later : List GatewayEvent}
    (distinct : SecondsDistinct (sessionInfos environs (earlier ++ later))) :
    SecondsDistinct (sessionInfos environs earlier) := by
  rw [sessionInfos, List.filterMap_append] at distinct
  intro first firstListed second secondListed
  exact distinct first (List.mem_append_left _ firstListed) second
    (List.mem_append_left _ secondListed)

/-- The ids of all sessions so far, each with its user. -/
def sessionUsers (events : List GatewayEvent) : List (String × String) :=
  (sessionInfos environs events).map fun info => (info.connectionId, info.userId)

variable {environs}

theorem mem_sessionUsers {events : List GatewayEvent} {handled : HandledMessage}
    (own : OfSession environs events (.message handled)) :
    (handled.connectionId, handled.info.userId) ∈ sessionUsers environs events :=
  List.mem_map.mpr ⟨handled.info, own.1, Prod.ext own.2 rfl⟩

theorem marksKnown_markReady {users : List (String × String)} {state : GatewayState}
    (known : MarksKnown users state) {connectionId userId : String}
    (listed : (connectionId, userId) ∈ users) (now : Int) :
    MarksKnown users (state.markReady now connectionId userId) := by
  unfold GatewayState.markReady
  split
  · exact known
  · intro id mark marked
    simp only [HashTable.lookup_insert_ite] at marked
    split at marked
    · next same =>
      rw [same, ← Option.some.inj marked]
      exact listed
    · exact known id mark marked

theorem marksKnown_operation {users : List (String × String)} {state : GatewayState}
    (known : MarksKnown users state) (toLowercase : String -> String) (operation : Operation)
    (ready : forall order now connectionId userId,
      operation = .markSessionReady order now connectionId userId ->
      (connectionId, userId) ∈ users) :
    MarksKnown users (operation.apply toLowercase state) := by
  have kept := MarksKnown.kept users
  refine kept.toKeptByCalls.apply toLowercase operation (fun _ => known)
    (fun receiver _ => kept.drop state receiver known) ?_ ?_ known
  · intro order now connectionId userId reports
    refine kept.toKeptByDelivery.markSessionReady order now connectionId userId ?_ known
    intro visible userVisible
    have marked := marksKnown_markReady known (ready order now connectionId userId reports) now
    rwa [GatewayState.markReady, if_neg (not_or_intro visible userVisible)] at marked
  · intro order now connectionId userId clientInstanceId _ _ _
    exact kept.toKeptByDelivery.evictSameInstance order connectionId userId clientInstanceId known

/-- Only a message marks sessions as ready, and it marks its own. -/
theorem marksKnown_event {events : List GatewayEvent} {state : GatewayState}
    (known : MarksKnown (sessionUsers environs events) state) (event : GatewayEvent)
    (own : OfSession environs events event) :
    MarksKnown (sessionUsers environs events) (event.apply environs state) := by
  have kept := MarksKnown.kept (sessionUsers environs events)
  cases event with
  | connect order now connectionId userId clientInstanceId connectedAt =>
      exact marksKnown_operation known environs.toLowercase (.registerConnection order now
        connectionId userId clientInstanceId _ connectedAt) (by intro _ _ _ _ same; cases same)
  | message handled =>
      refine (handleClientMessage_performs environs.registry environs.toLowercase environs.json
        handled.reading handled.connectionId handled.info handled.raw state handled.hasRedis).keeps
        (fun state operation allowed known => ?_) known
      refine marksKnown_operation known environs.toLowercase operation ?_
      rintro order now connectionId userId rfl
      cases allowed
      exact mem_sessionUsers own
  | requeue now subjects text =>
      exact marksKnown_operation known environs.toLowercase (.requeueForSubjects now subjects text)
        (by intro _ _ _ _ same; cases same)
  | release receiver => exact kept.drop state receiver known
  | disconnect connectionId => exact kept.unregister state connectionId known
  | entry reading parsed =>
      refine processEntry_keeps kept.toKeptByDelivery (fun _ _ known => known)
        (fun _ _ known => known) environs.toLowercase environs.json reading known
        (fun snapshot => ?_) parsed
      exact marksKnown_operation known environs.toLowercase
        (.applyRelayContextSnapshot reading.applyNow snapshot)
        (by intro _ _ _ _ same; cases same)
  | publish reading headerKey request =>
      rcases publish_cases environs.json environs.config reading state headerKey request with
        ⟨_, same⟩ | ⟨subjects, text, admitted, given, nonempty, renders⟩
      · rw [GatewayEvent.apply, same]
        exact known
      · rw [GatewayEvent.apply, publish_of_admitted admitted given nonempty renders]
        exact kept.toKeptByDelivery.sendToSubjects (fun _ _ known => known) _ _ _ _ _ _ _ known
  | pruneTick order now =>
      exact kept.toKeptByDelivery.pruneStaleConnections order now _ known
  | list order query => exact known
  | listOfUser order userId => exact known

theorem marksKnown_events (events : List GatewayEvent)
    (own : Throughout (OfSession environs) events) :
    MarksKnown (sessionUsers environs events) (GatewayEvent.run environs events) := by
  refine foldl_history (fun history (state : GatewayState) =>
    Throughout (OfSession environs) history -> MarksKnown (sessionUsers environs history) state)
    ?_ ?_ events own
  · intro _ id mark marked
    simp [GatewayState.new] at marked
  · intro history state event before ownNow id mark marked
    have known := marksKnown_event (before ownNow.append_left) event ownNow.last id mark marked
    rw [sessionUsers, sessionInfos, List.filterMap_append, List.map_append]
    exact List.mem_append_left _ known

theorem allKnown_events {events : List GatewayEvent} (fresh : FreshSessions environs events) :
    AllKnown (fun info => info ∈ sessionInfos environs events)
      (GatewayEvent.run environs events) := by
  rcases GatewayEvent.exists_operations environs events with ⟨operations, reached, registered⟩
  rw [← reached, ← registered]
  exact registered_of_run environs.toLowercase environs.config.maxConnectionsPerUser operations
    (freshIds_of_sessions environs registered fresh)

theorem limit_events {events : List GatewayEvent} (fresh : FreshSessions environs events) :
    (GatewayEvent.run environs events).maxConnectionsPerUser =
      environs.config.maxConnectionsPerUser := by
  rcases GatewayEvent.exists_operations environs events with ⟨operations, reached, registered⟩
  rw [← reached]
  exact (limitKept environs.config.maxConnectionsPerUser).run environs.toLowercase
    environs.config.maxConnectionsPerUser rfl (fun _ _ _ same => same) operations
    (freshIds_of_sessions environs registered fresh)

/-- When a message reports its session ready, no two ready sessions of the user
are equally old. -/
theorem readyTimesDistinct_events {events : List GatewayEvent}
    (fresh : FreshSessions environs events) (own : Throughout (OfSession environs) events)
    (distinct : SecondsDistinct (sessionInfos environs events)) {handled : HandledMessage}
    (ofSession : OfSession environs events (.message handled)) :
    (((GatewayEvent.run environs events).markConnectionAlive handled.connectionId
        handled.reading.aliveNow).markReady handled.reading.readyNow handled.connectionId
      handled.info.userId).ReadyTimesDistinct handled.info.userId := by
  have known := (AllKnown.kept _).alive (GatewayEvent.run environs events) handled.connectionId
    handled.reading.aliveNow (allKnown_events fresh)
  have marks := (MarksKnown.kept (sessionUsers environs events)).alive
    (GatewayEvent.run environs events) handled.connectionId handled.reading.aliveNow
    (marksKnown_events events own)
  refine readyTimesDistinct_of_known ?_
    (marksKnown_markReady marks (mem_sessionUsers ofSession) handled.reading.readyNow) fresh
    distinct handled.info.userId
  unfold GatewayState.markReady
  split
  · exact known
  · exact known

theorem listed_agrees {left right : GatewayState} (order other : HashOrder String)
    (same : left.unindexed = right.unindexed) (subject userId : Option String) :
    Answer.ofListing (listed (left.listConnections order subject userId)) =
      .ofListing (listed (right.listConnections other subject userId)) := by
  have connections := GatewayState.connections_of_unindexed same
  have scanned : (left.listConnections order subject userId).Perm
      (right.listConnections other subject userId) := by
    rw [GatewayState.listConnections, GatewayState.listConnections, connections]
    exact ((HashTable.perm_iterate order other right.connections).filter _).map _
  exact congrArg (Answer.listed 200) (Multiset.coe_eq_coe.mpr (scanned.map connectionJson))

/-- A call with other orders returns the same and leads to the same contents. -/
theorem GatewayEvent.Reordered.agrees {first second : GatewayEvent}
    (reordered : Reordered first second) {left right : GatewayState}
    (same : left.unindexed = right.unindexed) (leftFormed : WellFormed left)
    (rightFormed : WellFormed right)
    (ready : forall handled, first = .message handled -> left.maxConnectionsPerUser = none \/
      ((left.markConnectionAlive handled.connectionId handled.reading.aliveNow).markReady
        handled.reading.readyNow handled.connectionId handled.info.userId).ReadyTimesDistinct
        handled.info.userId) :
    (first.apply environs left).unindexed = (second.apply environs right).unindexed /\
      first.answer environs left = second.answer environs right := by
  cases reordered with
  | connect order other now connectionId userId clientInstanceId connectedAt =>
      have registered := GatewayState.registerConnection_agrees order other same now connectionId
        userId clientInstanceId (Session.connectionSubjects environs.toLowercase userId) connectedAt
      exact ⟨registered.2.state, congrArg₂ Answer.registered registered.1
        (Multiset.coe_eq_coe.mpr registered.2.infos)⟩
  | message handled readyOrder dispatchOrder =>
      have outcome := @handleClientMessage_agrees environs.registry environs.toLowercase
        environs.json handled.reading left right handled.info readyOrder dispatchOrder same
        leftFormed rightFormed handled.hasRedis handled.connectionId handled.raw (ready handled rfl)
      refine ⟨outcome.state, ?_⟩
      simp only [GatewayEvent.answer, outcome.rejection, outcome.relay, outcome.published]
  | requeue now subjects text =>
      exact ⟨GatewayState.requeueForSubjects_agrees same now subjects text, rfl⟩
  | release receiver => exact ⟨GatewayState.dropReceiver_agrees same receiver, rfl⟩
  | disconnect connectionId =>
      have removed := GatewayState.unregisterConnection_agrees same connectionId
      exact ⟨removed.state, congrArg Answer.unregistered removed.result⟩
  | entry reading order parsed =>
      have processed := @processEntry_agrees left right reading order same leftFormed rightFormed
        environs.toLowercase environs.json parsed
      exact ⟨processed.state, congrArg Answer.dispatched processed.result⟩
  | publish reading order headerKey request =>
      have sent := publish_agrees same leftFormed rightFormed environs.json environs.config reading
        order headerKey request
      exact ⟨sent.state, congrArg Answer.responded sent.result⟩
  | pruneTick order other now =>
      have pruned := GatewayState.pruneStaleConnections_agrees order other same now
        environs.config.staleConnectionTimeoutSeconds
      exact ⟨pruned.state, congrArg Answer.pruned (Multiset.coe_eq_coe.mpr pruned.infos)⟩
  | list order other query => exact ⟨same, listed_agrees order other same _ _⟩
  | listOfUser order other userId => exact ⟨same, listed_agrees order other same _ _⟩

end Runs

/-- Two runs of the same calls, each with iteration orders of its own, return
the same and end with the same texts in every channel and the same contents in
every table, unless the cap has to choose between two sessions that a user has
registered in the same second. -/
theorem runs_do_not_depend_on_iteration_orders (environs : Environs)
    {left right : List GatewayEvent}
    (reordered : List.Forall₂ GatewayEvent.Reordered left right)
    (fresh : FreshSessions environs left) (own : Throughout (OfSession environs) left)
    (distinct : environs.config.maxConnectionsPerUser = none \/
      SecondsDistinct (sessionInfos environs left)) :
    GatewayState.SameContents (GatewayEvent.run environs left) (GatewayEvent.run environs right) /\
      answers environs left = answers environs right := by
  have freshRight : FreshSessions environs right := by
    rw [FreshSessions, ← sessionInfos_of_reordered environs reordered]
    exact fresh
  suffices both : (GatewayEvent.run environs left).unindexed =
      (GatewayEvent.run environs right).unindexed /\ answers environs left = answers environs right
      from ⟨.of_wellFormed (GatewayEvent.wellFormed_run environs fresh)
        (GatewayEvent.wellFormed_run environs freshRight) both.1, both.2⟩
  -- The calls are taken in step, and the conditions hold of every earlier part.
  refine forall₂_history (fun left right => FreshSessions environs left ->
    FreshSessions environs right -> Throughout (OfSession environs) left ->
    (environs.config.maxConnectionsPerUser = none \/
      SecondsDistinct (sessionInfos environs left)) ->
    (GatewayEvent.run environs left).unindexed = (GatewayEvent.run environs right).unindexed /\
      answers environs left = answers environs right) ?_ ?_ reordered fresh freshRight own distinct
  · intro _ _ _ _
    exact ⟨rfl, rfl⟩
  · intro left right first second _ step before fresh freshRight own distinct
    have freshBefore := FreshSessions.of_append environs fresh
    have freshRightBefore := FreshSessions.of_append environs freshRight
    have distinctBefore := distinct.imp_right (SecondsDistinct.of_append environs)
    rcases before freshBefore freshRightBefore own.append_left distinctBefore with ⟨same, answered⟩
    have stepped := @GatewayEvent.Reordered.agrees environs _ _ step _ _ same
      (GatewayEvent.wellFormed_run environs freshBefore)
      (GatewayEvent.wellFormed_run environs freshRightBefore) ?_
    · rw [GatewayEvent.run_concat, GatewayEvent.run_concat, answers_concat, answers_concat,
        answered, stepped.2]
      exact ⟨stepped.1, rfl⟩
    · rintro handled rfl
      rw [limit_events freshBefore]
      exact distinctBefore.imp_right fun distinct =>
        readyTimesDistinct_events freshBefore own.append_left distinct own.last

def readyText : String :=
  "\x7b\"type\":\"session_ready\"\x7d"

/-- A process with at most two sessions for each user. -/
def pairEnvirons : Environs where
  registry := builtinRegistry
  toLowercase := asciiLowercase
  json := .ofTexts [(readyText, .object [("type", .string "session_ready")])]
  config := Config.fromEnv asciiLowercase
    ⟨fun name => if name = "MAX_CONNECTIONS_PER_USER" then some "2" else none, fun _ => none⟩

/-- A session of Alice. -/
def sessionOfAlice (connectionId : String) (connectedAt : Int) : ConnectionInfo where
  connectionId := connectionId
  userId := "alice@test.de"
  clientInstanceId := ""
  subjects := ["user:alice@test.de"]
  connectedAt := connectedAt
  lastSeenAt := connectedAt

def readyOfAlice (order : HashOrder String) (connectionId : String) (connectedAt : Int) :
    GatewayEvent :=
  .message
    { connectionId := connectionId
      info := sessionOfAlice connectionId connectedAt
      raw := readyText
      hasRedis := false
      reading := (readingAt 10).reordered order order }

/-- Alice opens three sessions and reports them ready, and Bob opens one.  Both
are sent an event, Alice's sessions are listed, and Bob is then found to be stale. -/
def threeSessions (order : HashOrder String) (second third : Int) : List GatewayEvent :=
  [.connect order 0 "conn-a" "alice@test.de" "" 0,
    .connect order second "conn-b" "alice@test.de" "" second,
    .connect order third "conn-c" "alice@test.de" "" third,
    .connect order 0 "conn-d" "bob@test.de" "" 0,
    readyOfAlice order "conn-a" 0, readyOfAlice order "conn-b" second,
    readyOfAlice order "conn-c" third,
    .publish ⟨order, 20, 20⟩ none ⟨some ["user:alice@test.de", "user:bob@test.de"], .null, none⟩,
    .listOfUser order "alice@test.de", .pruneTick order 125]

theorem threeSessions_reordered (order other : HashOrder String) (second third : Int) :
    List.Forall₂ GatewayEvent.Reordered (threeSessions order second third)
      (threeSessions other second third) :=
  .cons (.connect order other ..) <| .cons (.connect order other ..) <|
    .cons (.connect order other ..) <| .cons (.connect order other ..) <|
    .cons (.message _ other other) <| .cons (.message _ other other) <|
    .cons (.message _ other other) <| .cons (.publish _ other ..) <|
    .cons (.listOfUser order other _) <| .cons (.pruneTick order other _) .nil

/-- The oldest session gives way, whatever the order. -/
theorem runs_do_not_depend_on_iteration_orders_of_pair :
    let increasing := threeSessions .sorted 1 2
    let decreasing := threeSessions (HashOrder.reversed .sorted) 1 2
    (GatewayState.SameContents (GatewayEvent.run pairEnvirons increasing)
        (GatewayEvent.run pairEnvirons decreasing) /\
      answers pairEnvirons increasing = answers pairEnvirons decreasing) /\
    (GatewayEvent.run pairEnvirons increasing).connections.lookup "conn-a" = none /\
    ((GatewayEvent.run pairEnvirons increasing).connections.lookup "conn-b").isSome = true :=
  ⟨runs_do_not_depend_on_iteration_orders pairEnvirons (threeSessions_reordered _ _ 1 2)
    (by decide +kernel) (by decide +kernel) (Or.inr (by decide +kernel)), by decide +kernel,
    by decide +kernel⟩

-- Sessions of the same second: the order decides which of them gives way.
example : ((GatewayEvent.run pairEnvirons (threeSessions .sorted 0 0)).connections.lookup
      "conn-a").isSome = false /\
    ((GatewayEvent.run pairEnvirons (threeSessions (HashOrder.reversed .sorted) 0
      0)).connections.lookup "conn-a").isSome = true := by
  decide +kernel

end Process
end Gateway
