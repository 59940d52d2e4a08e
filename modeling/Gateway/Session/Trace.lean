import Gateway.Session.Presence
import Gateway.State.Dangling

namespace Gateway
namespace Session

open Foundation State

/-!
# What a finished session leaves behind

After the final unregistration of a session its connection is not registered,
and it never will be again.  If nothing names connections that are not
registered, the session has left no trace.  The condition for that is that every
ready mark and every route is put in while its connection is registered, which a
session that was evicted while it still handed over messages does not respect.
-/

/-- The traffic puts in names of registered connections only. -/
def NamesRegistered (world : SessionWorld) : SessionEvent -> Prop
  | .traffic operation => FindsConnection world.gateway operation
  | _ => True

def NamingSessionStep (toLowercase : String -> String) (world : SessionWorld)
    (event : SessionEvent) (next : SessionWorld) : Prop :=
  SessionStep toLowercase world event next /\ NamesRegistered world event

/-- Before the registration and after the final unregistration. -/
def HandlerPhase.isOutside : HandlerPhase -> Bool
  | .arriving => true
  | .publishing _ => true
  | .returned => true
  | _ => false

/-- The handler has run its final `unregister_connection`. -/
def HandlerPhase.isFinished : HandlerPhase -> Bool
  | .publishing _ => true
  | .returned => true
  | _ => false

theorem HandlerPhase.isOutside_of_isFinished {phase : HandlerPhase}
    (finished : phase.isFinished = true) : phase.isOutside = true := by
  cases phase <;> first | rfl | cases finished

/-- A session that is outside has no registered connection. -/
def AbsentOutside (gateway : GatewayState) (handler : SessionHandler) : Prop :=
  handler.phase.isOutside = true -> isRegistered gateway handler.connectionId = false

theorem AbsentOutside.of_inside (gateway : GatewayState) (connectionId : String)
    {phase : HandlerPhase} (inside : phase.isOutside = false) :
    AbsentOutside gateway ⟨connectionId, phase⟩ := by
  intro outside
  rw [inside] at outside
  cases outside

structure TraceInvariant (world : SessionWorld) : Prop where
  noDangling : NoDangling world.gateway
  distinct : (world.handlers.map SessionHandler.connectionId).Nodup
  outside : forall handler, handler ∈ world.handlers -> AbsentOutside world.gateway handler

namespace TraceInvariant

variable {toLowercase : String -> String} {world : SessionWorld} {index : Nat}
  {connectionId : String} {after : GatewayState}

theorem initial (maxConnectionsPerUser : Option Nat) {connectionIds : List String}
    (distinct : connectionIds.Nodup) :
    TraceInvariant (SessionWorld.initial maxConnectionsPerUser connectionIds) where
  noDangling := NoDangling.new maxConnectionsPerUser
  distinct := by
    rw [SessionWorld.initial, List.map_map]
    exact (List.map_id connectionIds).symm ▸ distinct
  outside := fun _ _ _ => rfl

/-- A change of the gateway that registers nobody. -/
theorem change (invariant : TraceInvariant world) (noDangling : NoDangling after)
    (nobody : forall other, isRegistered world.gateway other = false ->
      isRegistered after other = false) (events : List PresenceEvent)
    (pruned : List ConnectionInfo) :
    TraceInvariant ⟨after, events, world.handlers, pruned⟩ :=
  ⟨noDangling, invariant.distinct,
    fun handler member outside => nobody _ (invariant.outside handler member outside)⟩

/-- A handler moves without changing the gateway. -/
theorem move (invariant : TraceInvariant world) {phase next : HandlerPhase}
    (found : world.handlers[index]? = some ⟨connectionId, phase⟩)
    (own : AbsentOutside world.gateway ⟨connectionId, next⟩) (events : List PresenceEvent) :
    TraceInvariant
      ⟨world.gateway, events, world.handlers.set index ⟨connectionId, next⟩, world.pruned⟩ where
  noDangling := invariant.noDangling
  distinct := by
    rw [handlers_set_ids found]
    exact invariant.distinct
  outside := forall_mem_set invariant.distinct found own (fun _ absent _ => absent)
    invariant.outside

/-- The end of a session drops its receiver, which removes nothing. -/
theorem dropReceiver (invariant : TraceInvariant world) (receiver : Nat) :
    TraceInvariant { world with gateway := world.gateway.dropReceiver receiver } :=
  invariant.change (NoDangling.kept.drop _ receiver invariant.noDangling) (fun _ absent => absent)
    world.events world.pruned

theorem register (invariant : TraceInvariant world)
    (found : world.handlers[index]? = some ⟨connectionId, .arriving⟩) (order : HashOrder String)
    (now : Int) (userId clientInstanceId : String) (subjects : List String) (connectedAt : Int)
    {registration : Registration}
    (registers : world.gateway.registerConnection order now connectionId userId clientInstanceId
      subjects connectedAt = (registration, after)) :
    TraceInvariant ({ world with gateway := after }.moveHandler index connectionId
      (.greeting registration.info registration.receiver)) := by
  have absent := invariant.outside _ (List.mem_of_getElem? found) rfl
  have registered : after = Operation.apply id world.gateway (.registerConnection order now
      connectionId userId clientInstanceId subjects connectedAt) := by
    rw [Operation.apply, registers]
  have noDangling := invariant.noDangling.apply id
    (.registerConnection order now connectionId userId clientInstanceId subjects connectedAt) trivial
    fun other same => Option.some.inj same ▸ isRegistered_eq_false.mp absent
  rw [← registered] at noDangling
  refine ⟨noDangling, ?_, ?_⟩
  · dsimp only [SessionWorld.moveHandler]
    rw [handlers_set_ids found]
    exact invariant.distinct
  · refine forall_mem_set invariant.distinct found (AbsentOutside.of_inside after connectionId rfl) ?_
      invariant.outside
    intro handler held different outside
    have still := isRegistered_registerConnection_of_ne absent order now userId clientInstanceId
      subjects connectedAt different (held outside)
    rw [registers] at still
    exact still

/-- The final unregistration, whether or not it finds the connection. -/
theorem unregister (invariant : TraceInvariant world) {phase : HandlerPhase}
    (found : world.handlers[index]? = some ⟨connectionId, phase⟩) (next : HandlerPhase)
    {removed : Option ConnectionInfo}
    (removes : world.gateway.unregisterConnection connectionId = (removed, after)) :
    TraceInvariant ({ world with gateway := after }.moveHandler index connectionId next) := by
  have removal : after = (world.gateway.unregisterConnection connectionId).2 := by rw [removes]
  have gone : isRegistered after connectionId = false := by
    rw [isRegistered_eq_false, removal, GatewayState.lookup_unregisterConnection, if_pos rfl]
  have noDangling : NoDangling after := by
    rw [removal]
    exact invariant.noDangling.unregisterConnection connectionId
  have nobody : forall other, isRegistered world.gateway other = false ->
      isRegistered after other = false := by
    intro other absent
    rw [isRegistered_eq_false] at absent ⊢
    rw [removal, GatewayState.lookup_unregisterConnection, absent]
    split <;> rfl
  have changed := invariant.change noDangling nobody world.events world.pruned
  exact changed.move found (fun _ => gone) world.events

theorem prune (invariant : TraceInvariant world) (order : HashOrder String)
    (now staleAfterSeconds : Int) {evicted : List ConnectionInfo}
    (prunes : world.gateway.pruneStaleConnections order now staleAfterSeconds = (evicted, after)) :
    TraceInvariant { world with gateway := after, pruned := evicted } := by
  have pruned : after = Operation.apply id world.gateway
      (.pruneStaleConnections order now staleAfterSeconds) := by rw [Operation.apply, prunes]
  refine invariant.change ?_ ?_ world.events evicted
  · rw [pruned]
    exact NoDangling.kept.apply_of_plain id rfl invariant.noDangling
  · intro other absent
    rw [pruned]
    exact isRegistered_apply_of_absent id rfl absent

theorem traffic (invariant : TraceInvariant world) {operation : Operation}
    (traffic : operation.isTraffic = true) (finds : FindsConnection world.gateway operation) :
    TraceInvariant { world with gateway := operation.apply toLowercase world.gateway } := by
  have nobody := registered_of_isTraffic traffic
  refine invariant.change ?_ (fun _ => isRegistered_apply_of_absent toLowercase nobody)
    world.events world.pruned
  refine invariant.noDangling.apply toLowercase operation finds ?_
  intro other registers
  rw [Operation.registeredId, nobody] at registers
  cases registers

theorem step {next : SessionWorld} {event : SessionEvent} (invariant : TraceInvariant world)
    (taken : NamingSessionStep toLowercase world event next) : TraceInvariant next := by
  rcases taken with ⟨step, names⟩
  cases step with
  | authenticationFail handler =>
      exact invariant.move handler (.of_inside _ _ rfl) world.events
  | register handler order now userId clientInstanceId connectedAt registers =>
      exact invariant.register handler order now userId clientInstanceId _ connectedAt registers
  | greetingFail handler =>
      exact (invariant.dropReceiver _).move handler (.of_inside _ _ rfl) world.events
  | publishConnected handler =>
      exact invariant.move handler (.of_inside _ _ rfl) _
  | stop handler =>
      exact (invariant.dropReceiver _).move handler (.of_inside _ _ rfl) world.events
  | unregister handler removes => exact invariant.unregister handler _ removes
  | unregisterAbsent handler removes => exact invariant.unregister handler _ removes
  | publishDisconnected handler =>
      have absent := invariant.outside _ (List.mem_of_getElem? handler) rfl
      have own : AbsentOutside world.gateway ⟨_, .returned⟩ := fun _ => absent
      exact invariant.move handler own _
  | prune idle order now staleAfterSeconds prunes =>
      exact invariant.prune order now staleAfterSeconds prunes
  | prunePublish removed => exact ⟨invariant.noDangling, invariant.distinct, invariant.outside⟩
  | traffic operation traffic => exact invariant.traffic traffic names

end TraceInvariant

/-- In every run whose traffic names registered connections only, a session that
has run its final unregistration has left no trace. -/
theorem finished_session_leaves_no_trace {toLowercase : String -> String}
    {maxConnectionsPerUser : Option Nat} {connectionIds : List String} {events : List SessionEvent}
    {world : SessionWorld} (distinct : connectionIds.Nodup)
    (run : Execution (NamingSessionStep toLowercase)
      (SessionWorld.initial maxConnectionsPerUser connectionIds) events world)
    (handler : SessionHandler) (member : handler ∈ world.handlers)
    (finished : handler.phase.isFinished = true) :
    LeavesNoTrace world.gateway handler.connectionId := by
  have invariant := run.invariant TraceInvariant
    (TraceInvariant.initial maxConnectionsPerUser distinct)
    (fun _ _ _ before taken => before.step taken)
  exact invariant.noDangling.leavesNoTrace (isRegistered_eq_false.mp
    (invariant.outside handler member (HandlerPhase.isOutside_of_isFinished finished)))

/-- Alice is served, asks for something, and leaves. -/
theorem finished_session_leaves_no_trace_of_served_session :
    let gateway := (registerAlice (GatewayState.new none) "c1").2
    let bound := gateway.bindRequestRoute 1 "r" "c1" "alice"
    let world : SessionWorld :=
      { gateway := ((bound.dropReceiver 0).unregisterConnection "c1").2
        events := [presenceEvent .connected (aliceConnection "c1")]
        handlers := [⟨"c1", .publishing (aliceConnection "c1")⟩]
        pruned := [] }
    Execution (NamingSessionStep asciiLowercase) (SessionWorld.initial none ["c1"])
      [.registered 0, .connectedPublished 0, .traffic (.bindRequestRoute 1 "r" "c1" "alice"),
        .ended 0, .unregistered 0] world /\ LeavesNoTrace world.gateway "c1" := by
  intro gateway bound world
  have registration : registerAlice (SessionWorld.initial none ["c1"]).gateway "c1" =
      (⟨aliceConnection "c1", 0, []⟩, gateway) := Prod.ext (by decide +kernel) rfl
  have removal : (bound.dropReceiver 0).unregisterConnection "c1" =
      (some (aliceConnection "c1"), world.gateway) := Prod.ext (by decide +kernel) rfl
  have registered : NamingSessionStep asciiLowercase (SessionWorld.initial none ["c1"])
      (.registered 0) ⟨gateway, [], [⟨"c1", .greeting (aliceConnection "c1") 0⟩], []⟩ :=
    ⟨.register rfl .sorted 0 "alice" "phone" 0 registration, trivial⟩
  have connected : NamingSessionStep asciiLowercase
      ⟨gateway, [], [⟨"c1", .greeting (aliceConnection "c1") 0⟩], []⟩ (.connectedPublished 0)
      ⟨gateway, [presenceEvent .connected (aliceConnection "c1")],
        [⟨"c1", .serving (aliceConnection "c1") 0⟩], []⟩ := ⟨.publishConnected rfl, trivial⟩
  have asked : NamingSessionStep asciiLowercase
      ⟨gateway, [presenceEvent .connected (aliceConnection "c1")],
        [⟨"c1", .serving (aliceConnection "c1") 0⟩], []⟩
      (.traffic (.bindRequestRoute 1 "r" "c1" "alice"))
      ⟨bound, [presenceEvent .connected (aliceConnection "c1")],
        [⟨"c1", .serving (aliceConnection "c1") 0⟩], []⟩ :=
    ⟨.traffic _ rfl, fun _ _ _ => by decide +kernel⟩
  have ended : NamingSessionStep asciiLowercase
      ⟨bound, [presenceEvent .connected (aliceConnection "c1")],
        [⟨"c1", .serving (aliceConnection "c1") 0⟩], []⟩ (.ended 0)
      ⟨bound.dropReceiver 0, [presenceEvent .connected (aliceConnection "c1")],
        [⟨"c1", .finishing⟩], []⟩ := ⟨.stop rfl, trivial⟩
  have unregistered : NamingSessionStep asciiLowercase
      ⟨bound.dropReceiver 0, [presenceEvent .connected (aliceConnection "c1")],
        [⟨"c1", .finishing⟩], []⟩ (.unregistered 0) world := ⟨.unregister rfl removal, trivial⟩
  have execution := ((((Execution.single registered).snoc connected).snoc asked).snoc ended).snoc
    unregistered
  exact ⟨execution, finished_session_leaves_no_trace (List.nodup_singleton _) execution
    ⟨"c1", .publishing (aliceConnection "c1")⟩ List.mem_cons_self rfl⟩

/-- Alice reconnects from the same client instance.  Before her first session
notices that it was evicted, it hands over one more request. -/
theorem evicted_session_leaves_route :
    let first := (registerAlice (GatewayState.new none) "c1").2
    let second := (registerAlice first "c2").2
    let world : SessionWorld :=
      { gateway := (second.bindRequestRoute 1 "r" "c1" "alice").dropReceiver 0
        events := [presenceEvent .connected (aliceConnection "c1")]
        handlers := [⟨"c1", .returned⟩, ⟨"c2", .greeting (aliceConnection "c2") 1⟩]
        pruned := [] }
    Execution (SessionStep asciiLowercase) (SessionWorld.initial none ["c1", "c2"])
      [.registered 0, .connectedPublished 0, .registered 1,
        .traffic (.bindRequestRoute 1 "r" "c1" "alice"), .ended 0, .unregistered 0] world /\
    Not (LeavesNoTrace world.gateway "c1") := by
  intro first second world
  have firstRegistration : registerAlice (SessionWorld.initial none ["c1", "c2"]).gateway "c1" =
      (⟨aliceConnection "c1", 0, []⟩, first) := Prod.ext (by decide +kernel) rfl
  have secondRegistration : registerAlice reconnectingWorld.gateway "c2" =
      (⟨aliceConnection "c2", 1, [aliceConnection "c1"]⟩, second) :=
    Prod.ext (by decide +kernel) rfl
  have absent : world.gateway.unregisterConnection "c1" = (none, world.gateway) :=
    GatewayState.unregisterConnection_of_absent (by decide +kernel)
  have registered : SessionStep asciiLowercase (SessionWorld.initial none ["c1", "c2"])
      (.registered 0)
      ⟨first, [], [⟨"c1", .greeting (aliceConnection "c1") 0⟩, ⟨"c2", .arriving⟩], []⟩ :=
    .register rfl .sorted 0 "alice" "phone" 0 firstRegistration
  have connected : SessionStep asciiLowercase
      ⟨first, [], [⟨"c1", .greeting (aliceConnection "c1") 0⟩, ⟨"c2", .arriving⟩], []⟩
      (.connectedPublished 0) reconnectingWorld := .publishConnected rfl
  have arriving : reconnectingWorld.handlers[1]? = some ⟨"c2", .arriving⟩ := rfl
  have replaced : SessionStep asciiLowercase reconnectingWorld (.registered 1)
      ⟨second, [presenceEvent .connected (aliceConnection "c1")],
        [⟨"c1", .serving (aliceConnection "c1") 0⟩,
          ⟨"c2", .greeting (aliceConnection "c2") 1⟩], []⟩ :=
    .register arriving .sorted 0 "alice" "phone" 0 secondRegistration
  have asked : SessionStep asciiLowercase
      ⟨second, [presenceEvent .connected (aliceConnection "c1")],
        [⟨"c1", .serving (aliceConnection "c1") 0⟩,
          ⟨"c2", .greeting (aliceConnection "c2") 1⟩], []⟩
      (.traffic (.bindRequestRoute 1 "r" "c1" "alice"))
      ⟨second.bindRequestRoute 1 "r" "c1" "alice",
        [presenceEvent .connected (aliceConnection "c1")],
        [⟨"c1", .serving (aliceConnection "c1") 0⟩,
          ⟨"c2", .greeting (aliceConnection "c2") 1⟩], []⟩ := .traffic _ rfl
  have ended : SessionStep asciiLowercase
      ⟨second.bindRequestRoute 1 "r" "c1" "alice",
        [presenceEvent .connected (aliceConnection "c1")],
        [⟨"c1", .serving (aliceConnection "c1") 0⟩,
          ⟨"c2", .greeting (aliceConnection "c2") 1⟩], []⟩ (.ended 0)
      ⟨world.gateway, [presenceEvent .connected (aliceConnection "c1")],
        [⟨"c1", .finishing⟩, ⟨"c2", .greeting (aliceConnection "c2") 1⟩], []⟩ := .stop rfl
  have unregistered : SessionStep asciiLowercase
      ⟨world.gateway, [presenceEvent .connected (aliceConnection "c1")],
        [⟨"c1", .finishing⟩, ⟨"c2", .greeting (aliceConnection "c2") 1⟩], []⟩ (.unregistered 0)
      world := .unregisterAbsent rfl absent
  refine ⟨(((((Execution.single registered).snoc connected).snoc replaced).snoc asked).snoc
    ended).snoc unregistered, ?_⟩
  intro noTrace
  exact noTrace.routes "r" ⟨"c1", "alice", 1⟩ (by decide +kernel) rfl

end Session
end Gateway
