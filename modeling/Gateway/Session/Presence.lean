import Gateway.Session.Handlers

namespace Gateway
namespace Session

open Foundation State

/-!
# Presence events pair up

The account of a connection relates what was published about it to whether it
is registered and to how many `disconnected` events are still owed for it, by
its handler or by the prune task.  A step keeps all accounts unless it removes
an announced connection without owing anything for it, owes an event for a
connection that was never announced, or announces a connection that is no
longer registered.
-/

/-- The kinds of the events about a connection, in the order of publishing. -/
def kindsOf (events : List PresenceEvent) (connectionId : String) : List PresenceKind :=
  (events.filter fun event => decide (event.connectionId = connectionId)).map PresenceEvent.kind

def Announced (events : List PresenceEvent) (connectionId : String) : Prop :=
  .connected ∈ kindsOf events connectionId

/-- As many `disconnected` as `connected` events, at most one, in this order. -/
structure PairedUp (events : List PresenceEvent) (connectionId : String) : Prop where
  equal : (kindsOf events connectionId).count .disconnected =
    (kindsOf events connectionId).count .connected
  atMostOne : (kindsOf events connectionId).count .disconnected ≤ 1
  ordered : forall earlier later,
    kindsOf events connectionId = earlier ++ .disconnected :: later -> .connected ∈ earlier

/-- The step takes the connection out of the table. -/
def Removes (before after : GatewayState) (connectionId : String) : Prop :=
  isRegistered before connectionId = true /\ isRegistered after connectionId = false

/-- The condition on a step: `connected` is published while the connection is
registered, a removal whose caller publishes takes only connections that were
announced, and a removal whose caller does not takes only others. -/
def KeepsAccounts (world : SessionWorld) (event : SessionEvent) (next : SessionWorld) : Prop :=
  match event with
  | .connectedPublished index =>
      forall handler, world.handlers[index]? = some handler ->
        isRegistered world.gateway handler.connectionId = true
  | .unregistered _ | .pruneTick =>
      forall connectionId, Removes world.gateway next.gateway connectionId ->
        Announced world.events connectionId
  | .registered _ | .traffic _ =>
      forall connectionId, Removes world.gateway next.gateway connectionId ->
        ¬ Announced world.events connectionId
  | _ => True

def CarefulSessionStep (toLowercase : String -> String) (world : SessionWorld)
    (event : SessionEvent) (next : SessionWorld) : Prop :=
  SessionStep toLowercase world event next /\ KeepsAccounts world event next

/-! ## Accounts -/

theorem kindsOf_publish_self (world : SessionWorld) (kind : PresenceKind)
    (info : ConnectionInfo) :
    kindsOf (world.publish kind info).events info.connectionId =
      kindsOf world.events info.connectionId ++ [kind] := by
  simp [kindsOf, SessionWorld.publish, presenceEvent]

theorem kindsOf_publish_of_ne (world : SessionWorld) (kind : PresenceKind)
    {info : ConnectionInfo} {connectionId : String} (different : connectionId ≠ info.connectionId) :
    kindsOf (world.publish kind info).events connectionId = kindsOf world.events connectionId := by
  simp [kindsOf, SessionWorld.publish, presenceEvent, Ne.symm different]

/-- What was published about a connection, given whether it is registered and
how many `disconnected` events are owed for it. -/
inductive Account (registered : Bool) (owed : Nat) : List PresenceKind -> Prop where
  | silent (nothing : owed = 0) : Account registered owed []
  | announced (present : registered = true) (nothing : owed = 0) :
      Account registered owed [.connected]
  | owing (gone : registered = false) (one : owed = 1) : Account registered owed [.connected]
  | settled (gone : registered = false) (nothing : owed = 0) :
      Account registered owed [.connected, .disconnected]

/-- Nobody is registered and nobody announced is removed. -/
theorem Account.keep {before after : Bool} {owed : Nat} {kinds : List PresenceKind}
    (account : Account before owed kinds) (stays : before = false -> after = false)
    (quiet : before = true -> after = false -> .connected ∉ kinds) :
    Account after owed kinds := by
  cases account with
  | silent nothing => exact .silent nothing
  | announced present nothing =>
      cases after with
      | true => exact .announced rfl nothing
      | false => exact absurd List.mem_cons_self (quiet present rfl)
  | owing gone one => exact .owing (stays gone) one
  | settled gone nothing => exact .settled (stays gone) nothing

/-- Whoever removes an announced connection owes one event for it. -/
theorem Account.remove {before after : Bool} {owed reported : Nat} {kinds : List PresenceKind}
    (account : Account before owed kinds) (counted : reported + after.toNat = before.toNat)
    (announced : before = true -> after = false -> .connected ∈ kinds) :
    Account after (reported + owed) kinds := by
  cases before with
  | false =>
      rw [Bool.toNat_false, Nat.add_eq_zero_iff, Bool.toNat_eq_zero] at counted
      rw [counted.1, Nat.zero_add, counted.2]
      exact account
  | true =>
      cases after with
      | true =>
          have unreported : reported = 0 := by
            rw [Bool.toNat_true] at counted
            omega
          rw [unreported, Nat.zero_add]
          exact account
      | false =>
          have once : reported = 1 := counted
          cases account with
          | silent nothing => exact absurd (announced rfl rfl) List.not_mem_nil
          | announced present nothing => exact .owing rfl (by rw [once, nothing])
          | owing gone one => cases gone
          | settled gone nothing => cases gone

/-- Publishing an owed event settles the account. -/
theorem Account.settle {registered : Bool} {owed : Nat} {kinds : List PresenceKind}
    (account : Account registered (owed + 1) kinds) :
    Account registered owed (kinds ++ [.disconnected]) := by
  cases account with
  | silent nothing => cases nothing
  | announced present nothing => cases nothing
  | owing gone one => exact .settled gone (Nat.succ.inj one)
  | settled gone nothing => cases nothing

theorem Account.pairedUp {events : List PresenceEvent} {connectionId : String}
    (account : Account false 0 (kindsOf events connectionId)) : PairedUp events connectionId := by
  generalize listed : kindsOf events connectionId = kinds at account
  cases account with
  | silent nothing =>
      refine ⟨by rw [listed]; rfl, by rw [listed]; decide, ?_⟩
      intro earlier later same
      rw [listed] at same
      cases earlier <;> cases same
  | announced present nothing => cases present
  | owing gone one => cases one
  | settled gone nothing =>
      refine ⟨by rw [listed]; rfl, by rw [listed]; decide, ?_⟩
      intro earlier later same
      rw [listed] at same
      cases earlier with
      | nil => cases same
      | cons first earlier =>
          rw [List.cons_append, List.cons.injEq] at same
          rw [← same.1]
          exact List.mem_cons_self

/-- What the handler itself still owes. -/
def HandlerPhase.owes : HandlerPhase -> Nat
  | .publishing _ => 1
  | _ => 0

/-- What a phase says about the connection. -/
def PhaseFits (registered : Bool) (kinds : List PresenceKind) (connectionId : String) :
    HandlerPhase -> Prop
  | .arriving => registered = false /\ kinds = []
  | .greeting info _ => info.connectionId = connectionId /\ kinds = []
  | .publishing info => info.connectionId = connectionId /\ registered = false
  | .returned => registered = false
  | .serving _ _ => True
  | .finishing => True

structure HandlerFits (world : SessionWorld) (handler : SessionHandler) : Prop where
  account : Account (isRegistered world.gateway handler.connectionId)
    (reports world.pruned handler.connectionId + handler.phase.owes)
    (kindsOf world.events handler.connectionId)
  phase : PhaseFits (isRegistered world.gateway handler.connectionId)
    (kindsOf world.events handler.connectionId) handler.connectionId handler.phase

structure SessionInvariant (world : SessionWorld) : Prop where
  consistent : IndexConsistent world.gateway
  distinct : (world.handlers.map SessionHandler.connectionId).Nodup
  handlers : forall handler, handler ∈ world.handlers -> HandlerFits world handler

/-- A step that changes nothing about a connection keeps its handler's
account. -/
theorem HandlerFits.congr {world next : SessionWorld} {handler : SessionHandler}
    (fits : HandlerFits world handler)
    (registered : isRegistered next.gateway handler.connectionId =
      isRegistered world.gateway handler.connectionId)
    (pruned : reports next.pruned handler.connectionId =
      reports world.pruned handler.connectionId)
    (kinds : kindsOf next.events handler.connectionId =
      kindsOf world.events handler.connectionId) : HandlerFits next handler := by
  constructor
  · rw [registered, pruned, kinds]
    exact fits.account
  · rw [registered, kinds]
    exact fits.phase

theorem PhaseFits.keep {before after : Bool} {kinds : List PresenceKind} {connectionId : String}
    {phase : HandlerPhase} (fits : PhaseFits before kinds connectionId phase)
    (stays : before = false -> after = false) : PhaseFits after kinds connectionId phase := by
  cases phase with
  | arriving => exact ⟨stays fits.1, fits.2⟩
  | greeting info receiver => exact fits
  | serving info receiver => trivial
  | finishing => trivial
  | publishing info => exact ⟨fits.1, stays fits.2⟩
  | returned => exact stays fits

/-- Once a connection is announced, its phase says nothing about later
events. -/
theorem PhaseFits.announced {registered : Bool} {kinds : List PresenceKind}
    {connectionId : String} {phase : HandlerPhase}
    (fits : PhaseFits registered kinds connectionId phase) (announced : kinds ≠ [])
    (later : List PresenceKind) : PhaseFits registered later connectionId phase := by
  cases phase with
  | arriving => exact absurd fits.2 announced
  | greeting info receiver => exact absurd fits.2 announced
  | serving info receiver => trivial
  | finishing => trivial
  | publishing info => exact fits
  | returned => exact fits

/-- A change of the gateway that registers nobody else and silently removes
nobody who was announced. -/
theorem HandlerFits.keep {world : SessionWorld} {after : GatewayState} {handler : SessionHandler}
    (fits : HandlerFits world handler)
    (stays : isRegistered world.gateway handler.connectionId = false ->
      isRegistered after handler.connectionId = false)
    (quiet : Removes world.gateway after handler.connectionId ->
      ¬ Announced world.events handler.connectionId) :
    HandlerFits { world with gateway := after } handler where
  account := fits.account.keep stays fun present gone => quiet ⟨present, gone⟩
  phase := fits.phase.keep stays

/-- A step of one handler keeps the invariant if the handler fits afterwards
and nothing changed about the other connections. -/
theorem SessionInvariant.move {world next : SessionWorld} (invariant : SessionInvariant world)
    {index : Nat} {connectionId : String} {phase after : HandlerPhase}
    (found : world.handlers[index]? = some ⟨connectionId, phase⟩)
    (moved : next.handlers = world.handlers.set index ⟨connectionId, after⟩)
    (consistent : IndexConsistent next.gateway) (own : HandlerFits next ⟨connectionId, after⟩)
    (others : forall handler, HandlerFits world handler -> handler.connectionId ≠ connectionId ->
      HandlerFits next handler) : SessionInvariant next where
  consistent := consistent
  distinct := by
    rw [moved, handlers_set_ids found]
    exact invariant.distinct
  handlers := by
    rw [moved]
    exact forall_mem_set invariant.distinct found own others invariant.handlers

/-- Traffic keeps the index consistent. -/
theorem consistent_of_registered_none (toLowercase : String -> String) {state : GatewayState}
    (consistent : IndexConsistent state) (operation : Operation)
    (nobody : operation.registered = none) :
    IndexConsistent (operation.apply toLowercase state) := by
  refine IndexConsistent.kept.apply toLowercase operation ?_ ?_ consistent
  · intro info registers
    rw [nobody] at registers
    cases registers
  · intro connectionId registers
    rw [Operation.registeredId, nobody] at registers
    cases registers

/-! ## The steps -/

theorem Account.nothing_owed {registered : Bool} {owed : Nat}
    (account : Account registered owed []) : owed = 0 := by
  cases account with
  | silent nothing => exact nothing

theorem reports_cons_self (info : ConnectionInfo) (rest : List ConnectionInfo) :
    reports (info :: rest) info.connectionId = reports rest info.connectionId + 1 := by
  simp [reports]

theorem reports_cons_of_ne {info : ConnectionInfo} {connectionId : String}
    (different : connectionId ≠ info.connectionId) (rest : List ConnectionInfo) :
    reports (info :: rest) connectionId = reports rest connectionId := by
  simp [reports, Ne.symm different]

section Moves

variable {toLowercase : String -> String} {world : SessionWorld} {index : Nat}
  {connectionId : String} {after : GatewayState}

theorem SessionInvariant.fits (invariant : SessionInvariant world) {phase : HandlerPhase}
    (found : world.handlers[index]? = some ⟨connectionId, phase⟩) :
    HandlerFits world ⟨connectionId, phase⟩ :=
  invariant.handlers _ (List.mem_of_getElem? found)

/-- A handler that ends drops its receiver, which removes nothing. -/
theorem SessionInvariant.finish (invariant : SessionInvariant world) {phase : HandlerPhase}
    (found : world.handlers[index]? = some ⟨connectionId, phase⟩) (pays : phase.owes = 0)
    (receiver : Nat) :
    SessionInvariant ({ world with gateway := world.gateway.dropReceiver receiver }.moveHandler
      index connectionId .finishing) := by
  have fits := invariant.fits found
  refine invariant.move found rfl ?_ ⟨?_, trivial⟩ fun handler other _ => other.congr rfl rfl rfl
  · exact consistent_of_registered_none id invariant.consistent (.dropReceiver receiver) rfl
  · have account := fits.account
    rw [pays] at account
    exact account

theorem SessionInvariant.register (invariant : SessionInvariant world)
    (found : world.handlers[index]? = some ⟨connectionId, .arriving⟩) (order : HashOrder String)
    (now : Int) (userId clientInstanceId : String) (subjects : List String) (connectedAt : Int)
    {registration : Registration}
    (registers : world.gateway.registerConnection order now connectionId userId clientInstanceId
      subjects connectedAt = (registration, after))
    (quiet : forall other, Removes world.gateway after other -> ¬ Announced world.events other) :
    SessionInvariant ({ world with gateway := after }.moveHandler index connectionId
      (.greeting registration.info registration.receiver)) := by
  have fits := invariant.fits found
  have absent := isRegistered_eq_false.mp fits.phase.1
  have info : registration.info.connectionId = connectionId :=
    (congrArg (fun result => result.1.info.connectionId) registers).symm
  have present : isRegistered after connectionId = true := by
    have lookup : (world.gateway.registerConnection order now connectionId userId clientInstanceId
        subjects connectedAt).2.connections.lookup connectionId ≠ none := by
      rw [GatewayState.registerConnection]
      exact Option.isSome_iff_ne_none.mp (AList.lookup_isSome.mpr (AList.mem_insert _ |>.mpr
        (Or.inl rfl)))
    rw [registers] at lookup
    exact Option.isSome_iff_ne_none.mpr lookup
  have stays : forall other, other ≠ connectionId -> isRegistered world.gateway other = false ->
      isRegistered after other = false := by
    intro other different missing
    have still := isRegistered_registerConnection_of_ne fits.phase.1 order now userId
      clientInstanceId subjects connectedAt different missing
    rw [registers] at still
    exact still
  refine invariant.move found rfl ?_ ⟨?_, info, fits.phase.2⟩ ?_
  · have kept := IndexConsistent.kept.registerConnection order now connectionId userId
      clientInstanceId subjects connectedAt
      (fun evicted stillAbsent held => held.insertConnection stillAbsent) absent
      invariant.consistent
    rw [registers] at kept
    exact kept
  · have account := fits.account
    change Account _ _ (kindsOf world.events connectionId) at account ⊢
    rw [fits.phase.2] at account ⊢
    exact .silent account.nothing_owed
  · intro handler other different
    have kept := other.keep (stays _ different) (quiet _)
    exact ⟨kept.account, kept.phase⟩

theorem SessionInvariant.publishConnected (invariant : SessionInvariant world)
    {info : ConnectionInfo} {receiver : Nat}
    (found : world.handlers[index]? = some ⟨connectionId, .greeting info receiver⟩)
    (present : isRegistered world.gateway connectionId = true) :
    SessionInvariant ((world.publish .connected info).moveHandler index connectionId
      (.serving info receiver)) := by
  have fits := invariant.fits found
  have same : info.connectionId = connectionId := fits.phase.1
  have unannounced : kindsOf world.events connectionId = [] := fits.phase.2
  have kinds : kindsOf (world.publish .connected info).events connectionId = [.connected] := by
    have published := kindsOf_publish_self world .connected info
    rwa [same, unannounced] at published
  have account : Account (isRegistered world.gateway connectionId)
      (reports world.pruned connectionId) (kindsOf world.events connectionId) := fits.account
  rw [unannounced] at account
  refine invariant.move found rfl invariant.consistent ⟨?_, trivial⟩ ?_
  · change Account _ _ (kindsOf (world.publish .connected info).events connectionId)
    rw [kinds]
    exact .announced present account.nothing_owed
  · intro handler other different
    refine other.congr rfl rfl ?_
    exact kindsOf_publish_of_ne world .connected (same ▸ different)

/-- The handler gets its own connection back and owes the event for it. -/
theorem SessionInvariant.unregister (invariant : SessionInvariant world)
    (found : world.handlers[index]? = some ⟨connectionId, .finishing⟩) {info : ConnectionInfo}
    (removes : world.gateway.unregisterConnection connectionId = (some info, after))
    (announced : Removes world.gateway after connectionId ->
      Announced world.events connectionId) :
    SessionInvariant ({ world with gateway := after }.moveHandler index connectionId
      (.publishing info)) := by
  have fits := invariant.fits found
  have lookup : forall other, after.connections.lookup other =
      if other = connectionId then none else world.gateway.connections.lookup other := by
    intro other
    rw [← GatewayState.lookup_unregisterConnection, removes]
  have same : info.connectionId = connectionId := by
    have result := GatewayState.unregisterConnection_fst world.gateway connectionId
    rw [removes] at result
    rcases Option.map_eq_some_iff.mp result.symm with ⟨handle, stored, rfl⟩
    exact invariant.consistent.ids connectionId handle stored
  have gone : isRegistered after connectionId = false := by
    rw [isRegistered_eq_false, lookup, if_pos rfl]
  have counted := reports_unregisterConnection invariant.consistent connectionId connectionId
  rw [removes] at counted
  have once : reports [info] connectionId = 1 := by
    rw [← same, reports_cons_self]
    rfl
  refine invariant.move found rfl ?_ ⟨?_, same, gone⟩ ?_
  · have kept := invariant.consistent.unregisterConnection connectionId
    rw [removes] at kept
    exact kept
  · have account := fits.account.remove counted fun present absent => announced ⟨present, absent⟩
    change Account _ (reports world.pruned connectionId + 1) _
    rw [Nat.add_comm, ← once]
    exact account
  · intro handler other different
    refine other.congr ?_ rfl rfl
    change isRegistered after _ = _
    rw [isRegistered, lookup, if_neg different, isRegistered]

theorem SessionInvariant.unregisterAbsent (invariant : SessionInvariant world)
    (found : world.handlers[index]? = some ⟨connectionId, .finishing⟩)
    (removes : world.gateway.unregisterConnection connectionId = (none, after)) :
    SessionInvariant ({ world with gateway := after }.moveHandler index connectionId
      .returned) := by
  have absent : world.gateway.connections.lookup connectionId = none := by
    have result := GatewayState.unregisterConnection_fst world.gateway connectionId
    rw [removes] at result
    exact Option.map_eq_none_iff.mp result.symm
  have unchanged : after = world.gateway := by
    rw [GatewayState.unregisterConnection_of_absent absent] at removes
    exact (congrArg Prod.snd removes).symm
  subst unchanged
  exact invariant.move found rfl invariant.consistent
    ⟨(invariant.fits found).account, isRegistered_eq_false.mpr absent⟩
    fun handler other _ => other.congr rfl rfl rfl

theorem SessionInvariant.publishDisconnected (invariant : SessionInvariant world)
    {info : ConnectionInfo}
    (found : world.handlers[index]? = some ⟨connectionId, .publishing info⟩) :
    SessionInvariant ((world.publish .disconnected info).moveHandler index connectionId
      .returned) := by
  have fits := invariant.fits found
  have same : info.connectionId = connectionId := fits.phase.1
  have published := kindsOf_publish_self world .disconnected info
  rw [same] at published
  refine invariant.move found rfl invariant.consistent ⟨?_, fits.phase.2⟩ ?_
  · change Account _ _ (kindsOf (world.publish .disconnected info).events connectionId)
    rw [published]
    exact fits.account.settle
  · intro handler other different
    refine other.congr rfl rfl ?_
    exact kindsOf_publish_of_ne world .disconnected (same ▸ different)

theorem SessionInvariant.authenticationFail (invariant : SessionInvariant world)
    (found : world.handlers[index]? = some ⟨connectionId, .arriving⟩) :
    SessionInvariant (world.moveHandler index connectionId .finishing) :=
  invariant.move found rfl invariant.consistent ⟨(invariant.fits found).account, trivial⟩
    fun _ other _ => other.congr rfl rfl rfl

/-- The prune task owes an event for each connection that it removed. -/
theorem SessionInvariant.prune (invariant : SessionInvariant world) (idle : world.pruned = [])
    (order : HashOrder String) (now staleAfterSeconds : Int) {evicted : List ConnectionInfo}
    (prunes : world.gateway.pruneStaleConnections order now staleAfterSeconds = (evicted, after))
    (announced : forall other, Removes world.gateway after other ->
      Announced world.events other) :
    SessionInvariant { world with gateway := after, pruned := evicted } where
  consistent := by
    have kept := IndexConsistent.kept.delivery.pruneStaleConnections order now
      staleAfterSeconds invariant.consistent
    rw [prunes] at kept
    exact kept
  distinct := invariant.distinct
  handlers := by
    intro handler member
    have fits := invariant.handlers handler member
    have counted := reports_pruneStaleConnections invariant.consistent order now
      staleAfterSeconds handler.connectionId
    rw [prunes] at counted
    have account := fits.account
    rw [idle] at account
    constructor
    · have moved := account.remove counted fun present absent => announced _ ⟨present, absent⟩
      change Account _ (reports evicted handler.connectionId + handler.phase.owes) _
      rw [show reports [] handler.connectionId = 0 from rfl, Nat.zero_add] at moved
      exact moved
    · refine fits.phase.keep ?_
      intro gone
      rw [gone, Bool.toNat_false] at counted
      exact Bool.toNat_eq_zero.mp (Nat.add_eq_zero_iff.mp counted).2

theorem SessionInvariant.prunePublish (invariant : SessionInvariant world)
    {info : ConnectionInfo} {rest : List ConnectionInfo} (removed : world.pruned = info :: rest) :
    SessionInvariant { world.publish .disconnected info with pruned := rest } where
  consistent := invariant.consistent
  distinct := invariant.distinct
  handlers := by
    intro handler member
    have fits := invariant.handlers handler member
    by_cases same : handler.connectionId = info.connectionId
    · have account := fits.account
      rw [removed, same, reports_cons_self, Nat.add_right_comm, ← same] at account
      have owing : kindsOf world.events handler.connectionId ≠ [] := by
        intro unannounced
        rw [unannounced] at account
        exact Nat.succ_ne_zero _ account.nothing_owed
      have published := kindsOf_publish_self world .disconnected info
      rw [← same] at published
      refine ⟨?_, fits.phase.announced owing _⟩
      change Account _ (reports rest handler.connectionId + handler.phase.owes)
        (kindsOf (world.publish .disconnected info).events handler.connectionId)
      rw [published]
      exact account.settle
    · refine fits.congr rfl ?_ (kindsOf_publish_of_ne world .disconnected same)
      rw [removed, reports_cons_of_ne same]

theorem SessionInvariant.traffic (invariant : SessionInvariant world)
    {toLowercase : String -> String} {operation : Operation}
    (traffic : operation.isTraffic = true)
    (quiet : forall other, Removes world.gateway (operation.apply toLowercase world.gateway) other ->
      ¬ Announced world.events other) :
    SessionInvariant { world with gateway := operation.apply toLowercase world.gateway } where
  consistent := consistent_of_registered_none toLowercase invariant.consistent operation
    (registered_of_isTraffic traffic)
  distinct := invariant.distinct
  handlers := fun handler member => (invariant.handlers handler member).keep
    (isRegistered_apply_of_absent toLowercase (registered_of_isTraffic traffic)) (quiet _)

end Moves

theorem SessionInvariant.initial (maxConnectionsPerUser : Option Nat) {connectionIds : List String}
    (distinct : connectionIds.Nodup) :
    SessionInvariant (SessionWorld.initial maxConnectionsPerUser connectionIds) where
  consistent := IndexConsistent.new maxConnectionsPerUser
  distinct := by
    rw [SessionWorld.initial, List.map_map]
    exact (List.map_id connectionIds).symm ▸ distinct
  handlers := by
    intro handler member
    rcases List.mem_map.mp member with ⟨connectionId, _, rfl⟩
    exact ⟨.silent rfl, rfl, rfl⟩

theorem SessionInvariant.step {toLowercase : String -> String} {world next : SessionWorld}
    {event : SessionEvent} (invariant : SessionInvariant world)
    (taken : CarefulSessionStep toLowercase world event next) : SessionInvariant next := by
  rcases taken with ⟨step, kept⟩
  cases step with
  | authenticationFail handler => exact invariant.authenticationFail handler
  | register handler order now userId clientInstanceId connectedAt registers =>
      exact invariant.register handler order now userId clientInstanceId _ connectedAt registers
        kept
  | greetingFail handler => exact invariant.finish handler rfl _
  | publishConnected handler => exact invariant.publishConnected handler (kept _ handler)
  | stop handler => exact invariant.finish handler rfl _
  | unregister handler removes => exact invariant.unregister handler removes (kept _)
  | unregisterAbsent handler removes => exact invariant.unregisterAbsent handler removes
  | publishDisconnected handler => exact invariant.publishDisconnected handler
  | prune idle order now staleAfterSeconds prunes =>
      exact invariant.prune idle order now staleAfterSeconds prunes kept
  | prunePublish removed => exact invariant.prunePublish removed
  | traffic operation traffic => exact invariant.traffic traffic kept

/-- In every run whose steps keep the accounts, the events about a connection
pair up as soon as its handler has returned and the prune task has published
for it. -/
theorem presence_paired_of_careful {toLowercase : String -> String}
    {maxConnectionsPerUser : Option Nat} {connectionIds : List String} {events : List SessionEvent}
    {world : SessionWorld} (distinct : connectionIds.Nodup)
    (run : Execution (CarefulSessionStep toLowercase)
      (SessionWorld.initial maxConnectionsPerUser connectionIds) events world)
    {connectionId : String} (returned : ⟨connectionId, .returned⟩ ∈ world.handlers)
    (published : forall info, info ∈ world.pruned -> info.connectionId ≠ connectionId) :
    PairedUp world.events connectionId := by
  have invariant := run.invariant SessionInvariant
    (SessionInvariant.initial maxConnectionsPerUser distinct)
    (fun _ _ _ before taken => before.step taken)
  have fits := invariant.handlers _ returned
  have nothing : reports world.pruned connectionId = 0 := by
    rw [reports, List.countP_eq_zero]
    intro info member same
    exact published info member (of_decide_eq_true same)
  have account : Account (isRegistered world.gateway connectionId)
      (reports world.pruned connectionId) (kindsOf world.events connectionId) := fits.account
  have gone : isRegistered world.gateway connectionId = false := fits.phase
  rw [gone, nothing] at account
  exact account.pairedUp

/-- Unregistering a connection removes no other. -/
theorem Removes.eq_of_unregisterConnection {state : GatewayState} {removed connectionId : String}
    (removes : Removes state (state.unregisterConnection removed).2 connectionId) :
    connectionId = removed := by
  by_contra different
  have still : isRegistered (state.unregisterConnection removed).2 connectionId = true := by
    rw [isRegistered, GatewayState.lookup_unregisterConnection, if_neg different]
    exact removes.1
  rw [removes.2] at still
  cases still

/-- Alice's connection, from one client instance. -/
def aliceConnection (connectionId : String) : ConnectionInfo where
  connectionId := connectionId
  userId := "alice"
  clientInstanceId := "phone"
  subjects := ["user:alice"]
  connectedAt := 0
  lastSeenAt := 0

def registerAlice (state : GatewayState) (connectionId : String) :
    Registration × GatewayState :=
  state.registerConnection .sorted 0 connectionId "alice" "phone"
    (connectionSubjects asciiLowercase "alice") 0

/-- A session that is served and ends by itself. -/
theorem presence_paired_of_served_session :
    let gateway := (registerAlice (GatewayState.new none) "c1").2
    let world : SessionWorld :=
      { gateway := ((gateway.dropReceiver 0).unregisterConnection "c1").2
        events :=
          [presenceEvent .connected (aliceConnection "c1"),
            presenceEvent .disconnected (aliceConnection "c1")]
        handlers := [⟨"c1", .returned⟩]
        pruned := [] }
    Execution (CarefulSessionStep asciiLowercase) (SessionWorld.initial none ["c1"])
      [.registered 0, .connectedPublished 0, .ended 0, .unregistered 0, .disconnectedPublished 0]
      world /\ PairedUp world.events "c1" := by
  intro gateway world
  have registration : registerAlice (SessionWorld.initial none ["c1"]).gateway "c1" =
      (⟨aliceConnection "c1", 0, []⟩, gateway) := Prod.ext (by decide +kernel) rfl
  have removal : (gateway.dropReceiver 0).unregisterConnection "c1" =
      (some (aliceConnection "c1"), world.gateway) := Prod.ext (by decide +kernel) rfl
  have registered : CarefulSessionStep asciiLowercase (SessionWorld.initial none ["c1"])
      (.registered 0) ⟨gateway, [], [⟨"c1", .greeting (aliceConnection "c1") 0⟩], []⟩ :=
    ⟨.register rfl .sorted 0 "alice" "phone" 0 registration,
      fun _ _ announced => List.not_mem_nil announced⟩
  have connected : CarefulSessionStep asciiLowercase
      ⟨gateway, [], [⟨"c1", .greeting (aliceConnection "c1") 0⟩], []⟩ (.connectedPublished 0)
      ⟨gateway, [presenceEvent .connected (aliceConnection "c1")],
        [⟨"c1", .serving (aliceConnection "c1") 0⟩], []⟩ := by
    refine ⟨.publishConnected rfl, ?_⟩
    intro handler found
    cases found
    decide +kernel
  have ended : CarefulSessionStep asciiLowercase
      ⟨gateway, [presenceEvent .connected (aliceConnection "c1")],
        [⟨"c1", .serving (aliceConnection "c1") 0⟩], []⟩ (.ended 0)
      ⟨gateway.dropReceiver 0, [presenceEvent .connected (aliceConnection "c1")],
        [⟨"c1", .finishing⟩], []⟩ := ⟨.stop rfl, trivial⟩
  have unregistered : CarefulSessionStep asciiLowercase
      ⟨gateway.dropReceiver 0, [presenceEvent .connected (aliceConnection "c1")],
        [⟨"c1", .finishing⟩], []⟩ (.unregistered 0)
      ⟨world.gateway, [presenceEvent .connected (aliceConnection "c1")],
        [⟨"c1", .publishing (aliceConnection "c1")⟩], []⟩ := by
    refine ⟨.unregister rfl removal, ?_⟩
    intro connectionId removes
    rw [Removes.eq_of_unregisterConnection removes]
    have announced : PresenceKind.connected ∈
        kindsOf [presenceEvent .connected (aliceConnection "c1")] "c1" := by decide
    exact announced
  have disconnected : CarefulSessionStep asciiLowercase
      ⟨world.gateway, [presenceEvent .connected (aliceConnection "c1")],
        [⟨"c1", .publishing (aliceConnection "c1")⟩], []⟩ (.disconnectedPublished 0) world :=
    ⟨.publishDisconnected rfl, trivial⟩
  have execution := ((((Execution.single registered).snoc connected).snoc ended).snoc
    unregistered).snoc disconnected
  exact ⟨execution, presence_paired_of_careful (List.nodup_singleton _) execution
    List.mem_cons_self (fun _ member => absurd member List.not_mem_nil)⟩

/-- Alice is served and a second session of hers arrives. -/
def reconnectingWorld : SessionWorld where
  gateway := (registerAlice (GatewayState.new none) "c1").2
  events := [presenceEvent .connected (aliceConnection "c1")]
  handlers := [⟨"c1", .serving (aliceConnection "c1") 0⟩, ⟨"c2", .arriving⟩]
  pruned := []

/-- Alice reconnects from the same client instance.  Her first connection is
evicted, and its handler finds nothing left to unregister. -/
theorem presence_unpaired_when_reconnecting :
    let gateway := (registerAlice (registerAlice (GatewayState.new none) "c1").2 "c2").2
    let world : SessionWorld :=
      { gateway := gateway.dropReceiver 0
        events := [presenceEvent .connected (aliceConnection "c1")]
        handlers := [⟨"c1", .returned⟩, ⟨"c2", .greeting (aliceConnection "c2") 1⟩]
        pruned := [] }
    Execution (SessionStep asciiLowercase) (SessionWorld.initial none ["c1", "c2"])
      [.registered 0, .connectedPublished 0, .registered 1, .ended 0, .unregistered 0] world /\
    ¬ PairedUp world.events "c1" := by
  intro gateway world
  have first : registerAlice (SessionWorld.initial none ["c1", "c2"]).gateway "c1" =
      (⟨aliceConnection "c1", 0, []⟩, (registerAlice (GatewayState.new none) "c1").2) :=
    Prod.ext (by decide +kernel) rfl
  have second : registerAlice reconnectingWorld.gateway "c2" =
      (⟨aliceConnection "c2", 1, [aliceConnection "c1"]⟩, gateway) :=
    Prod.ext (by decide +kernel) rfl
  have absent : (gateway.dropReceiver 0).unregisterConnection "c1" =
      (none, gateway.dropReceiver 0) :=
    GatewayState.unregisterConnection_of_absent (by decide +kernel)
  have registered : SessionStep asciiLowercase (SessionWorld.initial none ["c1", "c2"])
      (.registered 0) ⟨(registerAlice (GatewayState.new none) "c1").2, [],
        [⟨"c1", .greeting (aliceConnection "c1") 0⟩, ⟨"c2", .arriving⟩], []⟩ :=
    .register rfl .sorted 0 "alice" "phone" 0 first
  have connected : SessionStep asciiLowercase
      ⟨(registerAlice (GatewayState.new none) "c1").2, [],
        [⟨"c1", .greeting (aliceConnection "c1") 0⟩, ⟨"c2", .arriving⟩], []⟩
      (.connectedPublished 0) reconnectingWorld := .publishConnected rfl
  have arriving : reconnectingWorld.handlers[1]? = some ⟨"c2", .arriving⟩ := rfl
  have replaced : SessionStep asciiLowercase reconnectingWorld (.registered 1)
      ⟨gateway, [presenceEvent .connected (aliceConnection "c1")],
        [⟨"c1", .serving (aliceConnection "c1") 0⟩,
          ⟨"c2", .greeting (aliceConnection "c2") 1⟩], []⟩ :=
    .register arriving .sorted 0 "alice" "phone" 0 second
  have ended : SessionStep asciiLowercase
      ⟨gateway, [presenceEvent .connected (aliceConnection "c1")],
        [⟨"c1", .serving (aliceConnection "c1") 0⟩,
          ⟨"c2", .greeting (aliceConnection "c2") 1⟩], []⟩ (.ended 0)
      ⟨gateway.dropReceiver 0, [presenceEvent .connected (aliceConnection "c1")],
        [⟨"c1", .finishing⟩, ⟨"c2", .greeting (aliceConnection "c2") 1⟩], []⟩ :=
    .stop rfl
  have unregistered : SessionStep asciiLowercase
      ⟨gateway.dropReceiver 0, [presenceEvent .connected (aliceConnection "c1")],
        [⟨"c1", .finishing⟩, ⟨"c2", .greeting (aliceConnection "c2") 1⟩], []⟩ (.unregistered 0)
      world := .unregisterAbsent rfl absent
  refine ⟨((((Execution.single registered).snoc connected).snoc replaced).snoc ended).snoc
    unregistered, ?_⟩
  intro paired
  exact absurd paired.equal (by decide)

end Session
end Gateway
