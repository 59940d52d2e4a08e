import Gateway.State.SnapshotMerge

namespace Gateway
namespace State

open Foundation

/-!
# The policy that the snapshots describe

To the backend a policy is a table: for every subject the version in force, and
under every operation key the context that was granted last.  The store keeps a
sorted list for each subject instead, merges snapshots into it in a loop and
throws expired contexts away as it goes.  No call can tell the two apart.
-/

/-- The policy version of every subject, and its context under every key. -/
structure Policy where
  version : String -> Option Nat
  granted : String -> String -> Option RelayOperationContext

namespace Policy

def empty : Policy where
  version := fun _ => none
  granted := fun _ _ => none

section Snapshots

variable (toLowercase : String -> String)

/-- The subject has a later version. -/
def Outdated (policy : Policy) (snapshot : RelayContextSnapshot) : Prop :=
  Exists fun version => version ∈ policy.version (normalize toLowercase snapshot.subjectEmail) /\
    snapshot.policyVersion < version

instance (policy : Policy) (snapshot : RelayContextSnapshot) :
    Decidable (policy.Outdated toLowercase snapshot) :=
  inferInstanceAs (Decidable (Exists fun _ => _ ∈ policy.version _ /\ _))

/-- A snapshot of a subject that is not outdated sets its version, and grants
the last acceptable context under each key. -/
def extend (now : Int) (policy : Policy) (snapshot : RelayContextSnapshot) : Policy :=
  let subject := normalize toLowercase snapshot.subjectEmail
  if subject = "" ∨ policy.Outdated toLowercase snapshot then policy
  else
    { version := Function.update policy.version subject (some snapshot.policyVersion)
      granted := Function.update policy.granted subject fun key =>
        (snapshot.lastAccepted toLowercase now subject key).or (policy.granted subject key) }

/-- Only snapshots write the policy. -/
def perform (policy : Policy) : Operation -> Policy
  | .applyRelayContextSnapshot now snapshot => policy.extend toLowercase now snapshot
  | _ => policy

/-- The policy after a list of operations. -/
def after (operations : List Operation) : Policy :=
  operations.foldl (perform toLowercase) empty

/-- The policy lets the call through with this context. -/
structure Permits (policy : Policy) (call : AuthorizeCall) (context : RelayOperationContext) :
    Prop where
  acceptable : GatewayState.RelayRequestAcceptable toLowercase call.senderEmail call.operationKey
    call.targetEmails call.payloadSizeHint
  granted : policy.granted (call.sender toLowercase) (trim call.operationKey) = some context
  type : context.contextType = call.authSpec.relayContextType
  family : normalize toLowercase call.authSpec.commandFamily ∈ context.allowedCommandFamilies
  grant : trim context.grant.grantId ≠ ""
  versions : context.policyVersion = context.grant.policyVersion /\ context.policyVersion ≠ 0
  inTime : call.now ≤ context.expiresAt /\ call.now ≤ context.grant.expiresAt
  mode : context.audienceScope.mode = call.authSpec.audienceScopeMode
  scope : forall target, target ∈ call.targetEmails ->
    normalize toLowercase target ∈ context.audienceScope.peers
  active : context.state = .active

end Snapshots

/-! ## The store describes the policy -/

/-- The store holds what the policy grants, apart from contexts that expired
before the given time. -/
structure Describes (policy : Policy) (time : Int) (store : RelayContextTable) : Prop where
  versions : forall subject,
    (store.lookup subject).map RelaySubjectContexts.policyVersion = policy.version subject
  stored : forall subject key context, storedUnder store subject key = some context ->
    policy.granted subject key = some context
  current : forall subject key context, policy.granted subject key = some context ->
    time ≤ context.expiresAt -> storedUnder store subject key = some context
  owner : forall subject key context, policy.granted subject key = some context ->
    context.authorizedSubject = subject

theorem empty_describes (time : Int) (maxConnectionsPerUser : Option Nat) :
    empty.Describes time (GatewayState.new maxConnectionsPerUser).relayContextsBySubject where
  versions := fun _ => rfl
  stored := by
    intro subject key context found
    simp [storedUnder, GatewayState.new] at found
  current := by
    intro subject key context granted
    cases granted
  owner := by
    intro subject key context granted
    cases granted

variable {toLowercase : String -> String}

theorem incomingContext_authorizedSubject {now : Int} {subject : String}
    {contextType : RelayContextType} {given accepted : RelayOperationContext}
    (accepts : GatewayState.incomingContext toLowercase now subject contextType given =
      some accepted) : accepted.authorizedSubject = subject := by
  unfold GatewayState.incomingContext at accepts
  split at accepts
  · cases accepts
  · simp only [Option.ite_none_left_eq_some, Option.some.injEq] at accepts
    rcases accepts with ⟨same, _, _, _, _, _, rfl⟩
    exact not_not.mp same

theorem lastAccepted_authorizedSubject {snapshot : RelayContextSnapshot} {now : Int}
    {subject key : String} {context : RelayOperationContext}
    (accepts : snapshot.lastAccepted toLowercase now subject key = some context) :
    context.authorizedSubject = subject := by
  rcases List.exists_of_findSome?_eq_some accepts with ⟨given, _, accepted⟩
  split at accepted
  · exact incomingContext_authorizedSubject accepted
  · cases accepted

namespace Describes

variable {policy : Policy} {time : Int} {state : GatewayState}

theorem isStale_iff (describes : policy.Describes time state.relayContextsBySubject)
    (snapshot : RelayContextSnapshot) :
    snapshot.IsStale (state.relayContextsBySubject.lookup
        (normalize toLowercase snapshot.subjectEmail)) <->
      policy.Outdated toLowercase snapshot := by
  rw [RelayContextSnapshot.IsStale, Outdated, ← describes.versions]
  constructor
  · rintro ⟨entry, found, older⟩
    exact ⟨entry.policyVersion, by rw [found]; rfl, older⟩
  · rintro ⟨version, found, older⟩
    rcases Option.map_eq_some_iff.mp found with ⟨entry, stored, rfl⟩
    exact ⟨entry, stored, older⟩

/-- What a snapshot stores under a key of its subject. -/
theorem storedUnder_extend (describes : policy.Describes time state.relayContextsBySubject)
    (tidy : StoreTidy state.relayContextsBySubject) {now : Int} {snapshot : RelayContextSnapshot}
    (visible : normalize toLowercase snapshot.subjectEmail ≠ "")
    (accepted : Not (policy.Outdated toLowercase snapshot)) (subject key : String) :
    storedUnder (state.applyRelayContextSnapshot toLowercase now snapshot).relayContextsBySubject
        subject key =
      if subject = normalize toLowercase snapshot.subjectEmail then
        (snapshot.lastAccepted toLowercase now subject key).or
          ((storedUnder state.relayContextsBySubject subject key).filter fun context =>
            decide (now ≤ context.expiresAt))
      else storedUnder state.relayContextsBySubject subject key := by
  split
  · next same =>
    subst same
    exact GatewayState.storedUnder_applyRelayContextSnapshot toLowercase now tidy visible
      (fun stale => accepted ((describes.isStale_iff snapshot).mp stale)) key
  · next different =>
    rw [storedUnder, storedUnder,
      GatewayState.lookup_applyRelayContextSnapshot_of_ne toLowercase now state snapshot different]

/-- A snapshot keeps the description, if its clock does not run ahead. -/
theorem extend (describes : policy.Describes time state.relayContextsBySubject)
    (tidy : StoreTidy state.relayContextsBySubject) {now : Int} (inOrder : now ≤ time)
    (snapshot : RelayContextSnapshot) :
    (policy.extend toLowercase now snapshot).Describes time
      (state.applyRelayContextSnapshot toLowercase now snapshot).relayContextsBySubject := by
  by_cases ignored : normalize toLowercase snapshot.subjectEmail = "" \/
      policy.Outdated toLowercase snapshot
  · rw [Policy.extend, if_pos ignored,
      GatewayState.applyRelayContextSnapshot_of_ignored toLowercase now
        (ignored.imp_right (describes.isStale_iff snapshot).mpr)]
    exact describes
  · have stored : forall subject key, _ :=
      @storedUnder_extend _ _ _ _ describes tidy now _ (not_or.mp ignored).1 (not_or.mp ignored).2
    have granted : forall subject key,
        (policy.extend toLowercase now snapshot).granted subject key =
          if subject = normalize toLowercase snapshot.subjectEmail then
            (snapshot.lastAccepted toLowercase now subject key).or (policy.granted subject key)
          else policy.granted subject key := by
      intro subject key
      rw [Policy.extend, if_neg ignored]
      dsimp only
      rw [Function.update_apply]
      split
      · next same => rw [same]
      · rfl
    refine ⟨?_, ?_, ?_, ?_⟩
    · intro subject
      rw [Policy.extend, if_neg ignored, GatewayState.applyRelayContextSnapshot_of_current
        toLowercase now (not_or.mp ignored).1
        (fun stale => (not_or.mp ignored).2 ((describes.isStale_iff snapshot).mp stale))]
      dsimp only
      rw [Function.update_apply]
      split
      · next same =>
        rw [same, AList.lookup_insert]
        rfl
      · next different =>
        rw [AList.lookup_insert_ne different]
        exact describes.versions subject
    · intro subject key context found
      rw [stored] at found
      rw [granted]
      split at found
      · next same =>
        rw [if_pos same]
        rcases Option.or_eq_some_iff.mp found with accepts | ⟨refuses, kept⟩
        · rw [accepts, Option.some_or]
        · rw [refuses, Option.none_or]
          exact describes.stored subject key context (Option.filter_eq_some_iff.mp kept).1
      · next different =>
        rw [if_neg different]
        exact describes.stored subject key context found
    · intro subject key context allowed unexpired
      rw [granted] at allowed
      rw [stored]
      split at allowed
      · next same =>
        rw [if_pos same]
        rcases Option.or_eq_some_iff.mp allowed with accepts | ⟨refuses, older⟩
        · rw [accepts, Option.some_or]
        · rw [refuses, Option.none_or, describes.current subject key context older unexpired]
          exact Option.filter_eq_some_iff.mpr ⟨rfl, decide_eq_true (inOrder.trans unexpired)⟩
      · next different =>
        rw [if_neg different]
        exact describes.current subject key context allowed unexpired
    · intro subject key context allowed
      rw [granted] at allowed
      split at allowed
      · next same =>
        rcases Option.or_eq_some_iff.mp allowed with accepts | ⟨_, older⟩
        · exact lastAccepted_authorizedSubject accepts
        · exact describes.owner subject key context older
      · exact describes.owner subject key context allowed

end Describes

/-- In every run the store describes the policy, at every time that no snapshot
of the run was ahead of. -/
theorem describes_run (toLowercase : String -> String) (maxConnectionsPerUser : Option Nat)
    (operations : List Operation) (time : Int)
    (inOrder : forall now snapshot, .applyRelayContextSnapshot now snapshot ∈ operations ->
      now ≤ time) :
    (after toLowercase operations).Describes time
      (GatewayState.run toLowercase maxConnectionsPerUser operations).relayContextsBySubject := by
  induction operations using List.reverseRecOn with
  | nil => exact empty_describes time maxConnectionsPerUser
  | append_singleton operations operation ih =>
      have before := ih fun now snapshot member =>
        inOrder now snapshot (List.mem_append_left _ member)
      have applied : after toLowercase (operations ++ [operation]) =
          (after toLowercase operations).perform toLowercase operation := by
        rw [after, List.foldl_append]
        rfl
      rw [GatewayState.run_concat, applied]
      cases relay : operation.isRelay with
      | false =>
          rw [(Operation.sameRelayTables_apply toLowercase _ relay).contexts]
          cases operation <;> first | exact before | cases relay
      | true =>
          cases operation with
          | applyRelayContextSnapshot now snapshot =>
              exact before.extend (storeTidy_run toLowercase maxConnectionsPerUser operations)
                (inOrder now snapshot (List.mem_append_right _ List.mem_cons_self)) snapshot
          | authorizeRelayHotpath senderEmail commandName authSpec operationKey targetEmails
              replayNonce payloadSizeHint now =>
              have kept := AuthorizeCall.perform_contexts toLowercase ⟨senderEmail, commandName,
                authSpec, operationKey, targetEmails, replayNonce, payloadSizeHint, now⟩
                (GatewayState.run toLowercase maxConnectionsPerUser operations)
              dsimp only [Operation.apply]
              rw [AuthorizeCall.perform] at kept
              rw [kept]
              exact before
          | _ => cases relay

/-- A call reads the store as it reads the policy. -/
theorem Describes.permits_iff {policy : Policy} {store : RelayContextTable} {call : AuthorizeCall}
    (describes : policy.Describes call.now store) (tidy : StoreTidy store)
    (context : RelayOperationContext) :
    policy.Permits toLowercase call context <->
      GatewayState.RelayRequestAcceptable toLowercase call.senderEmail call.operationKey
        call.targetEmails call.payloadSizeHint /\
      Exists fun entry => store.lookup (call.sender toLowercase) = some entry /\
        context ∈ entry.contexts /\
        GatewayState.judgeContext toLowercase (call.sender toLowercase) call.authSpec
          (trim call.operationKey) call.targetEmails call.now context = .select := by
  have listed : forall entry key, EntryTidy entry ->
      (entry.underKey key = some context <-> context ∈ entry.contexts /\
        context.operationKey = key) :=
    fun entry key entryTidy => KeyedList.valueAt_eq_some_iff entryTidy.keys
  constructor
  · intro permits
    refine ⟨permits.acceptable, ?_⟩
    have stored := describes.current _ _ context permits.granted permits.inTime.1
    rcases Option.bind_eq_some_iff.mp stored with ⟨entry, found, under⟩
    rcases (listed entry _ (tidy _ entry found)).mp under with ⟨member, key⟩
    exact ⟨entry, found, member, (GatewayState.judgeContext_select_iff _ _ _ _ _ _ _).mpr
      ⟨permits.type, key, permits.family, describes.owner _ _ context permits.granted,
        permits.grant, permits.versions, permits.inTime, permits.mode, permits.scope,
        permits.active⟩⟩
  · rintro ⟨acceptable, entry, found, member, selected⟩
    rcases (GatewayState.judgeContext_select_iff _ _ _ _ _ _ _).mp selected with
      ⟨type, key, family, _, grant, versions, inTime, mode, scope, active⟩
    have stored : storedUnder store (call.sender toLowercase) (trim call.operationKey) =
        some context :=
      Option.bind_eq_some_iff.mpr ⟨entry, found,
        (listed entry _ (tidy _ entry found)).mpr ⟨member, key⟩⟩
    exact ⟨acceptable, describes.stored _ _ context stored, type, family, grant, versions, inTime,
      mode, scope, active⟩

end Policy

/-- In every run a call is admitted if and only if the policy described by the
snapshots so far permits it, its nonce is fresh and its rate is below the limit.
What is listed to a subject are the contexts that the policy grants it, apart
from expired ones. -/
theorem relay_calls_follow_the_policy (toLowercase : String -> String)
    (maxConnectionsPerUser : Option Nat) (operations : List Operation) (call : AuthorizeCall)
    (inOrder : forall now snapshot, .applyRelayContextSnapshot now snapshot ∈ operations ->
      now ≤ call.now) :
    let state := GatewayState.run toLowercase maxConnectionsPerUser operations
    let policy := Policy.after toLowercase operations
    (forall decision, (call.perform toLowercase state).1 = .ok decision <->
      Exists fun context => policy.Permits toLowercase call context /\
        call.NonceFresh toLowercase context.contextId state.relayReplayCache /\
        call.RateBelowLimit toLowercase context.contextId state.relayRateCounters /\
        decision = { contextId := context.contextId, policyVersion := context.policyVersion }) /\
    (forall email subject context, sanitizeEmail toLowercase email = some subject ->
      call.now ≤ context.expiresAt ->
        ((Exists fun entry => state.listRelayContextsForSubject toLowercase email = some entry /\
            context ∈ entry.contexts) <->
          policy.granted subject context.operationKey = some context)) := by
  intro state policy
  have describes : policy.Describes call.now state.relayContextsBySubject :=
    Policy.describes_run toLowercase maxConnectionsPerUser operations call.now inOrder
  have tidy : StoreTidy state.relayContextsBySubject :=
    storeTidy_run toLowercase maxConnectionsPerUser operations
  refine ⟨?_, ?_⟩
  · intro decision
    rw [AuthorizeCall.perform, authorizeRelayHotpath_ok_iff_of_tidy toLowercase tidy]
    constructor
    · rintro ⟨acceptable, entry, context, found, member, selected, fresh, below, same⟩
      exact ⟨context, (describes.permits_iff tidy context).mpr
        ⟨acceptable, entry, found, member, selected⟩, fresh, below, same⟩
    · rintro ⟨context, permits, fresh, below, same⟩
      rcases (describes.permits_iff tidy context).mp permits with
        ⟨acceptable, entry, found, member, selected⟩
      exact ⟨acceptable, entry, context, found, member, selected, fresh, below, same⟩
  · intro email subject context sanitized unexpired
    rw [GatewayState.listRelayContextsForSubject, sanitized, Option.bind_some]
    constructor
    · rintro ⟨entry, found, member⟩
      apply describes.stored
      exact Option.bind_eq_some_iff.mpr ⟨entry, found,
        (KeyedList.valueAt_eq_some_iff (tidy subject entry found).keys).mpr ⟨member, rfl⟩⟩
    · intro granted
      have stored := describes.current subject _ context granted unexpired
      rcases Option.bind_eq_some_iff.mp stored with ⟨entry, found, under⟩
      exact ⟨entry, found,
        ((KeyedList.valueAt_eq_some_iff (tidy subject entry found).keys).mp under).1⟩

/-- Alice holds a grant from an earlier snapshot and offers a file. -/
theorem relay_calls_follow_the_policy_of_offer :
    let operations : List Operation := [.applyRelayContextSnapshot 10 transferSnapshot]
    let call := transferCall "offer" "n1" 11
    let state := GatewayState.run asciiLowercase none operations
    let policy := Policy.after asciiLowercase operations
    (forall now snapshot, .applyRelayContextSnapshot now snapshot ∈ operations ->
        now ≤ call.now) /\
      (forall decision, (call.perform asciiLowercase state).1 = .ok decision <->
        Exists fun context => policy.Permits asciiLowercase call context /\
          call.NonceFresh asciiLowercase context.contextId state.relayReplayCache /\
          call.RateBelowLimit asciiLowercase context.contextId state.relayRateCounters /\
          decision =
            { contextId := context.contextId, policyVersion := context.policyVersion }) := by
  intro operations call state policy
  have inOrder : forall now snapshot, .applyRelayContextSnapshot now snapshot ∈ operations ->
      now ≤ call.now := by
    intro now snapshot member
    cases List.mem_singleton.mp member
    decide
  exact ⟨inOrder, (relay_calls_follow_the_policy asciiLowercase none operations call inOrder).1⟩

end State
end Gateway
