import Gateway.State.RelayAdmission

namespace Gateway
namespace State

open Foundation

/-!
# Relay authorization is sound and complete

The loop over the contexts of a sender skips some contexts and stops at others
with an error, so that a context could in principle be shadowed by an earlier
one.  It cannot in a store that was built by snapshots: the operation keys of
an entry are pairwise distinct, and only the context with the requested key is
not skipped.
-/

/-- Operation keys are distinct and all contexts have the type of the entry. -/
structure EntryTidy (entry : RelaySubjectContexts) : Prop where
  keys : (entry.contexts.map RelayOperationContext.operationKey).Nodup
  types : forall context, context ∈ entry.contexts -> context.contextType = entry.contextType

def StoreTidy (store : RelayContextTable) : Prop :=
  forall subject entry, store.lookup subject = some entry -> EntryTidy entry

/-- The relay-context table after a list of snapshots.  Each snapshot comes with
the clock reading of its call. -/
def relayStoreAfter (toLowercase : String -> String)
    (snapshots : List (Int × RelayContextSnapshot)) : RelayContextTable :=
  (snapshots.foldl (fun state snapshot =>
    state.applyRelayContextSnapshot toLowercase snapshot.1 snapshot.2)
    (GatewayState.new none)).relayContextsBySubject

namespace GatewayState

variable (toLowercase : String -> String)

theorem incomingContext_contextType {now : Int} {subjectEmail : String}
    {contextType : RelayContextType} {context incoming : RelayOperationContext}
    (accepted : incomingContext toLowercase now subjectEmail contextType context = some incoming) :
    incoming.contextType = contextType := by
  unfold incomingContext at accepted
  split at accepted
  · cases accepted
  · simp only [Option.ite_none_left_eq_some, Option.some.injEq] at accepted
    rcases accepted with ⟨_, sameType, _, _, _, _, rfl⟩
    exact not_not.mp sameType

/-- A merged context is the only one with its operation key. -/
theorem mergeContext_keys_nodup {contexts : List RelayOperationContext}
    (distinct : (contexts.map RelayOperationContext.operationKey).Nodup)
    (incoming : RelayOperationContext) :
    ((mergeContext contexts incoming).map RelayOperationContext.operationKey).Nodup := by
  unfold mergeContext
  rw [List.map_append, List.nodup_append]
  refine ⟨distinct.sublist (List.filter_sublist.map _), List.nodup_singleton _, ?_⟩
  intro key kept other new same
  rcases List.mem_map.mp kept with ⟨context, member, rfl⟩
  have different := (List.mem_filter.mp member).2
  rw [List.map_singleton, List.mem_singleton] at new
  rw [new] at same
  exact absurd same (of_decide_eq_true different)

theorem mem_mergeContext {contexts : List RelayOperationContext}
    {incoming context : RelayOperationContext}
    (member : context ∈ mergeContext contexts incoming) :
    context ∈ contexts \/ context = incoming := by
  rcases List.mem_append.mp member with kept | new
  · exact Or.inl (List.mem_filter.mp kept).1
  · exact Or.inr (List.mem_singleton.mp new)

theorem foldl_mergeContext_keys_nodup (incoming : List RelayOperationContext)
    {contexts : List RelayOperationContext}
    (distinct : (contexts.map RelayOperationContext.operationKey).Nodup) :
    ((incoming.foldl mergeContext contexts).map RelayOperationContext.operationKey).Nodup :=
  foldl_invariant (fun merged : List RelayOperationContext =>
    (merged.map RelayOperationContext.operationKey).Nodup) distinct
    (fun _ context before => mergeContext_keys_nodup before context) incoming

theorem mem_foldl_mergeContext {incoming contexts : List RelayOperationContext}
    {context : RelayOperationContext} (member : context ∈ incoming.foldl mergeContext contexts) :
    context ∈ contexts \/ context ∈ incoming := by
  induction incoming generalizing contexts with
  | nil => exact Or.inl member
  | cons head tail ih =>
      rcases ih member with merged | later
      · rcases mem_mergeContext merged with kept | new
        · exact Or.inl kept
        · exact Or.inr (List.mem_cons.mpr (Or.inl new))
      · exact Or.inr (List.mem_cons_of_mem head later)

theorem retainedContexts_keys_nodup (now : Int) (contextType : RelayContextType)
    {existing : Option RelaySubjectContexts}
    (tidy : forall entry, existing = some entry -> EntryTidy entry) :
    ((retainedContexts now contextType existing).map
      RelayOperationContext.operationKey).Nodup := by
  cases existing with
  | none => exact List.nodup_nil
  | some entry =>
      unfold retainedContexts
      dsimp only
      split
      · exact (tidy entry rfl).keys.sublist (List.filter_sublist.map _)
      · exact List.nodup_nil

/-- The contexts of an entry come from the entry before or from the snapshot. -/
theorem mem_nextSubjectContexts {now : Int} {subject : String} {snapshot : RelayContextSnapshot}
    {existing : Option RelaySubjectContexts} {next : RelaySubjectContexts}
    (stored : nextSubjectContexts toLowercase now subject snapshot existing = some next) :
    next.contextType = snapshot.contextType /\
      forall context, context ∈ next.contexts ->
        (Exists fun entry => existing = some entry /\ entry.contextType = snapshot.contextType /\
          context ∈ entry.contexts) \/
        Exists fun given =>
          incomingContext toLowercase now subject snapshot.contextType given = some context := by
  unfold nextSubjectContexts at stored
  dsimp only at stored
  split at stored
  · cases stored
  · cases stored
    refine ⟨rfl, ?_⟩
    intro context member
    rcases mem_foldl_mergeContext ((List.mem_insertionSort contextOrder).mp member) with kept | new
    · cases existing with
      | none => cases kept
      | some entry =>
          unfold retainedContexts at kept
          dsimp only at kept
          split at kept
          · next same => exact Or.inl ⟨entry, rfl, same, (List.mem_filter.mp kept).1⟩
          · cases kept
    · rcases List.mem_filterMap.mp new with ⟨given, _, accepted⟩
      exact Or.inr ⟨given, accepted⟩

/-- The entry that a snapshot stores is tidy if the one it replaces was. -/
theorem nextSubjectContexts_tidy {now : Int} {subjectEmail : String}
    {snapshot : RelayContextSnapshot} {existing : Option RelaySubjectContexts}
    (tidy : forall entry, existing = some entry -> EntryTidy entry)
    {next : RelaySubjectContexts}
    (stored : nextSubjectContexts toLowercase now subjectEmail snapshot existing = some next) :
    EntryTidy next := by
  have origin := mem_nextSubjectContexts toLowercase stored
  refine ⟨?_, ?_⟩
  · unfold nextSubjectContexts at stored
    dsimp only at stored
    split at stored
    · cases stored
    · cases stored
      refine ((List.perm_insertionSort contextOrder _).map _).nodup_iff.mpr ?_
      exact foldl_mergeContext_keys_nodup _ (retainedContexts_keys_nodup now _ tidy)
  · intro context member
    refine Eq.trans ?_ origin.1.symm
    rcases origin.2 context member with ⟨entry, found, same, kept⟩ | ⟨given, accepts⟩
    · exact ((tidy entry found).types context kept).trans same
    · exact incomingContext_contextType toLowercase accepts

theorem applyRelayContextSnapshot_tidy {state : GatewayState}
    (tidy : StoreTidy state.relayContextsBySubject) (now : Int)
    (snapshot : RelayContextSnapshot) :
    StoreTidy (state.applyRelayContextSnapshot toLowercase now snapshot).relayContextsBySubject := by
  unfold applyRelayContextSnapshot
  split
  · exact tidy
  · next subjectEmail _ =>
    split
    · exact tidy
    · next next stored =>
      intro subject entry found
      rw [HashTable.lookup_insert_ite] at found
      split at found
      · rw [← Option.some.inj found]
        exact nextSubjectContexts_tidy toLowercase (tidy subjectEmail) stored
      · exact tidy subject entry found

end GatewayState

theorem relayStoreAfter_tidy (toLowercase : String -> String)
    (snapshots : List (Int × RelayContextSnapshot)) :
    StoreTidy (relayStoreAfter toLowercase snapshots) := by
  refine foldl_invariant
    (fun state : GatewayState => StoreTidy state.relayContextsBySubject) ?_ ?_ snapshots
  · intro subject entry found
    simp [GatewayState.new] at found
  · intro state snapshot tidy
    exact GatewayState.applyRelayContextSnapshot_tidy toLowercase tidy snapshot.1 snapshot.2

section Authorization

variable (toLowercase : String -> String)

/-- In a tidy entry, at most one context is not skipped. -/
theorem EntryTidy.unique_not_skipped {entry : RelaySubjectContexts} (tidy : EntryTidy entry)
    (sender : String) (authSpec : RelayAuthorizationSpec) (operationKey : String)
    (targetEmails : List String) (now : Int) (left : RelayOperationContext)
    (leftMember : left ∈ entry.contexts) (right : RelayOperationContext)
    (rightMember : right ∈ entry.contexts)
    (leftRelevant : GatewayState.judgeContext toLowercase sender authSpec operationKey targetEmails
      now left ≠ .skip)
    (rightRelevant : GatewayState.judgeContext toLowercase sender authSpec operationKey
      targetEmails now right ≠ .skip) : left = right := by
  have leftKey := GatewayState.operationKey_eq_of_not_skip toLowercase leftRelevant
  have rightKey := GatewayState.operationKey_eq_of_not_skip toLowercase rightRelevant
  exact List.inj_on_of_nodup_map tidy.keys leftMember rightMember (leftKey.trans rightKey.symm)

/-- With a tidy store, authorization is the conjunction of its checks. -/
theorem authorizeRelayHotpath_ok_iff_of_tidy {state : GatewayState}
    (tidy : StoreTidy state.relayContextsBySubject) (senderEmail commandName : String)
    (authSpec : RelayAuthorizationSpec) (operationKey : String) (targetEmails : List String)
    (replayNonce : Option String) (payloadSizeHint : Option Nat) (now : Int)
    (decision : RelayAuthDecision) :
    (state.authorizeRelayHotpath toLowercase senderEmail commandName authSpec operationKey
        targetEmails replayNonce payloadSizeHint now).1 = .ok decision <->
      GatewayState.RelayRequestAcceptable toLowercase senderEmail operationKey targetEmails
        payloadSizeHint /\
      Exists fun entry => Exists fun context =>
        state.relayContextsBySubject.lookup (normalize toLowercase senderEmail) = some entry /\
        context ∈ entry.contexts /\
        GatewayState.judgeContext toLowercase (normalize toLowercase senderEmail) authSpec
          (trim operationKey) targetEmails now context = .select /\
        GatewayState.NonceFresh state.relayReplayCache (normalize toLowercase senderEmail)
          commandName context.contextId replayNonce now /\
        GatewayState.RateBelowLimit state.relayRateCounters
          (GatewayState.relayRateKey toLowercase (normalize toLowercase senderEmail) commandName
            context.contextId now) now /\
        decision = { contextId := context.contextId, policyVersion := context.policyVersion } := by
  constructor
  · intro accepted
    rcases GatewayState.authorizeRelayHotpath_cases toLowercase state senderEmail commandName
      authSpec operationKey targetEmails replayNonce payloadSizeHint now with
      ⟨error, refused⟩ | ⟨acceptable, entry, context, found, member, favourable, admitted⟩
    · rw [refused] at accepted
      cases accepted
    · rw [admitted, GatewayState.admitRelay_ok_iff] at accepted
      exact ⟨acceptable, entry, context, found, member, favourable, accepted⟩
  · rintro ⟨acceptable, entry, context, found, member, favourable, bookkeeping⟩
    have entryTidy := tidy _ entry found
    have sameType : entry.contextType = authSpec.relayContextType :=
      (entryTidy.types context member).symm.trans
        ((GatewayState.judgeContext_select_iff _ _ _ _ _ _ _).mp favourable).1
    have selected := (GatewayState.scanContexts_ok_iff (entryTidy.unique_not_skipped toLowercase
      (normalize toLowercase senderEmail) authSpec (trim operationKey) targetEmails now)
      context).mpr ⟨member, favourable⟩
    rw [GatewayState.authorizeRelayHotpath_of_selected toLowercase acceptable commandName authSpec
      replayNonce now found sameType selected, GatewayState.admitRelay_ok_iff]
    exact bookkeeping

/-- A call is admitted if and only if it is well formed and the sender holds a
context that permits it, its nonce is fresh, and its rate is below the limit. -/
theorem relay_authorization_sound_and_complete
    (snapshots : List (Int × RelayContextSnapshot)) (tables : GatewayState)
    (senderEmail commandName : String) (authSpec : RelayAuthorizationSpec)
    (operationKey : String) (targetEmails : List String) (replayNonce : Option String)
    (payloadSizeHint : Option Nat) (now : Int) (decision : RelayAuthDecision) :
    let store := relayStoreAfter toLowercase snapshots
    let sender := normalize toLowercase senderEmail
    (GatewayState.authorizeRelayHotpath toLowercase { tables with relayContextsBySubject := store }
        senderEmail commandName authSpec operationKey targetEmails replayNonce payloadSizeHint
        now).1 = .ok decision <->
      sender ≠ "" /\ trim operationKey ≠ "" /\ targetEmails ≠ [] /\
      (forall size, payloadSizeHint = some size -> size ≤ 2000000) /\
      Exists fun entry => Exists fun context =>
        store.lookup sender = some entry /\
        context ∈ entry.contexts /\
        context.operationKey = trim operationKey /\
        context.contextType = authSpec.relayContextType /\
        normalize toLowercase authSpec.commandFamily ∈ context.allowedCommandFamilies /\
        context.authorizedSubject = sender /\
        trim context.grant.grantId ≠ "" /\
        context.policyVersion = context.grant.policyVersion /\
        context.policyVersion ≠ 0 /\
        now ≤ context.expiresAt /\
        now ≤ context.grant.expiresAt /\
        context.audienceScope.mode = authSpec.audienceScopeMode /\
        (forall target, target ∈ targetEmails ->
          normalize toLowercase target ∈ context.audienceScope.peers) /\
        context.state = .active /\
        (forall nonce, replayNonce = some nonce -> trim nonce ≠ "" -> forall seen,
          tables.relayReplayCache.lookup (GatewayState.relayReplayKey sender commandName
            context.contextId (trim nonce)) = some seen -> 600 < now - seen.seenAt) /\
        (forall counter, tables.relayRateCounters.lookup (GatewayState.relayRateKey toLowercase
          sender commandName context.contextId now) = some counter ->
            counter.windowStart = now -> counter.count < 240) /\
        decision = { contextId := context.contextId, policyVersion := context.policyVersion } := by
  intro store sender
  have tidy : StoreTidy { tables with relayContextsBySubject := store }.relayContextsBySubject :=
    relayStoreAfter_tidy toLowercase snapshots
  rw [authorizeRelayHotpath_ok_iff_of_tidy toLowercase tidy]
  simp only [GatewayState.judgeContext_select_iff]
  constructor
  · rintro ⟨acceptable, entry, context, found, member, ⟨type, key, family, subject, grant,
      ⟨versions, nonzero⟩, ⟨contextTime, grantTime⟩, mode, scope, active⟩, fresh, below, same⟩
    exact ⟨acceptable.sender, acceptable.key, acceptable.targets, acceptable.size, entry, context,
      found, member, key, type, family, subject, grant, versions, nonzero, contextTime, grantTime,
      mode, scope, active, fresh, below, same⟩
  · rintro ⟨visibleSender, visibleKey, someTarget, size, entry, context, found, member, key, type,
      family, subject, grant, versions, nonzero, contextTime, grantTime, mode, scope, active, fresh,
      below, same⟩
    exact ⟨⟨visibleSender, visibleKey, someTarget, size⟩, entry, context, found, member, ⟨type, key,
      family, subject, grant, ⟨versions, nonzero⟩, ⟨contextTime, grantTime⟩, mode, scope, active⟩,
      fresh, below, same⟩

end Authorization

end State
end Gateway
