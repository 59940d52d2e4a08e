import Gateway.Foundation.KeyedList
import Gateway.State.RelayCalls
import Gateway.State.RelayStore

namespace Gateway
namespace State

open Foundation

/-!
# The merge of a snapshot as a table update

A snapshot is merged by a loop over its contexts, an expiry filter on the stored
ones and a sort.  Under every operation key the outcome is one update: the last
acceptable context of the snapshot with this key wins, and otherwise the stored
one stays until it expires.  The order of the stored contexts is determined by
what is stored, and so repeating a snapshot changes nothing at all.
-/

instance : Subsingleton RelayContextType :=
  ⟨fun | .fileTransferPeer, .fileTransferPeer => rfl⟩

/-- The context of an entry with the given operation key. -/
def RelaySubjectContexts.underKey (entry : RelaySubjectContexts) (key : String) :
    Option RelayOperationContext :=
  KeyedList.valueAt RelayOperationContext.operationKey entry.contexts key

/-- The context stored for a subject under an operation key. -/
def storedUnder (store : RelayContextTable) (subject key : String) :
    Option RelayOperationContext :=
  (store.lookup subject).bind fun entry => entry.underKey key

section Snapshots

variable (toLowercase : String -> String)

/-- The normalised form of the last context of the snapshot that is valid for the
subject and has the operation key after trimming. -/
def RelayContextSnapshot.lastAccepted (snapshot : RelayContextSnapshot) (now : Int)
    (subject key : String) : Option RelayOperationContext :=
  snapshot.contexts.reverse.findSome? fun context =>
    if trim context.operationKey = key then
      GatewayState.incomingContext toLowercase now subject snapshot.contextType context
    else none

/-- The subject has an entry of a later policy version. -/
def RelayContextSnapshot.IsStale (snapshot : RelayContextSnapshot)
    (existing : Option RelaySubjectContexts) : Prop :=
  Exists fun entry => existing = some entry /\ snapshot.policyVersion < entry.policyVersion

namespace GatewayState

variable {toLowercase}

theorem incomingContext_operationKey {now : Int} {subject : String}
    {contextType : RelayContextType} {given accepted : RelayOperationContext}
    (accepts : incomingContext toLowercase now subject contextType given = some accepted) :
    accepted.operationKey = trim given.operationKey := by
  unfold incomingContext at accepts
  split at accepts
  · cases accepts
  · simp only [Option.ite_none_left_eq_some, Option.some.injEq] at accepts
    rcases accepts with ⟨_, _, _, _, _, _, rfl⟩
    rfl

theorem lastAt_filterMap_incomingContext (now : Int) (subject key : String)
    (snapshot : RelayContextSnapshot) :
    KeyedList.lastAt RelayOperationContext.operationKey
      (snapshot.contexts.filterMap
        (incomingContext toLowercase now subject snapshot.contextType)) key =
      snapshot.lastAccepted toLowercase now subject key := by
  unfold KeyedList.lastAt RelayContextSnapshot.lastAccepted
  rw [← List.filterMap_reverse]
  induction snapshot.contexts.reverse with
  | nil => rfl
  | cons given others ih =>
      rw [List.findSome?_cons]
      cases accepts : incomingContext toLowercase now subject snapshot.contextType given with
      | none =>
          rw [List.filterMap_cons_none accepts, ih, ite_self]
      | some accepted =>
          rw [List.filterMap_cons_some accepts, KeyedList.valueAt_cons,
            incomingContext_operationKey accepts]
          split
          · rfl
          · exact ih

/-! ## One entry -/

theorem retainedContexts_some (now : Int) (contextType : RelayContextType)
    (entry : RelaySubjectContexts) :
    retainedContexts now contextType (some entry) =
      entry.contexts.filter fun context => decide (now ≤ context.expiresAt) := by
  have sameType : entry.contextType = contextType := Subsingleton.elim _ _
  rw [retainedContexts, if_pos sameType]

theorem nextSubjectContexts_of_stale (now : Int) (subject : String)
    {snapshot : RelayContextSnapshot} {existing : Option RelaySubjectContexts}
    (stale : snapshot.IsStale existing) :
    nextSubjectContexts toLowercase now subject snapshot existing = none := by
  rcases stale with ⟨entry, rfl, older⟩
  unfold nextSubjectContexts
  dsimp only
  rw [if_pos]
  rw [Option.any_some, Bool.and_eq_true, decide_eq_true_eq, decide_eq_true_eq]
  exact ⟨Subsingleton.elim _ _, older⟩

/-- The entry that a snapshot leaves if it is not stale. -/
def mergedEntry (toLowercase : String -> String) (now : Int) (subject : String)
    (snapshot : RelayContextSnapshot) (existing : Option RelaySubjectContexts) :
    RelaySubjectContexts where
  contextType := snapshot.contextType
  policyVersion := snapshot.policyVersion
  updatedAt := snapshot.receivedAt
  contexts :=
    ((snapshot.contexts.filterMap
        (incomingContext toLowercase now subject snapshot.contextType)).foldl mergeContext
      (retainedContexts now snapshot.contextType existing)).insertionSort contextOrder

theorem nextSubjectContexts_of_current (now : Int) (subject : String)
    {snapshot : RelayContextSnapshot} {existing : Option RelaySubjectContexts}
    (current : Not (snapshot.IsStale existing)) :
    nextSubjectContexts toLowercase now subject snapshot existing =
      some (mergedEntry toLowercase now subject snapshot existing) := by
  unfold nextSubjectContexts mergedEntry
  cases existing with
  | none => rfl
  | some entry =>
      have notOlder : entry.policyVersion ≤ snapshot.policyVersion :=
        not_lt.mp fun older => current ⟨entry, rfl, older⟩
      have sameType : entry.contextType = snapshot.contextType := Subsingleton.elim _ _
      dsimp only
      rw [if_neg, if_pos sameType, max_eq_left notOlder]
      rw [Option.any_some, Bool.and_eq_true, decide_eq_true_eq, decide_eq_true_eq]
      exact fun both => absurd both.2 (not_lt.mpr notOlder)

variable (toLowercase)

theorem mergedEntry_tidy (now : Int) (subject : String) {snapshot : RelayContextSnapshot}
    {existing : Option RelaySubjectContexts}
    (tidy : forall entry, existing = some entry -> EntryTidy entry)
    (current : Not (snapshot.IsStale existing)) :
    EntryTidy (mergedEntry toLowercase now subject snapshot existing) :=
  nextSubjectContexts_tidy toLowercase tidy (nextSubjectContexts_of_current now subject current)

/-- Under every key the snapshot wins, and otherwise what was stored stays
unless it has expired. -/
theorem underKey_mergedEntry (now : Int) (subject : String) (snapshot : RelayContextSnapshot)
    {existing : Option RelaySubjectContexts}
    (tidy : forall entry, existing = some entry -> EntryTidy entry) (key : String) :
    (mergedEntry toLowercase now subject snapshot existing).underKey key =
      (snapshot.lastAccepted toLowercase now subject key).or
        ((existing.bind fun entry => entry.underKey key).filter fun context =>
          decide (now ≤ context.expiresAt)) := by
  have distinct := retainedContexts_keys_nodup now snapshot.contextType tidy
  unfold RelaySubjectContexts.underKey mergedEntry
  rw [← KeyedList.valueAt_perm (foldl_mergeContext_keys_nodup _ distinct)
    (List.perm_insertionSort contextOrder _).symm]
  have merge : mergeContext = KeyedList.put RelayOperationContext.operationKey := rfl
  rw [merge, KeyedList.valueAt_foldl_put, lastAt_filterMap_incomingContext]
  cases existing with
  | none => rfl
  | some entry =>
      rw [retainedContexts_some, KeyedList.valueAt_filter (tidy entry rfl).keys]
      rfl

/-- The order of the contexts is determined by what they are. -/
theorem contexts_eq_of_underKey_eq {left right : RelaySubjectContexts}
    (leftKeys : (left.contexts.map RelayOperationContext.operationKey).Nodup)
    (rightKeys : (right.contexts.map RelayOperationContext.operationKey).Nodup)
    (leftSorted : left.contexts.Pairwise UpdatedBefore)
    (rightSorted : right.contexts.Pairwise UpdatedBefore)
    (same : forall key, left.underKey key = right.underKey key) :
    left.contexts = right.contexts := by
  refine (KeyedList.perm_of_valueAt_eq leftKeys rightKeys same).eq_of_pairwise ?_ leftSorted
    rightSorted
  rintro one other _ _ (earlier | ⟨sameTime, below⟩) (later | ⟨_, above⟩)
  · exact absurd (earlier.trans later) (lt_irrefl _)
  · omega
  · omega
  · exact absurd (below.trans above) (lt_irrefl _)

theorem mergedEntry_increasing (now : Int) (subject : String) (snapshot : RelayContextSnapshot)
    {existing : Option RelaySubjectContexts}
    (tidy : forall entry, existing = some entry -> EntryTidy entry) :
    (mergedEntry toLowercase now subject snapshot existing).contexts.Pairwise UpdatedBefore :=
  insertionSort_increasing
    (foldl_mergeContext_keys_nodup _ (retainedContexts_keys_nodup now _ tidy))

/-- The entry that a snapshot has left is not newer than the snapshot. -/
theorem not_isStale_mergedEntry (now : Int) (subject : String) (snapshot : RelayContextSnapshot)
    (existing : Option RelaySubjectContexts) :
    Not (snapshot.IsStale (some (mergedEntry toLowercase now subject snapshot existing))) := by
  rintro ⟨_, ⟨⟩, older⟩
  exact absurd older (lt_irrefl _)

/-- Merging a snapshot into the entry that it has left changes nothing. -/
theorem mergedEntry_mergedEntry (now : Int) (subject : String)
    {snapshot : RelayContextSnapshot} {existing : Option RelaySubjectContexts}
    (tidy : forall entry, existing = some entry -> EntryTidy entry)
    (current : Not (snapshot.IsStale existing)) :
    mergedEntry toLowercase now subject snapshot
        (some (mergedEntry toLowercase now subject snapshot existing)) =
      mergedEntry toLowercase now subject snapshot existing := by
  have once := mergedEntry_tidy toLowercase now subject tidy current
  have onceTidy : forall entry,
      some (mergedEntry toLowercase now subject snapshot existing) = some entry ->
        EntryTidy entry := by
    rintro _ ⟨⟩
    exact once
  have twice := mergedEntry_tidy toLowercase now subject onceTidy
    (not_isStale_mergedEntry toLowercase now subject snapshot existing)
  have sameContexts := contexts_eq_of_underKey_eq twice.keys once.keys
    (mergedEntry_increasing toLowercase now subject snapshot onceTidy)
    (mergedEntry_increasing toLowercase now subject snapshot tidy) (by
      intro key
      rw [underKey_mergedEntry toLowercase now subject snapshot onceTidy, Option.bind_some,
        underKey_mergedEntry toLowercase now subject snapshot tidy]
      cases snapshot.lastAccepted toLowercase now subject key with
      | some accepted => rfl
      | none => rw [Option.none_or, Option.none_or, Option.filter_filter]; simp)
  unfold mergedEntry at sameContexts ⊢
  dsimp only at sameContexts ⊢
  rw [sameContexts]

/-! ## One call -/

/-- A snapshot without a subject, or of an older policy version, is ignored. -/
theorem applyRelayContextSnapshot_of_ignored (now : Int) {state : GatewayState}
    {snapshot : RelayContextSnapshot}
    (ignored : normalize toLowercase snapshot.subjectEmail = "" \/
      snapshot.IsStale (state.relayContextsBySubject.lookup
        (normalize toLowercase snapshot.subjectEmail))) :
    state.applyRelayContextSnapshot toLowercase now snapshot = state := by
  unfold applyRelayContextSnapshot sanitizeEmail
  by_cases blank : normalize toLowercase snapshot.subjectEmail = ""
  · rw [if_pos blank]
  · rw [if_neg blank]
    dsimp only
    rw [nextSubjectContexts_of_stale now _ (ignored.resolve_left blank)]

theorem applyRelayContextSnapshot_of_current (now : Int) {state : GatewayState}
    {snapshot : RelayContextSnapshot}
    (visible : normalize toLowercase snapshot.subjectEmail ≠ "")
    (current : Not (snapshot.IsStale (state.relayContextsBySubject.lookup
      (normalize toLowercase snapshot.subjectEmail)))) :
    state.applyRelayContextSnapshot toLowercase now snapshot =
      { state with
        relayContextsBySubject :=
          state.relayContextsBySubject.insert (normalize toLowercase snapshot.subjectEmail)
            (mergedEntry toLowercase now (normalize toLowercase snapshot.subjectEmail) snapshot
              (state.relayContextsBySubject.lookup
                (normalize toLowercase snapshot.subjectEmail))) } := by
  unfold applyRelayContextSnapshot sanitizeEmail
  rw [if_neg visible]
  dsimp only
  rw [nextSubjectContexts_of_current now _ current]

/-- Only the entry of the subject changes. -/
theorem lookup_applyRelayContextSnapshot_of_ne (now : Int) (state : GatewayState)
    (snapshot : RelayContextSnapshot) {other : String}
    (different : other ≠ normalize toLowercase snapshot.subjectEmail) :
    (state.applyRelayContextSnapshot toLowercase now snapshot).relayContextsBySubject.lookup other =
      state.relayContextsBySubject.lookup other := by
  by_cases ignored : normalize toLowercase snapshot.subjectEmail = "" \/
      snapshot.IsStale (state.relayContextsBySubject.lookup
        (normalize toLowercase snapshot.subjectEmail))
  · rw [applyRelayContextSnapshot_of_ignored toLowercase now ignored]
  · rw [not_or] at ignored
    rw [applyRelayContextSnapshot_of_current toLowercase now ignored.1 ignored.2]
    exact AList.lookup_insert_ne different

/-- The merge law, for a snapshot that is not ignored. -/
theorem storedUnder_applyRelayContextSnapshot (now : Int) {state : GatewayState}
    (tidy : StoreTidy state.relayContextsBySubject) {snapshot : RelayContextSnapshot}
    (visible : normalize toLowercase snapshot.subjectEmail ≠ "")
    (current : Not (snapshot.IsStale (state.relayContextsBySubject.lookup
      (normalize toLowercase snapshot.subjectEmail)))) (key : String) :
    storedUnder (state.applyRelayContextSnapshot toLowercase now snapshot).relayContextsBySubject
        (normalize toLowercase snapshot.subjectEmail) key =
      (snapshot.lastAccepted toLowercase now (normalize toLowercase snapshot.subjectEmail) key).or
        ((storedUnder state.relayContextsBySubject
            (normalize toLowercase snapshot.subjectEmail) key).filter fun context =>
          decide (now ≤ context.expiresAt)) := by
  rw [applyRelayContextSnapshot_of_current toLowercase now visible current]
  unfold storedUnder
  dsimp only
  rw [AList.lookup_insert, Option.bind_some,
    underKey_mergedEntry toLowercase now _ snapshot (tidy _)]

/-- A snapshot that is applied twice leaves what it leaves when applied once. -/
theorem applyRelayContextSnapshot_twice (now : Int) {state : GatewayState}
    (tidy : StoreTidy state.relayContextsBySubject) (snapshot : RelayContextSnapshot) :
    (state.applyRelayContextSnapshot toLowercase now snapshot).applyRelayContextSnapshot toLowercase
        now snapshot =
      state.applyRelayContextSnapshot toLowercase now snapshot := by
  by_cases ignored : normalize toLowercase snapshot.subjectEmail = "" \/
      snapshot.IsStale (state.relayContextsBySubject.lookup
        (normalize toLowercase snapshot.subjectEmail))
  · rw [applyRelayContextSnapshot_of_ignored toLowercase now ignored,
      applyRelayContextSnapshot_of_ignored toLowercase now ignored]
  · rw [not_or] at ignored
    rcases ignored with ⟨visible, current⟩
    rw [applyRelayContextSnapshot_of_current toLowercase now visible current]
    have stored := AList.lookup_insert (s := state.relayContextsBySubject)
      (b := mergedEntry toLowercase now (normalize toLowercase snapshot.subjectEmail) snapshot
        (state.relayContextsBySubject.lookup (normalize toLowercase snapshot.subjectEmail)))
      (a := normalize toLowercase snapshot.subjectEmail)
    rw [applyRelayContextSnapshot_of_current toLowercase now visible
      (by rw [stored]; exact not_isStale_mergedEntry toLowercase now _ snapshot _)]
    dsimp only
    rw [stored, mergedEntry_mergedEntry toLowercase now _ (tidy _) current, AList.insert_insert]

end GatewayState

/-- The store of every reachable state is tidy. -/
theorem storeTidy_run (maxConnectionsPerUser : Option Nat) (operations : List Operation) :
    StoreTidy
      (GatewayState.run toLowercase maxConnectionsPerUser operations).relayContextsBySubject := by
  induction operations using List.reverseRecOn with
  | nil =>
      intro subject entry found
      simp [GatewayState.run, GatewayState.new] at found
  | append_singleton operations operation before =>
      rw [GatewayState.run_concat]
      cases relay : operation.isRelay with
      | false =>
          rw [(Operation.sameRelayTables_apply toLowercase _ relay).contexts]
          exact before
      | true =>
          cases operation with
          | applyRelayContextSnapshot now snapshot =>
              exact GatewayState.applyRelayContextSnapshot_tidy toLowercase before now snapshot
          | authorizeRelayHotpath senderEmail commandName authSpec operationKey targetEmails
              replayNonce payloadSizeHint now =>
              have kept := AuthorizeCall.perform_contexts toLowercase ⟨senderEmail, commandName,
                authSpec, operationKey, targetEmails, replayNonce, payloadSizeHint, now⟩
                (GatewayState.run toLowercase maxConnectionsPerUser operations)
              dsimp only [Operation.apply]
              rw [AuthorizeCall.perform] at kept
              rw [kept]
              exact before
          | _ => cases relay

/-- The merge law: an ignored snapshot changes nothing, and any other one acts
on the store as one update for every key of its subject; repeating it at the same
clock reading changes nothing. -/
theorem snapshot_merge_law (maxConnectionsPerUser : Option Nat) (operations : List Operation)
    (now : Int) (snapshot : RelayContextSnapshot) :
    let before := GatewayState.run toLowercase maxConnectionsPerUser operations
    let after := before.applyRelayContextSnapshot toLowercase now snapshot
    let subject := normalize toLowercase snapshot.subjectEmail
    (subject = "" \/ snapshot.IsStale (before.relayContextsBySubject.lookup subject) ->
      after = before) /\
    (subject ≠ "" -> Not (snapshot.IsStale (before.relayContextsBySubject.lookup subject)) ->
      forall key, storedUnder after.relayContextsBySubject subject key =
        (snapshot.lastAccepted toLowercase now subject key).or
          ((storedUnder before.relayContextsBySubject subject key).filter fun context =>
            decide (now ≤ context.expiresAt))) /\
    (forall other, other ≠ subject ->
      after.relayContextsBySubject.lookup other = before.relayContextsBySubject.lookup other) /\
    after.applyRelayContextSnapshot toLowercase now snapshot = after := by
  intro before after subject
  have tidy := storeTidy_run toLowercase maxConnectionsPerUser operations
  exact ⟨GatewayState.applyRelayContextSnapshot_of_ignored toLowercase now,
    GatewayState.storedUnder_applyRelayContextSnapshot toLowercase now tidy,
    fun _ => GatewayState.lookup_applyRelayContextSnapshot_of_ne toLowercase now before snapshot,
    GatewayState.applyRelayContextSnapshot_twice toLowercase now tidy snapshot⟩

/-! ## Versions of stored contexts -/

/-- The context carries an earlier version, or the same one with an earlier
update. -/
def RelayOperationContext.StalerThan (context other : RelayOperationContext) : Prop :=
  context.policyVersion < other.policyVersion \/
    (context.policyVersion = other.policyVersion /\ context.updatedAt < other.updatedAt)

/-- No context is replaced by one that is staler. -/
def NeverStaler (before after : RelayContextTable) : Prop :=
  forall subject key old new, storedUnder before subject key = some old ->
    storedUnder after subject key = some new -> Not (new.StalerThan old)

theorem RelayOperationContext.not_stalerThan_self (context : RelayOperationContext) :
    Not (context.StalerThan context) := by
  rintro (earlier | ⟨_, earlier⟩)
  · exact absurd earlier (lt_irrefl _)
  · exact absurd earlier (lt_irrefl _)

/-- A stored context stays or is replaced by the snapshot. -/
theorem GatewayState.storedUnder_replaced {state : GatewayState}
    (tidy : StoreTidy state.relayContextsBySubject) (now : Int) (snapshot : RelayContextSnapshot)
    {subject key : String} {old new : RelayOperationContext}
    (storedBefore : storedUnder state.relayContextsBySubject subject key = some old)
    (storedAfter : storedUnder
      (state.applyRelayContextSnapshot toLowercase now snapshot).relayContextsBySubject subject
        key = some new) :
    new = old \/
      (subject = normalize toLowercase snapshot.subjectEmail /\ subject ≠ "" /\
        Not (snapshot.IsStale (state.relayContextsBySubject.lookup subject)) /\
        snapshot.lastAccepted toLowercase now subject key = some new) := by
  by_cases addressed : subject = normalize toLowercase snapshot.subjectEmail
  · subst addressed
    by_cases ignored : normalize toLowercase snapshot.subjectEmail = "" \/
        snapshot.IsStale (state.relayContextsBySubject.lookup
          (normalize toLowercase snapshot.subjectEmail))
    · rw [applyRelayContextSnapshot_of_ignored toLowercase now ignored, storedBefore] at storedAfter
      exact Or.inl (Option.some.inj storedAfter).symm
    · rw [not_or] at ignored
      rw [storedUnder_applyRelayContextSnapshot toLowercase now tidy ignored.1 ignored.2,
        storedBefore] at storedAfter
      cases accepts : snapshot.lastAccepted toLowercase now
          (normalize toLowercase snapshot.subjectEmail) key with
      | some accepted =>
          rw [accepts, Option.some_or] at storedAfter
          exact Or.inr ⟨rfl, ignored.1, ignored.2, storedAfter⟩
      | none =>
          rw [accepts, Option.none_or, Option.filter_eq_some_iff] at storedAfter
          exact Or.inl (Option.some.inj storedAfter.1).symm
  · unfold storedUnder at storedBefore storedAfter
    rw [lookup_applyRelayContextSnapshot_of_ne toLowercase now state snapshot addressed,
      storedBefore] at storedAfter
    exact Or.inl (Option.some.inj storedAfter).symm

/-- A stored context is replaced only by a snapshot whose own version is not
older than the entry, and by a staler context exactly if such a snapshot brings
one. -/
theorem context_replaced_only_by_current_snapshot (maxConnectionsPerUser : Option Nat)
    (operations : List Operation) (now : Int) (snapshot : RelayContextSnapshot) :
    let before :=
      (GatewayState.run toLowercase maxConnectionsPerUser operations).relayContextsBySubject
    let after :=
      ((GatewayState.run toLowercase maxConnectionsPerUser operations).applyRelayContextSnapshot
        toLowercase now snapshot).relayContextsBySubject
    let subject := normalize toLowercase snapshot.subjectEmail
    (forall other key old new, storedUnder before other key = some old ->
      storedUnder after other key = some new -> new = old \/
        (other = subject /\ subject ≠ "" /\ Not (snapshot.IsStale (before.lookup subject)) /\
          snapshot.lastAccepted toLowercase now subject key = some new)) /\
    (NeverStaler before after <->
      (subject ≠ "" -> Not (snapshot.IsStale (before.lookup subject)) ->
        forall key old accepted, storedUnder before subject key = some old ->
          snapshot.lastAccepted toLowercase now subject key = some accepted ->
            Not (accepted.StalerThan old))) := by
  intro before after subject
  have tidy := storeTidy_run toLowercase maxConnectionsPerUser operations
  have replaced : forall other key old new, storedUnder before other key = some old ->
      storedUnder after other key = some new -> new = old \/
        (other = subject /\ subject ≠ "" /\ Not (snapshot.IsStale (before.lookup subject)) /\
          snapshot.lastAccepted toLowercase now subject key = some new) := by
    intro other key old new storedBefore storedAfter
    rcases GatewayState.storedUnder_replaced toLowercase tidy now snapshot storedBefore
      storedAfter with same | ⟨rfl, visible, current, accepts⟩
    · exact Or.inl same
    · exact Or.inr ⟨rfl, visible, current, accepts⟩
  refine ⟨replaced, ?_, ?_⟩
  · intro never visible current key old accepted storedBefore accepts
    apply never subject key old accepted storedBefore
    have law := GatewayState.storedUnder_applyRelayContextSnapshot toLowercase now tidy visible
      current key
    rw [accepts, Option.some_or] at law
    exact law
  · intro fresh other key old new storedBefore storedAfter
    rcases replaced other key old new storedBefore storedAfter with
      rfl | ⟨rfl, visible, current, accepts⟩
    · exact new.not_stalerThan_self
    · exact fresh visible current key old new storedBefore accepts

end Snapshots

/-- The snapshot of Alice's context in the given state and versions. -/
def stateSnapshot (state : RelayContextState) (policyVersion : Nat) (updatedAt : Int) :
    RelayContextSnapshot :=
  { transferSnapshot with
    policyVersion := 2
    contexts :=
      [{ transferContext with
          state := state
          policyVersion := policyVersion
          updatedAt := updatedAt }] }

/-- A revoked context is made active again by one that is staler, in a snapshot
of the same version. -/
theorem revoked_context_reactivated :
    let revoked := GatewayState.run asciiLowercase none
      [.applyRelayContextSnapshot 10 (stateSnapshot .revoked 2 10)]
    let reactivated := revoked.applyRelayContextSnapshot asciiLowercase 11
      (stateSnapshot .active 1 5)
    ((storedUnder revoked.relayContextsBySubject "a@x" "op").map
      RelayOperationContext.state = some .revoked) /\
    ((storedUnder reactivated.relayContextsBySubject "a@x" "op").map
      RelayOperationContext.state = some .active) /\
    Not (NeverStaler revoked.relayContextsBySubject reactivated.relayContextsBySubject) := by
  intro revoked reactivated
  refine ⟨by decide +kernel, by decide +kernel, ?_⟩
  intro never
  exact never "a@x" "op"
    { transferContext with state := .revoked, policyVersion := 2, updatedAt := 10 }
    { transferContext with state := .active, policyVersion := 1, updatedAt := 5 }
    (by decide +kernel) (by decide +kernel) (Or.inl (by decide))

end State
end Gateway
