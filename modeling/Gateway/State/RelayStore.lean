import Gateway.State.RelayAuthorization

namespace Gateway
namespace State

open Foundation

/-!
# What snapshots can put into the relay store

A snapshot comes from outside and may hold any strings, times and repetitions.
Whatever is stored has passed the normalisation of its call, and the merge
keeps the contexts of an entry apart by their operation keys.  Each clause of
the invariant is used by the authorization: it compares names in their normal
form, and it takes the first context with the requested key for the only one.
-/

section Names

variable {toLowercase : String -> String}

/-- A non-empty name in the form in which names are compared. -/
structure NormalName (toLowercase : String -> String) (name : String) : Prop where
  visible : name ≠ ""
  trimmed : trim name = name
  lowered : toLowercase name = name

theorem sanitizeEmail_normal (laws : LowercaseLaws toLowercase) {value name : String}
    (sanitized : sanitizeEmail toLowercase value = some name) : NormalName toLowercase name := by
  unfold sanitizeEmail at sanitized
  split at sanitized
  · cases sanitized
  · next visible =>
    rw [← Option.some.inj sanitized]
    exact ⟨visible, laws.keeps_trimmed _ (trim_trim value), laws.idempotent _⟩

/-- A list of distinct names in normal form. -/
structure NameList (toLowercase : String -> String) (names : List String) : Prop where
  distinct : names.Nodup
  normal : forall name, name ∈ names -> NormalName toLowercase name

theorem sanitizeNames_nameList (laws : LowercaseLaws toLowercase) (values : List String) :
    NameList toLowercase (sanitizeNames toLowercase values) := by
  refine foldl_invariant (NameList toLowercase)
    ⟨List.nodup_nil, fun _ member => absurd member List.not_mem_nil⟩ ?_ values
  intro names value before
  split
  · exact before
  · next name sanitized =>
    split
    · exact before
    · next fresh =>
      refine ⟨List.nodup_append.mpr ⟨before.distinct, List.nodup_singleton name, ?_⟩, ?_⟩
      · intro old member new listed same
        rw [List.mem_singleton.mp listed] at same
        exact fresh (same ▸ member)
      · intro other member
        rcases List.mem_append.mp member with earlier | last
        · exact before.normal other earlier
        · rw [List.mem_singleton.mp last]
          exact sanitizeEmail_normal laws sanitized

end Names

/-- A stored context of a subject. -/
structure ContextProper (toLowercase : String -> String) (subject : String)
    (contextType : RelayContextType) (context : RelayOperationContext) : Prop where
  subject : context.authorizedSubject = subject
  type : context.contextType = contextType
  contextId : context.contextId ≠ "" /\ trim context.contextId = context.contextId
  operationKey : context.operationKey ≠ "" /\ trim context.operationKey = context.operationKey
  peers : context.audienceScope.peers ≠ [] /\ NameList toLowercase context.audienceScope.peers
  families : context.allowedCommandFamilies ≠ [] /\
    NameList toLowercase context.allowedCommandFamilies
  expiry : 0 < context.expiresAt
  grantExpiry : 0 < context.grant.expiresAt

/-- Older updates first, and at the same time smaller operation keys first. -/
def UpdatedBefore (left right : RelayOperationContext) : Prop :=
  left.updatedAt < right.updatedAt \/
    (left.updatedAt = right.updatedAt /\ left.operationKey < right.operationKey)

structure EntryProper (toLowercase : String -> String) (subject : String)
    (entry : RelaySubjectContexts) : Prop where
  contexts : forall context, context ∈ entry.contexts ->
    ContextProper toLowercase subject entry.contextType context
  keys : (entry.contexts.map RelayOperationContext.operationKey).Nodup
  increasing : entry.contexts.Pairwise UpdatedBefore

/-- The invariant of the relay store. -/
def StoreProper (toLowercase : String -> String) (store : RelayContextTable) : Prop :=
  forall subject entry, store.lookup subject = some entry ->
    NormalName toLowercase subject /\ EntryProper toLowercase subject entry

theorem EntryProper.tidy {toLowercase : String -> String} {subject : String}
    {entry : RelaySubjectContexts} (proper : EntryProper toLowercase subject entry) :
    EntryTidy entry :=
  ⟨proper.keys, fun context member => (proper.contexts context member).type⟩

namespace GatewayState

instance : Std.Total contextOrder where
  total := by
    intro left right
    rcases lt_trichotomy left.updatedAt right.updatedAt with earlier | same | later
    · exact Or.inl (Or.inl earlier)
    · rcases le_total left.operationKey right.operationKey with below | above
      · exact Or.inl (Or.inr ⟨same, below⟩)
      · exact Or.inr (Or.inr ⟨same.symm, above⟩)
    · exact Or.inr (Or.inl later)

instance : IsTrans RelayOperationContext contextOrder where
  trans := by
    rintro left middle right (earlier | ⟨same, below⟩) (earlierThen | ⟨sameThen, belowThen⟩)
    · exact Or.inl (earlier.trans earlierThen)
    · exact Or.inl (sameThen ▸ earlier)
    · exact Or.inl (same ▸ earlierThen)
    · exact Or.inr ⟨same.trans sameThen, below.trans belowThen⟩

/-- With distinct operation keys the order is strict. -/
theorem insertionSort_increasing {contexts : List RelayOperationContext}
    (distinct : (contexts.map RelayOperationContext.operationKey).Nodup) :
    (contexts.insertionSort contextOrder).Pairwise UpdatedBefore := by
  have sortedDistinct : ((contexts.insertionSort contextOrder).map
      RelayOperationContext.operationKey).Nodup :=
    ((List.perm_insertionSort contextOrder contexts).map _).nodup_iff.mpr distinct
  rw [List.Nodup, List.pairwise_map] at sortedDistinct
  refine (List.pairwise_insertionSort contextOrder contexts).imp₂ ?_ sortedDistinct
  rintro left right (earlier | ⟨same, below⟩) different
  · exact Or.inl earlier
  · exact Or.inr ⟨same, lt_of_le_of_ne below different⟩

/-! ## One call -/

variable {toLowercase : String -> String}

theorem zero_lt_contextExpiry {now : Int} (elapsed : 0 ≤ now) (given : Int) :
    0 < if 0 < given then given else saturatingAdd now relayContextTtlSeconds := by
  split
  · next positive => exact positive
  · unfold saturatingAdd saturate relayContextTtlSeconds i64Min i64Max
    omega

/-- Whatever is accepted from a snapshot is proper. -/
theorem incomingContext_proper (laws : LowercaseLaws toLowercase) {now : Int} (elapsed : 0 ≤ now)
    {subject : String} {contextType : RelayContextType} {given accepted : RelayOperationContext}
    (accepts : incomingContext toLowercase now subject contextType given = some accepted) :
    ContextProper toLowercase subject contextType accepted := by
  have sameType := incomingContext_contextType toLowercase accepts
  unfold incomingContext at accepts
  split at accepts
  · cases accepts
  · next authorizedSubject _ =>
    simp only [Option.ite_none_left_eq_some, Option.some.injEq, ne_eq, not_not] at accepts
    rcases accepts with ⟨owned, _, families, peers, contextId, operationKey, rfl⟩
    have expiry := zero_lt_contextExpiry elapsed given.expiresAt
    constructor
    · exact owned
    · exact sameType
    · exact ⟨contextId, trim_trim given.contextId⟩
    · exact ⟨operationKey, trim_trim given.operationKey⟩
    · exact ⟨peers, sanitizeNames_nameList laws _⟩
    · exact ⟨families, sanitizeNames_nameList laws _⟩
    · exact expiry
    · dsimp only
      split
      · next positive => exact positive
      · exact expiry

theorem nextSubjectContexts_proper (laws : LowercaseLaws toLowercase) {now : Int}
    (elapsed : 0 ≤ now) {subject : String} {snapshot : RelayContextSnapshot}
    {existing : Option RelaySubjectContexts}
    (proper : forall entry, existing = some entry -> EntryProper toLowercase subject entry)
    {next : RelaySubjectContexts}
    (stored : nextSubjectContexts toLowercase now subject snapshot existing = some next) :
    EntryProper toLowercase subject next := by
  have origin := mem_nextSubjectContexts toLowercase stored
  have tidy := nextSubjectContexts_tidy toLowercase (fun entry found => (proper entry found).tidy)
    stored
  refine ⟨?_, tidy.keys, ?_⟩
  · intro context member
    rw [origin.1]
    rcases origin.2 context member with ⟨entry, found, same, kept⟩ | ⟨given, accepts⟩
    · rw [← same]
      exact (proper entry found).contexts context kept
    · exact incomingContext_proper laws elapsed accepts
  · unfold nextSubjectContexts at stored
    dsimp only at stored
    split at stored
    · cases stored
    · cases stored
      apply insertionSort_increasing
      exact ((List.perm_insertionSort contextOrder _).map _).nodup_iff.mp tidy.keys

/-- There is one type of contexts, and so an entry is never replaced by an older
policy version. -/
theorem policyVersion_le_of_nextSubjectContexts {now : Int} {subject : String}
    {snapshot : RelayContextSnapshot} {entry next : RelaySubjectContexts}
    (stored : nextSubjectContexts toLowercase now subject snapshot (some entry) = some next) :
    entry.policyVersion ≤ next.policyVersion := by
  unfold nextSubjectContexts at stored
  dsimp only at stored
  split at stored
  · cases stored
  · cases stored
    exact Nat.le_max_right _ _

theorem applyRelayContextSnapshot_proper (laws : LowercaseLaws toLowercase) {now : Int}
    (elapsed : 0 ≤ now) {state : GatewayState}
    (proper : StoreProper toLowercase state.relayContextsBySubject)
    (snapshot : RelayContextSnapshot) :
    StoreProper toLowercase
      (state.applyRelayContextSnapshot toLowercase now snapshot).relayContextsBySubject := by
  unfold applyRelayContextSnapshot
  split
  · exact proper
  · next subjectEmail sanitized =>
    split
    · exact proper
    · next next stored =>
      intro subject entry found
      rw [HashTable.lookup_insert_ite] at found
      split at found
      · next same =>
        subst same
        rw [← Option.some.inj found]
        exact ⟨sanitizeEmail_normal laws sanitized, nextSubjectContexts_proper laws elapsed
          (fun existing existingFound => (proper subject existing existingFound).2) stored⟩
      · exact proper subject entry found

/-- No entry disappears, and its policy version does not decrease. -/
theorem applyRelayContextSnapshot_policyVersion (now : Int) (state : GatewayState)
    (snapshot : RelayContextSnapshot) {subject : String} {entry : RelaySubjectContexts}
    (found : state.relayContextsBySubject.lookup subject = some entry) :
    Exists fun next : RelaySubjectContexts =>
      (state.applyRelayContextSnapshot toLowercase now snapshot).relayContextsBySubject.lookup
        subject = some next /\ entry.policyVersion ≤ next.policyVersion := by
  unfold applyRelayContextSnapshot
  split
  · exact ⟨entry, found, Nat.le_refl _⟩
  · next subjectEmail _ =>
    split
    · exact ⟨entry, found, Nat.le_refl _⟩
    · next next stored =>
      dsimp only
      rw [HashTable.lookup_insert_ite]
      split
      · next same =>
        subst same
        rw [found] at stored
        exact ⟨next, rfl, policyVersion_le_of_nextSubjectContexts stored⟩
      · exact ⟨entry, found, Nat.le_refl _⟩

end GatewayState

/-- The store after any sequence of snapshots is proper, and the policy version
of a subject never decreases from one call to the next. -/
theorem relay_store_is_proper (toLowercase : String -> String)
    (laws : LowercaseLaws toLowercase) (snapshots : List (Int × RelayContextSnapshot))
    (elapsed : forall call, call ∈ snapshots -> 0 ≤ call.1) :
    StoreProper toLowercase (relayStoreAfter toLowercase snapshots) /\
      forall earlier call later, snapshots = earlier ++ call :: later ->
        forall subject entry,
          (relayStoreAfter toLowercase earlier).lookup subject = some entry ->
          Exists fun next : RelaySubjectContexts =>
            (relayStoreAfter toLowercase (earlier ++ [call])).lookup subject = some next /\
              entry.policyVersion ≤ next.policyVersion := by
  constructor
  · refine foldl_history (fun history (state : GatewayState) =>
      (forall call, call ∈ history -> 0 ≤ call.1) ->
        StoreProper toLowercase state.relayContextsBySubject) ?_ ?_ snapshots elapsed
    · intro _ subject entry found
      simp [GatewayState.new] at found
    · intro history state call before elapsedNow
      apply GatewayState.applyRelayContextSnapshot_proper laws
      · exact elapsedNow call (List.mem_append_right history List.mem_cons_self)
      · exact before fun earlier member => elapsedNow earlier (List.mem_append_left _ member)
  · intro earlier call later _ subject entry found
    rw [relayStoreAfter, List.foldl_append]
    exact GatewayState.applyRelayContextSnapshot_policyVersion call.1 _ call.2 found

/-- A snapshot that repeats a key, with blank times. -/
theorem relay_store_is_proper_of_repetition :
    let context : RelayOperationContext :=
      { contextId := " ctx ", operationKey := "op", operationClass := "relay_hotpath"
        contextType := .fileTransferPeer, state := .active, authorizedSubject := "A@x "
        audienceScope := { mode := .fixedPeer, peers := ["B@x", "b@x"] }
        allowedCommandFamilies := ["File"], policyVersion := 1
        grant := { grantId := "g", policyVersion := 1, issuedAt := 0, expiresAt := 0 }
        openedAt := 0, updatedAt := 7, expiresAt := 0 }
    let snapshot : RelayContextSnapshot :=
      { subjectEmail := " a@X", contextType := .fileTransferPeer, policyVersion := 1
        contexts := [context, { context with contextId := "late" }], receivedAt := 5 }
    StoreProper asciiLowercase (relayStoreAfter asciiLowercase [(5, snapshot), (6, snapshot)]) /\
      ((relayStoreAfter asciiLowercase [(5, snapshot), (6, snapshot)]).lookup "a@x").map
        (fun entry => entry.contexts.map RelayOperationContext.contextId) = some ["late"] := by
  intro context snapshot
  refine ⟨(relay_store_is_proper asciiLowercase asciiLowercase_laws [(5, snapshot), (6, snapshot)]
    (by decide)).1, by decide +kernel⟩

end State
end Gateway
