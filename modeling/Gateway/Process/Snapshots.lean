import Gateway.Broker.SnapshotFormat
import Gateway.Process.Policies

namespace Gateway
namespace Process

open Foundation State Ingress Broker Http

/-!
# What the backend can grant through the outbox

Relay rights arrive as texts of outbox entries.  The relay store of a process is
at every moment the merge of formed snapshots, whatever else the process was
called with and however the entries were spelled.  In turn every formed snapshot
has an entry that merges it.
-/

variable {environs : Environs}

/-- The store to which the snapshots of a run are merged. -/
def mergeSnapshots (environs : Environs) (delivered : List (Int × RelayContextSnapshot)) :
    GatewayState :=
  delivered.foldl
    (fun state snapshot =>
      state.applyRelayContextSnapshot environs.toLowercase snapshot.1 snapshot.2)
    (GatewayState.new environs.config.maxConnectionsPerUser)

/-- Merging a snapshot looks at the relay store only. -/
theorem contexts_applyRelayContextSnapshot {left right : GatewayState}
    (same : left.relayContextsBySubject = right.relayContextsBySubject)
    (toLowercase : String -> String) (now : Int) (snapshot : RelayContextSnapshot) :
    (left.applyRelayContextSnapshot toLowercase now snapshot).relayContextsBySubject =
      (right.applyRelayContextSnapshot toLowercase now snapshot).relayContextsBySubject := by
  unfold GatewayState.applyRelayContextSnapshot
  rw [same]
  split
  · exact same
  · split
    · exact same
    · rfl

theorem contexts_run (events : List GatewayEvent) :
    (GatewayEvent.run environs events).relayContextsBySubject =
      (mergeSnapshots environs
        (events.filterMap (GatewayEvent.snapshot environs))).relayContextsBySubject := by
  induction events using List.reverseRecOn with
  | nil => rfl
  | append_singleton events event ih =>
      rw [GatewayEvent.run_concat, List.filterMap_append, mergeSnapshots, List.foldl_append,
        ← mergeSnapshots]
      cases delivers : event.snapshot environs with
      | none =>
          rw [GatewayEvent.contexts_apply delivers, List.filterMap_cons_none delivers]
          exact ih
      | some delivered =>
          rw [GatewayEvent.apply_of_snapshot delivers, List.filterMap_cons_some delivers]
          exact contexts_applyRelayContextSnapshot ih environs.toLowercase delivered.1 delivered.2

/-- What an entry delivers is formed. -/
theorem formed_of_snapshot (ranged : forall text value, environs.json.parse text = some value ->
      value.Representable)
    {event : GatewayEvent}
    (clock : forall reading parsed, event = .entry reading parsed -> IsI64 reading.snapshotNow)
    {now : Int} {snapshot : RelayContextSnapshot}
    (delivers : event.snapshot environs = some (now, snapshot)) : FormedSnapshot snapshot := by
  cases event with
  | entry reading parsed =>
      unfold GatewayEvent.snapshot at delivers
      rcases Option.bind_eq_some_iff.mp delivers with ⟨decoded, decodes, addressed⟩
      rw [Option.ite_none_left_eq_some] at addressed
      rcases Option.map_eq_some_iff.mp addressed.2 with ⟨found, parses, same⟩
      rw [← (Prod.mk.inj same).2]
      have payload : ((decoded.get "payload").getD .null).Representable := by
        cases there : decoded.get "payload" with
        | none => exact .null
        | some payload => exact (ranged _ decoded decodes).get there
      exact parseRelayContextSnapshot_formed (clock reading parsed rfl) payload parses
  | _ => cases delivers

theorem snapshot_of_entry (keeps : KeepsWords environs.toLowercase) (reading : OutboxReading)
    (id : String) {fields : FieldMap} {subjects : List String} (addressed : subjects ≠ [])
    {snapshot : RelayContextSnapshot} (formed : FormedSnapshot snapshot)
    (decodes : decodeEntry environs.json fields = some (snapshotEntry subjects snapshot)) :
    (GatewayEvent.entry reading (id, fields)).snapshot environs =
      some (reading.applyNow, snapshot) := by
  rw [GatewayEvent.snapshot, decodes, Option.bind_some, snapshotEntry_subjects,
    if_neg addressed, snapshotEntry_payload, Option.getD_some,
    parseRelayContextSnapshot_encode keeps formed]
  rfl

/-- The relay store is the merge of the delivered snapshots, all of them formed,
and no formed snapshot is out of reach: its entry, sent at any time to anybody,
merges it and does nothing else. -/
theorem outbox_carries_the_formed_snapshots (environs : Environs)
    (keeps : KeepsWords environs.toLowercase)
    (ranged : forall text value, environs.json.parse text = some value -> value.Representable)
    (events : List GatewayEvent)
    (clock : forall reading parsed, .entry reading parsed ∈ events ->
      IsI64 reading.snapshotNow) :
    let delivered := events.filterMap (GatewayEvent.snapshot environs)
    (forall now snapshot, (now, snapshot) ∈ delivered -> FormedSnapshot snapshot) /\
    (GatewayEvent.run environs events).relayContextsBySubject =
      (mergeSnapshots environs delivered).relayContextsBySubject /\
    forall reading id fields subjects snapshot, subjects ≠ [] -> FormedSnapshot snapshot ->
      decodeEntry environs.json fields = some (snapshotEntry subjects snapshot) ->
      (events ++ [GatewayEvent.entry reading (id, fields)]).filterMap
          (GatewayEvent.snapshot environs) = delivered ++ [(reading.applyNow, snapshot)] /\
        GatewayEvent.run environs (events ++ [GatewayEvent.entry reading (id, fields)]) =
          (GatewayEvent.run environs events).applyRelayContextSnapshot environs.toLowercase
            reading.applyNow snapshot := by
  refine ⟨fun now snapshot member => ?_, contexts_run events, ?_⟩
  · rcases List.mem_filterMap.mp member with ⟨event, listed, delivers⟩
    exact formed_of_snapshot ranged
      (fun reading parsed same => clock reading parsed (same ▸ listed)) delivers
  · intro reading id fields subjects snapshot addressed formed decodes
    have delivers := snapshot_of_entry keeps reading id addressed formed decodes
    refine ⟨?_, ?_⟩
    · rw [List.filterMap_append, List.filterMap_cons_some delivers, List.filterMap_nil]
    · rw [GatewayEvent.run_concat, GatewayEvent.apply_of_snapshot delivers]

def peerContext : RelayOperationContext where
  contextId := "opx-1"
  operationKey := "ft-1"
  operationClass := "relay_hotpath"
  contextType := .fileTransferPeer
  state := .active
  authorizedSubject := "alice@test.de"
  audienceScope := ⟨.fixedPeer, ["bob@test.de"]⟩
  allowedCommandFamilies := ["file_transfer"]
  policyVersion := 1
  grant := ⟨"grant", 1, 0, 100⟩
  openedAt := 0
  updatedAt := 0
  expiresAt := 100

def peerSnapshot : RelayContextSnapshot where
  subjectEmail := "alice@test.de"
  contextType := .fileTransferPeer
  policyVersion := 1
  contexts := [peerContext]
  receivedAt := 0

theorem formed_peerSnapshot : FormedSnapshot peerSnapshot := by
  have context : FormedContext .fileTransferPeer peerContext :=
    { contextId := ⟨by decide +kernel, by decide⟩
      operationKey := ⟨by decide +kernel, by decide⟩
      operationClass := rfl
      contextType := rfl
      authorizedSubject := ⟨by decide +kernel, by decide⟩
      policyVersion := by decide
      grantId := ⟨by decide +kernel, by decide⟩
      grantVersion := by decide
      issuedAt := ⟨by decide, by decide⟩
      grantExpiresAt := ⟨by decide, by decide⟩
      openedAt := ⟨by decide, by decide⟩
      updatedAt := ⟨by decide, by decide⟩
      expiresAt := ⟨by decide, by decide⟩ }
  refine ⟨⟨by decide +kernel, by decide⟩, by decide, ⟨by decide, by decide⟩, fun other member => ?_⟩
  rw [List.mem_singleton.mp member]
  exact context

def peerEntry : Json := snapshotEntry ["user:alice@test.de"] peerSnapshot

/-- Its compact text. -/
def peerText : String :=
  "\x7b\"payload\":\x7b\"context_type\":\"file_transfer_peer\",\"contexts\":[" ++
    "\x7b\"allowed_command_families\":[\"file_transfer\"]," ++
    "\"audience_scope\":\x7b\"mode\":\"fixed_peer\",\"peers\":[\"bob@test.de\"]\x7d," ++
    "\"authorized_subject\":\"alice@test.de\",\"context_id\":\"opx-1\",\"expires_at\":100," ++
    "\"grant\":\x7b\"expires_at\":100,\"grant_id\":\"grant\"," ++
    "\"issued_at\":0,\"policy_version\":1\x7d," ++
    "\"opened_at\":0,\"operation_key\":\"ft-1\",\"policy_version\":1,\"state\":\"active\"," ++
    "\"updated_at\":0\x7d],\"operation_class\":\"relay_hotpath\",\"policy_version\":1," ++
    "\"subject\":\"alice@test.de\",\"ts\":0," ++
    "\"type\":\"gateway_relay_context_snapshot\"\x7d," ++
    "\"subjects\":[\"user:alice@test.de\"]\x7d"

def peerEnvirons : Environs where
  registry := builtinRegistry
  toLowercase := asciiLowercase
  json := .ofTexts [(peerText, peerEntry)]
  config := Config.fromEnv asciiLowercase ⟨fun _ => none, fun _ => none⟩

def peerEvents : List GatewayEvent :=
  [.connect .sorted 0 "conn-a" "alice@test.de" "" 0,
    .entry ⟨.sorted, 1, 1, 1, 1, 1⟩ ("1-0", AList.insert "data" peerText ∅), .disconnect "conn-a"]

/-- The entry is delivered twice, and the second time merges the grant again. -/
theorem outbox_carries_the_formed_snapshots_of_peer :
    let again : GatewayEvent :=
      .entry ⟨.sorted, 2, 2, 2, 2, 2⟩ ("2-0", AList.insert "data" peerText ∅)
    (GatewayEvent.run peerEnvirons peerEvents).relayContextsBySubject =
      (mergeSnapshots peerEnvirons [(1, peerSnapshot)]).relayContextsBySubject /\
    GatewayEvent.run peerEnvirons (peerEvents ++ [again]) =
      (GatewayEvent.run peerEnvirons peerEvents).applyRelayContextSnapshot asciiLowercase 2
        peerSnapshot /\
    ((GatewayEvent.run peerEnvirons (peerEvents ++ [again])).relayContextsBySubject.lookup
      "alice@test.de").isSome = true := by
  intro again
  have keeps : KeepsWords peerEnvirons.toLowercase := by
    unfold KeepsWords
    decide +kernel
  have decodes : decodeEntry peerEnvirons.json (AList.insert "data" peerText ∅) =
      some peerEntry := by
    rw [decodeEntry, AList.lookup_insert, Option.getD_some]
    exact JsonText.ofTexts_parse_head peerText peerEntry []
  have ranged : forall text value, peerEnvirons.json.parse text = some value ->
      value.Representable := by
    intro text value parsed
    cases List.mem_singleton.mp (JsonText.mem_of_ofTexts_parse parsed)
    exact representable_snapshotEntry _ formed_peerSnapshot
  have clock : forall reading parsed, .entry reading parsed ∈ peerEvents ->
      IsI64 reading.snapshotNow := by
    intro reading parsed member
    simp only [peerEvents, List.mem_cons, List.not_mem_nil, reduceCtorEq, false_or, or_false,
      GatewayEvent.entry.injEq] at member
    rw [member.1]
    exact ⟨by decide, by decide⟩
  have carried := outbox_carries_the_formed_snapshots peerEnvirons keeps ranged peerEvents clock
  have delivers : (GatewayEvent.entry ⟨.sorted, 1, 1, 1, 1, 1⟩
      ("1-0", AList.insert "data" peerText ∅)).snapshot peerEnvirons = some (1, peerSnapshot) :=
    snapshot_of_entry keeps _ _ (by decide) formed_peerSnapshot decodes
  have delivered : peerEvents.filterMap (GatewayEvent.snapshot peerEnvirons) =
      [(1, peerSnapshot)] := by
    rw [peerEvents, List.filterMap_cons_none rfl, List.filterMap_cons_some delivers,
      List.filterMap_cons_none rfl, List.filterMap_nil]
  rw [delivered] at carried
  have repeated := carried.2.2 ⟨.sorted, 2, 2, 2, 2, 2⟩ "2-0" _ _ peerSnapshot (by decide)
    formed_peerSnapshot decodes
  refine ⟨carried.2.1, repeated.2, ?_⟩
  rw [contexts_run, repeated.1]
  decide +kernel

end Process
end Gateway
