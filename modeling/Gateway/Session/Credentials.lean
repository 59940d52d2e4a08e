import Gateway.Preauth.Jwt
import Gateway.Session.Transcript
import Gateway.State.Provenance
import Gateway.State.Registrations

namespace Gateway
namespace Session

open Foundation State Ingress Preauth Process

/-!
# Who reads what

A session registers only after its client has shown credentials, and it
registers for the subjects of the user that they name.  A text on its channel
was addressed to one of these subjects or to the connection.  So whatever a
client reads after its greetings, some operation has addressed to the user that
the client has shown credentials for, in all interleavings of all sessions and
tasks.
-/

/-- The payloads that the loop over a client's messages examines. -/
def Approach.payloads (json : JsonText) : Approach -> List (Option Json)
  | .socket query frames => socketPayloads json query frames
  | .connection path streams => connectionPayloads json path streams

section Credentials

variable (library : JwtLibrary) (registry : CommandRegistry) (config : Config)
  (toLowercase : String -> String) (json : JsonText)

/-- The users that a payload shows credentials for. -/
inductive CredentialFor (reading : AuthReading library) (payload : Json) : String -> Prop where
  | token {token userId : String} {key : library.Key} {claims : Json}
      (source : TokenFor (authConfig config) (reading.oracle library config) payload token)
      (trusted : TrustedKey library config reading token key)
      (decodes : library.decode reading.decodeNow (validationOf config) key token = some claims)
      (named : claims.strField config.jwtUserIdClaim = some userId) :
      CredentialFor reading payload userId
  | guest {userId : String}
      (admitted : GuestFor (reading.oracle library config) payload userId) :
      CredentialFor reading payload userId

/-- The answers of the surroundings are those of the library under the
configuration. -/
def Verified (attempts : Attempts) (readings : Nat -> AuthReading library) : Prop :=
  attempts.oracles = fun turn => (readings turn).oracle library config

/-- These attempts end with a payload that shows credentials for the user. -/
def Credentialed (attempts : Attempts) (userId : String) : Prop :=
  Exists fun readings => Verified library config attempts readings /\
    Exists fun earlier : List Json => Exists fun payload => Exists fun unread =>
      attempts.approach.payloads json = earlier.map some ++ some payload :: unread /\
        userId ≠ "" /\ CredentialFor library config (readings earlier.length) payload userId

/-- A step after which every session that has made attempts was answered as
configured. -/
structure VerifiedStep (world : WireWorld) (label : Option Operation) (next : WireWorld) : Prop where
  step : WireStep registry (authConfig config) toLowercase json world label next
  verified : forall session, session ∈ next.sessions -> forall attempts context,
    session.phase.login = some (attempts, context) ->
      Exists fun readings => Verified library config attempts readings

variable {library registry config toLowercase json}

/-- An accepted client has shown credentials. -/
theorem credentialed_of_loggedIn {session : WireSession} {attempts : Attempts}
    {context : AuthContext}
    (login : LoggedIn registry (authConfig config) json session attempts (some context))
    {readings : Nat -> AuthReading library} (verified : Verified library config attempts readings) :
    Credentialed library config json attempts context.userId := by
  have accepted := login.outcome
  rw [login.made.ran] at accepted
  have accepts : AcceptedOnLast registry (authConfig config) attempts.oracles
      (attempts.approach.payloads json) context := by
    cases approach : attempts.approach <;> rw [approach] at accepted <;>
      exact authenticateAll_accepted _ _ _ accepted
  rw [verified] at accepts
  rcases accepts with ⟨earlier, payload, unread, split, _, _, visible, authenticated⟩
  refine ⟨readings, verified, earlier, payload, unread, split, visible, ?_⟩
  cases authenticated with
  | verified source verifies named =>
      rcases verifyJwt_eq_ok_iff.mp (oracle_verifyJwt_eq_some_iff.mp verifies) with
        ⟨key, trusted, decodes⟩
      exact .token source trusted decodes named
  | guest admitted => exact .guest admitted

theorem verified_of_execution {maxConnectionsPerUser : Option Nat}
    {clients : List (String × Transport)} {labels : List (Option Operation)} {world : WireWorld}
    (execution : Execution (VerifiedStep library registry config toLowercase json)
      (WireWorld.initial maxConnectionsPerUser clients) labels world) :
    forall session, session ∈ world.sessions -> forall attempts context,
      session.phase.login = some (attempts, context) ->
        Exists fun readings => Verified library config attempts readings := by
  refine execution.invariant (fun world => forall session, session ∈ world.sessions ->
    forall attempts context, session.phase.login = some (attempts, context) ->
      Exists fun readings => Verified library config attempts readings) ?_
    fun _ _ _ _ step => step.verified
  intro session member attempts context same
  rcases List.mem_map.mp member with ⟨_, _, rfl⟩
  cases same

/-! ## Vouched clients -/

/-- The client of a session, and as whom it is registered. -/
structure Client where
  connectionId : String
  served : Option (AuthContext × ConnectionInfo)

def WireSession.client (session : WireSession) : Client where
  connectionId := session.connectionId
  served := session.phase.attachment.map fun attachment => (attachment.context, attachment.info)

variable (toLowercase) in
/-- The client is registered as the user that it was accepted as. -/
structure Vouched (client : Client) (context : AuthContext) (info : ConnectionInfo) : Prop where
  connection : info.connectionId = client.connectionId
  user : info.userId = context.userId
  subjects : info.subjects = connectionSubjects toLowercase context.userId

variable (toLowercase) in
/-- All registrations are those of clients, and all registered clients are
vouched for. -/
structure AllVouched (registered : List ConnectionInfo) (clients : List Client) : Prop where
  vouched : forall client, client ∈ clients -> forall context info,
    client.served = some (context, info) ->
      Vouched toLowercase client context info
  known : forall info, info ∈ registered -> Exists fun client => client ∈ clients /\
    Exists fun context => client.served = some (context, info)

theorem AllVouched.initial {maxConnectionsPerUser : Option Nat}
    {clients : List (String × Transport)} :
    AllVouched toLowercase []
      ((WireWorld.initial maxConnectionsPerUser clients).sessions.map WireSession.client) where
  vouched := by
    intro client member context info served
    rcases List.mem_map.mp member with ⟨session, arrived, rfl⟩
    rcases List.mem_map.mp arrived with ⟨_, _, rfl⟩
    cases served
  known := fun _ listed => absurd listed List.not_mem_nil

/-- A client that was not registered before is registered. -/
theorem AllVouched.register {registered : List ConnectionInfo} {clients : List Client}
    (before : AllVouched toLowercase registered clients) {index : Nat}
    {client : Client} (there : clients[index]? = some client) (unserved : client.served = none)
    {context : AuthContext} {info : ConnectionInfo}
    (vouched : Vouched toLowercase client context info) :
    AllVouched toLowercase (registered ++ [info])
      (clients.set index { client with served := some (context, info) }) := by
  constructor
  · intro other member otherContext otherInfo served
    rcases List.mem_iff_getElem?.mp member with ⟨position, otherThere⟩
    rcases getElem?_set_cases otherThere with ⟨_, rfl⟩ | ⟨_, old⟩
    · cases served
      exact ⟨vouched.connection, vouched.user, vouched.subjects⟩
    · exact before.vouched other (List.mem_of_getElem? old) otherContext otherInfo served
  · intro other listed
    rcases List.mem_append.mp listed with earlier | last
    · rcases before.known other earlier with ⟨known, member, otherContext, served⟩
      refine ⟨known, mem_set_of_ne there member ?_, otherContext, served⟩
      rintro rfl
      exact Option.some_ne_none _ (served.symm.trans unserved)
    · cases List.mem_singleton.mp last
      have here := List.getElem?_set_self (a := { client with served := some (context, info) })
        (List.getElem?_eq_some_iff.mp there).1
      exact ⟨_, List.mem_of_getElem? here, context, rfl⟩

/-- A move that registers nobody serves the same client. -/
theorem SessionMove.client {world : WireWorld} {session : WireSession} {next : WirePhase}
    {operation : Option Operation} {written : List ClientFrame}
    (moves : SessionMove registry (authConfig config) toLowercase json world session session.phase
      operation next written)
    (registersNobody : forall performed, operation = some performed ->
      performed.registered = none) :
    (session.moved next written).client = session.client := by
  refine congrArg (Client.mk session.connectionId) ?_
  change next.attachment.map _ = session.phase.attachment.map _
  generalize session.phase = phase at moves
  cases moves with
  | register => cases registersNobody _ rfl
  | _ => rfl

theorem SessionMove.allVouched {registered : List ConnectionInfo} {world : WireWorld}
    (before : AllVouched toLowercase registered (world.sessions.map WireSession.client))
    {index : Nat} {session : WireSession} (there : world.sessions[index]? = some session)
    {operation : Option Operation} {phase next : WirePhase} {written : List ClientFrame}
    (here : session.phase = phase)
    (moves : SessionMove registry (authConfig config) toLowercase json world session phase operation
      next written) :
    AllVouched toLowercase (registered ++ operation.toList.filterMap Operation.registered)
      ((world.advance toLowercase index session operation next written).sessions.map
        WireSession.client) := by
  cases registers : operation.bind Operation.registered with
  | none =>
      have nobody : operation.toList.filterMap Operation.registered = [] := by
        cases operation with
        | none => rfl
        | some operation => exact List.filterMap_cons_none registers
      have same : (world.advance toLowercase index session operation next written).sessions.map
          WireSession.client = world.sessions.map WireSession.client := by
        subst here
        refine map_set_of_eq there (moves.client ?_)
        rintro performed rfl
        exact registers
      rw [nobody, List.append_nil, same]
      exact before
  | some info =>
      have arrives : phase = .arriving := by
        cases operation with
        | none => cases registers
        | some operation =>
            exact (moves.registers rfl (congrArg (Option.map ConnectionInfo.connectionId)
              registers)).1
      rw [arrives] at here moves
      cases moves with
      | register _ _ _ order now connectedAt registered =>
          subst registered
          have unserved : session.client.served = none := by
            rw [WireSession.client, here]
            rfl
          have found : (world.sessions.map WireSession.client)[index]? = some session.client := by
            rw [List.getElem?_map, there]
            rfl
          rw [WireWorld.advance, List.map_set]
          exact before.register found unserved ⟨rfl, rfl, rfl⟩
      | refuse => cases registers

theorem WireStep.allVouched {labels : List (Option Operation)} {world next : WireWorld}
    {label : Option Operation}
    (before : AllVouched toLowercase (labels.reduceOption.filterMap Operation.registered)
      (world.sessions.map WireSession.client))
    (step : WireStep registry (authConfig config) toLowercase json world label next) :
    AllVouched toLowercase ((labels ++ [label]).reduceOption.filterMap Operation.registered)
      (next.sessions.map WireSession.client) := by
  have performed : (labels ++ [label]).reduceOption = labels.reduceOption ++ label.toList := by
    rw [← List.concat_eq_append, List.reduceOption_concat]
  rw [performed, List.filterMap_append]
  cases step with
  | session there moves => exact SessionMove.allVouched before there rfl moves
  | outside outside =>
      have nobody := Option.map_eq_none_iff.mp outside.registeredId
      rw [Option.toList_some, List.filterMap_cons_none nobody, List.filterMap_nil, List.append_nil]
      exact before

theorem allVouched_of_execution {maxConnectionsPerUser : Option Nat}
    {clients : List (String × Transport)} {labels : List (Option Operation)} {world : WireWorld}
    (execution : Execution (WireStep registry (authConfig config) toLowercase json)
      (WireWorld.initial maxConnectionsPerUser clients) labels world) :
    AllVouched toLowercase (labels.reduceOption.filterMap Operation.registered)
      (world.sessions.map WireSession.client) :=
  execution.history (fun labels world => AllVouched toLowercase
    (labels.reduceOption.filterMap Operation.registered) (world.sessions.map WireSession.client))
    AllVouched.initial fun _ _ _ _ before step => step.allVouched before

/-- Some operation addresses the text to the connection or to one of the
subjects. -/
def AddressedTo (operations : List Operation) (connectionId : String) (subjects : List String)
    (text : String) : Prop :=
  Exists fun operation => operation ∈ operations /\
    (operation.AddressesConnection connectionId text \/
      Exists fun subject => subject ∈ subjects /\ operation.AddressesSubject subject text)

theorem AddressedTo.mono {operations others : List Operation} {connectionId text : String}
    {subjects : List String} (addressed : AddressedTo operations connectionId subjects text)
    (among : operations ⊆ others) : AddressedTo others connectionId subjects text :=
  addressed.imp fun _ listed => ⟨among listed.1, listed.2⟩

theorem addressedTo_of_replayed {maxConnectionsPerUser : Option Nat} {earlier : List Operation}
    (fresh : FreshIds earlier) {operation : Operation} {info : ConnectionInfo}
    (registers : operation.registered = some info) {text : String}
    (replayed : text ∈ replayedBy (GatewayState.run toLowercase maxConnectionsPerUser earlier)
      operation) : AddressedTo earlier info.connectionId info.subjects text := by
  cases operation with
  | registerConnection order now connectionId userId clientInstanceId subjects connectedAt =>
      cases registers
      rcases (takePending_sources now _ subjects).1 text replayed with
        ⟨subject, listed, item, waits, same⟩
      have traced := texts_were_addressed toLowercase maxConnectionsPerUser earlier fresh text
      rcases traced.queued subject item waits same with ⟨operation, member, addressed⟩
      exact ⟨operation, member, Or.inr ⟨subject, listed, addressed⟩⟩
  | _ => cases registers

theorem addressedTo_of_textsFor {connectionId : String} {subjects : List String}
    {operations : List Operation} {text : String}
    (sent : text ∈ textsFor connectionId subjects operations) :
    AddressedTo operations connectionId subjects text := by
  rcases List.mem_filterMap.mp sent with ⟨operation, member, sends⟩
  refine ⟨operation, member, ?_⟩
  cases operation with
  | sendToSubjects order stickyNow now addressed message bufferIfUndelivered stickyKey =>
      rw [Operation.textFor, Option.ite_none_right_eq_some] at sends
      rcases sends with ⟨⟨_, meets⟩, same⟩
      cases same
      rcases List.any_eq_true.mp meets with ⟨subject, listed, subscribed⟩
      exact Or.inr ⟨subject, of_decide_eq_true subscribed, listed, rfl⟩
  | sendToConnection target message =>
      rw [Operation.textFor, Option.ite_none_right_eq_some] at sends
      rcases sends with ⟨⟨_, _, here⟩, same⟩
      cases same
      exact Or.inl ⟨here, rfl⟩
  | _ => cases sends

/-! ## Who reads what -/

variable (toLowercase json) in
/-- What a registered client has been written: answers to its failed attempts,
greetings, texts that were addressed to it, and close frames. -/
def ReadsOwn (operations : List Operation) (session : WireSession) (attachment : Attachment) :
    Prop :=
  Exists fun answers : List String => Exists fun greeted : List String =>
    Exists fun texts : List String => Exists fun closing =>
    session.data = (answers ++ greeted ++ texts).map .text ++ closing /\
      Answers json session.transport attachment.attempts.run.failures answers /\
      greeted.map some <+: greetingTexts json session attachment /\
      (forall text, text ∈ texts -> AddressedTo operations session.connectionId
        (connectionSubjects toLowercase attachment.context.userId) text) /\
      forall frame, frame ∈ closing -> Exists fun code => Exists fun reason =>
        frame = .close code reason

theorem Follows.readsOwn {maxConnectionsPerUser : Option Nat} {operations : List Operation}
    {session : WireSession}
    (follows : Follows toLowercase maxConnectionsPerUser json operations session)
    (fresh : FreshIds operations) {attachment : Attachment}
    (registered : session.phase.attachment = some attachment)
    (subjects : attachment.info.subjects =
      connectionSubjects toLowercase attachment.context.userId) :
    ReadsOwn toLowercase json operations session attachment := by
  rcases follows.origin attachment registered with
    ⟨earlier, operation, later, rfl, registers, named, standing⟩
  have reached := foldl_run toLowercase maxConnectionsPerUser earlier later operation
  have progress := follows.progress
  rw [← reached] at standing progress
  rcases standing.served with ⟨served, rest, rfl, serves⟩
  have parting : IsParting ((rest.head?.map Operation.parting).getD []) := by
    cases rest with
    | nil => exact Or.inl rfl
    | cons operation rest => exact isParting_parting operation
  rcases progress.reads registered parting serves.log with
    ⟨answers, greeted, texts, closing, transcript⟩
  refine ⟨answers, greeted, texts, closing, transcript.data, transcript.answers,
    transcript.greetings, ?_, ?_⟩
  · intro text member
    rw [← named, ← subjects]
    rcases List.mem_append.mp (transcript.gapFree.subset member) with replayed | sent
    · exact (addressedTo_of_replayed fresh.of_append registers replayed).mono
        (List.subset_append_left _ _)
    · rw [named]
      refine (addressedTo_of_textsFor sent).mono fun other listed => ?_
      exact List.mem_append_right _ (List.mem_cons_of_mem _ (List.mem_append_left _ listed))
  · intro frame member
    rcases transcript.closing with none | ⟨_, _, code, reason, _, closes⟩
    · rw [none] at member
      cases member
    · rw [closes] at member
      exact ⟨code, reason, List.mem_singleton.mp member⟩

end Credentials

/-- In every run of the sessions with all other tasks, whoever is registered has a
session whose own attempts ended with credentials for its user, and is registered for
the subjects of this user only.  A client without credentials reads nothing but
answers to its attempts, and any other client reads, after its greetings, only what
was addressed to its connection or to its user. -/
theorem texts_follow_credentials (library : JwtLibrary) (registry : CommandRegistry)
    (config : Config) (toLowercase : String -> String) (json : JsonText)
    (clients : List (String × Transport)) (distinct : (clients.map Prod.fst).Nodup)
    (labels : List (Option Operation)) (world : WireWorld)
    (execution : Execution (VerifiedStep library registry config toLowercase json)
      (WireWorld.initial config.maxConnectionsPerUser clients) labels world) :
    (forall id handle, world.gateway.connections.lookup id = some handle ->
      Exists fun session => session ∈ world.sessions /\ session.connectionId = id /\
        Exists fun attachment => session.phase.attachment = some attachment /\
          handle.info.atRegistration = attachment.info /\
          handle.info.userId = attachment.context.userId /\
          handle.info.subjects = connectionSubjects toLowercase handle.info.userId) /\
    forall session, session ∈ world.sessions ->
      (session.phase.attachment = none ->
        OnlyAnswers registry (authConfig config) json session) /\
      forall attachment, session.phase.attachment = some attachment ->
        LoggedIn registry (authConfig config) json session attachment.attempts
          (some attachment.context) /\
        Credentialed library config json attachment.attempts attachment.context.userId /\
          ReadsOwn toLowercase json labels.reduceOption session attachment := by
  have wire := execution.mono fun _ _ _ step => step.step
  have invariant := WireInvariant.execution distinct wire
  have vouched := allVouched_of_execution wire
  refine ⟨?_, ?_⟩
  · intro id handle found
    rw [invariant.gateway] at found
    have known := registered_of_run toLowercase config.maxConnectionsPerUser _ invariant.fresh id
      handle found
    rcases vouched.known _ known.2 with ⟨client, listed, context, served⟩
    rcases List.mem_map.mp listed with ⟨session, member, rfl⟩
    have vouches := vouched.vouched _ listed context _ served
    have user : handle.info.userId = context.userId := vouches.user
    rcases Option.map_eq_some_iff.mp served with ⟨attachment, registered, same⟩
    rcases Prod.mk.inj same with ⟨rfl, info⟩
    exact ⟨session, member, vouches.connection.symm.trans known.1, attachment, registered,
      info.symm, user, user ▸ vouches.subjects⟩
  · intro session member
    have follows := invariant.follows session member
    have logins := loggedIn_of_execution wire session member
    refine ⟨follows.progress.onlyAnswers logins, fun attachment registered => ?_⟩
    have recorded := WirePhase.login_of_attachment registered
    have vouches := vouched.vouched session.client (List.mem_map.mpr ⟨session, member, rfl⟩)
      attachment.context attachment.info (by rw [WireSession.client, registered]; rfl)
    rcases verified_of_execution execution session member _ _ recorded with ⟨readings, verified⟩
    exact ⟨logins _ _ recorded, credentialed_of_loggedIn (logins _ _ recorded) verified,
      follows.readsOwn invariant.fresh registered vouches.subjects⟩

/-- A library that knows one token, signed with the shared secret. -/
def secretLibrary : JwtLibrary where
  Key := String
  Jwk := Unit
  keyId _ := none
  decodeHeader _ := some none
  fromJwk _ := none
  fromSecret secret := secret
  fromRsaPem _ := none
  decode now validation key token :=
    if key = "secret" ∧ token = "good" ∧ now < 100 + validation.leeway then
      some (Json.ofFields [("user_id", .string "alice")])
    else none

def secretConfig : Config :=
  Config.fromEnv asciiLowercase
    { var := fun key =>
        if key = "JWT_ALG" then some "HS256"
        else if key = "JWT_PUBLIC_KEY" then some "secret"
        else none
      readToString := fun _ => none }

def secretReading : AuthReading secretLibrary where
  now := 150
  nowMicros := 150
  clientBuilds := true
  post _ _ := none
  fetchJwks _ := none
  decodeNow := 150

/-- Alice sends her token in the query. -/
def aliceApproach : Approach := .socket ⟨some "good", none⟩ []

def aliceAttempts : Attempts where
  approach := aliceApproach
  oracles := fun _ => secretReading.oracle secretLibrary secretConfig
  run := aliceApproach.authenticate builtinRegistry (authConfig secretConfig) (.ofTexts [])
    fun _ => secretReading.oracle secretLibrary secretConfig

theorem aliceAttempts_accepted : aliceAttempts.run.outcome = .succeeded ⟨"alice", "", none⟩ := by
  have identity : (match aliceAttempts.run.outcome with
      | .succeeded context => decide (context.userId = "alice" ∧ context.clientInstanceId = "" ∧
          context.bootstrapSuccessPayload.isNone = true)
      | _ => false) = true := by decide +kernel
  split at identity
  · next context outcome =>
    rcases context with ⟨userId, clientInstanceId, payload⟩
    rcases of_decide_eq_true identity with ⟨rfl, rfl, none⟩
    cases Option.isNone_iff_eq_none.mp none
    exact outcome
  · cases identity

/-- A step of Alice's session, or one that leaves it as it is. -/
theorem VerifiedStep.solo {maxConnectionsPerUser : Option Nat} {operations later : List Operation}
    {before after : WireSession} {label : Option Operation}
    (step : WireStep builtinRegistry (authConfig secretConfig) asciiLowercase (.ofTexts [])
      (soloWorld asciiLowercase maxConnectionsPerUser operations before) label
      (soloWorld asciiLowercase maxConnectionsPerUser later after))
    {context : Option AuthContext} (login : after.phase.login = some (aliceAttempts, context)) :
    VerifiedStep secretLibrary builtinRegistry secretConfig asciiLowercase (.ofTexts [])
      (soloWorld asciiLowercase maxConnectionsPerUser operations before) label
      (soloWorld asciiLowercase maxConnectionsPerUser later after) where
  step := step
  verified := by
    intro session member attempts accepted recorded
    rw [List.mem_singleton.mp member, login] at recorded
    cases recorded
    exact ⟨fun _ => secretReading, rfl⟩

def aliceTexts : List String :=
  ["\x7b\"type\":\"auth_ok\",\"user_id\":\"alice\"\x7d"]

/-- Alice has read a text that was sent to her subject. -/
theorem texts_follow_credentials_of_alice :
    Exists fun labels => Exists fun world => Exists fun session => Exists fun attachment =>
      Execution (VerifiedStep secretLibrary builtinRegistry secretConfig asciiLowercase
            (.ofTexts []))
          (WireWorld.initial secretConfig.maxConnectionsPerUser [("c1", .websocket)]) labels
          world /\
        session ∈ world.sessions /\ session.phase.attachment = some attachment /\
        session.data = (aliceTexts ++ [newsText]).map .text /\
        LoggedIn builtinRegistry (authConfig secretConfig) (.ofTexts []) session
          attachment.attempts (some attachment.context) /\
        Credentialed secretLibrary secretConfig (.ofTexts []) attachment.attempts
          attachment.context.userId /\
        ReadsOwn asciiLowercase (.ofTexts []) labels.reduceOption session attachment := by
  let context : AuthContext := ⟨"alice", "", none⟩
  let register : Operation := .registerConnection .sorted 0 "c1" "alice" ""
    (connectionSubjects asciiLowercase "alice") 0
  let dispatch : Operation := .sendToSubjects .sorted 0 0 ["user:alice"] newsText true none
  let attachment : Attachment := ⟨aliceAttempts, context,
    ⟨"c1", "alice", "", connectionSubjects asciiLowercase "alice", 0, 0⟩, 0, 0⟩
  let session : WirePhase -> List ClientFrame -> WireSession := fun phase written =>
    ⟨"c1", .websocket, phase, written⟩
  let later : WireSession :=
    session (.serving attachment.next) ((aliceTexts ++ [newsText]).map .text)
  let Steps := VerifiedStep secretLibrary builtinRegistry secretConfig asciiLowercase (.ofTexts [])
  have noCap : secretConfig.maxConnectionsPerUser = none := by decide +kernel
  rw [noCap]
  have answered : Answers (.ofTexts []) .websocket aliceAttempts.run.failures [] :=
    List.nil_sublist _
  have registered : Execution Steps (WireWorld.initial none [("c1", .websocket)]) [some register]
      (soloWorld asciiLowercase none [register]
        (session (.greeting attachment [authOk "alice"]) [])) :=
    Execution.single (.solo (@WireStep.solo _ _ _ _ none [] (session .arriving []) _ _ _
      (.register ⟨rfl, rfl⟩ aliceAttempts_accepted answered .sorted 0 0 rfl)) rfl)
  have served : Execution Steps (WireWorld.initial none [("c1", .websocket)])
      [some register, none, none]
      (soloWorld asciiLowercase none [register]
        (session (.serving attachment) (aliceTexts.map .text))) :=
    (registered.snoc (.solo (.solo (.greet (by decide +kernel))) rfl)).snoc
      (.solo (.solo .serve) rfl)
  have written : Execution Steps (WireWorld.initial none [("c1", .websocket)])
      [some register, none, none, some dispatch, none]
      (soloWorld asciiLowercase none [register, dispatch] later) :=
    (served.snoc (.solo (.outside (Or.inl rfl)) rfl)).snoc
      (.solo (@WireStep.solo _ _ _ _ none [register, dispatch]
        (session (.serving attachment) (aliceTexts.map .text)) _ _ _ (.write (by decide +kernel)))
        rfl)
  refine ⟨_, _, later, attachment.next, written, List.mem_cons_self, rfl, rfl, ?_⟩
  rw [← noCap] at written
  have sound := texts_follow_credentials secretLibrary builtinRegistry secretConfig asciiLowercase
    (.ofTexts []) [("c1", .websocket)] (List.nodup_singleton _) _ _ written
  exact (sound.2 later List.mem_cons_self).2 attachment.next rfl

end Session
end Gateway
