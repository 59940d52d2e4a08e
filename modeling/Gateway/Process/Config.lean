import Gateway.Foundation.Decimal

namespace Gateway
namespace Process

open Foundation

/-!
# The configuration

The gateway is configured by environment variables.  A variable that is missing
or does not parse has its default, and some values are clamped.  What comes out
is described exactly: the configurations that some environment leads to are the
well-formed ones.
-/

@[ext]
structure Config where
  transport : String
  jwtAlg : String
  jwtUserIdClaim : String
  jwtPublicKey : String
  jwtPublicKeyFile : String
  jwtJwksUrl : String
  jwtIssuer : String
  jwtAudience : String
  jwtLeeway : Int
  gatewayApiKey : String
  authBackendBaseUrl : String
  authRequestTimeoutMs : Nat
  redisDsn : String
  redisStream : String
  redisInboxStream : String
  redisEventsStream : String
  outboxDeleteOnConsume : Bool
  maxConnectionsPerUser : Option Nat
  staleConnectionTimeoutSeconds : Int
  stalePruneIntervalSeconds : Nat
  webtransportPort : Nat
  websocketPort : Nat
  httpApiPort : Nat
  certPemfile : String
  keyPemfile : String
  deriving DecidableEq, Repr

/-- The variables that are set to Unicode texts, and the files that can be
read. -/
structure Environment where
  var : String -> Option String
  readToString : String -> Option String

def i64Min : Int := -2 ^ 63
def i64Max : Int := 2 ^ 63 - 1
def u64Max : Nat := 2 ^ 64 - 1
def u16Max : Nat := 2 ^ 16 - 1

section Variables

variable (environment : Environment)

def envStr (key default : String) : String := (environment.var key).getD default

def envI64 (key : String) (default : Int) : Int :=
  ((environment.var key).bind (parseSigned i64Min i64Max)).getD default

/-- Ports and 64-bit counts differ only in their bound. -/
def envUnsigned (bound : Nat) (key : String) (default : Nat) : Nat :=
  ((environment.var key).bind (parseUnsigned bound)).getD default

def envU16 (key : String) (default : Nat) : Nat := envUnsigned environment u16Max key default

def envU64 (key : String) (default : Nat) : Nat := envUnsigned environment u64Max key default

def envUsize (key : String) : Option Nat := (environment.var key).bind (parseUnsigned u64Max)

def envBool (toLowercase : String -> String) (key : String) (default : Bool) : Bool :=
  ((environment.var key).map fun value =>
    decide (toLowercase (trim value) ∈ ["1", "true", "yes", "on"])).getD default

end Variables

section FromEnv

variable (toLowercase : String -> String) (environment : Environment)

/-- A key in the environment wins over a key file. -/
def readPublicKey : String :=
  let file := envStr environment "JWT_PUBLIC_KEY_FILE" ""
  let key := envStr environment "JWT_PUBLIC_KEY" ""
  if key = "" ∧ file ≠ "" then (environment.readToString file).getD key else key

def transportName (requested : String) : String :=
  match requested with
  | "websocket" => "websocket"
  | "ws" => "websocket"
  | _ => "webtransport"

def Config.fromEnv : Config where
  transport :=
    transportName (toLowercase (envStr environment "GATEWAY_TRANSPORT" "webtransport"))
  jwtAlg := envStr environment "JWT_ALG" "RS256"
  jwtUserIdClaim := envStr environment "JWT_USER_ID_CLAIM" "user_id"
  jwtPublicKey := readPublicKey environment
  jwtPublicKeyFile := envStr environment "JWT_PUBLIC_KEY_FILE" ""
  jwtJwksUrl := envStr environment "JWT_JWKS_URL" ""
  jwtIssuer := envStr environment "JWT_ISSUER" ""
  jwtAudience := envStr environment "JWT_AUDIENCE" ""
  jwtLeeway := envI64 environment "JWT_LEEWAY" 0
  gatewayApiKey := envStr environment "GATEWAY_API_KEY" ""
  authBackendBaseUrl := envStr environment "AUTH_BACKEND_BASE_URL" "http://symfony:8000"
  authRequestTimeoutMs := max (envU64 environment "AUTH_REQUEST_TIMEOUT_MS" 8000) 1000
  redisDsn := envStr environment "REDIS_DSN" ""
  redisStream := envStr environment "REDIS_STREAM" "ws.outbox"
  redisInboxStream := envStr environment "REDIS_INBOX_STREAM" "ws.inbox"
  redisEventsStream := envStr environment "REDIS_EVENTS_STREAM" "ws.events"
  outboxDeleteOnConsume := envBool environment toLowercase "OUTBOX_DELETE_ON_CONSUME" true
  maxConnectionsPerUser :=
    (envUsize environment "MAX_CONNECTIONS_PER_USER").filter fun value => decide (0 < value)
  staleConnectionTimeoutSeconds := max (envI64 environment "CONNECTION_STALE_SECONDS" 120) 0
  stalePruneIntervalSeconds :=
    max (envU64 environment "CONNECTION_PRUNE_INTERVAL_SECONDS" 15) 1
  webtransportPort := envU16 environment "WEBTRANSPORT_PORT" 4433
  websocketPort := envU16 environment "WEBSOCKET_PORT" 8081
  httpApiPort := envU16 environment "HTTP_API_PORT" 8080
  certPemfile := envStr environment "CERT_PEMFILE" "/run/certs/dev_cert.pem"
  keyPemfile := envStr environment "KEY_PEMFILE" "/run/certs/dev_key.pem"

end FromEnv

/-- The bounds that every configuration keeps.  An empty key beside a key file
means that the file gave none. -/
structure Config.WellFormed (readToString : String -> Option String) (config : Config) :
    Prop where
  transport : config.transport = "websocket" \/ config.transport = "webtransport"
  publicKey : config.jwtPublicKey = "" -> config.jwtPublicKeyFile ≠ "" ->
    (readToString config.jwtPublicKeyFile).getD "" = ""
  leeway : i64Min ≤ config.jwtLeeway /\ config.jwtLeeway ≤ i64Max
  authTimeout : 1000 ≤ config.authRequestTimeoutMs /\ config.authRequestTimeoutMs ≤ u64Max
  cap : forall cap, config.maxConnectionsPerUser = some cap -> 0 < cap /\ cap ≤ u64Max
  staleTimeout : 0 ≤ config.staleConnectionTimeoutSeconds /\
    config.staleConnectionTimeoutSeconds ≤ i64Max
  pruneInterval : 1 ≤ config.stalePruneIntervalSeconds /\
    config.stalePruneIntervalSeconds ≤ u64Max
  webtransportPort : config.webtransportPort ≤ u16Max
  websocketPort : config.websocketPort ≤ u16Max
  httpApiPort : config.httpApiPort ≤ u16Max

theorem envI64_mem (environment : Environment) (key : String) {default : Int}
    (inRange : i64Min ≤ default /\ default ≤ i64Max) :
    i64Min ≤ envI64 environment key default /\ envI64 environment key default ≤ i64Max := by
  unfold envI64
  cases read : (environment.var key).bind (parseSigned i64Min i64Max) with
  | none => exact inRange
  | some value =>
      rcases Option.bind_eq_some_iff.mp read with ⟨text, _, parsed⟩
      exact parseSigned_mem parsed

theorem envUnsigned_le (environment : Environment) {bound : Nat} (key : String) {default : Nat}
    (inRange : default ≤ bound) : envUnsigned environment bound key default ≤ bound := by
  unfold envUnsigned
  cases read : (environment.var key).bind (parseUnsigned bound) with
  | none => exact inRange
  | some value =>
      rcases Option.bind_eq_some_iff.mp read with ⟨text, _, parsed⟩
      exact parseUnsigned_le parsed

theorem transportName_cases (requested : String) :
    transportName requested = "websocket" \/ transportName requested = "webtransport" := by
  unfold transportName
  split
  · exact Or.inl rfl
  · exact Or.inl rfl
  · exact Or.inr rfl

/-- Every environment leads to a well-formed configuration. -/
theorem Config.fromEnv_wellFormed (toLowercase : String -> String) (environment : Environment) :
    (Config.fromEnv toLowercase environment).WellFormed environment.readToString where
  transport := transportName_cases _
  publicKey := by
    intro empty file
    change readPublicKey environment = "" at empty
    change envStr environment "JWT_PUBLIC_KEY_FILE" "" ≠ "" at file
    unfold readPublicKey at empty
    dsimp only at empty
    split at empty
    · next both =>
      rw [both.1] at empty
      exact empty
    · next neither => exact absurd ⟨empty, file⟩ neither
  leeway := envI64_mem environment "JWT_LEEWAY" (by decide)
  authTimeout := ⟨le_max_right _ _,
    max_le (envUnsigned_le environment "AUTH_REQUEST_TIMEOUT_MS" (by decide)) (by decide)⟩
  cap := by
    intro cap same
    rcases Option.filter_eq_some_iff.mp same with ⟨read, positive⟩
    rcases Option.bind_eq_some_iff.mp read with ⟨text, _, parsed⟩
    exact ⟨of_decide_eq_true positive, parseUnsigned_le parsed⟩
  staleTimeout := ⟨le_max_right _ _,
    max_le (envI64_mem environment "CONNECTION_STALE_SECONDS" (by decide)).2 (by decide)⟩
  pruneInterval := ⟨le_max_right _ _,
    max_le (envUnsigned_le environment "CONNECTION_PRUNE_INTERVAL_SECONDS" (by decide))
      (by decide)⟩
  webtransportPort := envUnsigned_le environment "WEBTRANSPORT_PORT" (by decide)
  websocketPort := envUnsigned_le environment "WEBSOCKET_PORT" (by decide)
  httpApiPort := envUnsigned_le environment "HTTP_API_PORT" (by decide)

/-! ## Writing a configuration -/

/-- The variables that write a configuration down. -/
def Config.toVariables (config : Config) : String -> Option String
  | "GATEWAY_TRANSPORT" => some config.transport
  | "JWT_ALG" => some config.jwtAlg
  | "JWT_USER_ID_CLAIM" => some config.jwtUserIdClaim
  | "JWT_PUBLIC_KEY" => some config.jwtPublicKey
  | "JWT_PUBLIC_KEY_FILE" => some config.jwtPublicKeyFile
  | "JWT_JWKS_URL" => some config.jwtJwksUrl
  | "JWT_ISSUER" => some config.jwtIssuer
  | "JWT_AUDIENCE" => some config.jwtAudience
  | "JWT_LEEWAY" => some config.jwtLeeway.repr
  | "GATEWAY_API_KEY" => some config.gatewayApiKey
  | "AUTH_BACKEND_BASE_URL" => some config.authBackendBaseUrl
  | "AUTH_REQUEST_TIMEOUT_MS" => some config.authRequestTimeoutMs.repr
  | "REDIS_DSN" => some config.redisDsn
  | "REDIS_STREAM" => some config.redisStream
  | "REDIS_INBOX_STREAM" => some config.redisInboxStream
  | "REDIS_EVENTS_STREAM" => some config.redisEventsStream
  | "OUTBOX_DELETE_ON_CONSUME" => some (if config.outboxDeleteOnConsume then "1" else "0")
  | "MAX_CONNECTIONS_PER_USER" => config.maxConnectionsPerUser.map Nat.repr
  | "CONNECTION_STALE_SECONDS" => some config.staleConnectionTimeoutSeconds.repr
  | "CONNECTION_PRUNE_INTERVAL_SECONDS" => some config.stalePruneIntervalSeconds.repr
  | "WEBTRANSPORT_PORT" => some config.webtransportPort.repr
  | "WEBSOCKET_PORT" => some config.websocketPort.repr
  | "HTTP_API_PORT" => some config.httpApiPort.repr
  | "CERT_PEMFILE" => some config.certPemfile
  | "KEY_PEMFILE" => some config.keyPemfile
  | _ => none

section Written

variable {environment : Environment} {key : String}

theorem envStr_of_var {value : String} (written : environment.var key = some value)
    (default : String) : envStr environment key default = value := by
  rw [envStr, written, Option.getD_some]

theorem envI64_of_var {value : Int} (written : environment.var key = some value.repr)
    (inRange : i64Min ≤ value /\ value ≤ i64Max) (default : Int) :
    envI64 environment key default = value := by
  rw [envI64, written, Option.bind_some, parseSigned_repr inRange, Option.getD_some]

theorem envUnsigned_of_var {bound value : Nat} (written : environment.var key = some value.repr)
    (inRange : value ≤ bound) (default : Nat) :
    envUnsigned environment bound key default = value := by
  rw [envUnsigned, written, Option.bind_some, parseUnsigned_repr inRange, Option.getD_some]

theorem envUsize_of_var {value : Option Nat} (written : environment.var key = value.map Nat.repr)
    (inRange : forall count, value = some count -> count ≤ u64Max) :
    envUsize environment key = value := by
  rw [envUsize, written]
  cases value with
  | none => rfl
  | some count => exact parseUnsigned_repr (inRange count rfl)

end Written

/-- A lower-casing that leaves the written names and flags alone. -/
def LeavesNames (toLowercase : String -> String) : Prop :=
  forall name, name ∈ ["websocket", "webtransport", "1", "0"] -> toLowercase name = name

theorem envBool_of_var {toLowercase : String -> String} (leaves : LeavesNames toLowercase)
    {environment : Environment} {key : String} {flag : Bool}
    (written : environment.var key = some (if flag then "1" else "0")) (default : Bool) :
    envBool environment toLowercase key default = flag := by
  rw [envBool, written, Option.map_some, Option.getD_some]
  cases flag with
  | true =>
      have read : toLowercase (trim "1") = "1" := leaves "1" (by decide)
      rw [if_pos rfl, read]
      rfl
  | false =>
      have read : toLowercase (trim "0") = "0" := leaves "0" (by decide)
      rw [if_neg Bool.false_ne_true, read]
      rfl

/-- A well-formed configuration is read back from what it writes. -/
theorem Config.fromEnv_toVariables {toLowercase : String -> String}
    (leaves : LeavesNames toLowercase) {readToString : String -> Option String} {config : Config}
    (wellFormed : config.WellFormed readToString) :
    Config.fromEnv toLowercase ⟨config.toVariables, readToString⟩ = config := by
  have transport : transportName (toLowercase config.transport) = config.transport := by
    rcases wellFormed.transport with same | same
    · rw [same, leaves "websocket" (by decide)]
      rfl
    · rw [same, leaves "webtransport" (by decide)]
      rfl
  have publicKey : readPublicKey ⟨config.toVariables, readToString⟩ = config.jwtPublicKey := by
    have key := @envStr_of_var ⟨config.toVariables, readToString⟩ "JWT_PUBLIC_KEY" _ rfl ""
    have file := @envStr_of_var ⟨config.toVariables, readToString⟩ "JWT_PUBLIC_KEY_FILE" _ rfl
      ""
    unfold readPublicKey
    rw [key, file]
    dsimp only
    split
    · next both =>
      rw [both.1]
      exact wellFormed.publicKey both.1 both.2
    · rfl
  apply Config.ext
  case transport => exact transport
  case jwtPublicKey => exact publicKey
  case jwtLeeway => exact envI64_of_var rfl wellFormed.leeway _
  case authRequestTimeoutMs =>
    have read := @envUnsigned_of_var ⟨config.toVariables, readToString⟩ "AUTH_REQUEST_TIMEOUT_MS" _
      _ rfl wellFormed.authTimeout.2 8000
    exact (congrArg (max · 1000) read).trans (max_eq_left wellFormed.authTimeout.1)
  case outboxDeleteOnConsume =>
    dsimp only [Config.fromEnv]
    exact envBool_of_var leaves rfl _
  case maxConnectionsPerUser =>
    have read := @envUsize_of_var ⟨config.toVariables, readToString⟩ "MAX_CONNECTIONS_PER_USER" _
      rfl fun cap same => (wellFormed.cap cap same).2
    refine (congrArg (Option.filter _) read).trans ?_
    cases cap : config.maxConnectionsPerUser with
    | none => rfl
    | some count =>
        exact Option.filter_eq_some_iff.mpr ⟨rfl, decide_eq_true (wellFormed.cap count cap).1⟩
  case staleConnectionTimeoutSeconds =>
    have bounds := wellFormed.staleTimeout
    have read := @envI64_of_var ⟨config.toVariables, readToString⟩ "CONNECTION_STALE_SECONDS" _
      rfl ⟨le_trans (by decide) bounds.1, bounds.2⟩ 120
    exact (congrArg (max · 0) read).trans (max_eq_left bounds.1)
  case stalePruneIntervalSeconds =>
    have read := @envUnsigned_of_var ⟨config.toVariables, readToString⟩
      "CONNECTION_PRUNE_INTERVAL_SECONDS" _ _ rfl wellFormed.pruneInterval.2 15
    exact (congrArg (max · 1) read).trans (max_eq_left wellFormed.pruneInterval.1)
  case webtransportPort => exact envUnsigned_of_var rfl wellFormed.webtransportPort _
  case websocketPort => exact envUnsigned_of_var rfl wellFormed.websocketPort _
  case httpApiPort => exact envUnsigned_of_var rfl wellFormed.httpApiPort _
  all_goals
    dsimp only [Config.fromEnv]
    exact envStr_of_var rfl _

/-- The configurations that come out of some environment are the well-formed
ones, and these are exactly the ones that survive being written down and read
again. -/
theorem configurations_are_the_well_formed_ones (toLowercase : String -> String)
    (leaves : LeavesNames toLowercase) (readToString : String -> Option String)
    (config : Config) :
    ((Exists fun var : String -> Option String =>
        Config.fromEnv toLowercase ⟨var, readToString⟩ = config) <->
      config.WellFormed readToString) /\
    (Config.fromEnv toLowercase ⟨config.toVariables, readToString⟩ = config <->
      config.WellFormed readToString) := by
  have reads : config.WellFormed readToString ->
      Config.fromEnv toLowercase ⟨config.toVariables, readToString⟩ = config :=
    Config.fromEnv_toVariables leaves
  have keeps : forall var : String -> Option String,
      Config.fromEnv toLowercase ⟨var, readToString⟩ = config ->
        config.WellFormed readToString := by
    rintro var rfl
    exact Config.fromEnv_wellFormed toLowercase ⟨var, readToString⟩
  refine ⟨⟨?_, fun wellFormed => ⟨config.toVariables, reads wellFormed⟩⟩, ⟨?_, reads⟩⟩
  · rintro ⟨var, same⟩
    exact keeps var same
  · exact keeps config.toVariables

/-- The configuration of an empty environment, written down and read again. -/
theorem configurations_are_the_well_formed_ones_of_defaults :
    LeavesNames asciiLowercase /\
      Config.fromEnv asciiLowercase
          ⟨(Config.fromEnv asciiLowercase ⟨fun _ => none, fun _ => none⟩).toVariables,
            fun _ => none⟩ =
        Config.fromEnv asciiLowercase ⟨fun _ => none, fun _ => none⟩ := by
  have leaves : LeavesNames asciiLowercase := by
    unfold LeavesNames
    decide
  have defaults := configurations_are_the_well_formed_ones asciiLowercase leaves (fun _ => none)
    (Config.fromEnv asciiLowercase ⟨fun _ => none, fun _ => none⟩)
  exact ⟨leaves, defaults.2.mpr (defaults.1.mp ⟨fun _ => none, rfl⟩)⟩

end Process
end Gateway
