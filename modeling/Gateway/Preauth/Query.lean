import Gateway.Foundation.UrlEncoded
import Gateway.Preauth.Authentication

namespace Gateway
namespace Preauth

open Foundation

/-!
# Credentials in a query

The WebSocket endpoint has its query decoded by the web framework, and the
WebTransport endpoint looks for its parameters in the path as it was sent.  The
two read the same credentials exactly from those queries in which there is
nothing to decode.
-/

/-- The name and the value of a segment of a query, as they were sent. -/
def rawPair (segment : String) : String × String :=
  (splitOnce '=' segment).getD (segment, "")

def decodePair (segment : String) : String × String :=
  (decodeComponent (rawPair segment).1, decodeComponent (rawPair segment).2)

/-- The decoded pairs of a query.  Empty segments are passed over. -/
def formPairs (query : String) : List (String × String) :=
  (((query.toList.splitOn '&').map String.ofList).filter fun segment =>
    decide (segment ≠ "")).map decodePair

/-- The value of an optional field of a decoded query, or an error if the field
occurs twice. -/
def optionalField (name : String) (pairs : List (String × String)) : Option (Option String) :=
  match pairs.filter fun pair => decide (pair.1 = name) with
  | [] => some none
  | [pair] => some (some pair.2)
  | _ => none

/-- What the WebSocket endpoint relies on: the extractor reads its two fields from
the decoded pairs of the query. -/
def DecodesForm (extract : String -> Option WsAuthQuery) : Prop :=
  forall query token clientInstanceId,
    optionalField "token" (formPairs query) = some token ->
    optionalField "client_instance_id" (formPairs query) = some clientInstanceId ->
      extract query = some { token := token, clientInstanceId := clientInstanceId }

/-- Such an extractor.  Other parameters are ignored, and a request that repeats a
field is turned down. -/
def extractWsAuthQuery (query : String) : Option WsAuthQuery := do
  let pairs := formPairs query
  let token ← optionalField "token" pairs
  let clientInstanceId ← optionalField "client_instance_id" pairs
  return { token := token, clientInstanceId := clientInstanceId }

theorem decodesForm_extractWsAuthQuery : DecodesForm extractWsAuthQuery := by
  intro query token clientInstanceId foundToken foundInstance
  simp only [extractWsAuthQuery, foundToken, foundInstance]
  rfl

/-! ## Queries that carry a parameter -/

def joinQuery (segments : List String) : String := "&".intercalate segments

/-- One of the segments encodes the parameter, and no other has its name. -/
structure CarriesOnce (segments : List String) (name value segment : String) : Prop where
  encoded : Exists fun rawName => Exists fun rawValue =>
    segment = rawName ++ "=" ++ rawValue /\ Encodes name rawName /\ Encodes value rawValue
  once : Exists fun earlier => Exists fun later => segments = earlier ++ segment :: later /\
    forall other, other ∈ earlier ++ later -> (decodePair other).1 ≠ name

theorem splitOnce_append {mark : Char} {left : String} (absent : mark ∉ left.toList)
    (right : String) :
    splitOnce mark (left ++ String.singleton mark ++ right) = some (left, right) := by
  have chars : (left ++ String.singleton mark ++ right).toList =
      left.toList ++ mark :: right.toList := by
    simp only [String.toList_append, String.toList_singleton, List.append_assoc,
      List.singleton_append]
  have apart : forall char, char ∈ left.toList -> (char != mark) = true := by
    intro char member
    rw [bne_iff_ne]
    rintro rfl
    exact absent member
  rw [splitOnce, chars, if_pos (List.mem_append_right _ List.mem_cons_self),
    List.takeWhile_append_of_pos apart, List.dropWhile_append_of_pos apart,
    List.takeWhile_cons_of_neg (by simp), List.dropWhile_cons_of_neg (by simp), List.append_nil,
    List.tail_cons, String.ofList_toList, String.ofList_toList]

/-- Joined segments are split again. -/
theorem splitOn_joinQuery {segments : List String} (nonempty : segments ≠ [])
    (separated : forall segment, segment ∈ segments -> '&' ∉ segment.toList) :
    (joinQuery segments).toList.splitOn '&' = segments.map String.toList := by
  rw [joinQuery, String.toList_intercalate]
  apply List.splitOn_intercalate
  · intro chars member
    rcases List.mem_map.mp member with ⟨segment, listed, rfl⟩
    exact separated segment listed
  · exact fun empty => nonempty (List.map_eq_nil_iff.mp empty)

section Parameters

variable {segments : List String} {name value segment : String}

/-- The segment of a parameter with a plain name. -/
theorem CarriesOnce.segment_eq (carries : CarriesOnce segments name value segment)
    (unreserved : forall char, char ∈ name.toList -> isUnreserved char = true) :
    Exists fun rawValue => segment = name ++ "=" ++ rawValue /\ Encodes value rawValue /\
      rawPair segment = (name, rawValue) /\ decodePair segment = (name, value) := by
  rcases carries.encoded with ⟨rawName, rawValue, same, encodesName, encodesValue⟩
  have sameName := encoded_eq_of_unreserved encodesName unreserved
  subst sameName
  have absent : '=' ∉ rawName.toList := by
    intro member
    exact absurd (unreserved '=' member) (by decide)
  have raw : rawPair segment = (rawName, rawValue) := by
    rw [rawPair, same]
    exact congrArg (fun found : Option (String × String) => found.getD _)
      (splitOnce_append absent rawValue)
  refine ⟨rawValue, same, encodesValue, raw, ?_⟩
  rw [decodePair, raw, decodeComponent_encoded encodesName, decodeComponent_encoded encodesValue]

/-- The raw parameter is found in the path. -/
theorem CarriesOnce.queryParam (carries : CarriesOnce segments name value segment)
    (unreserved : forall char, char ∈ name.toList -> isUnreserved char = true)
    (separated : forall segment, segment ∈ segments -> '&' ∉ segment.toList) {path : String}
    (bare : '?' ∉ path.toList) :
    Preauth.queryParam (path ++ "?" ++ joinQuery segments) name = some (rawPair segment).2 := by
  rcases carries.once with ⟨earlier, later, whole, others⟩
  have nonempty : segments ≠ [] := by
    rw [whole]
    exact List.append_ne_nil_of_right_ne_nil _ (List.cons_ne_nil _ _)
  have split : splitOnce '?' (path ++ "?" ++ joinQuery segments) =
      some (path, joinQuery segments) := splitOnce_append bare _
  have pairs : ((segments.map String.toList).map fun pair =>
      (splitOnce '=' (String.ofList pair)).getD (String.ofList pair, "")) =
        segments.map rawPair := by
    rw [List.map_map]
    refine List.map_congr_left fun other _ => ?_
    rw [Function.comp_apply, String.ofList_toList, rawPair]
  have passed : (earlier.map rawPair).find? (fun pair => pair.1 == name) = none := by
    rw [List.find?_eq_none]
    intro pair member
    rcases List.mem_map.mp member with ⟨other, listed, rfl⟩
    rw [beq_iff_eq]
    intro same
    apply others other (List.mem_append_left _ listed)
    rw [decodePair, same]
    exact decodeComponent_encoded (encodes_self unreserved)
  rcases carries.segment_eq unreserved with ⟨rawValue, _, _, raw, _⟩
  rw [Preauth.queryParam, split, Option.bind_some, splitOn_joinQuery nonempty separated]
  dsimp only
  rw [pairs, whole, List.map_append, List.map_cons, List.find?_append, passed, Option.none_or,
    raw, List.find?_cons_of_pos (by simp), Option.map_some]

/-- The decoded parameter is found in the query. -/
theorem CarriesOnce.optionalField (carries : CarriesOnce segments name value segment)
    (unreserved : forall char, char ∈ name.toList -> isUnreserved char = true)
    (separated : forall segment, segment ∈ segments -> '&' ∉ segment.toList) :
    Preauth.optionalField name (formPairs (joinQuery segments)) = some (some value) := by
  rcases carries.once with ⟨earlier, later, whole, others⟩
  have nonempty : segments ≠ [] := by
    rw [whole]
    exact List.append_ne_nil_of_right_ne_nil _ (List.cons_ne_nil _ _)
  rcases carries.segment_eq unreserved with ⟨rawValue, same, _, _, decoded⟩
  have visible : segment ≠ "" := by
    intro empty
    have chars := congrArg String.toList (same.symm.trans empty)
    simp at chars
  have skipped : forall part : List String, (forall other, other ∈ part ->
      (decodePair other).1 ≠ name) ->
      ((part.filter fun other => decide (other ≠ "")).map decodePair).filter
        (fun pair => decide (pair.1 = name)) = [] := by
    intro part apart
    rw [List.filter_eq_nil_iff]
    intro pair member found
    rcases List.mem_map.mp member with ⟨other, listed, rfl⟩
    exact apart other (List.mem_of_mem_filter listed) (of_decide_eq_true found)
  have found : (formPairs (joinQuery segments)).filter (fun pair => decide (pair.1 = name)) =
      [(name, value)] := by
    have plain : (segments.map String.toList).map String.ofList = segments := by
      rw [List.map_map]
      exact (List.map_congr_left fun other _ => String.ofList_toList).trans (List.map_id _)
    rw [formPairs, splitOn_joinQuery nonempty separated, plain, whole, List.filter_append,
      List.map_append, List.filter_append,
      skipped earlier fun other listed => others other (List.mem_append_left _ listed),
      List.filter_cons_of_pos (by simpa using visible), List.map_cons, decoded,
      List.filter_cons_of_pos (by simp),
      skipped later fun other listed => others other (List.mem_append_right _ listed)]
    rfl
  rw [Preauth.optionalField, found]

end Parameters

theorem trim_sublist (text : String) : (trim text).toList.Sublist text.toList := by
  rw [trim, String.toList_ofList]
  exact (List.rdropWhile_prefix _ _).sublist.trans (List.dropWhile_sublist _)

theorem stripPrefix_suffix {start text rest : String}
    (stripped : stripPrefix start text = some rest) : start.toList ++ rest.toList = text.toList := by
  rcases Option.map_eq_some_iff.mp stripped with ⟨chars, found, same⟩
  rw [← same, String.toList_ofList]
  exact List.isPrefixOf?_eq_some_iff_append_eq.mp found

/-- Normalising a token only removes characters. -/
theorem normalizeBearerToken_sublist (token : String) :
    (normalizeBearerToken token).toList.Sublist token.toList := by
  refine (trim_sublist _).trans ?_
  cases stripped : stripPrefix "Bearer " (trim token) with
  | none => exact List.Sublist.refl _
  | some rest =>
      rw [Option.getD_some]
      refine List.Sublist.trans ?_ (trim_sublist token)
      rw [← stripPrefix_suffix stripped]
      exact List.sublist_append_right _ _

/-- There is nothing to remove from a token without whitespace. -/
theorem normalizeBearerToken_of_visible {token : String}
    (visible : forall char, char ∈ token.toList -> isWhitespace char = false) :
    normalizeBearerToken token = token := by
  have trimmed := trim_of_visible visible
  cases stripped : stripPrefix "Bearer " (trim token) with
  | none => rw [normalizeBearerToken, stripped, Option.getD_none, trimmed]
  | some rest =>
      have chars := stripPrefix_suffix stripped
      rw [trimmed] at chars
      have blank : ' ' ∈ token.toList := by
        rw [← chars]
        exact List.mem_append_left _ (by decide)
      exact absurd (visible ' ' blank) (by decide)

theorem visible_of_encodes {text raw : String} (encodes : Encodes text raw) :
    forall char, char ∈ raw.toList -> isWhitespace char = false := by
  intro char member
  have encoding := EncodesList.isEncoding encodes char member
  simp only [isEncoding, Bool.or_eq_true, beq_iff_eq] at encoding
  rcases encoding with (literal | rfl) | rfl
  · exact isWhitespace_of_isLiteral literal
  · rfl
  · rfl

/-- The raw and the decoded token are the same after normalisation only if they
are the same before. -/
theorem normalizeBearerToken_raw_iff {token raw : String} (encodes : Encodes token raw) :
    normalizeBearerToken raw = normalizeBearerToken token <-> NeedsNoDecoding raw := by
  rw [normalizeBearerToken_of_visible (visible_of_encodes encodes), ← encoded_eq_iff encodes]
  constructor
  · intro same
    have shorter := normalizeBearerToken_sublist token
    rw [← same] at shorter
    exact String.toList_inj.mp
      (shorter.eq_of_length_le (EncodesList.length_le encodes).1)
  · rintro rfl
    exact (normalizeBearerToken_of_visible (visible_of_encodes encodes)).symm

theorem queryPayload_fields (token clientInstanceId : String) :
    queryPayload (some token) (some clientInstanceId) = some (.object
      [("client_instance_id", .string clientInstanceId),
        ("token", .string (normalizeBearerToken token)), ("type", .string "auth")]) := by
  have first : "token" < "type" := by decide
  have second : "client_instance_id" < "token" := by decide
  rw [queryPayload, Option.map_some, Option.getD_some]
  simp [Json.ofFields, Json.insertField, first, second]

/-- Two payloads agree if their normalised tokens and their instance ids do. -/
theorem queryPayload_inj (left right leftId rightId : String) :
    queryPayload (some left) (some leftId) = queryPayload (some right) (some rightId) <->
      normalizeBearerToken left = normalizeBearerToken right /\ leftId = rightId := by
  rw [queryPayload_fields, queryPayload_fields]
  simp only [Option.some.injEq, Json.object.injEq, List.cons.injEq, Prod.mk.injEq,
    Json.string.injEq, true_and, and_true]
  exact and_comm

theorem needsNoDecoding_segment_iff {name rawValue : String}
    (unreserved : forall char, char ∈ name.toList -> isUnreserved char = true) :
    NeedsNoDecoding (name ++ "=" ++ rawValue) <-> NeedsNoDecoding rawValue := by
  have percent : '%' ∉ name.toList := fun member => absurd (unreserved '%' member) (by decide)
  have plus : '+' ∉ name.toList := fun member => absurd (unreserved '+' member) (by decide)
  simp [NeedsNoDecoding, percent, plus]

theorem token_unreserved : forall char, char ∈ "token".toList -> isUnreserved char = true :=
  List.all_eq_true.mp (by decide)

theorem client_instance_id_unreserved :
    forall char, char ∈ "client_instance_id".toList -> isUnreserved char = true :=
  List.all_eq_true.mp (by decide)

/-- For every query that carries a token and an instance id once each, the
extractor decodes both, and the raw path leads to the same payload exactly if
the two segments need no decoding.  A bearer token always needs it. -/
theorem query_payloads_agree_iff {extract : String -> Option WsAuthQuery}
    (decodes : DecodesForm extract) {path : String} {segments : List String}
    {token clientInstanceId tokenSegment instanceSegment : String}
    (bare : '?' ∉ path.toList)
    (separated : forall segment, segment ∈ segments -> '&' ∉ segment.toList)
    (carriesToken : CarriesOnce segments "token" token tokenSegment)
    (carriesInstance :
      CarriesOnce segments "client_instance_id" clientInstanceId instanceSegment) :
    let sessionPath := path ++ "?" ++ joinQuery segments
    let rawPayload := queryPayload (queryParam sessionPath "token")
      (queryParam sessionPath "client_instance_id")
    Exists fun query => extract (joinQuery segments) = some query /\
      query = { token := some token, clientInstanceId := some clientInstanceId } /\
      (rawPayload = queryPayload query.token query.clientInstanceId <->
        NeedsNoDecoding tokenSegment /\ NeedsNoDecoding instanceSegment) /\
      forall jwt, token = "Bearer " ++ jwt ->
        rawPayload ≠ queryPayload query.token query.clientInstanceId := by
  intro sessionPath rawPayload
  rcases carriesToken.segment_eq token_unreserved with
    ⟨rawToken, tokenSame, encodesToken, tokenRaw, _⟩
  rcases carriesInstance.segment_eq client_instance_id_unreserved with
    ⟨rawInstance, instanceSame, encodesInstance, instanceRaw, _⟩
  have extracted := decodes (joinQuery segments) (some token) (some clientInstanceId)
    (carriesToken.optionalField token_unreserved separated)
    (carriesInstance.optionalField client_instance_id_unreserved separated)
  have raw : rawPayload = queryPayload (some rawToken) (some rawInstance) := by
    have foundToken := carriesToken.queryParam token_unreserved separated bare
    have foundInstance := carriesInstance.queryParam client_instance_id_unreserved separated bare
    rw [tokenRaw] at foundToken
    rw [instanceRaw] at foundInstance
    exact congrArg₂ queryPayload foundToken foundInstance
  have agree : rawPayload = queryPayload (some token) (some clientInstanceId) <->
      NeedsNoDecoding tokenSegment /\ NeedsNoDecoding instanceSegment := by
    rw [raw, queryPayload_inj, normalizeBearerToken_raw_iff encodesToken,
      encoded_eq_iff encodesInstance, tokenSame, instanceSame,
      needsNoDecoding_segment_iff token_unreserved,
      needsNoDecoding_segment_iff client_instance_id_unreserved]
  refine ⟨_, extracted, rfl, agree, ?_⟩
  intro jwt bearer same
  have plain := (agree.mp same).1
  rw [tokenSame, needsNoDecoding_segment_iff token_unreserved, ← encoded_eq_iff encodesToken]
    at plain
  have blank : ' ' ∈ rawToken.toList := by
    rw [plain, bearer, String.toList_append]
    exact List.mem_append_left _ (by decide)
  exact absurd (visible_of_encodes encodesToken ' ' blank) (by decide)

theorem carriesOnce_plain {name value segment : String} (earlier later : List String)
    (same : segment = name ++ "=" ++ value)
    (others : forall other, other ∈ earlier ++ later -> (decodePair other).1 ≠ name)
    (nameUnreserved : name.toList.all isUnreserved = true)
    (valueUnreserved : value.toList.all isUnreserved = true) :
    CarriesOnce (earlier ++ segment :: later) name value segment where
  encoded := ⟨name, value, same, encodes_self (List.all_eq_true.mp nameUnreserved),
    encodes_self (List.all_eq_true.mp valueUnreserved)⟩
  once := ⟨earlier, later, rfl, others⟩

def plainSegments : List String := ["v=1", "client_instance_id=x", "token=abc"]

/-- Both transports read a token without special characters. -/
theorem query_payloads_agree_iff_of_plain :
    Exists fun query => extractWsAuthQuery (joinQuery plainSegments) = some query /\
      queryPayload (queryParam ("/wt" ++ "?" ++ joinQuery plainSegments) "token")
          (queryParam ("/wt" ++ "?" ++ joinQuery plainSegments) "client_instance_id") =
        queryPayload query.token query.clientInstanceId := by
  have separated : forall segment, segment ∈ plainSegments -> '&' ∉ segment.toList := by decide
  have carriesToken : CarriesOnce plainSegments "token" "abc" "token=abc" :=
    carriesOnce_plain ["v=1", "client_instance_id=x"] [] rfl (by decide +kernel) (by decide)
      (by decide)
  have carriesInstance :
      CarriesOnce plainSegments "client_instance_id" "x" "client_instance_id=x" :=
    carriesOnce_plain ["v=1"] ["token=abc"] rfl (by decide +kernel) (by decide) (by decide)
  have bare : '?' ∉ "/wt".toList := by decide
  rcases query_payloads_agree_iff decodesForm_extractWsAuthQuery bare separated carriesToken
    carriesInstance with
    ⟨query, extracted, _, agree, _⟩
  exact ⟨query, extracted, agree.mpr (by decide)⟩

def bearerSegments : List String := ["token=Bearer%20abc", "client_instance_id=x"]

theorem bearerSegments_carry :
    CarriesOnce bearerSegments "token" "Bearer abc" "token=Bearer%20abc" /\
      CarriesOnce bearerSegments "client_instance_id" "x" "client_instance_id=x" := by
  have encodes : Encodes "Bearer abc" "Bearer%20abc" := by
    have word : Encodes "Bearer" "Bearer" := encodes_self (List.all_eq_true.mp (by decide))
    have rest : Encodes "abc" "abc" := encodes_self (List.all_eq_true.mp (by decide))
    have blank : EncodesChar ' ' ['%', '2', '0'] :=
      .escaped (by decide) (.cons (by decide) .nil)
    exact EncodesList.append word (.cons blank rest)
  constructor
  · exact
      { encoded := ⟨"token", "Bearer%20abc", rfl,
          encodes_self (List.all_eq_true.mp (by decide)), encodes⟩
        once := ⟨[], ["client_instance_id=x"], rfl, by decide +kernel⟩ }
  · exact carriesOnce_plain ["token=Bearer%20abc"] [] rfl (by decide +kernel) (by decide)
      (by decide)

/-- An encoded bearer token is the bare token on one side only. -/
theorem encoded_bearer_token_differs :
    DecodesForm extractWsAuthQuery /\
      CarriesOnce bearerSegments "token" "Bearer abc" "token=Bearer%20abc" /\
      CarriesOnce bearerSegments "client_instance_id" "x" "client_instance_id=x" /\
      extractWsAuthQuery "token=Bearer%20abc&client_instance_id=x" =
        some { token := some "Bearer abc", clientInstanceId := some "x" } /\
      normalizeBearerToken "Bearer abc" = "abc" /\
      queryPayload (queryParam "/wt?token=Bearer%20abc&client_instance_id=x" "token")
          (queryParam "/wt?token=Bearer%20abc&client_instance_id=x" "client_instance_id") ≠
        queryPayload (some "Bearer abc") (some "x") := by
  have rawToken : queryParam "/wt?token=Bearer%20abc&client_instance_id=x" "token" =
      some "Bearer%20abc" := by decide +kernel
  have rawInstance : queryParam "/wt?token=Bearer%20abc&client_instance_id=x"
      "client_instance_id" = some "x" := by decide +kernel
  have different :
      normalizeBearerToken "Bearer%20abc" ≠ normalizeBearerToken "Bearer abc" := by
    decide +kernel
  refine ⟨decodesForm_extractWsAuthQuery, bearerSegments_carry.1, bearerSegments_carry.2,
    by decide +kernel, by decide +kernel, ?_⟩
  rw [rawToken, rawInstance, Ne, queryPayload_inj]
  exact fun same => different same.1

end Preauth
end Gateway
