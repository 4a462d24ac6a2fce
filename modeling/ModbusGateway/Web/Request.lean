import ModbusGateway.Ota.Handlers
import ModbusGateway.Web.Save

/-!
# Configuration requests

`request_body`, which both configuration routes begin with, and the two routes: `validate_handler`, and
`save_handler` from the request on.
-/

namespace ModbusGateway

/-- What the calls of `request_body` return, besides those of the authorization. -/
structure BodyCalls extends AuthCalls where
  gatewayHeader : EspErr × ByteString
  typeHeader : EspErr × ByteString
  contentLen : Nat
  buffer : Bool
  clock : Nat → Int
  received : Nat → Int
  body : Nat → UInt8

/-- A string literal as bytes. -/
def literal (s : String) : ByteString := s.toList.map fun c => UInt8.ofNat c.toNat

/-- The receive loop: the bytes in the body, or the refusal after a failed call. -/
def bodyLoop (calls : BodyCalls) (deadline : Int) (used turn : Nat) : Except Denial Nat :=
  if used < calls.contentLen ∧ calls.clock (turn + 1) < deadline then
    if hend : calls.received turn ≤ 0 then
      .error ⟨"408 Request Timeout", "Upload incomplete; saved configuration unchanged", false⟩
    else bodyLoop calls deadline (used + (calls.received turn).toNat) (turn + 1)
  else .ok used
termination_by calls.contentLen - used
decreasing_by omega

/-- `request_body`. -/
def requestBody (calls : BodyCalls) (s : OtaState) : Except Denial ByteString :=
  match gatewayOtaAuthorizeMutation calls.toAuthCalls s with
  | some denial => .error denial
  | none =>
    if calls.gatewayHeader.1 ≠ ESP_OK ∨ ¬ sameString calls.gatewayHeader.2 (literal "1") then
      .error ⟨"403 Forbidden", "Use the gateway configuration page", false⟩
    else if calls.typeHeader.1 ≠ ESP_OK ∨
        (¬ sameString calls.typeHeader.2 (literal "application/json") ∧
          ¬ sameString calls.typeHeader.2 (literal "application/json; charset=utf-8")) then
      .error ⟨"415 Unsupported Media Type", "Expected application/json", false⟩
    else if calls.contentLen = 0 ∨ calls.contentLen > GW_CONFIG_MAX_JSON then
      .error ⟨"413 Content Too Large", "Configuration body must be 1-98304 bytes", false⟩
    else if ¬ calls.buffer then .error ⟨"500 Internal Server Error", "Out of memory", false⟩
    else
      match bodyLoop calls (calls.clock 0 + 10000000) 0 0 with
      | .error denial => .error denial
      | .ok used =>
        if used ≠ calls.contentLen then .error ⟨"408 Request Timeout", "Upload timed out", false⟩
        else .ok ((List.range used).map calls.body)

/-- The bytes of a body as `char`s. -/
def bodyText (body : ByteString) : List Char := body.map fun c => Char.ofNat c.toNat

/-- A point as `validate_handler` lists it. -/
structure ListedPoint where
  name : CString
  objectType : Nat
  instanceNumber : Nat

/-- The reply of `validate_handler`: the points of the map, or a status line and a message. -/
inductive ValidateReply where
  | points (points : List ListedPoint)
  | refused (status : String) (message : CString)

/-- `validate_handler`; `map` and `parser` say whether the map and the two allocations of its parser are
there. -/
def validateHandler (env : ConfigEnv) (calls : BodyCalls) (map parser : Bool) (s : OtaState) :
    ValidateReply :=
  match requestBody calls s with
  | .error denial => .refused denial.status denial.message.toList
  | .ok body =>
    let text := bodyText body
    if ¬ gatewayJsonIsFlat text then
      .refused "400 Bad Request" "Expected a flat JSON object".toList
    else
      match completeObject env.parse text with
      | some [(key, .string csv)] =>
        if key ≠ "csv".toList ∨ gatewayJsonHasNul text then
          .refused "400 Bad Request" "Expected one JSON csv string without NUL".toList
        else if ¬ map then .refused "500 Internal Server Error" "Out of memory".toList
        else
          match customMapParse env.strtod parser {} csv SAVE_ERROR_BYTES with
          | (false, _, error) => .refused "400 Bad Request" error
          | (true, parsed, _) =>
            .points (parsed.entries.map fun e =>
              ⟨parsed.string e.pointDef.name, e.pointDef.objectType, e.pointDef.instanceNumber⟩)
      | _ => .refused "400 Bad Request" "Expected one JSON csv string without NUL".toList

/-- `save_handler` from the request on, with `gateway_ota_note_restart_pending`. -/
def savePost (env : ConfigEnv) (print : JsonMembers → List Char) (calls : BodyCalls)
    (save : SaveCalls) (kept : Option (List Char)) (s : OtaState) (web : WebState) :
    SaveReply × OtaState × WebState :=
  match requestBody calls s with
  | .error denial => (.refused denial.status denial.message.toList, s, web)
  | .ok body =>
    match saveHandler env print save kept (bodyText body) web with
    | (.saved revision, web) => (.saved revision, { s with restartPending := true }, web)
    | (.refused status message, web) => (.refused status message, s, web)

end ModbusGateway
