import ModbusGateway.Basic

/-!
# Bearer tokens

`ota_auth.c`. A C string is the list of its bytes; what lies behind them is the terminating NUL.
-/

namespace ModbusGateway

abbrev ByteString := List UInt8

/-- `"Bearer "`. -/
def OTA_BEARER_PREFIX : ByteString := [0x42, 0x65, 0x61, 0x72, 0x65, 0x72, 0x20]
def OTA_TOKEN_MIN_LENGTH : Nat := 32
def OTA_TOKEN_MAX_LENGTH : Nat := 128
def OTA_AUTHORIZATION_MAX_LENGTH : Nat := OTA_BEARER_PREFIX.length + OTA_TOKEN_MAX_LENGTH

/-- `ota_role_t`. -/
inductive OtaRole where
  | none
  | viewer
  | admin
  | anonymous
  deriving DecidableEq, Repr

/-- `bounded_length`. -/
def boundedLength : (maximum : Nat) → ByteString → Nat
  | 0, _ => 0
  | _, [] => 0
  | maximum + 1, c :: value => if c = 0 then 0 else boundedLength maximum value + 1

/-- `strlen`. -/
def strlen : ByteString → Nat
  | [] => 0
  | c :: value => if c = 0 then 0 else strlen value + 1

/-- `!strcmp(a, b)`. -/
def sameString (a b : ByteString) : Bool := a.take (strlen a) == b.take (strlen b)

/-- A byte that a token may have. -/
def tokenByte (c : UInt8) : Bool := !(c < 0x21 || c > 0x7E)

/-- `ota_token_configuration_valid`. -/
def otaTokenConfigurationValid (token : ByteString) : Bool :=
  let length := boundedLength (OTA_TOKEN_MAX_LENGTH + 1) token
  if length < OTA_TOKEN_MIN_LENGTH ∨ length > OTA_TOKEN_MAX_LENGTH then false
  else (List.range length).all fun index => tokenByte (token.getD index 0)

/-- `ota_role_tokens_valid`. -/
def otaRoleTokensValid (adminToken viewerToken : ByteString) : Bool :=
  otaTokenConfigurationValid adminToken && otaTokenConfigurationValid viewerToken &&
    !sameString adminToken viewerToken

/-- The loops over `difference`: byte `first + index` of the header against byte `index` of a string. -/
def accumulate (authorization : ByteString) (first : Nat) (expected : ByteString) (length : Nat)
    (difference : UInt8) : UInt8 :=
  (List.range length).foldl
    (fun difference index =>
      difference ||| authorization.getD (first + index) 0 ^^^ expected.getD index 0)
    difference

/-- `ota_authorization_valid`; `none` is `NULL`. -/
def otaAuthorizationValid (authorization : Option ByteString) (authorizationLength : Nat)
    (token : ByteString) : Bool :=
  match authorization with
  | none => false
  | some authorization =>
    if ¬ otaTokenConfigurationValid token then false
    else
      let prefixLength := OTA_BEARER_PREFIX.length
      let tokenLength := strlen token
      if authorizationLength ≠ prefixLength + tokenLength then false
      else
        let difference := accumulate authorization 0 OTA_BEARER_PREFIX prefixLength 0
        let difference := accumulate authorization prefixLength token tokenLength difference
        difference == 0

/-- `ota_authorization_role`. -/
def otaAuthorizationRole (authorization : Option ByteString) (authorizationLength : Nat)
    (adminToken viewerToken : ByteString) : OtaRole :=
  if ¬ otaRoleTokensValid adminToken viewerToken then .none
  else if authorization = none ∧ authorizationLength = 0 then .anonymous
  else if otaAuthorizationValid authorization authorizationLength adminToken then .admin
  else if otaAuthorizationValid authorization authorizationLength viewerToken then .viewer
  else .none

/-- What is cut off at the end of an embedded token. -/
def paddingByte (c : UInt8) : Bool := c == 0 || c == 0x0A || c == 0x0D || c == 0x20 || c == 0x09

/-- The loop that shortens `embedded_length`. -/
def trimmedLength (embedded : ByteString) : Nat → Nat
  | 0 => 0
  | length + 1 =>
    if paddingByte (embedded.getD length 0) then trimmedLength embedded length else length + 1

/-- `ota_copy_embedded_token` into a buffer of `capacity` bytes: the token, if it is one. -/
def otaCopyEmbeddedToken (embedded : ByteString) (capacity : Nat) : Option ByteString :=
  let length := trimmedLength embedded embedded.length
  if length < OTA_TOKEN_MIN_LENGTH ∨ length > OTA_TOKEN_MAX_LENGTH ∨ capacity ≤ length then none
  else if ¬ (List.range length).all fun index => tokenByte (embedded.getD index 0) then none
  else
    let token := embedded.take length
    if otaTokenConfigurationValid token then some token else none

/-- The token checks of `gateway_ota_start`: the tokens it goes on with. -/
def startTokens (embeddedAdmin embeddedViewer : ByteString) : Option (ByteString × ByteString) := do
  let adminToken ← otaCopyEmbeddedToken embeddedAdmin (OTA_TOKEN_MAX_LENGTH + 1)
  let viewerToken ← otaCopyEmbeddedToken embeddedViewer (OTA_TOKEN_MAX_LENGTH + 1)
  if otaRoleTokensValid adminToken viewerToken then return (adminToken, viewerToken) else none

end ModbusGateway
