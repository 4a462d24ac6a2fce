import ModbusGateway.Ota.Auth
import Mathlib.Data.List.DropRight

/-!
# Credentials

The tokens on the way from their files: `validate_tokens` of `validate_ota_credentials.py` before a build, the
embedding into the firmware, and `_read_token` of `ota_client.py`.
-/

namespace ModbusGateway

/-- The checks of `validate_tokens` on the contents of a file. -/
def validToken (token : ByteString) : Bool :=
  decide (OTA_TOKEN_MIN_LENGTH ≤ token.length ∧ token.length ≤ OTA_TOKEN_MAX_LENGTH) && token.all tokenByte

/-- `validate_tokens` on the contents of the files. -/
def validateTokens (token : ByteString) (viewerToken : Option ByteString) : Bool :=
  match viewerToken with
  | none => validToken token
  | some viewer => validToken token && validToken viewer && token != viewer

/-- A file that is embedded as text: a NUL stands behind it. -/
def embeddedText (file : ByteString) : ByteString := file ++ [0]

/-- ASCII white space in Python. -/
def pythonSpace (c : UInt8) : Bool := (0x09 ≤ c && c ≤ 0x0D) || (0x1C ≤ c && c ≤ 0x20)

/-- `strip`. -/
def strip (text : ByteString) : ByteString := (text.dropWhile pythonSpace).rdropWhile pythonSpace

/-- `_read_token` of a file whose permissions are right; an empty one, for which it asks the user, is `none`. -/
def readToken (file : ByteString) : Option ByteString :=
  if file.any (0x80 ≤ ·) then none
  else
    let token := strip file
    if validToken token then some token else none

end ModbusGateway
