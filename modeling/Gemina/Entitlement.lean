/-
# Entitlement

The gate that admission asks (`token.go` and `service.go` of `internal/entitlement`): a
self-hosted gateway admits everyone, a hosted one only the bearer of a token that is signed
and not expired.

HMAC-SHA256, base64url and the quoting of `fmt` come from the Go standard library and are
parameters of the model.
-/
import Gemina.ClientCore.Handshake

namespace Gemina

/-! ## Tokens -/

/-- The library functions that tokens are made with. -/
structure TokenLib where
  /-- HMAC-SHA256, of key and message. -/
  hmac : Bytes → Bytes → Bytes
  /-- `base64.RawURLEncoding.EncodeToString`. -/
  encodeToString : Bytes → Bytes
  /-- `base64.RawURLEncoding.DecodeString`. -/
  decodeString : Bytes → Option Bytes
  /-- `%q` of `fmt`. -/
  quote : Bytes → String

/-- A stand-in for these functions that can be evaluated. -/
def plainTokenLib : TokenLib := ⟨fun key msg => key ++ msg, fun b => b, some, fun _ => ""⟩

/-- `Tier`, a string: a token may carry any. -/
abbrev Tier : Type := Bytes

def tierHosted : Tier := ascii "hosted"
def tierSelfHosted : Tier := ascii "self-hosted"

/-- `validTier`. -/
def validTier (t : Tier) : Bool := t = tierHosted

/-- `Claims`. -/
structure Claims where
  subject : Bytes
  tier : Tier
  /-- The last second of validity. -/
  expiry : Int64
deriving DecidableEq

def errMalformedToken : GoError := ⟨"entitlement: malformed token"⟩
def errTokenSignature : GoError := ⟨"entitlement: signature mismatch"⟩
def errExpired : GoError := ⟨"entitlement: token expired"⟩
def errInvalidClaims : GoError := ⟨"entitlement: invalid claims"⟩
def errNoKey : GoError := ⟨"entitlement: empty signing key"⟩

/-- `Time.Unix`. -/
def unixSeconds (t : ℤ) : ℤ := t / second

/-- `sign`. -/
def signToken (T : TokenLib) (payload key : Bytes) : Bytes := T.encodeToString (T.hmac key payload)

/-- The payload that `Issue` signs. -/
def tokenPayload (T : TokenLib) (c : Claims) : Bytes :=
  T.encodeToString (c.subject ++ 124 :: c.tier ++ 124 :: formatInt c.expiry)

/-- `Issue`. -/
def issueToken (T : TokenLib) (c : Claims) (key : Bytes) : Except GoError Bytes :=
  if key.length = 0 then .error errNoKey
  else if c.subject = [] ∨ 124 ∈ c.subject then .error (errInvalidClaims.wrap ⟨"subject"⟩)
  else if !validTier c.tier then .error (errInvalidClaims.wrap ⟨"tier " ++ T.quote c.tier⟩)
  else if c.expiry.toInt ≤ 0 then .error (errInvalidClaims.wrap ⟨"expiry"⟩)
  else .ok (tokenPayload T c ++ 46 :: signToken T (tokenPayload T c) key)

/-- `Verify`. -/
def verifyToken (T : TokenLib) (token key : Bytes) (now : ℤ) : Except GoError Claims :=
  if key.length = 0 then .error errNoKey
  else match cut token 46 with
    | none => .error errMalformedToken
    | some (payload, gotSig) =>
      if payload = [] ∨ gotSig = [] then .error errMalformedToken
      else if gotSig ≠ signToken T payload key then .error errTokenSignature
      else match T.decodeString payload with
        | none => .error (errMalformedToken.wrap ⟨"payload encoding"⟩)
        | some raw =>
          match raw.splitOn 124 with
          | [subject, tier, expiry] =>
            match parseInt expiry with
            | none => .error (errMalformedToken.wrap ⟨"expiry"⟩)
            | some exp =>
              if !validTier tier then .error (errInvalidClaims.wrap ⟨"tier " ++ T.quote tier⟩)
              else if unixSeconds now > exp.toInt then .error errExpired
              else .ok ⟨subject, tier, exp⟩
          | _ => .error (errMalformedToken.wrap ⟨"payload fields"⟩)

/-! ## The service -/

/-- `Mode`. -/
inductive Mode where
  | modeOpen
  | modeHosted
deriving DecidableEq, Repr

def errNotConfigured : GoError := ⟨"entitlement: service not configured for hosted mode"⟩

/-- `Service`, as far as admission reads it. -/
structure Service where
  mode : Mode
  key : Bytes

/-- `Service.Admit`. -/
def Service.admitToken (T : TokenLib) (s : Service) (token : Bytes) (now : ℤ) :
    Except GoError Claims :=
  if s.mode = .modeOpen then .ok ⟨[], tierSelfHosted, 0⟩
  else if s.key.length = 0 then .error errNotConfigured
  else if token = [] then .error (errMalformedToken.wrap ⟨"token required in hosted mode"⟩)
  else match verifyToken T token s.key now with
    | .error e => .error e
    | .ok claims =>
      if claims.tier ≠ tierHosted then
        .error (errInvalidClaims.wrap ⟨"tier " ++ T.quote claims.tier ++ " not admitted"⟩)
      else .ok claims

end Gemina
