/-
# Payments through Stripe

The payment provider (`stripe.go` of `internal/entitlement`) and the part of the service that
turns a payment into a token (`service.go`).  A checkout is started for a subject and a tier;
when it is paid, Stripe posts a signed event with both, and the service issues a token.

The round trip over HTTP and the decoding of JSON are parameters of the model.  HMAC-SHA256 and
the quoting of `fmt` are those of `TokenLib`.
-/
import Gemina.Entitlement.Tokens
import Gemina.Lib.Hex

namespace Gemina

/-! ## The provider -/

/-- `ProviderError`, by its text. -/
def providerErr (op : String) (err : GoError) : GoError :=
  ⟨"entitlement: provider " ++ op ++ ": " ++ err.text⟩

/-- `StripeProvider`, as far as the checkout and the webhook read it. -/
structure StripeProvider where
  whSecret : Bytes
  /-- The tolerance of the webhook's timestamp, a `time.Duration`. -/
  tolerance : ℤ

/-- `CheckoutSession`. -/
structure CheckoutSession where
  id : Bytes
  subject : Bytes
  tier : Tier
  url : Bytes
deriving DecidableEq

/-- `checkoutMode`. -/
def checkoutMode (tier : Tier) : Bytes :=
  if tier = tierHosted then ascii "subscription" else ascii "payment"

/-- The form that is posted to start a checkout. -/
structure CheckoutForm where
  mode : Bytes
  clientReferenceID : Bytes
  metadataSubject : Bytes
  metadataTier : Bytes

/-- What `CreateCheckout` uses besides the provider: the round trip, with the status and the
body of the response, and the decoding of the body to the id and the URL of the session. -/
structure CheckoutLib where
  post : CheckoutForm → Except GoError (ℕ × Bytes)
  unmarshal : Bytes → Except GoError (Bytes × Bytes)

/-- `StripeProvider.CreateCheckout`. -/
def createCheckout (T : TokenLib) (H : CheckoutLib) (subject : Bytes) (tier : Tier) :
    Except GoError CheckoutSession :=
  if subject = [] then .error (providerErr "checkout" ⟨"empty subject"⟩)
  else if !validTier tier then
    .error (providerErr "checkout" ⟨"unknown tier " ++ T.quote tier⟩)
  else match H.post ⟨checkoutMode tier, subject, subject, tier⟩ with
    | .error e => .error (providerErr "checkout" e)
    | .ok (status, body) =>
      if status < 200 ∨ status ≥ 300 then
        .error (providerErr "checkout" ⟨"stripe responded " ++ toString status⟩)
      else match H.unmarshal body with
        | .error e => .error (providerErr "checkout" ⟨"decode response: " ++ e.text⟩)
        | .ok (id, url) =>
          if id = [] then
            .error (providerErr "checkout" ⟨"stripe response missing session id"⟩)
          else .ok ⟨id, subject, tier, url⟩

/-! ## The webhook -/

/-- `stripeEvent`. -/
structure StripeEvent where
  type : Bytes
  clientReferenceID : Bytes
  metadataSubject : Bytes
  metadataTier : Bytes

/-- `PaymentEvent`. -/
structure PaymentEvent where
  subject : Bytes
  tier : Tier
  paid : Bool
deriving DecidableEq

/-- The loop of `parseStripeSignature`: the timestamp, the signatures, and whether there was a
timestamp. -/
def parseSignatureParts (ts : Int64) (v1s : List Bytes) (haveTS : Bool) :
    List Bytes → Except GoError (Int64 × List Bytes × Bool)
  | [] => .ok (ts, v1s, haveTS)
  | part :: parts =>
    match cut (trimSpace part) 61 with
    | none => parseSignatureParts ts v1s haveTS parts
    | some (k, v) =>
      if k = ascii "t" then
        match parseInt v with
        | none => .error ⟨"malformed timestamp"⟩
        | some ts => parseSignatureParts ts v1s true parts
      else if k = ascii "v1" then
        if v ≠ [] then parseSignatureParts ts (v1s ++ [v]) haveTS parts
        else parseSignatureParts ts v1s haveTS parts
      else parseSignatureParts ts v1s haveTS parts

/-- `parseStripeSignature`. -/
def parseStripeSignature (header : Bytes) : Except GoError (Int64 × List Bytes) :=
  if header = [] then .error ⟨"empty signature header"⟩
  else match parseSignatureParts 0 [] false (header.splitOn 44) with
    | .error e => .error e
    | .ok (ts, v1s, haveTS) =>
      if !haveTS then .error ⟨"missing timestamp"⟩
      else if v1s.length = 0 then .error ⟨"missing v1 signature"⟩
      else .ok (ts, v1s)

/-- `anyHexEqual`: all candidates are compared. -/
def anyHexEqual (candidates : List Bytes) (want : Bytes) : Bool :=
  candidates.foldl (fun matched c =>
    match Hex.decode c with
    | none => matched
    | some got => if got = want then true else matched) false

/-- The string that is signed: the timestamp, a dot, and the payload. -/
def signedPayload (ts : Int64) (payload : Bytes) : Bytes := formatInt ts ++ 46 :: payload

/-- The distance of a timestamp from the clock, as both freshness checks compute it: the
difference saturates, and the negation of the least duration is that duration again. -/
def absSkew (ts : Int64) (now : ℤ) : ℤ :=
  let skew := timeSub now (timeUnix ts)
  if skew < 0 then negDuration skew else skew

/-- What the gates accept: what is in the tolerance, and what saturates. -/
lemma absSkew_le_iff {ts : Int64} {now tol : ℤ} (h0 : 0 ≤ tol)
    (hmax : tol ≤ maxDuration) :
    absSkew ts now ≤ tol ↔ now - timeUnix ts ≤ minDuration ∨ |now - timeUnix ts| ≤ tol ∨
      (maxDuration ≤ now - timeUnix ts ∧ tol = maxDuration) := by
  simp only [maxDuration] at hmax
  simp only [absSkew, timeSub, negDuration, abs_le, minDuration, maxDuration]
  split_ifs <;> omega

/-- The part of `VerifyWebhook` after the signature was verified. -/
def paymentEvent (T : TokenLib) (unmarshal : Bytes → Except GoError StripeEvent)
    (payload : Bytes) : Except GoError PaymentEvent :=
  match unmarshal payload with
  | .error e => .error (providerErr "webhook" ⟨"decode event: " ++ e.text⟩)
  | .ok ev =>
    if ev.type ≠ ascii "checkout.session.completed" then
      .error (providerErr "webhook" ⟨"unhandled event type " ++ T.quote ev.type⟩)
    else
      let subject := if ev.clientReferenceID = [] then ev.metadataSubject
        else ev.clientReferenceID
      if subject = [] then .error (providerErr "webhook" ⟨"event missing subject"⟩)
      else if !validTier ev.metadataTier then
        .error (providerErr "webhook" ⟨"unknown tier " ++ T.quote ev.metadataTier⟩)
      else .ok ⟨subject, ev.metadataTier, true⟩

def errTimestamp : GoError := providerErr "webhook" ⟨"timestamp outside tolerance"⟩

/-- `StripeProvider.VerifyWebhook`, with the clock that it reads. -/
def verifyWebhook (T : TokenLib) (unmarshal : Bytes → Except GoError StripeEvent)
    (p : StripeProvider) (now : ℤ) (payload signature : Bytes) : Except GoError PaymentEvent :=
  match parseStripeSignature signature with
  | .error e => .error (providerErr "webhook" e)
  | .ok (ts, sigs) =>
    if absSkew ts now > p.tolerance then .error errTimestamp
    else if !anyHexEqual sigs (T.hmac p.whSecret (signedPayload ts payload)) then
      .error (providerErr "webhook" ⟨"signature mismatch"⟩)
    else paymentEvent T unmarshal payload

/-! ## The service -/

/-- `Service`, with the fields that billing reads. -/
structure BillingService extends Service where
  provider : Option StripeProvider
  /-- How long a token is valid, a `time.Duration`. -/
  tokenTTL : ℤ

/-- The expiry of a token that is issued at `now`, in Unix seconds. -/
def BillingService.expiry (s : BillingService) (now : ℤ) : Int64 :=
  Int64.ofInt (unixSeconds (now + s.tokenTTL))

/-- `Service.OnPaymentEvent`, with what the provider's clock and the service's own clock say. -/
def BillingService.onPaymentEvent (T : TokenLib) (unmarshal : Bytes → Except GoError StripeEvent)
    (s : BillingService) (providerNow now : ℤ) (payload signature : Bytes) :
    Except GoError Bytes :=
  match s.provider with
  | none => .error errNotConfigured
  | some p =>
    if s.key.length = 0 then .error errNotConfigured
    else match verifyWebhook T unmarshal p providerNow payload signature with
      | .error e => .error e
      | .ok ev =>
        if !ev.paid then .error (errInvalidClaims.wrap ⟨"event not paid"⟩)
        else issueToken T ⟨ev.subject, ev.tier, s.expiry now⟩ s.key

end Gemina
