/-
# The freshness gates

Two checks bound how old a message may be: `CheckHandshakeFresh` for hellos and the tolerance of
the webhook.  Both compare the clock with the message's timestamp in nanoseconds of 64 bits,
where the difference saturates and the least value has no negation.  A timestamp that is at least
`2 ^ 63` nanoseconds, about 292 years, ahead of the clock passes both, unless it is too late for
the time library: then the seconds wrap around and it is read as one of the remote past.
-/
import Gemina.Gateway.Admission
import Gemina.Entitlement.Stripe

namespace Gemina

variable {ts : Int64} {now tol : ℤ}

/-- The inputs on which the gates compare correctly.  A timestamp that a `Time` can hold is less
than `2 ^ 63` nanoseconds ahead of the clock, and unless the tolerance is the greatest duration it
may be any time behind it.  A later timestamp is read as the instant `2 ^ 64` seconds before: the
clock is outside the tolerance of both, and not `2 ^ 63` nanoseconds behind the one that is read;
or the tolerance is the greatest duration, with which every such timestamp passes, and the clock
is in it. -/
def GateExact (ts : Int64) (now tol : ℤ) : Prop :=
  if ts.toInt ≤ maxUnix then
    minDuration < now - ts.toInt * second ∧
      (now - ts.toInt * second ≤ maxDuration ∨ tol < maxDuration)
  else
    (tol < maxDuration ∧ minDuration < now - (ts.toInt - 2 ^ 64) * second ∧
      tol < |now - (ts.toInt - 2 ^ 64) * second| ∧ tol < |now - ts.toInt * second|) ∨
    (tol = maxDuration ∧ |now - ts.toInt * second| ≤ tol)

instance (ts : Int64) (now tol : ℤ) : Decidable (GateExact ts now tol) :=
  if h : ts.toInt ≤ maxUnix then decidable_of_iff' _ (iff_of_eq (if_pos h))
  else decidable_of_iff' _ (iff_of_eq (if_neg h))

/-- **The gates are exact on these inputs**, and on no others. -/
lemma absSkew_exact_iff (h0 : 0 ≤ tol) (hmax : tol ≤ maxDuration) :
    (absSkew ts now ≤ tol ↔ |now - ts.toInt * second| ≤ tol) ↔ GateExact ts now tol := by
  rw [absSkew_le_iff h0 hmax, timeUnix_eq, GateExact]
  simp only [minDuration, maxDuration, second, abs_le, lt_abs] at hmax ⊢
  split_ifs <;> omega

lemma checkHandshakeFresh_ok_iff :
    checkHandshakeFresh ts now tol = .ok () ↔ absSkew ts now ≤ tol := by
  have heq : checkHandshakeFresh ts now tol
      = if absSkew ts now > tol then .error errStaleHandshake else .ok () := rfl
  rw [heq]
  by_cases h : absSkew ts now ≤ tol
  · simp [h, not_lt.mpr h]
  · simp [h, not_le.mp h]

/-! ## The two callers -/

/-- Only a hello that passes the gate is admitted. -/
lemma Admitter.fresh_of_handshake {L : Type} {C : Crypto} {T : TokenLib} {a : Admitter}
    {leaser : Option (Leaser L)} {identityPriv clientHello : Bytes} {store : SessionStore} {l : L}
    {tokenNow : ℤ} {seed : KeySeed} {hello : ClientHello} {answer : Admitter.Answer}
    (hdec : decodeClientHello clientHello = .ok hello)
    (hok : (a.handshake C T leaser identityPriv store l now tokenNow seed clientHello).1
      = .ok answer) :
    absSkew hello.timestamp now ≤ a.tolerance := by
  rcases hfresh : checkHandshakeFresh hello.timestamp now a.tolerance with e | u
  · have hkey : a.handshakeKey C now seed clientHello = .error e := by
      simp [Admitter.handshakeKey, hdec, hfresh]
    simp [Admitter.handshake, hkey] at hok
  · exact checkHandshakeFresh_ok_iff.mp hfresh

/-- Errors of one operation with different texts are different. -/
lemma providerErr_inj {op : String} {e e' : GoError} (h : providerErr op e = providerErr op e') :
    e.text = e'.text := by
  have htext : "entitlement: provider " ++ op ++ ": " ++ e.text
      = "entitlement: provider " ++ op ++ ": " ++ e'.text := congrArg GoError.text h
  exact (String.append_right_inj _).mp htext

/-- No other error of the webhook looks like that of the timestamp: they begin with different
letters. -/
lemma ne_errTimestamp {text : String} (h : text.toList.head? ≠ some 't') :
    providerErr "webhook" ⟨text⟩ ≠ errTimestamp := by
  intro heq
  have htext : text = "timestamp outside tolerance" := providerErr_inj heq
  rw [htext] at h
  exact h rfl

/-- After the signature was verified, the timestamp is no longer looked at. -/
lemma paymentEvent_ne_errTimestamp (T : TokenLib) (unmarshal : Bytes → Except GoError StripeEvent)
    (payload : Bytes) : paymentEvent T unmarshal payload ≠ .error errTimestamp := by
  rw [paymentEvent]
  split
  · simpa using ne_errTimestamp (by simp)
  · split
    · simpa using ne_errTimestamp (by simp)
    · rename_i ev _ _
      generalize (if ev.clientReferenceID = [] then ev.metadataSubject
        else ev.clientReferenceID) = subject
      simp only
      split
      · simpa using ne_errTimestamp (by simp)
      · split
        · simpa using ne_errTimestamp (by simp)
        · simp

/-- A webhook whose header parses is past its timestamp check exactly if it passes the gate. -/
lemma verifyWebhook_past_gate {T : TokenLib} {unmarshal : Bytes → Except GoError StripeEvent}
    {p : StripeProvider} {payload signature : Bytes} {sigs : List Bytes}
    (hparse : parseStripeSignature signature = .ok (ts, sigs)) :
    verifyWebhook T unmarshal p now payload signature ≠ .error errTimestamp ↔
      absSkew ts now ≤ p.tolerance := by
  rw [verifyWebhook, hparse]
  by_cases h : absSkew ts now ≤ p.tolerance
  · simp only [gt_iff_lt, not_lt.mpr h, if_false, h, iff_true]
    split
    · simpa using ne_errTimestamp (by simp)
    · exact paymentEvent_ne_errTimestamp T unmarshal payload
  · simp [h, not_le.mp h]

/-! ## The result -/

/-- **Where the freshness gates are exact.**  For every timestamp, every instant and every
tolerance: `CheckHandshakeFresh` accepts exactly the timestamps in the tolerance, and
`VerifyWebhook` gets past its check exactly for these, if and only if the timestamp is less than
`2 ^ 63` nanoseconds ahead of the clock (and at most as many behind it, for the greatest
tolerance), or too late for a `Time` and refused for the instant that is read in its place.  Under
this condition `Handshake` admits no hello that is stamped outside the tolerance. -/
theorem freshness_gates (ts : Int64) (now : ℤ) {tol : ℤ} (h0 : 0 ≤ tol)
    (hmax : tol ≤ maxDuration) :
    ((checkHandshakeFresh ts now tol = .ok () ↔ |now - ts.toInt * second| ≤ tol) ↔
      GateExact ts now tol) ∧
    (∀ (L : Type) (C : Crypto) (T : TokenLib) (a : Admitter) (leaser : Option (Leaser L))
        (identityPriv : Bytes) (store : SessionStore) (l : L) (tokenNow : ℤ) (seed : KeySeed)
        (clientHello : Bytes) (hello : ClientHello) (answer : Admitter.Answer),
      a.tolerance = tol → decodeClientHello clientHello = .ok hello → hello.timestamp = ts →
      (a.handshake C T leaser identityPriv store l now tokenNow seed clientHello).1 = .ok answer →
      GateExact ts now tol → |now - ts.toInt * second| ≤ tol) ∧
    (∀ (T : TokenLib) (unmarshal : Bytes → Except GoError StripeEvent) (p : StripeProvider)
        (payload signature : Bytes) (sigs : List Bytes),
      p.tolerance = tol → parseStripeSignature signature = .ok (ts, sigs) →
      ((verifyWebhook T unmarshal p now payload signature ≠ .error errTimestamp ↔
        |now - ts.toInt * second| ≤ tol) ↔ GateExact ts now tol)) := by
  have hexact := @absSkew_exact_iff ts now tol h0 hmax
  refine ⟨?_, ?_, ?_⟩
  · rw [checkHandshakeFresh_ok_iff]
    exact hexact
  · rintro L C T a leaser identityPriv store l tokenNow seed clientHello hello answer rfl hdec rfl
      hok hgate
    exact (hexact.mpr hgate).mp (Admitter.fresh_of_handshake hdec hok)
  · rintro T unmarshal p payload signature sigs rfl hparse
    rw [verifyWebhook_past_gate hparse]
    exact hexact

section Sample

set_option maxRecDepth 8000

/-- A hello that is stamped with the time of the clock is fresh, one that is stamped an hour later
is not, and neither is one with the last of all timestamps. -/
theorem freshness_gates_now :
    checkHandshakeFresh 1700000000 (1700000000 * second) defaultHandshakeTolerance = .ok () ∧
    checkHandshakeFresh 1700003600 (1700000000 * second) defaultHandshakeTolerance ≠ .ok () ∧
    checkHandshakeFresh 9223372036854775807 (1700000000 * second) defaultHandshakeTolerance
      ≠ .ok () := by
  have hexact := fun ts => (@freshness_gates ts (1700000000 * second) defaultHandshakeTolerance
    (by decide) (by decide)).1
  exact ⟨((hexact _).mpr (by decide)).mpr (by decide),
    fun h => absurd (((hexact _).mpr (by decide)).mp h) (by decide),
    fun h => absurd (((hexact _).mpr (by decide)).mp h) (by decide)⟩

/-- **A timestamp 292 years ahead is taken for fresh.**  The clock is in the year 2023 and the
messages are stamped in the year 2316: the hello is admitted, and the webhook is past its check. -/
theorem far_future_is_fresh :
    defaultHandshakeTolerance < |1700000000 * second - (10923372037 : Int64).toInt * second| ∧
    (∃ answer, (openAdmitter.handshake sumCrypto plainTokenLib (none : Option (Leaser Unit)) [1]
      SessionStore.new () (1700000000 * second) (1700000000 * second) (.ok (ByteArrayN.zero _))
      (helloStamped 1 10923372037)).1 = .ok answer) ∧
    verifyWebhook plainTokenLib (fun _ => .error ⟨"no event"⟩) ⟨[1], 300 * second⟩
      (1700000000 * second) [] (ascii "t=10923372037,v1=00") ≠ .error errTimestamp := by
  have hparse : parseStripeSignature (ascii "t=10923372037,v1=00")
      = .ok (10923372037, [ascii "00"]) := by decide +kernel
  refine ⟨by decide, ⟨_, rfl⟩, ?_⟩
  exact (verifyWebhook_past_gate hparse).mpr (by decide)

end Sample

end Gemina
