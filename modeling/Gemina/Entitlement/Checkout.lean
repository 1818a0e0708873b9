/-
# From the checkout to the gateway

A subject and a tier pass four stages: `CreateCheckout` validates them, `VerifyWebhook` reads
them from the event, `Issue` puts them into a token, and `Admit` takes them out again.  The first
two accept subjects with the character `|`, which separates the fields of a token and which
`Issue` refuses.
-/
import Gemina.Entitlement.Stripe

namespace Gemina

/-! ## The header that Stripe sends -/

/-- The header of a webhook, as Stripe documents it: the time, and the hexadecimal MAC of the
time and the payload. -/
def signatureHeader (T : TokenLib) (secret : Bytes) (ts : Int64) (payload : Bytes) : Bytes :=
  ascii "t=" ++ formatInt ts ++ 44 :: (ascii "v1="
    ++ Hex.encode (T.hmac secret (signedPayload ts payload)))

/-- **The provider reads the header that Stripe writes.** -/
lemma parse_signatureHeader {T : TokenLib} (hT : T.Lawful) (secret payload : Bytes) {ts : Int64}
    (hts : 0 < ts.toInt) :
    parseStripeSignature (signatureHeader T secret ts payload)
      = .ok (ts, [Hex.encode (T.hmac secret (signedPayload ts payload))]) := by
  have hdigits : ∀ c ∈ formatInt ts, 48 ≤ c.toNat ∧ c.toNat ≤ 57 := by
    rw [formatInt_of_pos hts]
    exact fun c hc => Decimal.digit_of_mem_encode hc
  have hhex := fun c => @Hex.of_mem_encode (T.hmac secret (signedPayload ts payload)) c
  have hne : Hex.encode (T.hmac secret (signedPayload ts payload)) ≠ [] := by
    refine Hex.encode_ne_nil fun hnil => ?_
    have hlen := hT.length_hmac secret (signedPayload ts payload)
    rw [hnil] at hlen
    cases hlen
  rw [parseStripeSignature, signatureHeader]
  generalize Hex.encode (T.hmac secret (signedPayload ts payload)) = mac at hhex hne
  have ht : ascii "t=" = [116, 61] := by decide
  have hv1 : ascii "v1=" = [118, 49, 61] := by decide
  rw [ht, hv1]
  -- the header has two parts
  have hsplit : ([116, 61] ++ formatInt ts ++ 44 :: ([118, 49, 61] ++ mac)).splitOn 44
      = [[116, 61] ++ formatInt ts, [118, 49, 61] ++ mac] := by
    rw [List.splitOn_append_cons_self_of_not_mem, List.splitOn_eq_singleton]
    · intro hmem
      rcases List.mem_append.mp hmem with hmem | hmem
      · simp at hmem
      · have := (hhex _ hmem).1
        simp at this
    · intro hmem
      rcases List.mem_append.mp hmem with hmem | hmem
      · simp at hmem
      · have := (hdigits _ hmem).1
        simp at this
  have htrim : trimSpace ([116, 61] ++ formatInt ts) = [116] ++ 61 :: formatInt ts := by
    refine trimSpace_eq_self fun c hc => ?_
    rcases List.mem_append.mp hc with hc | hc
    · simp only [List.mem_cons, List.not_mem_nil, or_false] at hc
      rcases hc with rfl | rfl <;> decide
    · have := hdigits c hc
      omega
  have htrim' : trimSpace ([118, 49, 61] ++ mac) = [118, 49] ++ 61 :: mac := by
    refine trimSpace_eq_self fun c hc => ?_
    rcases List.mem_append.mp hc with hc | hc
    · simp only [List.mem_cons, List.not_mem_nil, or_false] at hc
      rcases hc with rfl | rfl | rfl <;> decide
    · have := hhex c hc
      omega
  have hkey : ascii "t" = [116] := by decide
  have hkey' : ascii "v1" = [118, 49] := by decide
  rw [if_neg (by simp), hsplit]
  simp only [parseSignatureParts, htrim, htrim', cut_append (show (61 : UInt8) ∉ [116] by decide),
    cut_append (show (61 : UInt8) ∉ [118, 49] by decide), hkey, hkey', if_true,
    parseInt_formatInt]
  simp [hne]

/-! ## The webhook of a paid checkout -/

/-- The header signs the payload, with the time `ts`. -/
def Signed (T : TokenLib) (p : StripeProvider) (payload header : Bytes) (ts : Int64) : Prop :=
  ∃ v1s, parseStripeSignature header = .ok (ts, v1s) ∧
    ∃ v ∈ v1s, Hex.decode v = some (T.hmac p.whSecret (signedPayload ts payload))

/-- What Stripe sends is signed. -/
lemma signed_signatureHeader {T : TokenLib} (hT : T.Lawful) (p : StripeProvider) (payload : Bytes)
    {t : Int64} (ht : 0 < t.toInt) :
    Signed T p payload (signatureHeader T p.whSecret t payload) t :=
  ⟨_, parse_signatureHeader hT p.whSecret payload ht, _, List.mem_singleton.mpr rfl,
    Hex.decode_encode _⟩

/-- A loop that remembers whether some element had a property. -/
lemma foldl_eq_true_iff {α : Type*} {f : Bool → α → Bool} {p : α → Prop}
    (hf : ∀ matched a, f matched a = true ↔ matched = true ∨ p a) (l : List α) (matched : Bool) :
    l.foldl f matched = true ↔ matched = true ∨ ∃ a ∈ l, p a := by
  induction l generalizing matched with
  | nil => simp
  | cons a l ih =>
    rw [List.foldl_cons, ih, hf]
    simp [or_assoc]

/-- The comparison finds a signature wherever it stands. -/
lemma anyHexEqual_eq_true {candidates : List Bytes} {want : Bytes} :
    anyHexEqual candidates want = true ↔ ∃ c ∈ candidates, Hex.decode c = some want := by
  rw [anyHexEqual, foldl_eq_true_iff (p := fun c => Hex.decode c = some want)]
  · simp
  · intro matched c
    rcases hc : Hex.decode c with _ | got
    · simp
    · by_cases hgot : got = want
      · simp [hgot]
      · simp [hgot]

/-- The event says that a checkout with this subject and this tier was completed. -/
structure StripeEvent.Completes (ev : StripeEvent) (subject : Bytes) (tier : Tier) : Prop where
  type_eq : ev.type = ascii "checkout.session.completed"
  subject_eq : ev.clientReferenceID = subject
  tier_eq : ev.metadataTier = tier

/-- What `CreateCheckout` has validated. -/
lemma createCheckout_ok {T : TokenLib} {H : CheckoutLib} {subject : Bytes} {tier : Tier}
    {session : CheckoutSession} (h : createCheckout T H subject tier = .ok session) :
    subject ≠ [] ∧ validTier tier = true := by
  rw [createCheckout] at h
  split at h
  · cases h
  rename_i hsubject
  split at h
  · cases h
  rename_i htier
  exact ⟨hsubject, by simpa using htier⟩

/-- **The webhook of a paid checkout is accepted**, with the subject and the tier. -/
lemma verifyWebhook_completed {T : TokenLib} {unmarshal : Bytes → Except GoError StripeEvent}
    {p : StripeProvider} {now : ℤ} {payload header : Bytes} {ts : Int64} {ev : StripeEvent}
    {subject : Bytes} {tier : Tier} (hsigned : Signed T p payload header ts)
    (htol : p.tolerance ≤ maxDuration) (hfresh : |now - timeUnix ts| ≤ p.tolerance)
    (hev : unmarshal payload = .ok ev) (hdone : ev.Completes subject tier)
    (hsubject : subject ≠ []) (htier : validTier tier = true) :
    verifyWebhook T unmarshal p now payload header = .ok ⟨subject, tier, true⟩ := by
  obtain ⟨v1s, hparse, hmac⟩ := hsigned
  have hskew : absSkew ts now ≤ p.tolerance :=
    (absSkew_le_iff ((abs_nonneg _).trans hfresh) htol).mpr (Or.inr (Or.inl hfresh))
  have hmac' := anyHexEqual_eq_true.mpr hmac
  obtain ⟨htype, rfl, rfl⟩ := hdone
  simp [verifyWebhook, hparse, not_lt.mpr hskew, hmac', paymentEvent, hev, htype, hsubject, htier]

/-! ## The result -/

/-- `Issue` accepts what can be read back. -/
lemma issueToken_ok_iff {T : TokenLib} {c : Claims} {key : Bytes} (hkey : key ≠ [])
    (hsubject : c.subject ≠ []) (htier : validTier c.tier = true) :
    (∃ token, issueToken T c key = .ok token) ↔ 124 ∉ c.subject ∧ 0 < c.expiry.toInt := by
  constructor
  · rintro ⟨token, htoken⟩
    obtain ⟨-, -, hsub, -, hexp, -⟩ := issueToken_ok htoken
    exact ⟨hsub, hexp⟩
  · rintro ⟨hsub, hexp⟩
    refine ⟨tokenPayload T c ++ 46 :: signToken T (tokenPayload T c) key, ?_⟩
    rw [issueToken, if_neg (by simpa using hkey), if_neg (by simp [hsub, hsubject]),
      if_neg (by simp [htier]), if_neg (by omega)]

/-- **Who has paid is admitted**, exactly if the subject does not contain the separator `|` and
the token expires after the year 1969.  For every hosted service with a key and a provider, and
every subject and tier for which a checkout can be started: the signed event of the completed
checkout, in the tolerance of the provider, makes the service issue a token which it admits, with
this subject and this tier, from then on until the second in which it expires. -/
theorem paid_checkout_admitted {T : TokenLib} (hT : T.Lawful) (H : CheckoutLib)
    (unmarshal : Bytes → Except GoError StripeEvent) (s : BillingService)
    (hmode : s.mode = .modeHosted) (hkey : s.key ≠ []) {p : StripeProvider}
    (hprovider : s.provider = some p) (htol : p.tolerance ≤ maxDuration)
    {subject : Bytes} {tier : Tier} {session : CheckoutSession}
    (hcheckout : createCheckout T H subject tier = .ok session)
    {payload header : Bytes} {ts : Int64} (hsigned : Signed T p payload header ts)
    {providerNow : ℤ} (hfresh : |providerNow - timeUnix ts| ≤ p.tolerance)
    {ev : StripeEvent} (hev : unmarshal payload = .ok ev) (hdone : ev.Completes subject tier)
    (now : ℤ) :
    (∃ token, s.onPaymentEvent T unmarshal providerNow now payload header = .ok token ∧
      ∀ t, now ≤ t → unixSeconds t ≤ (s.expiry now).toInt →
        s.toService.admitToken T token t = .ok ⟨subject, tier, s.expiry now⟩) ↔
    124 ∉ subject ∧ 0 < (s.expiry now).toInt := by
  obtain ⟨hsubject, htier⟩ := createCheckout_ok hcheckout
  have hwebhook := verifyWebhook_completed hsigned htol hfresh hev hdone hsubject htier
  have hissue : s.onPaymentEvent T unmarshal providerNow now payload header
      = issueToken T ⟨subject, tier, s.expiry now⟩ s.key := by
    simp [BillingService.onPaymentEvent, hprovider, hkey, hwebhook]
  rw [hissue, ← issueToken_ok_iff (c := ⟨subject, tier, s.expiry now⟩) hkey hsubject htier]
  refine exists_congr fun token => and_iff_left_of_imp fun htoken => ?_
  intro t _ ht
  have hverify := verifyToken_issueToken hT htoken t
  rw [if_pos ht] at hverify
  have htoken_ne : token ≠ [] := by
    rw [(issueToken_ok htoken).2.2.2.2.2]
    simp
  have hhosted : tier = tierHosted := by simpa [validTier] using htier
  simp [Service.admitToken, hmode, hkey, htoken_ne, hverify, hhosted]

section Sample

set_option maxRecDepth 8000

/-- A service that sells tokens for an hour. -/
def sampleBilling : BillingService where
  mode := .modeHosted
  key := [1]
  provider := some ⟨[2], 300 * second⟩
  tokenTTL := 3600 * second

/-- A library that starts every checkout. -/
def sampleCheckoutLib : CheckoutLib where
  post _ := .ok (200, [])
  unmarshal _ := .ok (ascii "cs_1", ascii "https")

/-- The event of a completed checkout, whatever the payload. -/
def completedEvent (subject : Bytes) (_payload : Bytes) : Except GoError StripeEvent :=
  .ok ⟨ascii "checkout.session.completed", subject, subject, tierHosted⟩

/-- A customer with a plain name is admitted when the checkout is paid, and up to the second in
which the token expires. -/
theorem paid_checkout_admitted_plain :
    ∃ token, sampleBilling.onPaymentEvent letterTokenLib (completedEvent (ascii "customer"))
        (1700000000 * second) (1700000000 * second) [3]
        (signatureHeader letterTokenLib [2] 1700000000 [3]) = .ok token ∧
      sampleBilling.toService.admitToken letterTokenLib token (1700003600 * second)
        = .ok ⟨ascii "customer", tierHosted, 1700003600⟩ := by
  have hcheckout : createCheckout letterTokenLib sampleCheckoutLib (ascii "customer") tierHosted
      = .ok ⟨ascii "cs_1", ascii "customer", tierHosted, ascii "https"⟩ := by decide
  have hsigned := signed_signatureHeader letterTokenLib_lawful ⟨[2], 300 * second⟩ [3]
    (t := 1700000000) (by decide)
  have hfresh : |1700000000 * second - timeUnix 1700000000| ≤ 300 * second := by decide
  obtain ⟨token, hissued, hadmit⟩ := (paid_checkout_admitted letterTokenLib_lawful
    sampleCheckoutLib (completedEvent (ascii "customer")) sampleBilling rfl (by decide) rfl
    (by decide) hcheckout hsigned hfresh rfl ⟨rfl, rfl, rfl⟩ (1700000000 * second)).mpr (by decide)
  exact ⟨token, hissued, hadmit _ (by decide) (by decide)⟩

/-- **A customer with a `|` in the name pays for nothing**: the checkout is started, and the
webhook of its completion is refused. -/
theorem piped_subject_not_issued :
    createCheckout letterTokenLib sampleCheckoutLib (ascii "a|b") tierHosted
      = .ok ⟨ascii "cs_1", ascii "a|b", tierHosted, ascii "https"⟩ ∧
    Signed letterTokenLib ⟨[2], 300 * second⟩ [3]
      (signatureHeader letterTokenLib [2] 1700000000 [3]) 1700000000 ∧
    sampleBilling.onPaymentEvent letterTokenLib (completedEvent (ascii "a|b"))
        (1700000000 * second) (1700000000 * second) [3]
        (signatureHeader letterTokenLib [2] 1700000000 [3])
      = .error (errInvalidClaims.wrap ⟨"subject"⟩) := by
  have hsigned := signed_signatureHeader letterTokenLib_lawful ⟨[2], 300 * second⟩ [3]
    (t := 1700000000) (by decide)
  have hwebhook : verifyWebhook letterTokenLib (completedEvent (ascii "a|b"))
      ⟨[2], 300 * second⟩ (1700000000 * second) [3]
      (signatureHeader letterTokenLib [2] 1700000000 [3]) = .ok ⟨ascii "a|b", tierHosted, true⟩ :=
    verifyWebhook_completed hsigned (by decide) (by decide) rfl ⟨rfl, rfl, rfl⟩ (by decide)
      (by decide)
  refine ⟨by decide, hsigned, ?_⟩
  simp only [BillingService.onPaymentEvent, sampleBilling, hwebhook]
  decide

end Sample

end Gemina
