/-
# Tokens are what was issued

A token is the encoded claims and their MAC, joined by a dot.  `Verify` gives back the claims
that a token was issued for, until they expire, and it accepts nothing that was not issued.

The laws of base64url and HMAC-SHA256 that this rests on are stated in `TokenLib.Lawful`; that
nobody else can make a MAC is the hypothesis `Unforged` on the string that is presented.
-/
import Gemina.Entitlement

namespace Gemina

/-! ## The laws of the library -/

/-- What is documented of base64url without padding, and of HMAC-SHA256. -/
structure TokenLib.Lawful (T : TokenLib) : Prop where
  decode_encode : ∀ b, T.decodeString (T.encodeToString b) = some b
  encode_nil : T.encodeToString [] = []
  dot_not_mem_encode : ∀ b, 46 ∉ T.encodeToString b
  length_hmac : ∀ key msg, (T.hmac key msg).length = 32

namespace TokenLib.Lawful

variable {T : TokenLib} (hT : T.Lawful)
include hT

lemma encode_inj {a b : Bytes} (h : T.encodeToString a = T.encodeToString b) : a = b := by
  have ha := hT.decode_encode a
  rw [h, hT.decode_encode b] at ha
  exact (Option.some.inj ha).symm

lemma encode_ne_nil {b : Bytes} (h : b ≠ []) : T.encodeToString b ≠ [] := by
  rw [← hT.encode_nil]
  exact fun heq => h (hT.encode_inj heq)

lemma signToken_ne_nil (payload key : Bytes) : signToken T payload key ≠ [] := by
  refine hT.encode_ne_nil fun hnil => ?_
  have hlen := hT.length_hmac key payload
  rw [hnil] at hlen
  cases hlen

end TokenLib.Lawful

/-! ## Issuing and verifying -/

variable {T : TokenLib} {key token : Bytes} {c c' : Claims}

/-- What `Issue` accepts, and what it returns. -/
lemma issueToken_ok (h : issueToken T c key = .ok token) :
    key.length ≠ 0 ∧ c.subject ≠ [] ∧ 124 ∉ c.subject ∧ validTier c.tier = true ∧
      0 < c.expiry.toInt ∧
      token = tokenPayload T c ++ 46 :: signToken T (tokenPayload T c) key := by
  rw [issueToken] at h
  split at h
  · cases h
  rename_i hkey
  split at h
  · cases h
  rename_i hsub
  split at h
  · cases h
  rename_i htier
  split at h
  · cases h
  rename_i hexp
  simp only [Except.ok.injEq] at h
  rw [not_or] at hsub
  exact ⟨hkey, hsub.1, hsub.2, by simpa using htier, by omega, h.symm⟩

/-- The payload is read back field by field. -/
lemma splitOn_payload (hsub : 124 ∉ c.subject) (htier : validTier c.tier = true)
    (hexp : 0 < c.expiry.toInt) :
    (c.subject ++ 124 :: c.tier ++ 124 :: formatInt c.expiry).splitOn 124 =
      [c.subject, c.tier, formatInt c.expiry] := by
  refine splitOn_three hsub ?_ ?_
  · rw [validTier, decide_eq_true_eq] at htier
    rw [htier]
    decide
  · rw [formatInt_of_pos hexp]
    intro hmem
    have := (Decimal.digit_of_mem_encode hmem).2
    simp at this

/-- **`Verify` undoes `Issue`** until the claims expire. -/
lemma verifyToken_issueToken (hT : T.Lawful) (h : issueToken T c key = .ok token) (now : ℤ) :
    verifyToken T token key now =
      if unixSeconds now ≤ c.expiry.toInt then .ok c else .error errExpired := by
  obtain ⟨hkey, hne, hsub, htier, hexp, rfl⟩ := issueToken_ok h
  have hraw : c.subject ++ 124 :: c.tier ++ 124 :: formatInt c.expiry ≠ [] := by simp
  have hpayload : tokenPayload T c ≠ [] := hT.encode_ne_nil hraw
  have hdot : 46 ∉ tokenPayload T c := hT.dot_not_mem_encode _
  rw [verifyToken, if_neg hkey, cut_append hdot]
  simp only [hpayload, hT.signToken_ne_nil, or_self, if_false, ne_eq, not_true_eq_false]
  rw [tokenPayload, hT.decode_encode]
  simp only [splitOn_payload hsub htier hexp, parseInt_formatInt, htier, Bool.not_true,
    Bool.false_eq_true, if_false]
  by_cases hnow : unixSeconds now ≤ c.expiry.toInt
  · rw [if_neg (not_lt.mpr hnow), if_pos hnow]
  · rw [if_pos (not_le.mp hnow), if_neg hnow]

/-- `Verify` accepts only a payload with its own signature. -/
lemma verifyToken_ok {now : ℤ} (h : verifyToken T token key now = .ok c) :
    ∃ payload, token = payload ++ 46 :: signToken T payload key := by
  rw [verifyToken] at h
  split at h
  · cases h
  rcases hcut : cut token 46 with _ | ⟨payload, gotSig⟩
  · simp [hcut] at h
  simp only [hcut] at h
  split at h
  · cases h
  split at h
  · cases h
  rename_i hsig
  rw [not_not] at hsig
  exact ⟨payload, by rw [← hsig]; exact cut_some hcut⟩

/-- The string is no forgery: if it is a payload with its signature under the key, then the
payload was signed when a token for one of the claims `issued` was issued. -/
def Unforged (T : TokenLib) (key : Bytes) (issued : List Claims) (token : Bytes) : Prop :=
  ∀ payload, token = payload ++ 46 :: signToken T payload key →
    ∃ c ∈ issued, (∃ t, issueToken T c key = .ok t) ∧ payload = tokenPayload T c

/-- A token that was issued is no forgery. -/
lemma unforged_of_issued (hT : T.Lawful) (h : issueToken T c key = .ok token)
    {issued : List Claims} (hc : c ∈ issued) : Unforged T key issued token := by
  intro payload heq
  refine ⟨c, hc, ⟨token, h⟩, ?_⟩
  rw [(issueToken_ok h).2.2.2.2.2] at heq
  -- there is one dot in the token, so it is cut in one way
  have hcount := congrArg (List.count 46) heq
  have hsig : ∀ p, List.count 46 (signToken T p key) = 0 :=
    fun p => List.count_eq_zero.mpr (hT.dot_not_mem_encode _)
  have hpayload : 46 ∉ tokenPayload T c := hT.dot_not_mem_encode _
  simp only [List.count_append, List.count_cons_self, hsig, List.count_eq_zero.mpr hpayload]
    at hcount
  have hdot : 46 ∉ payload := List.count_eq_zero.mp (by omega)
  have hcut := congrArg (cut · 46) heq
  simp only [cut_append hpayload, cut_append hdot, Option.some.injEq, Prod.mk.injEq] at hcut
  exact hcut.1.symm

/-- **Tokens are what was issued.**  A token verifies to exactly the claims that it was issued
for, up to and including the second in which they expire, and is refused as expired afterwards;
different claims have different tokens; and whatever string is presented, if its signature was
not forged and `Verify` accepts it, then it is, byte by byte, the token that was issued for some
claims, and these are what `Verify` returns. -/
theorem tokens_are_issued {T : TokenLib} (hT : T.Lawful) (key : Bytes) :
    (∀ c token now, issueToken T c key = .ok token →
      verifyToken T token key now =
        if unixSeconds now ≤ c.expiry.toInt then .ok c else .error errExpired) ∧
    (∀ c c' token, issueToken T c key = .ok token → issueToken T c' key = .ok token → c = c') ∧
    (∀ issued token now c', Unforged T key issued token → verifyToken T token key now = .ok c' →
      ∃ c ∈ issued, issueToken T c key = .ok token ∧ c' = c) := by
  refine ⟨fun c token now h => verifyToken_issueToken hT h now, ?_, ?_⟩
  · -- at the time zero no issued token has expired
    intro c c' token h h'
    have hv := verifyToken_issueToken hT h 0
    rw [verifyToken_issueToken hT h' 0, if_pos, if_pos] at hv
    · exact (Except.ok.inj hv).symm
    · exact (issueToken_ok h).2.2.2.2.1.le
    · exact (issueToken_ok h').2.2.2.2.1.le
  · intro issued token now c' hunforged hok
    obtain ⟨payload, htoken⟩ := verifyToken_ok hok
    obtain ⟨c, hc, ⟨t, ht⟩, rfl⟩ := hunforged payload htoken
    have hsame : token = t := htoken.trans (issueToken_ok ht).2.2.2.2.2.symm
    subst hsame
    refine ⟨c, hc, ht, ?_⟩
    rw [verifyToken_issueToken hT ht now] at hok
    split at hok
    · exact (Except.ok.inj hok).symm
    · cases hok

/-! ## A library that can be evaluated -/

/-- Decoding pairs of letters. -/
def decodeLetters : Bytes → Option Bytes
  | [] => some []
  | [_] => none
  | a :: b :: rest => (decodeLetters rest).map fun r => (16 * (a - 65) + (b - 65)) :: r

/-- A stand-in for the library that has its laws: each byte is encoded as two letters. -/
def letterTokenLib : TokenLib where
  hmac key msg := (ByteArrayN.copy 32 (key ++ msg)).1
  encodeToString b := b.flatMap fun x => [65 + x / 16, 65 + x % 16]
  decodeString := decodeLetters
  quote _ := ""

lemma letterTokenLib_lawful : letterTokenLib.Lawful where
  decode_encode b := by
    simp only [letterTokenLib]
    induction b with
    | nil => rfl
    | cons x b ih =>
      have hx : 16 * (x / 16) + x % 16 = x := by
        have := x.toNat_lt
        rw [← UInt8.toNat_inj, UInt8.toNat_add, UInt8.toNat_mul, UInt8.toNat_div, UInt8.toNat_mod]
        simp only [UInt8.reduceToNat]
        omega
      simp [decodeLetters, ih, hx]
  encode_nil := rfl
  dot_not_mem_encode b := by
    simp only [letterTokenLib, List.mem_flatMap, List.mem_cons, List.not_mem_nil, or_false]
    rintro ⟨x, -, hx⟩
    have := x.toNat_lt
    simp only [← UInt8.toNat_inj, UInt8.toNat_add, UInt8.toNat_div, UInt8.toNat_mod,
      UInt8.reduceToNat] at hx
    omega
  length_hmac key msg := (ByteArrayN.copy 32 _).2

/-- Claims that expire after ten seconds. -/
def sampleClaims : Claims := ⟨ascii "sub", tierHosted, 10⟩

/-- A token is accepted in the second in which it expires, and it is the one that was issued. -/
theorem tokens_are_issued_sample :
    ∃ token, Unforged letterTokenLib [1] [sampleClaims] token ∧
      verifyToken letterTokenLib token [1] (10 * second) = .ok sampleClaims ∧
      ∃ c ∈ [sampleClaims], issueToken letterTokenLib c [1] = .ok token ∧ sampleClaims = c := by
  obtain ⟨hverify, -, hissued⟩ := tokens_are_issued letterTokenLib_lawful [1]
  have hok : issueToken letterTokenLib sampleClaims [1] = .ok (tokenPayload letterTokenLib
      sampleClaims ++ 46 :: signToken letterTokenLib (tokenPayload letterTokenLib sampleClaims)
        [1]) := by
    decide +kernel
  have hunforged := unforged_of_issued letterTokenLib_lawful hok (List.mem_singleton_self _)
  have haccepted := hverify _ _ (10 * second) hok
  rw [if_pos (by decide)] at haccepted
  exact ⟨_, hunforged, haccepted, hissued _ _ _ _ hunforged haccepted⟩

end Gemina
