/-
# Strings

The functions of the Go packages `strings`, `strconv` and `bufio` that the program uses.  A string
is its bytes.
-/
import Gemina.Protocol
import Gemina.Lib.Decimal
import Gemina.Lib.Lines

namespace Gemina

/-- The bytes of an ASCII string literal. -/
def ascii (s : String) : Bytes := s.toList.map fun c => c.toNat.toUInt8

/-! ## Cutting and splitting -/

/-- `strings.Cut`: the parts before and after the first separator. -/
def cut (b : Bytes) (sep : UInt8) : Option (Bytes × Bytes) :=
  if sep ∈ b then some (b.takeWhile (· ≠ sep), (b.dropWhile (· ≠ sep)).tail) else none

/-- Cutting at the separator that two strings were joined with. -/
lemma cut_append {a b : Bytes} {sep : UInt8} (ha : sep ∉ a) :
    cut (a ++ sep :: b) sep = some (a, b) := by
  have hall : ∀ c ∈ a, decide (c ≠ sep) = true := by
    intro c hc
    simpa using fun heq : c = sep => ha (heq ▸ hc)
  rw [cut, if_pos (by simp), List.takeWhile_append_of_pos hall, List.dropWhile_append_of_pos hall]
  simp

/-- Only a string that has the separator can be cut. -/
lemma cut_some {s a b : Bytes} {sep : UInt8} (h : cut s sep = some (a, b)) :
    s = a ++ sep :: b := by
  rw [cut] at h
  split at h
  · rename_i hmem
    simp only [Option.some.injEq, Prod.mk.injEq] at h
    obtain ⟨rfl, rfl⟩ := h
    -- what is left after the characters before the separator starts with it
    have hne : s.dropWhile (· ≠ sep) ≠ [] := by
      rw [ne_eq, List.dropWhile_eq_nil_iff]
      intro hall
      simpa using hall sep hmem
    obtain ⟨c, rest, hdrop⟩ := List.exists_cons_of_ne_nil hne
    have hc : c = sep := by
      have hhead := List.head?_dropWhile_not (fun c => decide (c ≠ sep)) s
      rw [hdrop] at hhead
      simpa using hhead
    conv_lhs => rw [← List.takeWhile_append_dropWhile (p := fun c => decide (c ≠ sep)) (l := s)]
    rw [hdrop, hc, List.tail_cons]
  · cases h

/-- Splitting three fields that were joined with a separator that none of them has. -/
lemma splitOn_three {a b c : Bytes} {sep : UInt8} (ha : sep ∉ a) (hb : sep ∉ b) (hc : sep ∉ c) :
    (a ++ sep :: b ++ sep :: c).splitOn sep = [a, b, c] := by
  rw [List.append_assoc, List.cons_append, List.splitOn_append_cons_self_of_not_mem ha,
    List.splitOn_append_cons_self_of_not_mem hb, List.splitOn_eq_singleton hc]

/-- `strings.CutPrefix`. -/
def cutPrefix (s front : Bytes) : Option Bytes :=
  if front.isPrefixOf s then some (s.drop front.length) else none

lemma cutPrefix_append (front s : Bytes) : cutPrefix (front ++ s) front = some s := by
  rw [cutPrefix, if_pos (List.isPrefixOf_iff_prefix.mpr (List.prefix_append front s)),
    List.drop_left]

/-! ## Decimal numbers -/

/-- The value of a string of decimal digits. -/
def parseDigits (b : Bytes) : Option ℕ :=
  if b ≠ [] ∧ ∀ c ∈ b, 48 ≤ c ∧ c ≤ 57 then
    some (b.foldl (fun n c => 10 * n + (c.toNat - 48)) 0)
  else none

/-- `strconv.ParseInt(s, 10, 64)`. -/
def parseInt (s : Bytes) : Option Int64 :=
  let (neg, digits) := match s with
    | 45 :: rest => (true, rest)
    | 43 :: rest => (false, rest)
    | _ => (false, s)
  match parseDigits digits with
  | none => none
  | some n =>
    if !neg && decide (n ≥ 2 ^ 63) then none
    else if neg && decide (n > 2 ^ 63) then none
    else some (Int64.ofInt (if neg then -n else n))

/-- `strconv.FormatInt(i, 10)`. -/
def formatInt (i : Int64) : Bytes :=
  if i.toInt < 0 then 45 :: Decimal.encode (-i.toInt).toNat else Decimal.encode i.toInt.toNat

/-- A numeral is parsed to its number. -/
lemma parseDigits_encode (n : ℕ) : parseDigits (Decimal.encode n) = some n := by
  have hdigits : ∀ c ∈ Decimal.encode n, 48 ≤ c ∧ c ≤ 57 := by
    intro c hc
    simpa [UInt8.le_iff_toNat_le] using Decimal.digit_of_mem_encode hc
  rw [parseDigits, if_pos ⟨Decimal.encode_ne_nil n, hdigits⟩]
  exact congrArg some (Decimal.value_encode n)

/-- A numeral has no sign, so `ParseInt` reads it as it is. -/
lemma parseInt_encode {n : ℕ} (h : n < 2 ^ 63) :
    parseInt (Decimal.encode n) = some (Int64.ofInt n) := by
  have hparse := parseDigits_encode n
  have hne := Decimal.encode_ne_nil n
  have hdigits := fun c => @Decimal.digit_of_mem_encode n c
  generalize Decimal.encode n = s at hparse hne hdigits
  rcases s with _ | ⟨c, rest⟩
  · exact absurd rfl hne
  have hc := hdigits c (by simp)
  have h45 : c ≠ 45 := by
    rintro rfl
    simp at hc
  have h43 : c ≠ 43 := by
    rintro rfl
    simp at hc
  have hbound : n < 9223372036854775808 := h
  simp [parseInt, h45, h43, hparse, hbound]

/-- A positive number is formatted without a sign. -/
lemma formatInt_of_pos {i : Int64} (h : 0 < i.toInt) :
    formatInt i = Decimal.encode i.toInt.toNat := by
  rw [formatInt, if_neg (by omega)]

/-- **`ParseInt` reads what `FormatInt` wrote.** -/
lemma parseInt_formatInt (i : Int64) : parseInt (formatInt i) = some i := by
  have hlt : i.toInt < 2 ^ 63 := i.toInt_lt
  have hge : -2 ^ 63 ≤ i.toInt := i.le_toInt
  rw [formatInt]
  split
  · -- behind the sign stands the numeral of a number up to `2 ^ 63`
    have hcast : ((-i.toInt).toNat : ℤ) = -i.toInt := by omega
    have hbound : ¬ (-i.toInt).toNat > 2 ^ 63 := by omega
    simp only [parseInt, parseDigits_encode, Bool.not_true, Bool.false_and, Bool.true_and,
      decide_eq_true_eq, hbound, Bool.false_eq_true, if_false, if_true, hcast, neg_neg,
      Int64.ofInt_toInt]
  · have hcast : (i.toInt.toNat : ℤ) = i.toInt := by omega
    rw [parseInt_encode (by omega), hcast, Int64.ofInt_toInt]

/-- A formatted number is on one line. -/
lemma newline_notMem_formatInt (i : Int64) : 10 ∉ formatInt i := by
  have hencode : ∀ n, 10 ∉ Decimal.encode n := by
    intro n h
    have hdigit := Decimal.digit_of_mem_encode h
    simp at hdigit
  rw [formatInt]
  split
  · rw [List.mem_cons]
    rintro (h | h)
    · cases h
    · exact hencode _ h
  · exact hencode _

/-! ## White space -/

/-- The characters that are white space in Unicode, in UTF-8. -/
def whiteSpace : List Bytes :=
  [[9], [10], [11], [12], [13], [32], [0xc2, 0x85], [0xc2, 0xa0], [0xe1, 0x9a, 0x80],
    [0xe2, 0x80, 0x80], [0xe2, 0x80, 0x81], [0xe2, 0x80, 0x82], [0xe2, 0x80, 0x83],
    [0xe2, 0x80, 0x84], [0xe2, 0x80, 0x85], [0xe2, 0x80, 0x86], [0xe2, 0x80, 0x87],
    [0xe2, 0x80, 0x88], [0xe2, 0x80, 0x89], [0xe2, 0x80, 0x8a], [0xe2, 0x80, 0xa8],
    [0xe2, 0x80, 0xa9], [0xe2, 0x80, 0xaf], [0xe2, 0x81, 0x9f], [0xe3, 0x80, 0x80]]

/-- Remove the given characters at the front, at most `n` of them. -/
def trimFront (chars : List Bytes) : ℕ → Bytes → Bytes
  | 0, s => s
  | n + 1, s =>
    match chars.find? fun c => c.isPrefixOf s with
    | none => s
    | some c => trimFront chars n (s.drop c.length)

/-- `strings.TrimSpace`. -/
def trimSpace (s : Bytes) : Bytes :=
  let s := trimFront whiteSpace s.length s
  (trimFront (whiteSpace.map List.reverse) s.length s.reverse).reverse

lemma trimFront_eq_self {chars : List Bytes} {s : Bytes} (h : ∀ c ∈ chars, ¬ c <+: s) (n : ℕ) :
    trimFront chars n s = s := by
  cases n with
  | zero => rfl
  | succ n =>
    have hnone : (chars.find? fun c => c.isPrefixOf s) = none := by
      rw [List.find?_eq_none]
      intro c hc hpre
      exact h c hc (List.isPrefixOf_iff_prefix.mp hpre)
    simp only [trimFront, hnone]

lemma trimFront_suffix (chars : List Bytes) (n : ℕ) (s : Bytes) : trimFront chars n s <:+ s := by
  induction n generalizing s with
  | zero => exact List.suffix_refl s
  | succ n ih =>
    rw [trimFront]
    split
    · exact List.suffix_refl s
    · exact (ih _).trans (List.drop_suffix _ _)

/-- If nothing is removed, then none of the characters was there. -/
lemma not_prefix_of_trimFront {chars : List Bytes} (hchars : [] ∉ chars) {n : ℕ} {s : Bytes}
    (hn : s.length ≤ n) (h : trimFront chars n s = s) : ∀ c ∈ chars, ¬ c <+: s := by
  intro c hc hpre
  have hc' : c ≠ [] := fun heq => hchars (heq ▸ hc)
  have hlen := List.length_pos_of_ne_nil hc'
  have hs := hpre.length_le
  cases n with
  | zero => omega
  | succ n =>
    rw [trimFront] at h
    split at h
    · rename_i hnone
      rw [List.find?_eq_none] at hnone
      exact hnone c hc (List.isPrefixOf_iff_prefix.mpr hpre)
    · rename_i d hsome
      -- what is left is shorter
      have hd : d ≠ [] := fun heq => hchars (heq ▸ List.mem_of_find?_eq_some hsome)
      have hdlen := List.length_pos_of_ne_nil hd
      have hle := (trimFront_suffix chars n (s.drop d.length)).length_le
      rw [h, List.length_drop] at hle
      omega

lemma forall_reverse_prefix_iff {chars : List Bytes} {s : Bytes} :
    (∀ c ∈ chars.map List.reverse, ¬ c <+: s.reverse) ↔ ∀ c ∈ chars, ¬ c <:+ s := by
  rw [List.forall_mem_map]
  simp only [List.reverse_prefix]

/-- **A string that `TrimSpace` leaves alone** neither starts nor ends with white space. -/
lemma trimSpace_eq_self_iff {s : Bytes} :
    trimSpace s = s ↔ (∀ c ∈ whiteSpace, ¬ c <+: s) ∧ (∀ c ∈ whiteSpace, ¬ c <:+ s) := by
  constructor
  · intro h
    rw [trimSpace] at h
    -- nothing was removed at the front, and then nothing at the end
    have hfront := trimFront_suffix whiteSpace s.length s
    have hall := (trimFront_suffix (whiteSpace.map List.reverse)
      (trimFront whiteSpace s.length s).length (trimFront whiteSpace s.length s).reverse).length_le
    have hlen := congrArg List.length h
    simp only [List.length_reverse] at hall hlen
    have heq := hfront.eq_of_length_le (by omega)
    rw [heq] at h
    refine ⟨not_prefix_of_trimFront (by decide) le_rfl heq, forall_reverse_prefix_iff.mp ?_⟩
    exact not_prefix_of_trimFront (by decide) (by rw [List.length_reverse])
      (List.reverse_eq_iff.mp h)
  · rintro ⟨hfront, hsuffix⟩
    rw [trimSpace, trimFront_eq_self hfront,
      trimFront_eq_self (forall_reverse_prefix_iff.mpr hsuffix), List.reverse_reverse]

/-- There is nothing to trim from visible ASCII characters. -/
lemma trimSpace_eq_self {s : Bytes} (hs : ∀ c ∈ s, 33 ≤ c.toNat ∧ c.toNat ≤ 126) :
    trimSpace s = s := by
  have hspace : ∀ w ∈ whiteSpace, ∃ a ∈ w, a.toNat ≤ 32 ∨ 127 ≤ a.toNat := by
    simp [whiteSpace]
  have hsub : ∀ w ∈ whiteSpace, ¬ w ⊆ s := by
    intro w hw hsub
    obtain ⟨a, ha, hspace⟩ := hspace w hw
    have hvisible := hs a (hsub ha)
    omega
  exact trimSpace_eq_self_iff.mpr ⟨fun w hw hpre => hsub w hw hpre.subset,
    fun w hw hsuf => hsub w hw hsuf.subset⟩

/-- White space before a string is removed. -/
lemma trimSpace_cons_space {s : Bytes} (h : trimSpace s = s) : trimSpace (32 :: s) = s := by
  obtain ⟨hfront, hback⟩ := trimSpace_eq_self_iff.mp h
  have hfind : (whiteSpace.find? fun c => c.isPrefixOf (32 :: s)) = some [32] := by
    simp [whiteSpace, List.isPrefixOf]
  have htrim : trimFront whiteSpace (32 :: s).length (32 :: s) = s := by
    rw [List.length_cons, trimFront, hfind]
    exact trimFront_eq_self hfront _
  rw [trimSpace, htrim, trimFront_eq_self (forall_reverse_prefix_iff.mpr hback),
    List.reverse_reverse]

/-- Text before a string that starts after a space. -/
lemma trimSpace_append {a s : Bytes} (hne : s ≠ []) (h : trimSpace s = s)
    (ha : ∀ c ∈ whiteSpace, ¬ c <+: a ++ 32 :: s) :
    trimSpace (a ++ 32 :: s) = a ++ 32 :: s := by
  refine trimSpace_eq_self_iff.mpr ⟨ha, ?_⟩
  intro c hc hsuf
  -- a character that is longer than `s` would have the space in it, and more
  have hspace : ∀ c ∈ whiteSpace, 32 ∈ c → c.length = 1 := by decide
  have hs : s <:+ a ++ 32 :: s := ⟨a ++ [32], by simp⟩
  rcases List.suffix_or_suffix_of_suffix hsuf hs with hin | ⟨d, rfl⟩
  · exact (trimSpace_eq_self_iff.mp h).2 c hc hin
  · rcases List.eq_nil_or_concat d with rfl | ⟨d, x, rfl⟩
    · exact (trimSpace_eq_self_iff.mp h).2 _ hc (List.suffix_refl s)
    · obtain ⟨t, ht⟩ := hsuf
      have hx : x = 32 := by
        have hcancel : ((t ++ d) ++ [x]) ++ s = (a ++ [32]) ++ s := by
          simpa [List.concat_eq_append] using ht
        have hlast := (List.append_inj' (List.append_cancel_right hcancel) rfl).2
        exact List.singleton_inj.mp hlast
      have hone := hspace _ hc (by simp [hx])
      have hpos := List.length_pos_of_ne_nil hne
      simp only [List.concat_eq_append, List.length_append, List.length_singleton] at hone
      omega

/-! ## Lines -/

/-- `bufio.MaxScanTokenSize`: the greatest size of the buffer of a `bufio.Scanner`. -/
def maxScanTokenSize : ℕ := 64 * 1024

/-- `dropCR`: without a carriage return at the end. -/
def dropCR (line : Bytes) : Bytes := if line.getLast? = some 13 then line.dropLast else line

/-- The lines that a `bufio.Scanner` with its default settings gives, and whether its error is nil
after that. -/
def scanLines (text : Bytes) : List Bytes × Bool :=
  let r := Lines.scan 10 maxScanTokenSize text
  (r.1.map dropCR, r.2)

/-- Every line of the text fits into the buffer of a scanner. -/
def ShortLines (text : Bytes) : Prop := ∀ line ∈ text.splitOn 10, line.length < maxScanTokenSize

lemma scanLines_ended_iff (text : Bytes) : (scanLines text).2 = true ↔ ShortLines text :=
  (Lines.scan_splitOn (by decide) text).1

end Gemina
