/-
# The check that no capabilities are left

After the gateway has dropped its privileges, it reads `/proc/self/status` and refuses to go on if
one of three sets of capabilities is not empty (`checkNoCapabilities` of `cmd/gateway/privdrop.go`).
The sets are lines with a name and a hexadecimal number.  The check counts the lines; it does not
note which names it has seen.

Quoting, as `%q` and the errors of `strconv` do it, is a parameter.
-/
import Gemina.Strings
import Gemina.Lib.Hex

namespace Gemina
namespace PrivDrop

/-- The names of the three sets. -/
def capNames : List Bytes := [ascii "CapPrm", ascii "CapEff", ascii "CapAmb"]

/-- The text of an ASCII string. -/
def asciiText (s : Bytes) : String := String.ofList (s.map fun c => Char.ofNat c.toNat)

/-- The loop of `strconv.ParseUint` for base 16 and 64 bits. -/
def parseHex (n : ℕ) : Bytes → Except String ℕ
  | [] => .ok n
  | c :: s =>
    match Hex.digitValue c with
    | none => .error "invalid syntax"
    | some d => if 2 ^ 60 ≤ n then .error "value out of range" else parseHex (16 * n + d) s

/-- `strconv.ParseUint(s, 16, 64)`. -/
def parseUint (quote : Bytes → String) (s : Bytes) : Except GoError ℕ :=
  match if s = [] then .error "invalid syntax" else parseHex 0 s with
  | .error e => .error ⟨"strconv.ParseUint: parsing " ++ quote s ++ ": " ++ e⟩
  | .ok n => .ok n

/-- The verb `%016x`. -/
def hex016 (n : ℕ) : String :=
  let digits := Nat.toDigits 16 n
  String.ofList (List.replicate (16 - digits.length) '0' ++ digits)

/-- The loop of `checkNoCapabilities`: the number of lines with one of the names. -/
def checkLines (quote : Bytes → String) (seen : ℕ) : List Bytes → Except GoError ℕ
  | [] => .ok seen
  | line :: lines =>
    match cut line 58 with
    | none => checkLines quote seen lines
    | some (key, val) =>
      if key ∉ capNames then checkLines quote seen lines
      else match parseUint quote (trimSpace val) with
        | .error err =>
          .error ⟨"parse " ++ asciiText key ++ " " ++ quote val ++ ": " ++ err.text⟩
        | .ok bits =>
          if bits ≠ 0 then
            .error ⟨asciiText key ++ "=" ++ hex016 bits ++ " after privilege drop, want 0"⟩
          else checkLines quote (seen + 1) lines

/-- `bufio.ErrTooLong`. -/
def errTooLong : GoError := ⟨"bufio.Scanner: token too long"⟩

/-- `checkNoCapabilities`: `none` is the nil error. -/
def checkNoCapabilities (quote : Bytes → String) (status : Bytes) : Option GoError :=
  let (lines, ended) := scanLines status
  match checkLines quote 0 lines with
  | .error err => some err
  | .ok seen =>
    if !ended then some errTooLong
    else if seen ≠ 3 then
      some ⟨"found " ++ toString seen ++ " of CapPrm/CapEff/CapAmb in status, want 3"⟩
    else none

/-! ## What is in a status -/

/-- The field of a line, if it has one of the names. -/
def capField (line : Bytes) : Option (Bytes × Bytes) :=
  (cut line 58).filter fun field => field.1 ∈ capNames

/-- The fields of a status with one of the names, each with its value. -/
def capFields (status : Bytes) : List (Bytes × Bytes) :=
  ((status.splitOn 10).map dropCR).filterMap capField

/-- The hexadecimal number zero, between white space. -/
def IsZero (val : Bytes) : Prop := trimSpace val ≠ [] ∧ ∀ c ∈ trimSpace val, c = 48

/-- All three names occur, and every field with one of the names is zero. -/
structure NoCapabilities (status : Bytes) : Prop where
  present : ∀ name ∈ capNames, ∃ val, (name, val) ∈ capFields status
  zero : ∀ field ∈ capFields status, IsZero field.2

/-- Three fields are there and all of them are zero, but two have the same name. -/
structure Masked (status : Bytes) : Prop where
  short : ShortLines status
  three : (capFields status).length = 3
  zero : ∀ field ∈ capFields status, IsZero field.2
  repeated : ¬ ((capFields status).map Prod.fst).Nodup

/-! ## The numbers -/

lemma digitValue_eq_zero_iff {c : UInt8} : Hex.digitValue c = some 0 ↔ c = 48 := by
  constructor
  · intro h
    rw [Hex.digitValue] at h
    rw [← UInt8.toNat_inj]
    split_ifs at h with h1 h2 h3
    · have := Option.some_inj.mp h
      simp only [UInt8.reduceToNat]
      omega
    · have := Option.some_inj.mp h
      omega
    · have := Option.some_inj.mp h
      omega
  · rintro rfl
    rfl

lemma le_of_parseHex {s : Bytes} {n m : ℕ} (h : parseHex n s = .ok m) : n ≤ m := by
  induction s generalizing n with
  | nil =>
    rw [parseHex, Except.ok.injEq] at h
    exact h.le
  | cons c s ih =>
    rw [parseHex] at h
    split at h
    · cases h
    · split at h
      · cases h
      · have := ih h
        omega

lemma parseHex_eq_zero_iff {s : Bytes} : parseHex 0 s = .ok 0 ↔ ∀ c ∈ s, c = 48 := by
  induction s with
  | nil => simp [parseHex]
  | cons c s ih =>
    rw [parseHex]
    constructor
    · intro h
      split at h
      · cases h
      · rename_i d hd
        rw [if_neg (by decide)] at h
        have hle := le_of_parseHex h
        obtain rfl : d = 0 := by omega
        rw [List.forall_mem_cons]
        exact ⟨digitValue_eq_zero_iff.mp hd, ih.mp h⟩
    · intro h
      rw [List.forall_mem_cons] at h
      rw [digitValue_eq_zero_iff.mpr h.1]
      exact ih.mpr h.2

/-- `ParseUint` gives zero for a number of zeros. -/
lemma parseUint_eq_zero_iff (quote : Bytes → String) (val : Bytes) :
    parseUint quote (trimSpace val) = .ok 0 ↔ IsZero val := by
  rw [parseUint, IsZero]
  by_cases hnil : trimSpace val = []
  · simp [hnil]
  · rw [if_neg hnil, ← parseHex_eq_zero_iff]
    cases parseHex 0 (trimSpace val) <;> simp [hnil]

/-! ## The lines -/

lemma checkLines_ok_iff (quote : Bytes → String) (seen n : ℕ) (lines : List Bytes) :
    checkLines quote seen lines = .ok n ↔
      (∀ field ∈ lines.filterMap capField, IsZero field.2) ∧
        n = seen + (lines.filterMap capField).length := by
  induction lines generalizing seen with
  | nil => simp [checkLines, eq_comm]
  | cons line lines ih =>
    rw [checkLines]
    rcases hcut : cut line 58 with _ | ⟨key, val⟩
    · have hfield : capField line = none := by rw [capField, hcut]; rfl
      simp only [List.filterMap_cons, hfield]
      exact ih seen
    · by_cases hkey : key ∈ capNames
      · have hfield : capField line = some (key, val) := by
          simp [capField, hcut, hkey]
        simp only [List.filterMap_cons, hfield, hkey, not_true_eq_false, if_false,
          List.forall_mem_cons, List.length_cons]
        by_cases hzero : IsZero val
        · rw [(parseUint_eq_zero_iff quote val).mpr hzero]
          simp only [ne_eq, not_true_eq_false, if_false, ih, hzero, true_and]
          constructor
          · rintro ⟨hall, rfl⟩
            exact ⟨hall, by omega⟩
          · rintro ⟨hall, rfl⟩
            exact ⟨hall, by omega⟩
        · have hne : parseUint quote (trimSpace val) ≠ .ok 0 :=
            fun h => hzero ((parseUint_eq_zero_iff quote val).mp h)
          rcases hparse : parseUint quote (trimSpace val) with err | bits
          · simp [hzero]
          · have hbits : bits ≠ 0 := fun h => hne (by rw [hparse, h])
            simp [hbits, hzero]
      · have hfield : capField line = none := by
          simp [capField, hcut, hkey]
        simp only [List.filterMap_cons, hfield, hkey, not_false_eq_true, if_true]
        exact ih seen

/-- The fields of a status whose lines are all read. -/
lemma capFields_eq {status : Bytes} (h : ShortLines status) :
    capFields status = (scanLines status).1.filterMap capField := by
  have hended := (scanLines_ended_iff status).mpr h
  rw [capFields, scanLines]
  rcases (Lines.scan_splitOn (by decide) status).2 hended with hsplit | hsplit
  · rw [hsplit]
  · -- an empty line at the end has no field
    rw [hsplit, List.map_append, List.filterMap_append]
    exact List.append_nil _

/-- **What is accepted**: three fields that are all zero, and no line that is too long. -/
lemma checkNoCapabilities_eq_none_iff (quote : Bytes → String) (status : Bytes) :
    checkNoCapabilities quote status = none ↔
      ShortLines status ∧ (capFields status).length = 3 ∧
        ∀ field ∈ capFields status, IsZero field.2 := by
  have hok := fun n => checkLines_ok_iff quote 0 n (scanLines status).1
  rw [← scanLines_ended_iff, checkNoCapabilities]
  constructor
  · intro h
    rcases hcheck : checkLines quote 0 (scanLines status).1 with err | seen
    · simp [hcheck] at h
    · simp only [hcheck] at h
      split_ifs at h with hended hseen
      rw [Bool.not_eq_true, Bool.not_eq_false'] at hended
      obtain ⟨hzero, hlen⟩ := (hok seen).mp hcheck
      rw [capFields_eq ((scanLines_ended_iff status).mp hended)]
      exact ⟨hended, by omega, hzero⟩
  · rintro ⟨hended, hlen, hzero⟩
    rw [capFields_eq ((scanLines_ended_iff status).mp hended)] at hlen hzero
    have hcheck := (hok 3).mpr ⟨hzero, by omega⟩
    simp [hcheck, hended]

/-! ## The result -/

/-- The names of the fields. -/
lemma names_subset (status : Bytes) : (capFields status).map Prod.fst ⊆ capNames := by
  intro name hname
  obtain ⟨field, hfield, rfl⟩ := List.mem_map.mp hname
  obtain ⟨line, -, hline⟩ := List.mem_filterMap.mp hfield
  rw [capField, Option.filter_eq_some_iff] at hline
  simpa using hline.2

/-- Of three fields, all names occur if and only if none is repeated. -/
lemma present_iff_nodup {status : Bytes} (h : (capFields status).length = 3) :
    (∀ name ∈ capNames, ∃ val, (name, val) ∈ capFields status) ↔
      ((capFields status).map Prod.fst).Nodup := by
  have hcap : capNames.Nodup := by decide
  have hlen : ((capFields status).map Prod.fst).length = capNames.length := by
    rw [List.length_map, h]
    rfl
  constructor
  · intro hpresent
    have hsub : capNames ⊆ (capFields status).map Prod.fst := by
      intro name hname
      obtain ⟨val, hval⟩ := hpresent name hname
      exact List.mem_map.mpr ⟨(name, val), hval, rfl⟩
    have hperm := (List.subperm_of_subset hcap hsub).perm_of_length_le hlen.le
    exact hperm.nodup_iff.mp hcap
  · intro hnodup name hname
    have hperm := (List.subperm_of_subset hnodup (names_subset status)).perm_of_length_le hlen.ge
    obtain ⟨field, hfield, rfl⟩ := List.mem_map.mp (hperm.mem_iff.mpr hname)
    exact ⟨field.2, hfield⟩

/-- **What the check guarantees, and when.**  That it returns nil means that all three sets of
capabilities are there and empty, except for a status with three fields that are zero of which two
have the same name. -/
theorem accepted_iff_not_masked (quote : Bytes → String) (status : Bytes) :
    (checkNoCapabilities quote status = none → NoCapabilities status) ↔ ¬ Masked status := by
  rw [checkNoCapabilities_eq_none_iff]
  constructor
  · intro h hmasked
    have hno := h ⟨hmasked.short, hmasked.three, hmasked.zero⟩
    exact hmasked.repeated ((present_iff_nodup hmasked.three).mp hno.present)
  · rintro hmasked ⟨hshort, hthree, hzero⟩
    refine ⟨(present_iff_nodup hthree).mpr ?_, hzero⟩
    by_contra hrepeated
    exact hmasked ⟨hshort, hthree, hzero, hrepeated⟩

section Sample

set_option maxRecDepth 8000

/-- A status with three lines for the permitted set, and none for the other two. -/
def maskedStatus : Bytes := ascii "CapPrm:\t0\nCapPrm:\t0\nCapPrm:\t0\n"

/-- The status is accepted although the effective set is missing. -/
theorem masked_status_accepted :
    checkNoCapabilities asciiText maskedStatus = none ∧ ¬ NoCapabilities maskedStatus := by
  have hnames : ascii "CapEff" ∉ (capFields maskedStatus).map Prod.fst := by decide +kernel
  refine ⟨by decide +kernel, fun h => ?_⟩
  obtain ⟨val, hval⟩ := h.present (ascii "CapEff") (by decide)
  exact hnames (List.mem_map.mpr ⟨_, hval, rfl⟩)

end Sample

end PrivDrop
end Gemina
