/-
# Areas of codes, lengths and values

An area of options: each is a code, the length of its value, and the value.  One code stands alone
and fills gaps, another one ends the area.  What a reader keeps of such an area is, for each kind
of option, the last one.
-/
import Mathlib

namespace Tlv

variable {α : Type*} [DecidableEq α] {pad stop : α} {len : α → ℕ}

/-- The options of an area, with their values.  Reading stops at the code `stop`, at the end, and
at the first option that exceeds the area. -/
def triples (pad stop : α) (len : α → ℕ) : List α → List (α × List α)
  | [] => []
  | [_] => []
  | code :: l :: rest =>
    if code = stop then []
    else if code = pad then triples pad stop len (l :: rest)
    else if rest.length < len l then []
    else (code, rest.take (len l)) :: triples pad stop len (rest.drop (len l))
termination_by l => l.length
decreasing_by
  · simp
  · simp only [List.length_drop, List.length_cons]
    omega

/-! ## Reading at a position -/

section Position

variable {f : List α} {i : ℕ} {code l : α}

omit [DecidableEq α] in
lemma drop_eq_cons (hcode : f[i]? = some code) : f.drop i = code :: f.drop (i + 1) := by
  obtain ⟨h, rfl⟩ := List.getElem?_eq_some_iff.mp hcode
  exact List.drop_eq_getElem_cons h

/-- One element is not an option. -/
lemma triples_short (h : f.length < i + 2) : triples pad stop len (f.drop i) = [] := by
  have hlen : (f.drop i).length < 2 := by
    rw [List.length_drop]
    omega
  match hdrop : f.drop i with
  | [] => rw [triples]
  | [_] => rw [triples]
  | _ :: _ :: _ =>
    rw [hdrop] at hlen
    simp at hlen

lemma triples_stop (hcode : f[i]? = some stop) : triples pad stop len (f.drop i) = [] := by
  rw [drop_eq_cons hcode]
  match f.drop (i + 1) with
  | [] => rw [triples]
  | _ :: _ => rw [triples, if_pos rfl]

lemma triples_pad (hne : pad ≠ stop) (hcode : f[i]? = some pad) :
    triples pad stop len (f.drop i) = triples pad stop len (f.drop (i + 1)) := by
  rw [drop_eq_cons hcode]
  match f.drop (i + 1) with
  | [] => rw [triples, triples]
  | _ :: _ => rw [triples, if_neg hne, if_pos rfl]

variable (hstop : code ≠ stop) (hpad : code ≠ pad)
include hstop hpad

lemma triples_overrun (hcode : f[i]? = some code) (hl : f[i + 1]? = some l)
    (h : f.length < i + 2 + len l) : triples pad stop len (f.drop i) = [] := by
  rw [drop_eq_cons hcode, drop_eq_cons hl, triples, if_neg hstop, if_neg hpad,
    if_pos (by rw [List.length_drop]; have := (List.getElem?_eq_some_iff.mp hl).1; omega)]

lemma triples_option (hcode : f[i]? = some code) (hl : f[i + 1]? = some l)
    (h : i + 2 + len l ≤ f.length) :
    triples pad stop len (f.drop i)
      = (code, (f.drop (i + 2)).take (len l)) :: triples pad stop len (f.drop (i + 2 + len l)) := by
  rw [drop_eq_cons hcode, drop_eq_cons hl, triples, if_neg hstop, if_neg hpad,
    if_neg (by rw [List.length_drop]; omega), List.drop_drop]

end Position

/-! ## Reading what was written -/

/-- An option that was written, before others. -/
lemma triples_append {code l : α} {value : List α} (hstop : code ≠ stop) (hpad : code ≠ pad)
    (hl : value.length = len l) (rest : List α) :
    triples pad stop len (code :: l :: (value ++ rest)) =
      (code, value) :: triples pad stop len rest := by
  rw [triples, if_neg hstop, if_neg hpad, if_neg (by rw [List.length_append]; omega),
    List.take_left' hl, List.drop_left' hl]

/-- The code that ends the area. -/
lemma triples_stop_append (rest : List α) : triples pad stop len (stop :: rest) = [] := by
  match rest with
  | [] => rw [triples]
  | _ :: _ => rw [triples, if_pos rfl]

/-! ## The last option of a kind -/

variable {β : Type*}

/-- The last element that satisfies `p`. -/
def last (p : β → Bool) (l : List β) : Option β := (l.filter p).getLast?

lemma last_append_of_pos {p : β → Bool} {x : β} (h : p x) (l : List β) :
    last p (l ++ [x]) = some x := by
  rw [last, List.filter_append, List.filter_cons_of_pos h, List.filter_nil, List.getLast?_concat]

lemma last_append_of_neg {p : β → Bool} {x : β} (h : ¬ p x) (l : List β) :
    last p (l ++ [x]) = last p l := by
  rw [last, List.filter_append, List.filter_cons_of_neg h, List.filter_nil, List.append_nil, last]

end Tlv
