import Mathlib.Data.List.GetD
import Rustation.Lib.Outcome

/-!
Slices: lists whose elements and ranges are read with a check of the bounds.

* `Slice.get`, `Slice.range`: the reads, which stop outside of the slice;
* `get_of_lt`, `get_eq_getD`, `range_of_le`: reads inside of the slice;
* `range_prefix`: the range that a known part of a slice occupies at its start.
-/

open Fallible

namespace Slice

variable {α : Type} {l : List α}

/-- The element at an index. -/
def get (l : List α) (i : ℕ) : Outcome α :=
  match l[i]? with
  | some a => pure a
  | none => throw .outOfBounds

/-- The elements from `start` up to `stop`, which is not included. -/
def range (l : List α) (start stop : ℕ) : Outcome (List α) :=
  if start ≤ stop ∧ stop ≤ l.length then pure ((l.take stop).drop start) else throw .outOfBounds

lemma get_of_some {i : ℕ} {a : α} (h : l[i]? = some a) : get l i = .ok a := by
  rw [get, h]
  rfl

lemma get_of_none {i : ℕ} (h : l[i]? = none) : get l i = .error .outOfBounds := by
  rw [get, h]
  rfl

lemma get_of_lt {i : ℕ} (h : i < l.length) : get l i = .ok l[i] :=
  get_of_some (List.getElem?_eq_getElem h)

lemma get_eq_getD {i : ℕ} (d : α) (h : i < l.length) : get l i = .ok (l.getD i d) := by
  rw [get_of_lt h, List.getD_eq_getElem l d h]

lemma range_of_le {start stop : ℕ} (h : start ≤ stop) (hstop : stop ≤ l.length) :
    range l start stop = .ok ((l.take stop).drop start) := by
  rw [range, if_pos ⟨h, hstop⟩, pure_eq_ok]

lemma range_of_lt {start stop : ℕ} (h : l.length < stop) :
    range l start stop = .error .outOfBounds := by
  rw [range, if_neg fun hle => absurd hle.2 h.not_ge, throw_eq_error]

lemma range_prefix (l rest : List α) : range (l ++ rest) 0 l.length = .ok l := by
  rw [range_of_le (Nat.zero_le _) (by simp), List.take_left, List.drop_zero]

end Slice
