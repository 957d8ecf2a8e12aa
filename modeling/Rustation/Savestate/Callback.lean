import Rustation.Lib.Outcome

/-!
The `callback!` macro of `serializer.rs`: a wrapper around a function pointer
that is saved under the name of the function.

A declaration lists the functions that may be stored.  Encoding looks the address
of the stored function up in the list and panics if it is not there; decoding
looks the name up.  The functions are the values of a type `α` with decidable
equality, so that distinct functions have distinct addresses, and a saved string
is the string that is read back.

* `Lut.encode`, `Lut.decode`: the two lookups;
* `Lut.Restores`: a stored function is listed, and survives being saved and
  loaded;
* `Lut.restores_iff`: in a list where equal names stand for the same function
  that is to say that it is listed.
-/

namespace Rustation

open Fallible

/-- The list of a `callback!` declaration: the functions with their names. -/
abbrev Lut (α : Type) := List (α × String)

namespace Lut

variable {α : Type} [DecidableEq α] {lut : Lut α} {f : α} {name : String}

/-- The name the function is saved under. -/
def encode (lut : Lut α) (f : α) : Outcome String :=
  match lut.find? fun e => f = e.1 with
  | some e => pure e.2
  | none => throw (.panic "Unexpected method pointer")

/-- The function a name is loaded as. -/
def decode (lut : Lut α) (symbol : String) : Except String α :=
  match lut.find? fun e => symbol = e.2 with
  | some e => .ok e.1
  | none => .error "Unknown callback"

/-- Equal names stand for the same function. -/
def Consistent (lut : Lut α) : Prop := ∀ e ∈ lut, ∀ e' ∈ lut, e.2 = e'.2 → e.1 = e'.1

instance : Decidable lut.Consistent :=
  inferInstanceAs (Decidable (∀ e ∈ lut, ∀ e' ∈ lut, e.2 = e'.2 → e.1 = e'.1))

/-- The function is listed, encoding it does not panic, and decoding its name
gives the function back. -/
structure Restores (lut : Lut α) (f : α) : Prop where
  listed : f ∈ lut.map Prod.fst
  restored : ∃ name, lut.encode f = .ok name ∧ lut.decode name = .ok f

/-- A listed function is saved under one of its names. -/
lemma encode_of_listed (h : f ∈ lut.map Prod.fst) :
    ∃ name, lut.encode f = .ok name ∧ (f, name) ∈ lut := by
  rw [encode]
  cases hfind : lut.find? fun e => f = e.1 with
  | none =>
      obtain ⟨e, he, rfl⟩ := List.mem_map.mp h
      exact absurd (decide_eq_true rfl) (List.find?_eq_none.mp hfind e he)
  | some e =>
      have hf : f = e.1 := by simpa using List.find?_some hfind
      refine ⟨e.2, rfl, ?_⟩
      rw [hf]
      exact List.mem_of_find?_eq_some hfind

omit [DecidableEq α] in
/-- A name is loaded as the function it stands for. -/
lemma decode_of_mem (hc : lut.Consistent) (h : (f, name) ∈ lut) : lut.decode name = .ok f := by
  rw [decode]
  cases hfind : lut.find? fun e => name = e.2 with
  | none => exact absurd (decide_eq_true rfl) (List.find?_eq_none.mp hfind _ h)
  | some e =>
      have hname : name = e.2 := by simpa using List.find?_some hfind
      have hf : e.1 = f := hc e (List.mem_of_find?_eq_some hfind) _ h hname.symm
      rw [← hf]

/-- **The round trip**: what is listed, and only that, survives. -/
theorem restores_iff (hc : lut.Consistent) : lut.Restores f ↔ f ∈ lut.map Prod.fst := by
  refine ⟨Restores.listed, fun h => ⟨h, ?_⟩⟩
  obtain ⟨name, hname, hmem⟩ := encode_of_listed h
  exact ⟨name, hname, decode_of_mem hc hmem⟩

end Lut

end Rustation
