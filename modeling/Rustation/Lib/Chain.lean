import Mathlib.Tactic

/-!
Linked lists in a memory, given by the function `next` that reads where a cell
points, `none` at the end of the list.

* `Chain next l`: the cells met from the head of `l` on, to the end, are those
  of `l`;
* `Chain.congr`: a chain depends on its own cells only;
* `Chain.insert`: a new cell is linked in behind a cell of the chain;
* `Chain.not_cyclic`: a chain never comes back to one of its cells;
* `chain_map_range`: an array whose cells point at their neighbours.
-/

variable {α : Type} {next next' : α → Option α}

/-- The cells from the head of the list to its end, in order. -/
inductive Chain (next : α → Option α) : List α → Prop where
  | last {a : α} (h : next a = none) : Chain next [a]
  | cons {a b : α} {l : List α} (h : next a = some b) (hl : Chain next (b :: l)) :
      Chain next (a :: b :: l)

namespace Chain

lemma congr {l : List α} (hl : Chain next l) (h : ∀ a ∈ l, next' a = next a) :
    Chain next' l := by
  induction hl with
  | last ha => exact .last ((h _ List.mem_cons_self).trans ha)
  | cons ha _ ih =>
      refine .cons ((h _ List.mem_cons_self).trans ha) (ih fun x hx => ?_)
      exact h x (List.mem_cons_of_mem _ hx)

/-- The cell `p` is linked in behind the cell `a`, taking over its successor. -/
lemma insert {pre post : List α} {a p : α} (hl : Chain next (pre ++ a :: post))
    (ha : next' a = some p) (hp : next' p = next a)
    (h : ∀ x ∈ pre ++ post, next' x = next x) : Chain next' (pre ++ a :: p :: post) := by
  induction pre with
  | nil =>
      refine .cons ha ?_
      cases hl with
      | last hlast => exact .last (hp.trans hlast)
      | cons hnext hrest => exact .cons (hp.trans hnext) (hrest.congr h)
  | cons x pre ih =>
      have hx : next' x = next x := h x List.mem_cons_self
      have hrest : ∀ y ∈ pre ++ post, next' y = next y :=
        fun y hy => h y (List.mem_cons_of_mem x hy)
      cases pre with
      | nil =>
          cases hl with
          | cons hnext htail => exact .cons (hx.trans hnext) (ih htail hrest)
      | cons y pre =>
          cases hl with
          | cons hnext htail => exact .cons (hx.trans hnext) (ih htail hrest)

/-- There is one chain from a cell. -/
lemma unique {a : α} {l l' : List α} (hl : Chain next (a :: l)) (hl' : Chain next (a :: l')) :
    l = l' := by
  induction l generalizing a l' with
  | nil =>
      cases hl with
      | last h =>
          cases hl' with
          | last _ => rfl
          | cons h' _ => cases h.symm.trans h'
  | cons b l ih =>
      cases hl with
      | cons h htail =>
          cases hl' with
          | last h' => cases h.symm.trans h'
          | cons h' htail' =>
              obtain rfl := Option.some.inj (h.symm.trans h')
              rw [ih htail htail']

/-- A cell further down starts a shorter chain. -/
lemma shorter {a b : α} {l : List α} (hl : Chain next (a :: l))
    (hab : Relation.TransGen (fun a b => next a = some b) a b) :
    ∃ l', Chain next (b :: l') ∧ l'.length < l.length := by
  have hstep {a b : α} {l : List α} (hl : Chain next (a :: l)) (h : next a = some b) :
      ∃ l', Chain next (b :: l') ∧ l'.length < l.length := by
    cases hl with
    | last hend => cases hend.symm.trans h
    | cons hnext htail =>
        obtain rfl := Option.some.inj (hnext.symm.trans h)
        exact ⟨_, htail, Nat.lt_succ_self _⟩
  induction hab with
  | single h => exact hstep hl h
  | tail _ h ih =>
      obtain ⟨l₁, hl₁, hlt₁⟩ := ih
      obtain ⟨l₂, hl₂, hlt₂⟩ := hstep hl₁ h
      exact ⟨l₂, hl₂, hlt₂.trans hlt₁⟩

/-- No cell that is met from the head on leads back to itself. -/
lemma not_cyclic {a b : α} {l : List α} (hl : Chain next (a :: l))
    (hab : Relation.ReflTransGen (fun a b => next a = some b) a b) :
    ¬ Relation.TransGen (fun a b => next a = some b) b b := by
  intro hbb
  obtain ⟨l₁, hl₁⟩ : ∃ l₁, Chain next (b :: l₁) := by
    rcases Relation.reflTransGen_iff_eq_or_transGen.mp hab with rfl | hab
    · exact ⟨l, hl⟩
    · obtain ⟨l₁, hl₁, -⟩ := hl.shorter hab
      exact ⟨l₁, hl₁⟩
  obtain ⟨l₂, hl₂, hlt⟩ := hl₁.shorter hbb
  rw [hl₁.unique hl₂] at hlt
  exact Nat.lt_irrefl _ hlt

end Chain

/-- An array whose cells point at their neighbours, from the cell `j` on. -/
lemma chain_map_range' {f : ℕ → α} {m : ℕ} (j : ℕ)
    (hnext : ∀ k, j ≤ k → k < j + m → next (f k) = some (f (k + 1)))
    (hlast : next (f (j + m)) = none) : Chain next ((List.range' j (m + 1)).map f) := by
  induction m generalizing j with
  | zero => exact .last hlast
  | succ m ih =>
      have hrest := ih (j + 1) (fun k hk hlt => hnext k (by omega) (by omega))
        (by rw [show j + 1 + m = j + (m + 1) by omega]; exact hlast)
      rw [List.range'_succ, List.map_cons] at hrest ⊢
      exact .cons (hnext j le_rfl (by omega)) hrest

lemma chain_map_range {f : ℕ → α} {n : ℕ} (hn : 0 < n)
    (hnext : ∀ k, k + 1 < n → next (f k) = some (f (k + 1)))
    (hlast : next (f (n - 1)) = none) : Chain next ((List.range n).map f) := by
  obtain ⟨m, rfl⟩ : ∃ m, n = m + 1 := ⟨n - 1, by omega⟩
  rw [List.range_eq_range']
  refine chain_map_range' 0 (fun k _ hk => hnext k (by omega)) ?_
  rw [Nat.zero_add]
  exact hlast
