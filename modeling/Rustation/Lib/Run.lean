import Mathlib.Tactic

/-!
Runs of a machine with total steps: a state type `σ`, an input type `ι` and a
step `σ → ι → σ`.

* `Run.Along P s l`: `P` holds of every state the run of the inputs `l` from
  `s` passes through, the first and the last included;
* `Run.Steps C s l`: every step of that run is taken under the condition `C`,
  which reads the state before the step and the input;
* `Run.along_iff_steps`: where one step keeps `P` exactly under `C`, a whole
  run keeps `P` exactly when all of its steps meet `C`, and
  `Run.along_iff_steps_of_inv` where it does so under an invariant;
* `Run.along_of_steps`: where a step under `C` keeps `P`, a run of such steps keeps `P`;
* `Run.steps_congr`: two conditions on steps that agree under an invariant agree
  on whole runs;
* `Run.next`: the step of a machine whose operations may stop, made total on outcomes,
  with `Run.Holds` and `Run.Taken` for the states and the operations that return, and
  `Run.along_next_iff`, the run lemma for it.
-/

namespace Run

variable {σ ι : Type} (step : σ → ι → σ)

/-- `P` holds of every state the run passes through. -/
def Along (P : σ → Prop) : σ → List ι → Prop
  | s, [] => P s
  | s, i :: l => P s ∧ Along P (step s i) l

/-- Every step of the run is taken under the condition `C`. -/
def Steps (C : σ → ι → Prop) : σ → List ι → Prop
  | _, [] => True
  | s, i :: l => C s i ∧ Steps C (step s i) l

variable {step}

lemma Along.head {P : σ → Prop} {s : σ} {l : List ι} (h : Along step P s l) : P s := by
  cases l with
  | nil => exact h
  | cons i l => exact h.1

/-- The property survives the run up to its last state. -/
lemma Along.last {P : σ → Prop} {s : σ} {l : List ι} (h : Along step P s l) :
    P (l.foldl step s) := by
  induction l generalizing s with
  | nil => exact h
  | cons i l ih => exact ih h.2

lemma Along.mono {P Q : σ → Prop} (hPQ : ∀ s, P s → Q s) {s : σ} {l : List ι}
    (h : Along step P s l) : Along step Q s l := by
  induction l generalizing s with
  | nil => exact hPQ s h
  | cons i l ih => exact ⟨hPQ s h.1, ih h.2⟩

/-- The invariant rule: a run of steps that keep `P` under `C`. -/
theorem along_of_steps {P : σ → Prop} {C : σ → ι → Prop}
    (hstep : ∀ s i, P s → C s i → P (step s i)) {s : σ} (hs : P s) {l : List ι}
    (hl : Steps step C s l) : Along step P s l := by
  induction l generalizing s with
  | nil => exact hs
  | cons i l ih => exact ⟨hs, ih (hstep s i hs hl.1) hl.2⟩

instance decidableSteps {C : σ → ι → Prop} [∀ s i, Decidable (C s i)] :
    ∀ (s : σ) (l : List ι), Decidable (Steps step C s l)
  | _, [] => isTrue trivial
  | s, i :: l =>
      have := decidableSteps (C := C) (step s i) l
      inferInstanceAs (Decidable (C s i ∧ Steps step C (step s i) l))

/-- A step somewhere in a run is taken under the condition. -/
lemma Steps.at {C : σ → ι → Prop} {s : σ} {l l' : List ι} {i : ι}
    (h : Steps step C s (l ++ i :: l')) : C (l.foldl step s) i := by
  induction l generalizing s with
  | nil => exact h.1
  | cons j l ih => exact ih h.2

/-- **The run lemma.**  If under an invariant a step from a state with `P`
reaches a state with `P` exactly when the step meets `C`, then a run from a state
with both keeps `P` throughout exactly when all of its steps meet `C`. -/
theorem along_iff_steps_of_inv {I P : σ → Prop} {C : σ → ι → Prop}
    (hkeep : ∀ s i, I s → I (step s i))
    (hstep : ∀ s i, I s → P s → (P (step s i) ↔ C s i)) {s : σ} (hi : I s) (hs : P s)
    (l : List ι) : Along step P s l ↔ Steps step C s l := by
  induction l generalizing s with
  | nil => exact ⟨fun _ => trivial, fun _ => hs⟩
  | cons i l ih =>
      constructor
      · rintro ⟨-, h⟩
        exact ⟨(hstep s i hi hs).mp h.head, (ih (hkeep s i hi) h.head).mp h⟩
      · rintro ⟨hc, h⟩
        exact ⟨hs, (ih (hkeep s i hi) ((hstep s i hi hs).mpr hc)).mpr h⟩

/-- The run lemma without an invariant. -/
theorem along_iff_steps {P : σ → Prop} {C : σ → ι → Prop}
    (hstep : ∀ s i, P s → (P (step s i) ↔ C s i)) {s : σ} (hs : P s) (l : List ι) :
    Along step P s l ↔ Steps step C s l :=
  along_iff_steps_of_inv (I := fun _ => True) (fun _ _ _ => trivial) (fun s i _ => hstep s i)
    trivial hs l

/-- Conditions that agree on the steps `H` allows from states with the invariant
`I` agree on the runs made of such steps. -/
theorem steps_congr {I : σ → Prop} {H P C : σ → ι → Prop}
    (hkeep : ∀ s i, I s → H s i → I (step s i)) (hiff : ∀ s i, I s → H s i → (P s i ↔ C s i))
    {s : σ} (hs : I s) {l : List ι} (hl : Steps step H s l) :
    Steps step P s l ↔ Steps step C s l := by
  induction l generalizing s with
  | nil => exact Iff.rfl
  | cons i l ih => exact and_congr (hiff s i hs hl.1) (ih (hkeep s i hs hl.1) hl.2)

lemma steps_trivial (step : σ → ι → σ) (s : σ) (l : List ι) :
    Steps step (fun _ _ => True) s l := by
  induction l generalizing s with
  | nil => trivial
  | cons i l ih => exact ⟨trivial, ih (step s i)⟩

/-! ### Operations that may stop -/

variable {ε : Type} {perform : σ → ι → Except ε σ}

/-- A run goes on from the state an operation returned, and ends with the first one that does not
return. -/
def next (perform : σ → ι → Except ε σ) (s : Except ε σ) (i : ι) : Except ε σ :=
  s.bind fun c => perform c i

lemma foldl_next_error (e : ε) (l : List ι) :
    l.foldl (next perform) (.error e) = .error e := by
  induction l with
  | nil => rfl
  | cons i l ih => exact ih

/-- The last state of a run is that of the operations in sequence. -/
lemma foldl_next (s : σ) (l : List ι) : l.foldl (next perform) (.ok s) = l.foldlM perform s := by
  induction l generalizing s with
  | nil => rfl
  | cons i l ih =>
      rw [List.foldl_cons, List.foldlM_cons]
      change l.foldl (next perform) (perform s i) = _
      cases perform s i with
      | error e => exact foldl_next_error e l
      | ok s' => exact ih s'

/-- `P` holds of the state, if the run has one. -/
def Holds (P : σ → Prop) (s : Except ε σ) : Prop := ∀ c, s = .ok c → P c

/-- The operation, if it is taken and returns, is taken under the condition `C`. -/
def Taken (perform : σ → ι → Except ε σ) (C : σ → ι → Prop) (s : Except ε σ) (i : ι) : Prop :=
  ∀ c c', s = .ok c → perform c i = .ok c' → C c i

lemma holds_ok {P : σ → Prop} {c : σ} : Holds P (.ok c : Except ε σ) ↔ P c := by
  constructor
  · intro h
    exact h c rfl
  · intro h c' hc
    obtain rfl := Except.ok.inj hc
    exact h

lemma holds_next {P : σ → Prop} {s : Except ε σ} {i : ι} :
    Holds P (next perform s i) ↔ ∀ c c', s = .ok c → perform c i = .ok c' → P c' := by
  cases s with
  | error e => exact ⟨fun _ => nofun, fun _ => nofun⟩
  | ok c =>
      constructor
      · intro h d c' hd hc'
        obtain rfl := Except.ok.inj hd
        exact h c' hc'
      · intro h c' hc'
        exact h c c' rfl hc'

/-- The run lemma for operations that may stop. -/
theorem along_next_iff {I P : σ → Prop} {C : σ → ι → Prop}
    (hkeep : ∀ s i s', I s → perform s i = .ok s' → I s')
    (hstep : ∀ s i s', I s → P s → perform s i = .ok s' → (P s' ↔ C s i)) {s : σ} (hi : I s)
    (hs : P s) (l : List ι) :
    Along (next perform) (Holds P) (.ok s) l ↔
      Steps (next perform) (Taken perform C) (.ok s) l := by
  refine along_iff_steps_of_inv (I := Holds I) (fun s i hs => ?_) (fun s i hi hs => ?_)
    (holds_ok.mpr hi) (holds_ok.mpr hs) l
  · rw [holds_next]
    exact fun c c' hc hc' => hkeep c i c' (hs c hc) hc'
  · rw [holds_next]
    exact forall₄_congr fun c c' hc hc' => hstep c i c' (hi c hc) (hs c hc) hc'

end Run
