import Mathlib.Data.List.TakeWhile
import Mathlib.Tactic

/-!
The words of a list: its longest parts without a separator, `p` telling the separators.

* `words_separators`, `words_word`: separators in front are skipped, and a word in front is the
  first one;
* `words_eq_cons`: inversion, the place of the first word;
* `splitOnP_lines`: a list cut at each of its separators.
-/

namespace List

variable {α : Type} {p : α → Bool} {l w s rest : List α} {ws : List (List α)}

/-- The parts between separators that are not empty. -/
def words (p : α → Bool) (l : List α) : List (List α) := (l.splitOnP p).filter fun w => !w.isEmpty

/-- Nothing is left, or a separator comes next. -/
def Ends (p : α → Bool) (rest : List α) : Prop := ∀ a ∈ rest.head?, p a = true

lemma words_cons_separator {a : α} (ha : p a = true) : words p (a :: l) = words p l := by
  rw [words, splitOnP_cons_eq_if_modifyHead, if_pos ha, filter_cons_of_neg (by simp), words]

/-- Separators in front are skipped. -/
lemma words_separators (hs : ∀ a ∈ s, p a = true) : words p (s ++ rest) = words p rest := by
  induction s with
  | nil => rfl
  | cons a s ih =>
      rw [cons_append, words_cons_separator (hs a mem_cons_self)]
      exact ih fun b hb => hs b (mem_cons_of_mem a hb)

lemma words_eq_nil (hs : ∀ a ∈ s, p a = true) : words p s = [] := by
  have h : words p (s ++ []) = words p [] := words_separators hs
  rw [append_nil] at h
  rw [h]
  rfl

/-- Where there is no word, there are separators only. -/
lemma separators_of_words_eq_nil (h : words p l = []) : ∀ a ∈ l, p a = true := by
  induction l with
  | nil => simp
  | cons a l ih =>
      by_cases ha : p a = true
      · rw [words_cons_separator ha] at h
        intro b hb
        rcases mem_cons.mp hb with rfl | hb
        · exact ha
        · exact ih h b hb
      · rw [words, splitOnP_cons_eq_if_modifyHead, if_neg ha] at h
        cases hsplit : l.splitOnP p with
        | nil => exact absurd hsplit (splitOnP_ne_nil p l)
        | cons w ws =>
            rw [hsplit, modifyHead_cons, filter_cons_of_pos rfl] at h
            cases h

/-- A word in front is the first one. -/
lemma words_word (hw : w ≠ []) (hp : ∀ a ∈ w, p a = false) (hrest : Ends p rest) :
    words p (w ++ rest) = w :: words p rest := by
  have hkeep (l : List (List α)) :
      (w :: l).filter (fun w => !w.isEmpty) = w :: l.filter fun w => !w.isEmpty :=
    filter_cons_of_pos (by simpa using hw)
  cases rest with
  | nil =>
      rw [append_nil, words, splitOnP_eq_singleton hp, hkeep]
      rfl
  | cons a rest =>
      have ha : p a = true := hrest a rfl
      rw [words_cons_separator ha, words, splitOnP_append_cons_of_forall_mem hp a ha, hkeep,
        words]

/-- The place of the first word. -/
lemma words_eq_cons (h : words p l = w :: ws) :
    ∃ s rest, l = s ++ (w ++ rest) ∧ (∀ a ∈ s, p a = true) ∧ w ≠ [] ∧ (∀ a ∈ w, p a = false)
      ∧ Ends p rest ∧ words p rest = ws := by
  induction l with
  | nil => cases h
  | cons a l ih =>
      by_cases ha : p a = true
      · rw [words_cons_separator ha] at h
        obtain ⟨s, rest, rfl, hs, hword⟩ := ih h
        refine ⟨a :: s, rest, rfl, ?_, hword⟩
        intro b hb
        rcases mem_cons.mp hb with rfl | hb
        · exact ha
        · exact hs b hb
      · -- the word goes up to the next separator
        have hsplit := takeWhile_append_dropWhile (p := fun b => !p b) (l := a :: l)
        have hne : (a :: l).takeWhile (fun b => !p b) ≠ [] := by simp [ha]
        have hfree : ∀ b ∈ (a :: l).takeWhile (fun b => !p b), p b = false := by
          intro b hb
          simpa using mem_takeWhile_imp hb
        have hends : Ends p ((a :: l).dropWhile fun b => !p b) := by
          intro b hb
          have hhead := head?_dropWhile_not (fun b => !p b) (a :: l)
          rw [Option.mem_def.mp hb] at hhead
          simpa using hhead
        rw [← hsplit, words_word hne hfree hends] at h
        injection h with hw hws
        refine ⟨[], _, ?_, by simp, ?_, ?_, hends, hws⟩
        · rw [nil_append, ← hw, hsplit]
        · rw [← hw]
          exact hne
        · rw [← hw]
          exact hfree

/-- Lines, each with its separator at the end, and what follows them. -/
lemma splitOnP_lines {a : α} (ha : p a = true) {lines : List (List α)}
    (hlines : ∀ l ∈ lines, ∀ b ∈ l, p b = false) (rest : List α) :
    (lines.flatMap (· ++ [a]) ++ rest).splitOnP p = lines ++ rest.splitOnP p := by
  induction lines with
  | nil => rfl
  | cons l lines ih =>
      have hl : ∀ b ∈ l, p b = false := hlines l mem_cons_self
      rw [flatMap_cons, append_assoc, append_assoc, singleton_append,
        splitOnP_append_cons_of_forall_mem hl a ha,
        cons_append, ih fun l' hl' => hlines l' (mem_cons_of_mem l hl')]

end List
