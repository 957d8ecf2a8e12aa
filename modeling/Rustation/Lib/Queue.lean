import Rustation.Lib.Run

/-!
Queues, and the record of what has gone through them.

* `Queue.Op`: what a queue is asked for;
* `Queue.act`: the queue as a list, oldest element first;
* `Queue.Log`: what has been put in and taken out since the queue was last cleared.
  `Log.Accounts` says that the elements taken out are the first ones that were put in, and that
  the others are queued;
* `Queue.logged`: the step of an implementation, with its log;
* `Queue.along_accounts`: an implementation whose operations are those of a list, under an
  abstraction function and as long as a condition on them is met, keeps such a log.
-/

namespace Queue

variable {α σ : Type}

/-- What a queue is asked for. -/
inductive Op (α : Type) where
  | push (a : α)
  | pushSlice (l : List α)
  | pop
  | clear

/-- What an operation puts in. -/
def Op.input : Op α → List α
  | .push a => [a]
  | .pushSlice l => l
  | .pop => []
  | .clear => []

/-- A list as a queue: the list after an operation, and what has been taken out. -/
def act (q : List α) : Op α → List α × List α
  | .push a => (q ++ [a], [])
  | .pushSlice l => (q ++ l, [])
  | .pop => (q.tail, q.take 1)
  | .clear => ([], [])

/-! ### The log -/

/-- What has been put in and taken out since the queue was last cleared. -/
structure Log (α : Type) where
  pushed : List α
  popped : List α

namespace Log

def empty : Log α := ⟨[], []⟩

/-- An operation that has taken out `out`. -/
def record (log : Log α) (out : List α) : Op α → Log α
  | .clear => empty
  | op => ⟨log.pushed ++ op.input, log.popped ++ out⟩

/-- The number of elements that have not been taken out. -/
def count (log : Log α) : ℕ := log.pushed.length - log.popped.length

/-- The elements taken out are the first ones that were put in, and `q` holds the others. -/
def Accounts (log : Log α) (q : List α) : Prop := log.popped ++ q = log.pushed

variable {log : Log α} {q : List α}

lemma Accounts.popped_prefix (h : log.Accounts q) : log.popped <+: log.pushed := ⟨q, h⟩

lemma Accounts.count_eq (h : log.Accounts q) : log.count = q.length := by
  rw [count, ← h, List.length_append]
  omega

lemma accounts_empty : (empty : Log α).Accounts [] := rfl

lemma Accounts.act (h : log.Accounts q) (op : Op α) :
    (log.record (act q op).2 op).Accounts (act q op).1 := by
  cases op with
  | push a =>
      change (log.popped ++ []) ++ (q ++ [a]) = log.pushed ++ [a]
      rw [List.append_nil, ← List.append_assoc, h]
  | pushSlice l =>
      change (log.popped ++ []) ++ (q ++ l) = log.pushed ++ l
      rw [List.append_nil, ← List.append_assoc, h]
  | pop =>
      change (log.popped ++ q.take 1) ++ q.tail = log.pushed ++ []
      rw [List.append_nil, List.append_assoc, ← List.drop_one, List.take_append_drop, h]
  | clear => exact accounts_empty

end Log

/-! ### Implementations -/

variable {perform : σ → Op α → σ × List α}

/-- The step of an implementation, with its log. -/
def logged (perform : σ → Op α → σ × List α) (s : σ × Log α) (op : Op α) : σ × Log α :=
  ((perform s.1 op).1, s.2.record (perform s.1 op).2 op)

/-- An implementation that does what a list does, whenever the condition `C` on its operations is
met, keeps an account of its queue. -/
theorem along_accounts {view : σ → List α} {I : σ → Prop} {C : σ → Op α → Prop}
    (hkeep : ∀ s op, I s → C s op → I (perform s op).1)
    (hact : ∀ s op, I s → C s op →
      act (view s) op = (view (perform s op).1, (perform s op).2))
    {s : σ} (hs : I s) {log : Log α} (hlog : log.Accounts (view s)) {ops : List (Op α)}
    (hops : Run.Steps (logged perform) (fun s op => C s.1 op) (s, log) ops) :
    Run.Along (logged perform) (fun s => I s.1 ∧ s.2.Accounts (view s.1)) (s, log) ops := by
  refine Run.along_of_steps (fun s op hs hc => ⟨hkeep s.1 op hs.1 hc, ?_⟩) ⟨hs, hlog⟩ hops
  have hstep := hs.2.act op
  rw [hact s.1 op hs.1 hc] at hstep
  exact hstep

end Queue
