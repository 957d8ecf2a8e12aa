import Rustation.Mdec.Mdec

/-!
Uploads of the tables of the motion decoder.

A command word announces a table and is followed by the words of the table.  The position of
a word is worked out from the number of words that are still expected.

* `Table`: what a command word can announce, with the number of words, and the entry that each
  of them is for (`Table.quant`, `Table.coefficient`);
* `Placed`: the tables after the first words of an upload;
* `Progress`: the decoder in the middle of an upload.  `command_progress` is the step lemma, for
  one more word;
* `Framed`: what holds between two words, in any run (`run_framed`);
* `uploads_placed`: no word is refused, every table ends up where it belongs, and nothing else
  changes.
-/

namespace Rustation

open Fallible

namespace MDec

/-! ### Tables -/

/-- An entry of a quantization matrix. -/
def quantAt (m : MDec) (matrix : Fin 2) (index : Fin 64) : U8 := m.quantMatrices[matrix][index]

/-- An entry of the IDCT matrix. -/
def idctAt (m : MDec) (index : Fin 64) : I16 := m.idctMatrix[index]

/-- Halfword `i` of a word. -/
def half (w : U32) (i : ℕ) : I16 := (w >>> (i * 16)).setWidth 16

/-- What a command word can announce. -/
inductive Table where
  | lumaChroma | luma | idct
  deriving DecidableEq, Repr

namespace Table

/-- The number of words that follow the command. -/
def length : Table → ℕ
  | lumaChroma => 32
  | luma => 16
  | idct => 32

def handler : Table → CommandHandler
  | lumaChroma => .handleColorQuantMatrices
  | luma => .handleMonochromeQuantMatrix
  | idct => .handleIdctMatrix

/-- The upload that a command word starts. -/
def ofCommand (cmd : U32) : Option Table :=
  if opcode cmd = 2 then some (if cmd &&& 1 ≠ 0 then lumaChroma else luma)
  else if opcode cmd = 3 then some idct
  else none

/-- What the words `ws` of an upload put into an entry of the quantization matrices: entry
`4 * j + i` of matrix `k` is byte `i` of word `16 * k + j`. -/
def quant (t : Table) (ws : List U32) (matrix : Fin 2) (index : Fin 64) : Option U8 :=
  match t with
  | lumaChroma => ws[16 * matrix.val + index.val / 4]?.map (byteOf · (index.val % 4))
  | luma => if matrix = 0 then ws[index.val / 4]?.map (byteOf · (index.val % 4)) else none
  | idct => none

/-- What they put into an entry of the IDCT matrix: entry `2 * j + i` is halfword `i` of
word `j`. -/
def coefficient (t : Table) (ws : List U32) (index : Fin 64) : Option I16 :=
  match t with
  | idct => ws[index.val / 2]?.map (half · (index.val % 2))
  | _ => none

end Table

/-- The tables of `m` are those of `base`, with the words `ws` of an upload put into them. -/
structure Placed (t : Table) (ws : List U32) (base m : MDec) : Prop where
  quant : ∀ matrix index,
    m.quantAt matrix index = (t.quant ws matrix index).getD (base.quantAt matrix index)
  coefficient : ∀ index, m.idctAt index = (t.coefficient ws index).getD (base.idctAt index)

/-- No entry of a table differs. -/
structure SameTables (m m' : MDec) : Prop where
  quant : m'.quantMatrices = m.quantMatrices
  idct : m'.idctMatrix = m.idctMatrix

/-- The decoder waits for a command. -/
structure Idle (m : MDec) : Prop where
  handler : m.commandHandler = .handleCommand
  remaining : m.commandRemaining = 1

variable {m m' base : MDec} {t : Table} {ws : List U32} {w cmd : U32}

lemma placed_nil (t : Table) (m : MDec) : Placed t [] m m := by
  constructor
  · intro matrix index
    cases t with
    | luma => rw [Table.quant]; split_ifs <;> rfl
    | _ => rfl
  · intro index
    cases t <;> rfl

/-- One more word changes the entries that it is for. -/
lemma getD_map_snoc {α : Type} (ws : List U32) (w : U32) (i : ℕ) (f : U32 → α) (old : α) :
    ((ws ++ [w])[i]?.map f).getD old = if i = ws.length then f w else (ws[i]?.map f).getD old := by
  rcases lt_trichotomy i ws.length with h | h | h
  · rw [List.getElem?_append_left h, if_neg h.ne]
  · rw [h, List.getElem?_concat_length, if_pos rfl]
    rfl
  · rw [List.getElem?_eq_none (by simpa using h), List.getElem?_eq_none h.le, if_neg h.ne']

/-! ### The handlers -/

lemma checkedSub_eq {a b : U16} {j : ℕ} (h : b.toNat + j = a.toNat) :
    ∃ d, checkedSub a b = .ok d ∧ d.toNat = j :=
  ⟨a - b, if_pos (by bv_omega), by bv_omega⟩

lemma setQuant_spec (m : MDec) {matrix index : ℕ} (hmatrix : matrix < 2) (hindex : index < 64)
    (val : U8) :
    ∃ q, m.setQuant matrix index val = .ok { m with quantMatrices := q }
      ∧ ∀ (k : Fin 2) (n : Fin 64), { m with quantMatrices := q }.quantAt k n
        = if k.val = matrix ∧ n.val = index then val else m.quantAt k n := by
  refine ⟨_, dif_pos ⟨hmatrix, hindex⟩, fun k n => ?_⟩
  simp only [quantAt, Fin.getElem_fin, Vector.getElem_set]
  by_cases hk : matrix = k.val
  · subst hk
    simp [Vector.getElem_set, eq_comm]
  · simp [hk, Ne.symm hk]

/-- Four bytes of a quantization matrix are set. -/
lemma setQuantWord_spec (m : MDec) {matrix j : ℕ} (hmatrix : matrix < 2) (hj : j < 16)
    (cmd : U32) :
    ∃ q, m.setQuantWord matrix (j * 4) cmd = .ok { m with quantMatrices := q }
      ∧ ∀ (k : Fin 2) (n : Fin 64), { m with quantMatrices := q }.quantAt k n
        = if k.val = matrix ∧ n.val / 4 = j then byteOf cmd (n.val % 4) else m.quantAt k n := by
  obtain ⟨q0, h0, hq0⟩ := m.setQuant_spec hmatrix (show j * 4 + 0 < 64 by omega) (byteOf cmd 0)
  obtain ⟨q1, h1, hq1⟩ := setQuant_spec { m with quantMatrices := q0 } hmatrix
    (show j * 4 + 1 < 64 by omega) (byteOf cmd 1)
  obtain ⟨q2, h2, hq2⟩ := setQuant_spec { m with quantMatrices := q1 } hmatrix
    (show j * 4 + 2 < 64 by omega) (byteOf cmd 2)
  obtain ⟨q3, h3, hq3⟩ := setQuant_spec { m with quantMatrices := q2 } hmatrix
    (show j * 4 + 3 < 64 by omega) (byteOf cmd 3)
  refine ⟨q3, ?_, fun k n => ?_⟩
  · rw [byteOf] at h0 h1 h2 h3
    simp only [setQuantWord, List.foldlM_cons, List.foldlM_nil, h0, ok_bind, h1, h2, h3, pure_eq_ok]
  · rw [hq3, hq2, hq1, hq0]
    split_ifs <;> first | rfl | omega | (congr 1; omega)

lemma setIdct_spec (m : MDec) {index : ℕ} (hindex : index < 64) (val : I16) :
    ∃ v, m.setIdct index val = .ok { m with idctMatrix := v }
      ∧ ∀ n : Fin 64, { m with idctMatrix := v }.idctAt n
        = if n.val = index then val else m.idctAt n := by
  refine ⟨_, dif_pos hindex, fun n => ?_⟩
  simp [idctAt, Fin.getElem_fin, Vector.getElem_set, eq_comm]

/-- Two coefficients of the IDCT matrix are set. -/
lemma handleIdctMatrix_spec {j : ℕ} (hr : m.commandRemaining.toNat + j = 31) (cmd : U32) :
    ∃ v, m.handleIdctMatrix cmd = .ok { m with idctMatrix := v }
      ∧ ∀ n : Fin 64, { m with idctMatrix := v }.idctAt n
        = if n.val / 2 = j then half cmd (n.val % 2) else m.idctAt n := by
  obtain ⟨d, hd, hj⟩ := checkedSub_eq (a := 31) hr
  obtain ⟨v0, h0, hv0⟩ := m.setIdct_spec (show j * 2 < 64 by omega) (half cmd 0)
  obtain ⟨v1, h1, hv1⟩ := setIdct_spec { m with idctMatrix := v0 }
    (show j * 2 + 1 < 64 by omega) (half cmd 1)
  refine ⟨v1, ?_, fun n => ?_⟩
  · have hlow : cmd.setWidth 16 = half cmd 0 := by rw [half, Nat.zero_mul, BitVec.ushiftRight_zero]
    rw [half, Nat.one_mul] at h1
    rw [handleIdctMatrix, hd, ok_bind, hj, hlow]
    dsimp only
    rw [h0, ok_bind, h1]
  · rw [hv1, hv0]
    split_ifs <;> first | rfl | omega | (congr 1; omega)

/-- **One more word**: the handler of a table puts it where it belongs. -/
lemma runHandler_placed (h : Placed t ws base m)
    (hr : m.commandRemaining.toNat + ws.length + 1 = t.length) (w : U32) :
    ∃ m', m.runHandler w t.handler = .ok m' ∧ Placed t (ws ++ [w]) base m'
      ∧ m'.commandHandler = m.commandHandler ∧ m'.commandRemaining = m.commandRemaining := by
  cases t with
  | lumaChroma =>
      rw [Table.length] at hr
      obtain ⟨d, hd, hj⟩ := checkedSub_eq (a := 31) (b := m.commandRemaining) (j := ws.length)
        (show _ = 31 by omega)
      obtain ⟨q, hq, hentry⟩ := m.setQuantWord_spec (show ws.length / 16 < 2 by omega)
        (show ws.length % 16 < 16 by omega) w
      refine ⟨{ m with quantMatrices := q }, ?_, ⟨fun k n => ?_, h.coefficient⟩, rfl, rfl⟩
      · rw [Table.handler, runHandler, handleColorQuantMatrices, hd, ok_bind, hj]
        exact hq
      · have hiff : (k.val = ws.length / 16 ∧ n.val / 4 = ws.length % 16)
            ↔ 16 * k.val + n.val / 4 = ws.length := by omega
        rw [hentry, h.quant, Table.quant, Table.quant, getD_map_snoc]
        simp only [hiff]
  | luma =>
      rw [Table.length] at hr
      obtain ⟨d, hd, hj⟩ := checkedSub_eq (a := 15) (b := m.commandRemaining) (j := ws.length)
        (show _ = 15 by omega)
      obtain ⟨q, hq, hentry⟩ := m.setQuantWord_spec (show 0 < 2 by omega)
        (show ws.length < 16 by omega) w
      refine ⟨{ m with quantMatrices := q }, ?_, ⟨fun k n => ?_, h.coefficient⟩, rfl, rfl⟩
      · rw [Table.handler, runHandler, handleMonochromeQuantMatrix, hd, ok_bind, hj]
        exact hq
      · rw [hentry, h.quant, Table.quant, Table.quant]
        by_cases hk : k = 0
        · rw [if_pos hk, if_pos hk, getD_map_snoc, hk]
          simp
        · have hval : ¬k.val = 0 := fun h => hk (Fin.ext h)
          rw [if_neg hk, if_neg hk, if_neg fun h => hval h.1]
  | idct =>
      rw [Table.length] at hr
      obtain ⟨v, hv, hentry⟩ := handleIdctMatrix_spec (m := m) (j := ws.length) (by omega) w
      refine ⟨{ m with idctMatrix := v }, hv, ⟨h.quant, fun n => ?_⟩, rfl, rfl⟩
      rw [hentry, h.coefficient, Table.coefficient, Table.coefficient, getD_map_snoc]

/-! ### Words of an upload -/

/-- The decoder after the words `ws` of an upload that began with the tables of `base`. -/
structure Progress (t : Table) (ws : List U32) (base m : MDec) : Prop where
  placed : Placed t ws base m
  pending : ws.length < t.length →
    m.commandHandler = t.handler ∧ m.commandRemaining.toNat + ws.length = t.length
  done : ws.length = t.length → m.Idle

lemma Table.handler_ne (t : Table) : t.handler ≠ .handleCommand := by
  cases t <;> nofun

/-- The step lemma for a word of a table, whatever it looks like. -/
lemma command_progress (h : Progress t ws base m) (hlen : ws.length < t.length) (w : U32) :
    ∃ m', m.command w = .ok m' ∧ Progress t (ws ++ [w]) base m' := by
  obtain ⟨hhandler, hremaining⟩ := h.pending hlen
  obtain ⟨d, hd, hsub⟩ := checkedSub_eq (a := m.commandRemaining) (b := 1)
    (j := m.commandRemaining.toNat - 1) (show 1 + _ = _ by omega)
  obtain ⟨m', hrun, hplaced, hkeep, hleft⟩ := runHandler_placed
    (m := { m with commandRemaining := d }) ⟨h.placed.quant, h.placed.coefficient⟩
    (show d.toNat + ws.length + 1 = _ by omega) w
  have hlength : (ws ++ [w]).length = ws.length + 1 := by simp
  have hzero : m'.commandRemaining = 0 ↔ ws.length + 1 = t.length := by
    rw [hleft, ← BitVec.toNat_inj]
    show d.toNat = 0 ↔ _
    omega
  rw [← hhandler] at hrun
  rw [command, hd, ok_bind, hrun, ok_bind]
  by_cases hlast : ws.length + 1 = t.length
  · rw [if_pos (hzero.mpr hlast)]
    refine ⟨_, rfl, ⟨hplaced.quant, hplaced.coefficient⟩, fun hlt => ?_, fun _ => ⟨rfl, rfl⟩⟩
    omega
  · rw [if_neg (mt hzero.mp hlast)]
    refine ⟨_, rfl, hplaced, fun hlt => ⟨hkeep.trans hhandler, ?_⟩, fun heq => ?_⟩
    · rw [hleft, hlength]
      show d.toNat + _ = _
      omega
    · omega

/-- The length and the handler of the announced table. -/
lemma commandTable_eq (cmd : U32) :
    commandTable cmd = match Table.ofCommand cmd with
      | some t => (BitVec.ofNat 16 t.length, t.handler)
      | none => (1, .handleCommand) := by
  have h2 : opcode cmd = 2 ↔ (opcode cmd).toNat = 2 := BitVec.toNat_inj.symm
  have h3 : opcode cmd = 3 ↔ (opcode cmd).toNat = 3 := BitVec.toNat_inj.symm
  simp only [commandTable, Table.ofCommand, h2, h3]
  split
  · next h =>
    rw [if_pos h]
    split_ifs <;> rfl
  · next h =>
    rw [if_neg (by omega), if_pos h]
    rfl
  · next hne hne' => rw [if_neg hne, if_neg hne']

/-- The command state selects by the command word. -/
lemma command_of_idle (h : m.Idle) (cmd : U32) :
    m.command cmd = .ok (handleCommand { m with commandRemaining := 0 } cmd) := by
  have hlen : (commandTable cmd).1 ≠ 0 := by
    rw [commandTable_eq]
    cases Table.ofCommand cmd with
    | none => nofun
    | some t => cases t <;> nofun
  have hsub : checkedSub m.commandRemaining 1 = .ok 0 := by
    rw [h.remaining]
    rfl
  rw [command, hsub, ok_bind, h.handler, runHandler, pure_eq_ok, ok_bind]
  exact if_neg hlen

/-- A command word starts the upload of the table it announces. -/
lemma command_starts (h : m.Idle) (ht : Table.ofCommand cmd = some t) :
    ∃ m', m.command cmd = .ok m' ∧ Progress t [] m m' := by
  have htable : commandTable cmd = (BitVec.ofNat 16 t.length, t.handler) := by
    rw [commandTable_eq, ht]
  have hlength : (BitVec.ofNat 16 t.length).toNat = t.length := by
    cases t <;> rfl
  have hempty := placed_nil t m
  refine ⟨_, command_of_idle h cmd, ⟨hempty.quant, hempty.coefficient⟩, fun _ => ?_, fun hlen => ?_⟩
  · rw [handleCommand, htable]
    exact ⟨rfl, hlength⟩
  · cases t <;> cases hlen

/-- A command word that announces no table is ignored. -/
lemma command_ignored (h : m.Idle) (ht : Table.ofCommand cmd = none) :
    ∃ m', m.command cmd = .ok m' ∧ m'.Idle ∧ SameTables m m' := by
  have htable : commandTable cmd = (1, .handleCommand) := by
    rw [commandTable_eq, ht]
  refine ⟨_, command_of_idle h cmd, ?_, rfl, rfl⟩
  rw [handleCommand, htable]
  exact ⟨rfl, rfl⟩

/-! ### Control writes -/

/-- The control word asks for a reset. -/
def Resets (val : U32) : Prop := val &&& 1 <<< 31 ≠ 0

instance (val : U32) : Decidable (Resets val) := inferInstanceAs (Decidable (_ ≠ _))

lemma setControl_tables (m : MDec) (val : U32) :
    SameTables m (m.setControl val) := by
  rw [setControl]
  split_ifs <;> exact ⟨rfl, rfl⟩

lemma setControl_reset {val : U32} (h : Resets val) : (m.setControl val).Idle := by
  rw [Resets] at h
  rw [setControl, if_pos h]
  exact ⟨rfl, rfl⟩

lemma setControl_of_not_reset {val : U32} (h : ¬Resets val) :
    (m.setControl val).commandHandler = m.commandHandler
      ∧ (m.setControl val).commandRemaining = m.commandRemaining := by
  rw [Resets] at h
  rw [setControl, if_neg h]
  exact ⟨rfl, rfl⟩

/-! ### Runs -/

/-- A word written to the command register by the CPU or by the DMA, or a control word. -/
inductive Write where
  | cpu (w : U32)
  | dma (w : U32)
  | control (val : U32)
  deriving DecidableEq, Repr

def write (m : MDec) : Write → Outcome MDec
  | .cpu w => m.store .word 0 w
  | .dma w => m.command w
  | .control val => m.store .word 4 val

/-- The words that the writes bring to the command register. -/
def words : List Write → List U32
  | [] => []
  | .cpu w :: as => w :: words as
  | .dma w :: as => w :: words as
  | .control _ :: as => words as

/-- None of the writes is a reset. -/
def NoReset (as : List Write) : Prop := ∀ val, .control val ∈ as → ¬Resets val

/-- What holds between two words: the decoder waits for a command, or for one of the words of a
table. -/
def Framed (m : MDec) : Prop :=
  m.Idle ∨ ∃ t ws base, Progress t ws base m ∧ ws.length < t.length


/-- A write brings one word to the command register, or is a control word. -/
lemma write_cases (a : Write) :
    (∃ w, words [a] = [w] ∧ ∀ m : MDec, m.write a = m.command w)
      ∨ ∃ val, a = .control val ∧ ∀ m : MDec, m.write a = .ok (m.setControl val) := by
  cases a with
  | cpu w => exact .inl ⟨w, rfl, fun m => rfl⟩
  | dma w => exact .inl ⟨w, rfl, fun m => rfl⟩
  | control val => exact .inr ⟨val, rfl, fun m => rfl⟩

lemma words_cons (a : Write) (as : List Write) : words (a :: as) = words [a] ++ words as := by
  cases a <;> rfl

lemma Progress.idle_iff (h : Progress t ws base m) (hlen : ws.length ≤ t.length) :
    m.Idle ↔ ws.length = t.length := by
  refine ⟨fun hidle => ?_, h.done⟩
  by_contra hne
  exact t.handler_ne ((h.pending (by omega)).1.symm.trans hidle.handler)

/-- A control word that is not a reset does not disturb an upload. -/
lemma Progress.setControl (h : Progress t ws base m) {val : U32} (hval : ¬Resets val) :
    Progress t ws base (m.setControl val) := by
  obtain ⟨hquant, hidct⟩ := m.setControl_tables val
  obtain ⟨hhandler, hremaining⟩ := setControl_of_not_reset (m := m) hval
  refine ⟨⟨fun matrix index => ?_, fun index => ?_⟩, fun hlen => ?_, fun hlen => ?_⟩
  · rw [quantAt, hquant]
    exact h.placed.quant matrix index
  · rw [idctAt, hidct]
    exact h.placed.coefficient index
  · rw [hhandler, hremaining]
    exact h.pending hlen
  · exact ⟨hhandler.trans (h.done hlen).handler, hremaining.trans (h.done hlen).remaining⟩

/-- The run lemma for an upload: its words are put into the table one by one. -/
lemma run_progress {as : List Write} (hno : NoReset as) (h : Progress t ws base m)
    (hlen : ws.length + (words as).length ≤ t.length) :
    ∃ m', as.foldlM write m = .ok m' ∧ Progress t (ws ++ words as) base m' := by
  induction as generalizing ws m with
  | nil =>
      refine ⟨m, rfl, ?_⟩
      rw [words, List.append_nil]
      exact h
  | cons a as ih =>
      have hrest : NoReset as := fun val hval => hno val (List.mem_cons_of_mem a hval)
      rw [words_cons] at hlen ⊢
      rcases write_cases a with ⟨w, hw, hwrite⟩ | ⟨val, rfl, hwrite⟩
      · rw [hw, List.length_append, List.length_singleton] at hlen
        obtain ⟨m₁, hcommand, h₁⟩ := command_progress h (by omega) w
        obtain ⟨m', hrun, h'⟩ :=
          ih hrest h₁ (by rw [List.length_append, List.length_singleton]; omega)
        refine ⟨m', ?_, ?_⟩
        · rw [List.foldlM_cons, hwrite, hcommand, ok_bind, hrun]
        · rw [hw, ← List.append_assoc]
          exact h'
      · obtain ⟨m', hrun, h'⟩ := ih hrest (h.setControl (hno val List.mem_cons_self)) hlen
        refine ⟨m', ?_, h'⟩
        rw [List.foldlM_cons, hwrite, ok_bind, hrun]

/-! ### Every run -/

lemma Framed.remaining_pos (h : Framed m) : 1 ≤ m.commandRemaining.toNat := by
  rcases h with h | ⟨t, ws, base, h, hlen⟩
  · rw [h.remaining]
    decide
  · have hremaining := (h.pending hlen).2
    omega

lemma command_framed (h : Framed m) (w : U32) : ∃ m', m.command w = .ok m' ∧ Framed m' := by
  rcases h with h | ⟨t, ws, base, h, hlen⟩
  · cases ht : Table.ofCommand w with
    | none =>
        obtain ⟨m', hcommand, hidle, -⟩ := command_ignored h ht
        exact ⟨m', hcommand, .inl hidle⟩
    | some t =>
        obtain ⟨m', hcommand, h'⟩ := command_starts h ht
        exact ⟨m', hcommand, .inr ⟨t, [], m, h', by cases t <;> decide⟩⟩
  · obtain ⟨m', hcommand, h'⟩ := command_progress h hlen w
    refine ⟨m', hcommand, ?_⟩
    by_cases hlast : (ws ++ [w]).length = t.length
    · exact .inl (h'.done hlast)
    · refine .inr ⟨t, _, base, h', ?_⟩
      rw [List.length_append, List.length_singleton] at hlast ⊢
      omega

lemma setControl_framed (h : Framed m) (val : U32) : Framed (m.setControl val) := by
  by_cases hval : Resets val
  · exact .inl (setControl_reset hval)
  · rcases h with h | ⟨t, ws, base, h, hlen⟩
    · obtain ⟨hhandler, hremaining⟩ := setControl_of_not_reset (m := m) hval
      exact .inl ⟨hhandler.trans h.handler, hremaining.trans h.remaining⟩
    · exact .inr ⟨t, ws, base, h.setControl hval, hlen⟩

/-- No write is refused, and the decoder stays framed. -/
lemma run_framed (h : Framed m) (as : List Write) :
    ∃ m', as.foldlM write m = .ok m' ∧ Framed m' := by
  induction as generalizing m with
  | nil => exact ⟨m, rfl, h⟩
  | cons a as ih =>
      rw [List.foldlM_cons]
      rcases write_cases a with ⟨w, -, hwrite⟩ | ⟨val, -, hwrite⟩
      · obtain ⟨m₁, hcommand, h₁⟩ := command_framed h w
        rw [hwrite, hcommand, ok_bind]
        exact ih h₁
      · rw [hwrite, ok_bind]
        exact ih (setControl_framed h val)

/-- **Uploads are framed and placed.**  In every run from power-on no subtraction underflows and no
index is out of bounds, and a word is always expected.  From the command state, a word that
announces a table is followed by the words of the table: they are put where they belong whatever
they look like, nothing else changes, and the command state is reached with the last one; other
words change no table.  Control words change no table, and lead to the command state if they
reset. -/
theorem uploads_placed (as : List Write) :
    ∃ m, as.foldlM write new = .ok m ∧ 1 ≤ m.commandRemaining.toNat
      ∧ (m.Idle → ∀ a cmd, words [a] = [cmd] →
        (∀ t bs, Table.ofCommand cmd = some t → NoReset bs → (words bs).length ≤ t.length →
          ∃ m', (a :: bs).foldlM write m = .ok m' ∧ Placed t (words bs) m m'
            ∧ (m'.Idle ↔ (words bs).length = t.length))
        ∧ (Table.ofCommand cmd = none → ∃ m', m.write a = .ok m' ∧ m'.Idle ∧ SameTables m m'))
      ∧ ∀ val, ∃ m', m.write (.control val) = .ok m' ∧ SameTables m m' ∧ (Resets val → m'.Idle)
        ∧ (¬Resets val → (m'.Idle ↔ m.Idle)) := by
  obtain ⟨m, hrun, hframed⟩ := run_framed (m := new) (.inl ⟨rfl, rfl⟩) as
  refine ⟨m, hrun, hframed.remaining_pos, fun hidle a cmd ha => ⟨fun t bs ht hno hlen => ?_,
    fun ht => ?_⟩, fun val => ?_⟩
  · rcases write_cases a with ⟨w, hw, hwrite⟩ | ⟨val, rfl, -⟩
    · obtain rfl : w = cmd := by simpa using hw.symm.trans ha
      obtain ⟨m₁, hcommand, h₁⟩ := command_starts hidle ht
      obtain ⟨m', hrun', h'⟩ := run_progress hno h₁ (by simpa using hlen)
      refine ⟨m', ?_, h'.placed, h'.idle_iff hlen⟩
      rw [List.foldlM_cons, hwrite, hcommand, ok_bind, hrun']
    · cases ha
  · rcases write_cases a with ⟨w, hw, hwrite⟩ | ⟨val, rfl, -⟩
    · obtain rfl : w = cmd := by simpa using hw.symm.trans ha
      rw [hwrite]
      exact command_ignored hidle ht
    · cases ha
  · refine ⟨_, rfl, m.setControl_tables val, setControl_reset, fun hval => ?_⟩
    obtain ⟨hhandler, hremaining⟩ := setControl_of_not_reset (m := m) hval
    exact ⟨fun h => ⟨hhandler.symm.trans h.handler, hremaining.symm.trans h.remaining⟩,
      fun h => ⟨hhandler.trans h.handler, hremaining.trans h.remaining⟩⟩

end MDec

end Rustation
