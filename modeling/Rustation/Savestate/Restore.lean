import Rustation.Lib.Run
import Rustation.CdRom.Moves
import Rustation.Gpu.Gpu
import Rustation.Mdec.Mdec
import Rustation.Savestate.Callback

/-!
Savestates of the three components that store a function pointer: the GPU, the
motion decoder and the CD-ROM controller.

* `gp0HandlerLut`, `callbackLut`, `commandHandlerLut`, `asyncResponseLut`: the
  four declarations;
* `Components`, `Components.perform`: the components and the operations of the console
  on them, each with an arbitrary shared state;
* `Components.Savable`: every stored function survives a savestate;
* `MDec.StartsIdct`: the command word that stores `handle_idct_matrix`, which its
  declaration does not list.  `MDec.access_savable_iff` is the step lemma;
* `Components.savable_along_iff`: whole runs.
-/

namespace Rustation

open Fallible

/-! ### The declarations -/

def gp0HandlerLut : Lut Gp0Handler :=
  [(.handleCommand, "Gpu::gp0_handle_command"),
    (.handleParameter, "Gpu::gp0_handle_parameter"),
    (.handleShadedPolylineVertex, "Gpu::gp0_handle_shaded_polyline_vertex"),
    (.handleShadedPolylineColor, "Gpu::gp0_handle_shaded_polyline_color"),
    (.handleMonochromePolylineVertex, "Gpu::gp0_handle_monochrome_polyline_vertex"),
    (.handleShadedPolylineColor, "Gpu::gp0_handle_shaded_polyline_color"),
    (.handleImageLoad, "Gpu::gp0_handle_image_load")]

def callbackLut : Lut Callback :=
  [(.nop, "Gpu::gp0_nop"),
    (.clearCache, "Gpu::gp0_clear_cache"),
    (.fillRect, "Gpu::gp0_fill_rect"),
    (.monochromeTriangle, "Gpu::gp0_monochrome_triangle"),
    (.texturedTriangle, "Gpu::gp0_textured_triangle"),
    (.monochromeQuad, "Gpu::gp0_monochrome_quad"),
    (.texturedQuad, "Gpu::gp0_textured_quad"),
    (.shadedTriangle, "Gpu::gp0_shaded_triangle"),
    (.texturedShadedTriangle, "Gpu::gp0_textured_shaded_triangle"),
    (.shadedQuad, "Gpu::gp0_shaded_quad"),
    (.texturedShadedQuad, "Gpu::gp0_textured_shaded_quad"),
    (.monochromeLine, "Gpu::gp0_monochrome_line"),
    (.monochromePolyline, "Gpu::gp0_monochrome_polyline"),
    (.shadedLine, "Gpu::gp0_shaded_line"),
    (.shadedPolyline, "Gpu::gp0_shaded_polyline"),
    (.monochromeRect, "Gpu::gp0_monochrome_rect"),
    (.texturedRect, "Gpu::gp0_textured_rect"),
    (.monochromeRect1x1, "Gpu::gp0_monochrome_rect_1x1"),
    (.texturedRect8x8, "Gpu::gp0_textured_rect_8x8"),
    (.monochromeRect16x16, "Gpu::gp0_monochrome_rect_16x16"),
    (.texturedRect16x16, "Gpu::gp0_textured_rect_16x16"),
    (.copyRect, "Gpu::gp0_copy_rect"),
    (.imageLoad, "Gpu::gp0_image_load"),
    (.imageStore, "Gpu::gp0_image_store"),
    (.drawMode, "Gpu::gp0_draw_mode"),
    (.textureWindow, "Gpu::gp0_texture_window"),
    (.drawingAreaTopLeft, "Gpu::gp0_drawing_area_top_left"),
    (.drawingAreaBottomRight, "Gpu::gp0_drawing_area_bottom_right"),
    (.drawingOffset, "Gpu::gp0_drawing_offset"),
    (.maskBitSetting, "Gpu::gp0_mask_bit_setting")]

/-- The declaration of the motion decoder leaves `handle_idct_matrix` out. -/
def commandHandlerLut : Lut CommandHandler :=
  [(.handleCommand, "MDec::handle_command"),
    (.handleColorQuantMatrices, "MDec::handle_color_quant_matrices"),
    (.handleMonochromeQuantMatrix, "MDec::handle_monochrome_quant_matrix")]

def asyncResponseLut : Lut AsyncHandler :=
  [(.pause, "CdRom::async_pause"),
    (.init, "CdRom::async_init"),
    (.seekL, "CdRom::async_seek_l"),
    (.readToc, "CdRom::async_read_toc"),
    (.getId, "CdRom::async_get_id")]

lemma restores_gp0Handler (f : Gp0Handler) : gp0HandlerLut.Restores f := by
  refine (Lut.restores_iff (by decide)).mpr ?_
  cases f <;> decide

lemma restores_callback (f : Callback) : callbackLut.Restores f := by
  refine (Lut.restores_iff (by decide)).mpr ?_
  cases f <;> decide

lemma restores_asyncResponse (f : AsyncHandler) : asyncResponseLut.Restores f := by
  refine (Lut.restores_iff (by decide)).mpr ?_
  cases f <;> decide

lemma restores_commandHandler_iff {f : CommandHandler} :
    commandHandlerLut.Restores f ↔ f ≠ .handleIdctMatrix := by
  rw [Lut.restores_iff (by decide)]
  cases f <;> decide

/-! ### The command words of the motion decoder -/

namespace MDec

variable {m m' : MDec}

/-- The word an access gives to the command register. -/
def Access.word : Access → Option U32
  | .load _ _ => none
  | .store width offset val => if width = .word ∧ offset = 0 then some val else none
  | .command cmd => some cmd

/-- The access is the command word of an upload of the IDCT matrix. -/
def StartsIdct (m : MDec) (a : Access) : Prop :=
  m.commandHandler = .handleCommand ∧ ∃ cmd, a.word = some cmd ∧ opcode cmd = 3

/-- An access that gives no word to the command register leaves the handler as it
is, or resets it. -/
lemma access_of_word_none {a : Access} (hword : a.word = none) (h : m.access a = .ok m') :
    (m'.commandHandler = m.commandHandler ∧ m'.commandRemaining = m.commandRemaining)
      ∨ (m'.commandHandler = .handleCommand ∧ m'.commandRemaining = 1) := by
  cases a with
  | load width offset =>
      obtain ⟨v, -, heq⟩ := bind_eq_ok.mp h
      cases heq
      exact .inl ⟨rfl, rfl⟩
  | store width offset val =>
      rw [access, store] at h
      split at h
      · cases h
      · next hwidth =>
        split at h
        · next hoffset =>
          have hstore : width = .word ∧ offset = 0 := by
            refine ⟨?_, BitVec.eq_of_toNat_eq hoffset⟩
            cases width <;> simp [Width.size] at hwidth ⊢
          rw [Access.word, if_pos hstore] at hword
          cases hword
        · cases h
          rw [setControl]
          dsimp only
          split
          · exact .inr ⟨rfl, rfl⟩
          · exact .inl ⟨rfl, rfl⟩
        · cases h
  | command cmd => cases hword

lemma access_of_word {a : Access} {cmd : U32} (hword : a.word = some cmd) :
    m.access a = m.command cmd := by
  cases a with
  | load width offset => cases hword
  | store width offset val =>
      rw [Access.word] at hword
      split at hword
      · next hstore =>
        obtain ⟨rfl, rfl⟩ := hstore
        cases hword
        rfl
      · cases hword
  | command cmd' =>
      cases hword
      rfl

/-- The bytes of a table are outside of the command register. -/
lemma setQuant_keeps {matrix index : ℕ} {val : U8} (h : m.setQuant matrix index val = .ok m') :
    m'.commandHandler = m.commandHandler ∧ m'.commandRemaining = m.commandRemaining := by
  rw [setQuant] at h
  split at h
  · cases h
    exact ⟨rfl, rfl⟩
  · cases h

lemma setQuantWord_keeps {matrix index : ℕ} {cmd : U32}
    (h : m.setQuantWord matrix index cmd = .ok m') :
    m'.commandHandler = m.commandHandler ∧ m'.commandRemaining = m.commandRemaining := by
  rw [setQuantWord] at h
  -- one byte after the other
  generalize [0, 1, 2, 3] = bytes at h
  induction bytes generalizing m with
  | nil =>
      cases h
      exact ⟨rfl, rfl⟩
  | cons i bytes ih =>
      rw [List.foldlM_cons] at h
      obtain ⟨m₁, h₁, h⟩ := bind_eq_ok.mp h
      obtain ⟨hhandler, hremaining⟩ := setQuant_keeps h₁
      exact ⟨(ih h).1.trans hhandler, (ih h).2.trans hremaining⟩

lemma setIdct_keeps {index : ℕ} {val : I16} (h : m.setIdct index val = .ok m') :
    m'.commandHandler = m.commandHandler ∧ m'.commandRemaining = m.commandRemaining := by
  rw [setIdct] at h
  split at h
  · cases h
    exact ⟨rfl, rfl⟩
  · cases h

/-- The words of a table leave the handler and the count alone. -/
lemma runHandler_keeps {f : CommandHandler} {cmd : U32} (hf : f ≠ .handleCommand)
    (h : m.runHandler cmd f = .ok m') :
    m'.commandHandler = m.commandHandler ∧ m'.commandRemaining = m.commandRemaining := by
  cases f with
  | handleCommand => exact absurd rfl hf
  | handleColorQuantMatrices =>
      obtain ⟨index, -, h⟩ := bind_eq_ok.mp h
      exact setQuantWord_keeps h
  | handleMonochromeQuantMatrix =>
      obtain ⟨index, -, h⟩ := bind_eq_ok.mp h
      exact setQuantWord_keeps h
  | handleIdctMatrix =>
      obtain ⟨index, -, h⟩ := bind_eq_ok.mp h
      obtain ⟨m₁, h₁, h⟩ := bind_eq_ok.mp h
      obtain ⟨hhandler, hremaining⟩ := setIdct_keeps h₁
      exact ⟨(setIdct_keeps h).1.trans hhandler, (setIdct_keeps h).2.trans hremaining⟩

/-- After a word of a table the handler is kept or reset. -/
lemma command_of_table {cmd : U32} (hf : m.commandHandler ≠ .handleCommand)
    (h : m.command cmd = .ok m') :
    m'.commandHandler = m.commandHandler ∨ m'.commandHandler = .handleCommand := by
  obtain ⟨remaining, -, h⟩ := bind_eq_ok.mp h
  obtain ⟨m₁, h₁, h⟩ := bind_eq_ok.mp h
  split at h
  · cases h
    exact .inr rfl
  · cases h
    exact .inl (runHandler_keeps hf h₁).1

/-- A command word selects the handler of the words that follow. -/
lemma command_of_command (cmd : U32) (hf : m.commandHandler = .handleCommand)
    (hm : m.commandRemaining ≠ 0) :
    ∃ m', m.command cmd = .ok m' ∧ m'.commandHandler = (commandTable cmd).2 := by
  have hsub : checkedSub m.commandRemaining 1 = .ok (m.commandRemaining - 1) := by
    rw [checkedSub, if_pos (by bv_omega), pure_eq_ok]
  have hlen : (commandTable cmd).1 ≠ 0 := by
    rw [commandTable]
    split
    · split <;> decide
    · decide
    · decide
  refine ⟨handleCommand { m with commandRemaining := m.commandRemaining - 1 } cmd, ?_, rfl⟩
  rw [command, hsub, ok_bind, hf, runHandler, pure_eq_ok, ok_bind]
  exact if_neg hlen

lemma commandTable_handler_iff {cmd : U32} :
    (commandTable cmd).2 = .handleIdctMatrix ↔ opcode cmd = 3 := by
  have hopcode : opcode cmd = 3 ↔ (opcode cmd).toNat = 3 := by
    rw [← BitVec.toNat_inj]
    rfl
  rw [hopcode, commandTable]
  split
  · next h =>
    rw [h]
    split <;> decide
  · next h => exact ⟨fun _ => h, fun _ => rfl⟩
  · next h2 h3 => exact ⟨nofun, fun h => absurd h h3⟩

/-- At least one word is expected after any access. -/
lemma access_remaining {a : Access} (hm : m.commandRemaining ≠ 0) (h : m.access a = .ok m') :
    m'.commandRemaining ≠ 0 := by
  cases hword : a.word with
  | none =>
      rcases access_of_word_none hword h with ⟨-, hr⟩ | ⟨-, hr⟩
      · rw [hr]
        exact hm
      · rw [hr]
        decide
  | some cmd =>
      rw [access_of_word hword] at h
      obtain ⟨remaining, -, h⟩ := bind_eq_ok.mp h
      obtain ⟨m₁, h₁, h⟩ := bind_eq_ok.mp h
      split at h
      · cases h
        exact ne_of_beq_false rfl
      · next hne =>
        cases h
        exact hne

/-- **The step lemma**: from a state that can be saved, an access leads to one
that cannot exactly if it starts an upload of the IDCT matrix. -/
lemma access_savable_iff {a : Access} (hm : m.commandRemaining ≠ 0)
    (hf : m.commandHandler ≠ .handleIdctMatrix) :
    (∀ m', m.access a = .ok m' → m'.commandHandler ≠ .handleIdctMatrix) ↔ ¬m.StartsIdct a := by
  cases hword : a.word with
  | none =>
      refine ⟨fun _ ⟨_, cmd, hcmd, _⟩ => ?_, fun _ m' h => ?_⟩
      · rw [hword] at hcmd
        cases hcmd
      · rcases access_of_word_none hword h with ⟨hh, -⟩ | ⟨hh, -⟩
        · rw [hh]
          exact hf
        · rw [hh]
          nofun
  | some cmd =>
      rw [access_of_word hword]
      by_cases hc : m.commandHandler = .handleCommand
      · obtain ⟨m₁, h₁, hh⟩ := command_of_command cmd hc hm
        have hstarts : m.StartsIdct a ↔ opcode cmd = 3 := by
          refine ⟨fun ⟨_, cmd', hcmd', hop⟩ => ?_, fun hop => ⟨hc, cmd, hword, hop⟩⟩
          rw [hword, Option.some.injEq] at hcmd'
          rw [hcmd']
          exact hop
        rw [hstarts, ← commandTable_handler_iff, ← hh, h₁]
        exact ⟨fun h => h m₁ rfl, fun h m' hm' => by cases hm'; exact h⟩
      · refine ⟨fun _ hs => hc hs.1, fun _ m' h => ?_⟩
        rcases command_of_table hc h with hh | hh
        · rw [hh]
          exact hf
        · rw [hh]
          nofun

end MDec

/-! ### The three components -/

/-- The components that store a function pointer. -/
structure Components (I : CdImage) where
  gpu : Gpu
  mdec : MDec
  cdRom : CdRom I

namespace Components

variable {I : CdImage}

def new (standard : VideoClock) (disc : Option (Disc I)) : Components I where
  gpu := .new standard
  mdec := .new
  cdRom := .new disc

/-- An operation on one of the components. -/
inductive Op where
  | gpu (sh : SharedState) (a : Gpu.Access)
  | mdec (a : MDec.Access)
  | cdRom (sh : SharedState) (a : CdRom.Access)

def perform (ratio : VideoClock → FracCycles) (d : Components I) : Op → Outcome (Components I)
  | .gpu sh a => do
      let gpu ← d.gpu.access ratio sh a
      pure { d with gpu := gpu }
  | .mdec a => do
      let mdec ← d.mdec.access a
      pure { d with mdec := mdec }
  | .cdRom sh a => do
      let (cdRom, _) ← d.cdRom.access sh a
      pure { d with cdRom := cdRom }

/-- A run goes on from the state an operation returned, and ends with the first
one that does not return. -/
def step (ratio : VideoClock → FracCycles) (s : Outcome (Components I)) (op : Op) :
    Outcome (Components I) := do
  let d ← s
  d.perform ratio op

/-- Every stored function survives a savestate. -/
structure Savable (d : Components I) : Prop where
  gp0Handler : gp0HandlerLut.Restores d.gpu.gp0Handler
  callback : callbackLut.Restores d.gpu.gp0Attributes.callback
  commandHandler : commandHandlerLut.Restores d.mdec.commandHandler
  asyncResponse : ∀ delay f, d.cdRom.subCpu.asyncResponse = some (delay, f) →
    asyncResponseLut.Restores f

/-- Only the motion decoder can stand in the way. -/
lemma savable_iff {d : Components I} :
    d.Savable ↔ d.mdec.commandHandler ≠ .handleIdctMatrix := by
  rw [← restores_commandHandler_iff]
  exact ⟨Savable.commandHandler, fun h =>
    ⟨restores_gp0Handler _, restores_callback _, h, fun _ f _ => restores_asyncResponse f⟩⟩

/-- The operation is the command word of an upload of the IDCT matrix. -/
def StartsIdct (d : Components I) : Op → Prop
  | .mdec a => d.mdec.StartsIdct a
  | _ => False

variable {ratio : VideoClock → FracCycles} {d d' : Components I}

/-- The operations on the other components leave the decoder alone. -/
lemma perform_mdec {op : Op} (hop : ∀ a, op ≠ .mdec a) (h : d.perform ratio op = .ok d') :
    d'.mdec = d.mdec := by
  cases op with
  | gpu sh a =>
      obtain ⟨gpu, -, h⟩ := bind_eq_ok.mp h
      cases h
      rfl
  | mdec a => exact absurd rfl (hop a)
  | cdRom sh a =>
      obtain ⟨s, -, h⟩ := bind_eq_ok.mp h
      cases h
      rfl

/-- At least one word is expected after any operation. -/
lemma perform_remaining {op : Op} (hd : d.mdec.commandRemaining ≠ 0)
    (h : d.perform ratio op = .ok d') : d'.mdec.commandRemaining ≠ 0 := by
  cases op with
  | gpu sh a =>
      rw [perform_mdec (fun _ hop => by cases hop) h]
      exact hd
  | mdec a =>
      obtain ⟨m, hm, h⟩ := bind_eq_ok.mp h
      cases h
      exact MDec.access_remaining hd hm
  | cdRom sh a =>
      rw [perform_mdec (fun _ hop => by cases hop) h]
      exact hd

/-- An operation that returns from a state that can be saved leads to one that
can be saved, unless it starts an upload of the IDCT matrix. -/
lemma perform_savable_iff {op : Op} (hd : d.mdec.commandRemaining ≠ 0) (hs : d.Savable) :
    (∀ d', d.perform ratio op = .ok d' → d'.Savable) ↔ ¬d.StartsIdct op := by
  have hother (hop : ∀ a, op ≠ .mdec a) (d' : Components I) (h : d.perform ratio op = .ok d') :
      d'.Savable := by
    rw [savable_iff, perform_mdec hop h]
    exact savable_iff.mp hs
  cases op with
  | gpu sh a => exact ⟨fun _ => id, fun _ => hother fun _ hop => by cases hop⟩
  | cdRom sh a => exact ⟨fun _ => id, fun _ => hother fun _ hop => by cases hop⟩
  | mdec a =>
      rw [StartsIdct, ← MDec.access_savable_iff hd (savable_iff.mp hs)]
      constructor
      · intro h m' hm'
        refine savable_iff.mp (h { d with mdec := m' } ?_)
        rw [perform, hm', ok_bind, pure_eq_ok]
      · intro h d' hd'
        obtain ⟨m', hm', heq⟩ := bind_eq_ok.mp hd'
        cases heq
        exact savable_iff.mpr (h m' hm')

/-- **Savestates along runs.**  In a run of operations from power-on every stored
function can be saved and restored in every state exactly when no operation
starts an upload of the IDCT matrix. -/
theorem savable_along_iff (standard : VideoClock) (disc : Option (Disc I)) (ops : List Op) :
    Run.Along (step ratio) (fun s => ∀ d, s = .ok d → d.Savable) (.ok (new standard disc)) ops
      ↔ Run.Steps (step ratio) (fun s op => ∀ d, s = .ok d → ¬d.StartsIdct op)
          (.ok (new standard disc)) ops := by
  refine Run.along_iff_steps_of_inv
    (I := fun s => ∀ d : Components I, s = .ok d → d.mdec.commandRemaining ≠ 0) ?_ ?_ ?_ ?_ ops
  · intro s op hs d' h
    rw [step] at h
    obtain ⟨d, hd, hd'⟩ := bind_eq_ok.mp h
    exact perform_remaining (hs d hd) hd'
  · intro s op hi hs
    cases s with
    | error e =>
        refine ⟨fun _ d hd => (by cases hd), fun _ d hd => ?_⟩
        rw [step, error_bind] at hd
        cases hd
    | ok d =>
        have hstep : (∀ d', d.perform ratio op = .ok d' → d'.Savable) ↔ ¬d.StartsIdct op :=
          perform_savable_iff (hi d rfl) (hs d rfl)
        refine ⟨fun h d' hd' => ?_, fun h => hstep.mpr (h d rfl)⟩
        obtain rfl := Except.ok.inj hd'
        exact hstep.mp h
  · intro d hd
    obtain rfl := Except.ok.inj hd
    exact ne_of_beq_false rfl
  · intro d hd
    obtain rfl := Except.ok.inj hd
    exact savable_iff.mpr nofun

/-- A savestate in the middle of an upload of the IDCT matrix panics. -/
theorem idct_upload_not_saved :
    ∃ d : Components noImage,
      (new .ntsc none).perform (fun _ => .fromCycles 1) (.mdec (.store .word 0 0x60000000)) = .ok d
        ∧ commandHandlerLut.encode d.mdec.commandHandler
          = .error (.panic "Unexpected method pointer")
        ∧ ¬d.Savable := by
  refine ⟨_, rfl, by decide, fun h => ?_⟩
  exact savable_iff.mp h rfl

end Components

end Rustation
