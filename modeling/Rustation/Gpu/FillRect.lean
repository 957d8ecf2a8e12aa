import Rustation.Gpu.Framing

/-!
The geometry of the command that fills a rectangle, GP0(0x02).

The position and the size of the rectangle go through masks, the width is rounded up to a multiple
of 16, and what lies outside of the VRAM is cut off.

* `fillGeometry`: the arithmetic of `gp0_fill_rect` with a check of each sum and difference, and
  `gp0FillRect_eq` that `gp0FillRect` computes what it returns;
* `fillGeometry_eq`: the same arithmetic over natural numbers, in which nothing overflows;
* `Rect`, `Rect.ofCommand`, `Rect.clipped`: the rectangle that the command stands for;
* `fills_iff`: it is filled exactly when the width does not round up to the width of the VRAM.
-/

namespace Rustation

open Fallible

namespace Gp0

/-! ### Checked arithmetic -/

def addI16 (a b : I16) : Outcome I16 :=
  if a.saddOverflow b then throw .overflow else pure (a + b)

def addU16 (a b : U16) : Outcome U16 :=
  if a.uaddOverflow b then throw .overflow else pure (a + b)

def subU16 (a b : U16) : Outcome U16 :=
  if a.usubOverflow b then throw .overflow else pure (a - b)

/-- The width, rounded up to the next multiple of 16. -/
def fillWidth (width : I16) : Outcome U16 :=
  if width &&& 0x7ff#16 = 0x400#16 then pure 0
  else do
    let n ← addI16 (width &&& 0x7ff#16) 0xf#16
    pure (n &&& 0x3f0#16)

/-- The position and the size that are handed to the renderer. -/
def fillGeometry (pos size : U32) : Outcome ((U16 × U16) × U16 × U16) := do
  let topLeft := gp0Position pos
  let size := gp0Position size
  let left := topLeft.1 &&& 0x3f0#16
  let top := topLeft.2 &&& 0x1ff#16
  let width ← fillWidth size.1
  let height := size.2 &&& 0x1ff#16
  let bottom ← addU16 top height
  let right ← addU16 left width
  let right := if right > 0x400#16 then 0x400#16 else right
  let bottom := if bottom > 0x200#16 then 0x200#16 else bottom
  let width ← subU16 right left
  let height ← subU16 bottom top
  pure ((left, top), width, height)

lemma addI16_eq {a b c : I16} (h : addI16 a b = .ok c) : c = a + b := by
  rw [addI16] at h
  split at h
  · cases h
  · exact (Except.ok.inj h).symm

lemma addU16_eq {a b c : U16} (h : addU16 a b = .ok c) : c = a + b := by
  rw [addU16] at h
  split at h
  · cases h
  · exact (Except.ok.inj h).symm

lemma subU16_eq {a b c : U16} (h : subU16 a b = .ok c) : c = a - b := by
  rw [subU16] at h
  split at h
  · cases h
  · exact (Except.ok.inj h).symm

/-- The callback fills what the checked arithmetic returns. -/
lemma gp0FillRect_eq {g : Gp0} {command pos size : U32} {rect : (U16 × U16) × U16 × U16}
    (hwords : g.gp0Command.words = [command, pos, size]) (h : fillGeometry pos size = .ok rect) :
    g.gp0FillRect = .ok (g, [.fillRect (gp0Color command) rect.1 rect.2]) := by
  rw [fillGeometry] at h
  have h0 : g.gp0Command.index 0 = .ok command := by rw [CommandBuffer.index, hwords]; rfl
  have h1 : g.gp0Command.index 1 = .ok pos := by rw [CommandBuffer.index, hwords]; rfl
  have h2 : g.gp0Command.index 2 = .ok size := by rw [CommandBuffer.index, hwords]; rfl
  obtain ⟨width, hwidth, h⟩ := bind_eq_ok.mp h
  obtain ⟨bottom, hbottom, h⟩ := bind_eq_ok.mp h
  obtain ⟨right, hright, h⟩ := bind_eq_ok.mp h
  obtain ⟨w, hw, h⟩ := bind_eq_ok.mp h
  obtain ⟨z, hz, h⟩ := bind_eq_ok.mp h
  obtain rfl := Except.ok.inj h
  have hwidth' : width = if (gp0Position size).1 &&& 0x7ff#16 = 0x400#16 then 0
      else (((gp0Position size).1 &&& 0x7ff#16) + 0xf#16) &&& 0x3f0#16 := by
    rw [fillWidth] at hwidth
    split at hwidth
    · next hzero => rw [if_pos hzero, ← Except.ok.inj hwidth]
    · next hzero =>
      obtain ⟨n, hn, hwidth⟩ := bind_eq_ok.mp hwidth
      rw [if_neg hzero, ← addI16_eq hn, ← Except.ok.inj hwidth]
  rw [gp0FillRect, h1, ok_bind, h2, ok_bind, h0, ok_bind, subU16_eq hw, subU16_eq hz,
    addU16_eq hbottom, addU16_eq hright, hwidth']
  rfl

/-! ### The arithmetic over natural numbers -/

lemma addI16_of_lt {a b : I16} (h : a.toNat + b.toNat < 32768) :
    ∃ c, addI16 a b = .ok c ∧ c.toNat = a.toNat + b.toNat := by
  have hno : a.saddOverflow b = false := by
    have ha := BitVec.toInt_eq_toNat_of_lt (by omega : 2 * a.toNat < 2 ^ 16)
    have hb := BitVec.toInt_eq_toNat_of_lt (by omega : 2 * b.toNat < 2 ^ 16)
    simp only [BitVec.saddOverflow, Bool.or_eq_false_iff, decide_eq_false_iff_not, ha, hb]
    omega
  refine ⟨a + b, by rw [addI16, hno]; rfl, ?_⟩
  rw [BitVec.toNat_add]
  omega

lemma addU16_of_lt {a b : U16} (h : a.toNat + b.toNat < 65536) :
    ∃ c, addU16 a b = .ok c ∧ c.toNat = a.toNat + b.toNat := by
  have hno : a.uaddOverflow b = false := by
    simp only [BitVec.uaddOverflow, decide_eq_false_iff_not]
    omega
  refine ⟨a + b, by rw [addU16, hno]; rfl, ?_⟩
  rw [BitVec.toNat_add]
  omega

lemma subU16_of_le {a b : U16} (h : b.toNat ≤ a.toNat) :
    ∃ c, subU16 a b = .ok c ∧ c.toNat = a.toNat - b.toNat := by
  have hno : a.usubOverflow b = false := by
    simp only [BitVec.usubOverflow, decide_eq_false_iff_not]
    omega
  refine ⟨a - b, by rw [subU16, hno]; rfl, ?_⟩
  rw [BitVec.toNat_sub_of_le (BitVec.le_def.mpr h)]

/-- The mask of an abscissa keeps the multiples of 16 below 1024. -/
lemma toNat_and_3f0 (a : U16) : (a &&& 0x3f0#16).toNat = a.toNat % 1024 / 16 * 16 := by
  rw [BitVec.toNat_and_field a 4 6 rfl]
  omega

lemma toNat_and_1ff (a : U16) : (a &&& 0x1ff#16).toNat = a.toNat % 512 :=
  BitVec.toNat_and_mask a (by decide : (0x1ff#16).toNat = 2 ^ 9 - 1)

lemma toNat_and_7ff (a : U16) : (a &&& 0x7ff#16).toNat = a.toNat % 2048 :=
  BitVec.toNat_and_mask a (by decide : (0x7ff#16).toNat = 2 ^ 11 - 1)

lemma toNat_gp0Position_fst (pos : U32) : (gp0Position pos).1.toNat = pos.toNat % 65536 :=
  BitVec.toNat_setWidth 16 pos

lemma toNat_gp0Position_snd (pos : U32) : (gp0Position pos).2.toNat = pos.toNat / 65536 := by
  have hlt := pos.isLt
  rw [gp0Position, BitVec.toNat_setWidth, BitVec.toNat_shift]
  omega

/-- A coordinate that is brought back to the edge of the VRAM. -/
lemma toNat_clip (a m : U16) : (if a > m then m else a).toNat = min a.toNat m.toNat := by
  split
  · next h =>
    have hlt : m.toNat < a.toNat := BitVec.lt_def.mp h
    omega
  · next h =>
    have hle : ¬ m.toNat < a.toNat := fun hlt => h (BitVec.lt_def.mpr hlt)
    omega

end Gp0

/-! ### Rectangles -/

/-- A rectangle of pixels, by its corner and its size. -/
structure Rect where
  left : ℕ
  top : ℕ
  width : ℕ
  height : ℕ
deriving DecidableEq, Repr

namespace Rect

/-- The arguments of a call to the renderer. -/
def ofCall (topLeft dimensions : U16 × U16) : Rect where
  left := topLeft.1.toNat
  top := topLeft.2.toNat
  width := dimensions.1.toNat
  height := dimensions.2.toNat

/-- The part of a rectangle that lies inside the VRAM. -/
def clipped (r : Rect) : Rect :=
  { r with
    width := min (r.left + r.width) 1024 - r.left
    height := min (r.top + r.height) 512 - r.top }

/-- The rectangle of a position word and a size word: the abscissa is a multiple of 16, and the
width is rounded up to one. -/
def ofCommand (pos size : U32) : Rect where
  left := pos.toNat % 1024 / 16 * 16
  top := pos.toNat / 65536 % 512
  width := (size.toNat % 1024 + 15) / 16 * 16
  height := size.toNat / 65536 % 512

end Rect

namespace Gp0

/-- A width that rounds up to 1024 loses its only bit. -/
lemma fillWidth_eq (size : U32) :
    ∃ width, fillWidth (gp0Position size).1 = .ok width
      ∧ width.toNat = (size.toNat % 1024 + 15) / 16 * 16 % 1024 := by
  rw [fillWidth]
  have hw : ((gp0Position size).1 &&& 0x7ff#16).toNat = size.toNat % 2048 := by
    rw [toNat_and_7ff, toNat_gp0Position_fst]
    omega
  split
  · next hzero =>
    have h400 : size.toNat % 2048 = 1024 := hw.symm.trans (congrArg BitVec.toNat hzero)
    refine ⟨0, rfl, ?_⟩
    rw [show (0 : U16).toNat = 0 from rfl]
    omega
  · next hzero =>
    have h15 : (0xf#16).toNat = 15 := rfl
    obtain ⟨n, hn, hnat⟩ := addI16_of_lt (a := (gp0Position size).1 &&& 0x7ff#16) (b := 0xf#16)
      (by rw [hw, h15]; omega)
    refine ⟨n &&& 0x3f0#16, by rw [hn, ok_bind, pure_eq_ok], ?_⟩
    rw [toNat_and_3f0, hnat, hw, h15]
    omega

/-- What the command fills, over natural numbers: no sum and no difference overflows, and the width
is taken modulo that of the VRAM before it is cut off. -/
lemma fillGeometry_eq (pos size : U32) :
    ∃ rect, fillGeometry pos size = .ok rect
      ∧ Rect.ofCall rect.1 rect.2 =
        { Rect.ofCommand pos size with
          width := (Rect.ofCommand pos size).width % 1024 : Rect }.clipped := by
  obtain ⟨left, hleft⟩ : ∃ left, left = (gp0Position pos).1 &&& 0x3f0#16 := ⟨_, rfl⟩
  obtain ⟨top, htop⟩ : ∃ top, top = (gp0Position pos).2 &&& 0x1ff#16 := ⟨_, rfl⟩
  obtain ⟨height, hheight⟩ : ∃ height, height = (gp0Position size).2 &&& 0x1ff#16 := ⟨_, rfl⟩
  have hl : left.toNat = pos.toNat % 1024 / 16 * 16 := by
    rw [hleft, toNat_and_3f0, toNat_gp0Position_fst]
    omega
  have ht : top.toNat = pos.toNat / 65536 % 512 := by
    rw [htop, toNat_and_1ff, toNat_gp0Position_snd]
  have hh : height.toNat = size.toNat / 65536 % 512 := by
    rw [hheight, toNat_and_1ff, toNat_gp0Position_snd]
  obtain ⟨width, hwidth, hw⟩ := fillWidth_eq size
  obtain ⟨bottom, hbottom, hb⟩ := addU16_of_lt (a := top) (b := height) (by omega)
  obtain ⟨right, hright, hr⟩ := addU16_of_lt (a := left) (b := width) (by omega)
  have hclipX := toNat_clip right 0x400#16
  have hclipY := toNat_clip bottom 0x200#16
  rw [show (0x400#16).toNat = 1024 from rfl] at hclipX
  rw [show (0x200#16).toNat = 512 from rfl] at hclipY
  obtain ⟨w, hsubX, hwidth'⟩ := subU16_of_le (a := if right > 0x400#16 then 0x400#16 else right)
    (b := left) (by omega)
  obtain ⟨h, hsubY, hheight'⟩ := subU16_of_le
    (a := if bottom > 0x200#16 then 0x200#16 else bottom) (b := top) (by omega)
  refine ⟨((left, top), w, h), ?_, ?_⟩
  · rw [fillGeometry]
    simp only [← hleft, ← htop, ← hheight]
    rw [hwidth, ok_bind, hbottom, ok_bind, hright, ok_bind, hsubX, ok_bind, hsubY, ok_bind,
      pure_eq_ok]
  · simp only [Rect.ofCall, Rect.ofCommand, Rect.clipped, hwidth', hheight', hclipX, hclipY, hr, hb,
      hl, ht, hh, hw]

/-! ### The command -/

/-- The words of a fill command lead to one call, with what the arithmetic returns. -/
lemma feed_fillRect {g : Gp0} {command : U32} (hidle : g.gp0Handler = .handleCommand)
    (hopcode : opcode command = 2) {pos size : U32} {rect : (U16 × U16) × U16 × U16}
    (h : fillGeometry pos size = .ok rect) :
    ∃ g', g.feed [command, pos, size]
      = .ok (g', [.fillRect (gp0Color command) rect.1 rect.2]) := by
  have htable : commandTable (opcode command).toNat = some (3, .fillRect, false) := by
    rw [hopcode]
    rfl
  obtain ⟨a, hparse, hcb⟩ := gp0ParseCommand_eq htable g.toDrawing
  have hle : [command, pos, size].length ≤ 12 := by simp
  refine ⟨g.ready a [command, pos, size] hle, ?_⟩
  rw [feed_ready hidle hparse hle, hcb]
  exact gp0FillRect_eq rfl h

/-- The three words of a fill command fill the part of its rectangle inside the VRAM, and the
arithmetic on the way stays within 16 bits. -/
def Fills (g : Gp0) (command pos size : U32) : Prop :=
  ∃ g' rect, fillGeometry pos size = .ok rect
    ∧ g.feed [command, pos, size] = .ok (g', [.fillRect (gp0Color command) rect.1 rect.2])
    ∧ Rect.ofCall rect.1 rect.2 = (Rect.ofCommand pos size).clipped

/-- A fill command fills its rectangle unless the width rounds up to that of the whole VRAM. -/
theorem fills_iff (g : Gp0) (hidle : g.gp0Handler = .handleCommand) {command : U32}
    (hopcode : opcode command = 2) (pos size : U32) :
    Fills g command pos size ↔ size.toNat % 1024 ≤ 0x3f0 := by
  obtain ⟨rect, hrect, heq⟩ := fillGeometry_eq pos size
  constructor
  · rintro ⟨g', rect', hrect', -, hclipped⟩
    obtain rfl : rect' = rect := Except.ok.inj (hrect'.symm.trans hrect)
    -- the corner lies inside the VRAM, so that a width of 1024 leaves some of it
    have hwidth := congrArg Rect.width (heq.symm.trans hclipped)
    simp only [Rect.clipped, Rect.ofCommand] at hwidth
    omega
  · intro hle
    obtain ⟨g', hfeed⟩ := feed_fillRect hidle hopcode hrect
    refine ⟨g', rect, hrect, hfeed, heq.trans ?_⟩
    have hwidth : (Rect.ofCommand pos size).width % 1024 = (Rect.ofCommand pos size).width := by
      rw [Rect.ofCommand]
      dsimp only
      omega
    rw [hwidth]

theorem fills_sixteen : Fills .new 0x02000000#32 0#32 0x00010001#32 :=
  (fills_iff .new rfl rfl 0#32 0x00010001#32).mpr (by decide)

/-- A width of 0x3ff fills nothing. -/
theorem fills_not_whole_width : ¬ Fills .new 0x02000000#32 0#32 0x000103ff#32 := by
  rintro ⟨g', rect, hrect, -, hclipped⟩
  have hcode : fillGeometry 0#32 0x000103ff#32 = .ok ((0, 0), 0, 1) := by decide
  obtain rfl := Except.ok.inj (hrect.symm.trans hcode)
  exact absurd hclipped (by decide)

end Gp0

end Rustation
