import Rustation.Gpu.Framing
import Rustation.Gpu.Gpu
import Rustation.Lib.Run

/-!
Image loads, in any run of the GPU.

The words of an image go to a buffer that is as large as the VRAM.  The number of words is worked
out from two dimensions of 16 bits that nothing bounds, and a load can be given up at any point by
a reset of the port.

* `runCallback_with`: the callbacks of the other commands leave the buffer alone and start no load;
* `Coherent`: the words to come and the pixels received make up the image.  `gp0_coherent` is the
  step lemma for a word, `Gpu.access_coherent` for anything that the console does to the GPU;
* `Upload`: a GPU with the payload that the current load has received;
* `Upload.image_loads_inside_iff`: the buffer is left exactly by the word after the 262144th of a
  load, and the image that is handed over is the payload.
-/

namespace Rustation

open Fallible

namespace Gp0

variable {g g' : Gp0} {calls : List Call} {w : U32}

/-! ### The other callbacks -/

/-- The callbacks of the other commands neither read nor change the buffer, and they leave the
handler to the port unless more vertices follow. -/
lemma runCallback_with {cb : Callback} (hcb : cb ≠ .imageLoad) (g : Gp0) (f : Gp0Handler)
    (b : ImageBuffer) :
    runCallback { g with gp0Handler := f, loadBuffer := b } cb = (do
      let (g', calls) ← g.runCallback cb
      pure ({ g' with
        gp0Handler := if cb.fixedLength then f else g'.gp0Handler
        loadBuffer := b }, calls)) := by
  cases cb with
  | imageLoad => exact absurd rfl hcb
  | _ =>
      simp only [runCallback, gp0Nop, gp0ClearCache, gp0FillRect, gp0MonochromeTriangle,
        gp0TexturedTriangle, gp0MonochromeQuad, gp0TexturedQuad, gp0ShadedTriangle,
        gp0TexturedShadedTriangle, gp0ShadedQuad, gp0TexturedShadedQuad, gp0MonochromeLine,
        gp0MonochromePolyline, gp0ShadedLine, gp0ShadedPolyline, gp0MonochromeRect,
        gp0TexturedRect, gp0MonochromeRect1x1, gp0TexturedRect8x8, gp0MonochromeRect16x16,
        gp0TexturedRect16x16, gp0CopyRect, gp0ImageStore, gp0DrawMode, gp0TextureWindow,
        gp0DrawingAreaTopLeft, gp0DrawingAreaBottomRight, gp0DrawingOffset, gp0MaskBitSetting,
        pushLine, pushTriangle, pushQuad, startPolyline, setTexture, vertex, texturedVertex,
        gp0RectSized, gp0RectSizedTextured, attributes, bind_assoc, pure_bind,
        Callback.fixedLength, if_true, if_false, Bool.false_eq_true]

lemma runCallback_keeps {cb : Callback} (hcb : cb ≠ .imageLoad)
    (h : g.runCallback cb = .ok (g', calls)) :
    g'.loadBuffer = g.loadBuffer ∧ (cb.fixedLength = true → g'.gp0Handler = g.gp0Handler) := by
  have hsame : g.runCallback cb = _ := runCallback_with hcb g g.gp0Handler g.loadBuffer
  rw [h, ok_bind] at hsame
  have heq := (Prod.ext_iff.mp (Except.ok.inj hsame)).1
  have hbuffer := congrArg (fun g : Gp0 => g.loadBuffer) heq
  have hhandler := congrArg (fun g : Gp0 => g.gp0Handler) heq
  refine ⟨hbuffer, fun hfixed => ?_⟩
  simp only [hfixed, if_true] at hhandler
  exact hhandler

lemma startPolyline_handler {f : Gp0Handler} {a b : Outcome Vertex}
    (h : g.startPolyline f a b = .ok (g', calls)) : g'.gp0Handler = f := by
  obtain ⟨a, -, h⟩ := bind_eq_ok.mp h
  obtain ⟨b, -, h⟩ := bind_eq_ok.mp h
  obtain ⟨rfl, -⟩ := Prod.ext_iff.mp (Except.ok.inj h)
  rfl

/-- No other command starts an image load. -/
lemma runCallback_handler {cb : Callback} (hcb : cb ≠ .imageLoad)
    (hg : g.gp0Handler ≠ .handleImageLoad) (h : g.runCallback cb = .ok (g', calls)) :
    g'.gp0Handler ≠ .handleImageLoad := by
  by_cases hfixed : cb.fixedLength = true
  · rw [(runCallback_keeps hcb h).2 hfixed]
    exact hg
  · cases cb with
    | imageLoad => exact absurd rfl hcb
    | monochromePolyline =>
        rw [startPolyline_handler h]
        nofun
    | shadedPolyline =>
        rw [startPolyline_handler h]
        nofun
    | _ => exact absurd rfl hfixed

/-! ### Words to come -/

/-- The number of payload words of the image in the buffer. -/
def payloadLength (b : ImageBuffer) : ℕ := (area b + 1) / 2

/-- What holds of the buffer between two words, whatever came before. -/
structure Coherent (g : Gp0) : Prop where
  room : g.loadBuffer.index ≤ VRAM_SIZE_PIXELS
  /-- a load that was given up is not complete -/
  partially : g.loadBuffer.index = 0
    ∨ g.loadBuffer.index + 2 ≤ 2 * payloadLength g.loadBuffer
  loading : g.gp0Handler = .handleImageLoad → 0 < g.gp0WordsRemaining.toNat
    ∧ g.loadBuffer.index + 2 * g.gp0WordsRemaining.toNat = 2 * payloadLength g.loadBuffer

/-- Only an image that is larger than the VRAM can fill the buffer. -/
lemma Coherent.index_lt (h : Coherent g) (hsize : area g.loadBuffer ≤ VRAM_SIZE_PIXELS) :
    g.loadBuffer.index < VRAM_SIZE_PIXELS := by
  have hpartially := h.partially
  rw [payloadLength] at hpartially
  rw [VRAM_SIZE_PIXELS] at hsize ⊢
  omega

/-- Other changes of the port. -/
lemma Coherent.of_handler (h : Coherent g) (hbuffer : g'.loadBuffer = g.loadBuffer)
    (hhandler : g'.gp0Handler ≠ .handleImageLoad) : Coherent g' := by
  refine ⟨?_, ?_, fun hloading => absurd hloading hhandler⟩
  · rw [hbuffer]
    exact h.room
  · rw [hbuffer]
    exact h.partially

/-- The start of a load. -/
lemma imageLoad_coherent (h : Coherent g) (hg : g.gp0Handler ≠ .handleImageLoad)
    (hrun : g.gp0ImageLoad = .ok (g', calls)) :
    Coherent g' ∧ (g'.gp0Handler = .handleImageLoad → g'.loadBuffer.index = 0) := by
  obtain ⟨pos, -, hrun⟩ := bind_eq_ok.mp hrun
  obtain ⟨res, -, hrun⟩ := bind_eq_ok.mp hrun
  dsimp only at hrun
  split at hrun
  · next hpos =>
    obtain ⟨rfl, -⟩ := Prod.ext_iff.mp (Except.ok.inj hrun)
    have hlen : payloadLength (g.loadBuffer.reset (pos.setWidth 16) ((pos >>> 16).setWidth 16)
        ((res &&& 0xffff#32).setWidth 16) ((res >>> 16).setWidth 16))
          = ((((res &&& 0xffff#32) * (res >>> 16) + 1#32) &&& ~~~1#32) / 2#32).toNat := by
      rw [payloadLength, setWidth_low, area_reset, imageWords_toNat]
    refine ⟨⟨Nat.zero_le _, .inl rfl, fun _ => ⟨?_, ?_⟩⟩, fun _ => rfl⟩
    · exact BitVec.lt_def.mp hpos
    · refine Eq.trans ?_ (congrArg (2 * ·) hlen.symm)
      exact Nat.zero_add _
  · obtain ⟨rfl, -⟩ := Prod.ext_iff.mp (Except.ok.inj hrun)
    exact ⟨h.of_handler rfl hg, fun hloading => absurd hloading hg⟩

/-- A callback that runs from the command state. -/
lemma runCallback_coherent {cb : Callback} (h : Coherent g)
    (hg : g.gp0Handler ≠ .handleImageLoad) (hrun : g.runCallback cb = .ok (g', calls)) :
    Coherent g' ∧ (g'.gp0Handler = .handleImageLoad → g'.loadBuffer.index = 0) := by
  by_cases hcb : cb = .imageLoad
  · subst hcb
    exact imageLoad_coherent h hg hrun
  · have hhandler := runCallback_handler hcb hg hrun
    exact ⟨h.of_handler (runCallback_keeps hcb hrun).1 hhandler,
      fun hloading => absurd hloading hhandler⟩

lemma gp0HandleParameter_coherent (h : Coherent g) (hg : g.gp0Handler ≠ .handleImageLoad)
    (hrun : g.gp0HandleParameter w = .ok (g', calls)) :
    Coherent g' ∧ (g'.gp0Handler = .handleImageLoad → g'.loadBuffer.index = 0) := by
  obtain ⟨command, -, hrun⟩ := bind_eq_ok.mp hrun
  obtain ⟨g₁, hcount, hrun⟩ := bind_eq_ok.mp hrun
  rw [countWord] at hcount
  split at hcount
  · cases hcount
  · obtain rfl := Except.ok.inj hcount
    split at hrun
    · refine runCallback_coherent ?_ ?_ hrun
      · exact h.of_handler rfl (by simp)
      · simp
    · obtain ⟨rfl, -⟩ := Prod.ext_iff.mp (Except.ok.inj hrun)
      exact ⟨h.of_handler rfl hg, fun hloading => absurd hloading hg⟩

/-- A word that is not part of a payload. -/
lemma gp0_other_coherent (h : Coherent g) (hg : g.gp0Handler ≠ .handleImageLoad)
    (hrun : g.gp0 w = .ok (g', calls)) :
    Coherent g' ∧ (g'.gp0Handler = .handleImageLoad → g'.loadBuffer.index = 0) := by
  have hother (hbuffer : g'.loadBuffer = g.loadBuffer)
      (hhandler : g'.gp0Handler ≠ .handleImageLoad) :
      Coherent g' ∧ (g'.gp0Handler = .handleImageLoad → g'.loadBuffer.index = 0) :=
    ⟨h.of_handler hbuffer hhandler, fun hloading => absurd hloading hhandler⟩
  rw [gp0] at hrun
  split at hrun
  · obtain ⟨⟨len, attributes⟩, -, hrun⟩ := bind_eq_ok.mp hrun
    dsimp only at hrun
    refine gp0HandleParameter_coherent ?_ ?_ hrun
    · exact h.of_handler rfl (by simp)
    · simp
  · exact gp0HandleParameter_coherent h hg hrun
  · rw [gp0HandleShadedPolylineColor] at hrun
    split at hrun
    · obtain ⟨rfl, -⟩ := Prod.ext_iff.mp (Except.ok.inj hrun)
      exact hother rfl (by simp)
    · obtain ⟨command, -, hrun⟩ := bind_eq_ok.mp hrun
      obtain ⟨rfl, -⟩ := Prod.ext_iff.mp (Except.ok.inj hrun)
      exact hother rfl (by simp)
  · obtain ⟨color, -, hrun⟩ := bind_eq_ok.mp hrun
    obtain ⟨rfl, -⟩ := Prod.ext_iff.mp (Except.ok.inj hrun)
    exact hother rfl (by simp)
  · rw [gp0HandleMonochromePolylineVertex] at hrun
    split at hrun
    · obtain ⟨rfl, -⟩ := Prod.ext_iff.mp (Except.ok.inj hrun)
      exact hother rfl (by simp)
    · obtain ⟨rfl, -⟩ := Prod.ext_iff.mp (Except.ok.inj hrun)
      exact hother rfl hg
  · next hloading => exact absurd hloading hg

/-! ### Words of a payload -/

/-- A word that finds no room for its pixels. -/
lemma gp0_full (hg : g.gp0Handler = .handleImageLoad)
    (hfull : g.loadBuffer.index = VRAM_SIZE_PIXELS) (w : U32) : g.gp0 w = .error .outOfBounds := by
  have hlt : ¬g.loadBuffer.index < VRAM_SIZE_PIXELS := by omega
  have hsame : g.gp0 w = g.gp0HandleImageLoad w := by rw [gp0, hg]
  rw [hsame, gp0HandleImageLoad, ImageBuffer.pushGp0Word, ImageBuffer.pushPixel, if_neg hlt]
  rfl

/-- A word that finds room: the last one hands the image over, and what is handed over are the
pixels that have been received. -/
lemma gp0_payload (h : Coherent g) (hg : g.gp0Handler = .handleImageLoad)
    (hroom : g.loadBuffer.index + 2 ≤ VRAM_SIZE_PIXELS) (w : U32) :
    ∃ b, Grown g.loadBuffer b (pixelsOf [w])
      ∧ g.gp0 w = .ok (if g.gp0WordsRemaining = 1 then
          ({ g with
              gp0WordsRemaining := 0, loadBuffer := b.clear, gp0Handler := .handleCommand },
            [.loadImage g.loadBuffer.topLeft g.loadBuffer.resolution
              ((written g.loadBuffer ++ pixelsOf [w]).take (area g.loadBuffer))])
        else
          ({ g with gp0WordsRemaining := g.gp0WordsRemaining - 1, loadBuffer := b }, [])) := by
  obtain ⟨hpos, hleft⟩ := h.loading hg
  obtain ⟨b, hpush, hgrown⟩ := pushGp0Word_grown (b := g.loadBuffer) w hroom
  have hindex : b.index = g.loadBuffer.index + 2 := hgrown.index
  have harea : area b = area g.loadBuffer := by rw [area, area, hgrown.resolution]
  have hsame : g.gp0 w = g.gp0HandleImageLoad w := by rw [gp0, hg]
  have hne : g.gp0WordsRemaining ≠ 0 := by
    intro hzero
    rw [hzero] at hpos
    exact absurd hpos (by decide)
  have hlast : g.gp0WordsRemaining - 1 = 0 ↔ g.gp0WordsRemaining = 1 := by
    constructor
    · intro hsub
      bv_omega
    · intro hone
      rw [hone]
      rfl
  refine ⟨b, hgrown, ?_⟩
  rw [hsame, gp0HandleImageLoad, hpush, ok_bind,
    countWord_eq (g := { g with loadBuffer := b }) hne, ok_bind]
  dsimp only
  by_cases hone : g.gp0WordsRemaining = 1
  · -- with the last word the buffer holds the whole image
    have hnat : g.gp0WordsRemaining.toNat = 1 := by rw [hone]; rfl
    rw [hnat, payloadLength, ← harea] at hleft
    rw [if_pos (hlast.mpr hone), if_pos hone, pixels_eq (by omega) (by omega), ok_bind, pure_eq_ok,
      hgrown.topLeft, hgrown.resolution, hgrown.written, harea, hlast.mpr hone]
  · rw [if_neg (mt hlast.mp hone), if_neg hone, pure_eq_ok]

/-- Pixels come in pairs. -/
lemma Coherent.room_or_full (h : Coherent g) (hg : g.gp0Handler = .handleImageLoad) :
    g.loadBuffer.index + 2 ≤ VRAM_SIZE_PIXELS ∨ g.loadBuffer.index = VRAM_SIZE_PIXELS := by
  have hleft := (h.loading hg).2
  have hroom := h.room
  rw [VRAM_SIZE_PIXELS] at hroom ⊢
  omega

/-- The step lemma for a word. -/
lemma gp0_coherent (h : Coherent g) (hrun : g.gp0 w = .ok (g', calls)) : Coherent g' := by
  by_cases hg : g.gp0Handler = .handleImageLoad
  · rcases h.room_or_full hg with hroom | hfull
    · obtain ⟨hpos, hleft⟩ := h.loading hg
      obtain ⟨b, hgrown, hstep⟩ := gp0_payload h hg hroom w
      have hindex : b.index = g.loadBuffer.index + 2 := hgrown.index
      have hlength : payloadLength b = payloadLength g.loadBuffer := by
        rw [payloadLength, payloadLength, area, area, hgrown.resolution]
      rw [hstep] at hrun
      split at hrun
      · obtain ⟨rfl, -⟩ := Prod.ext_iff.mp (Except.ok.inj hrun)
        exact ⟨Nat.zero_le _, .inl rfl, by simp⟩
      · next hone =>
        obtain ⟨rfl, -⟩ := Prod.ext_iff.mp (Except.ok.inj hrun)
        have hmore : (g.gp0WordsRemaining - 1).toNat + 1 = g.gp0WordsRemaining.toNat
            ∧ 0 < (g.gp0WordsRemaining - 1).toNat := by
          bv_omega
        refine ⟨?_, .inr ?_, fun _ => ⟨hmore.2, ?_⟩⟩
        · show b.index ≤ _
          omega
        · show b.index + 2 ≤ 2 * payloadLength b
          omega
        · show b.index + 2 * (g.gp0WordsRemaining - 1).toNat = 2 * payloadLength b
          omega
    · rw [gp0_full hg hfull] at hrun
      cases hrun
  · exact (gp0_other_coherent h hg hrun).1

lemma coherent_new : Coherent new := ⟨Nat.zero_le _, .inl rfl, nofun⟩

end Gp0

/-! ### The whole GPU -/

namespace Gpu

variable {ratio : VideoClock → FracCycles} {g g' : Gpu} {sh : SharedState} {a : Access} {w : U32}

/-- The word that an access brings to the GP0 port. -/
def Access.word : Access → Option U32
  | .sync => none
  | .load _ _ => none
  | .store _ width offset val => if width = .word ∧ offset = 0 then some val else none
  | .gp0 val => some val

lemma access_of_word (hw : a.word = some w) (h : g.access ratio sh a = .ok g') :
    ∃ calls, g.toGp0.gp0 w = .ok (g'.toGp0, calls) := by
  cases a with
  | sync => cases hw
  | load width offset => cases hw
  | store timers width offset val =>
      rw [Access.word] at hw
      split at hw
      · next hstore =>
        obtain ⟨rfl, rfl⟩ := hstore
        obtain rfl := Option.some.inj hw
        obtain ⟨⟨g₁, rest⟩, hrun, h⟩ := bind_eq_ok.mp h
        obtain ⟨⟨g₂, calls⟩, hgp0, hrun⟩ := bind_eq_ok.mp hrun
        obtain ⟨⟨port, calls'⟩, hport, hgp0⟩ := bind_eq_ok.mp hgp0
        cases hgp0
        cases hrun
        cases h
        exact ⟨_, hport⟩
      · cases hw
  | gp0 val =>
      obtain rfl := Option.some.inj hw
      obtain ⟨⟨g₂, calls⟩, hgp0, h⟩ := bind_eq_ok.mp h
      obtain ⟨⟨port, calls'⟩, hport, hgp0⟩ := bind_eq_ok.mp hgp0
      cases hgp0
      cases h
      exact ⟨_, hport⟩

/-- The other commands leave the image buffer alone, and a load goes on unless it is given up. -/
structure Undisturbed (g g' : Gpu) : Prop where
  buffer : g'.loadBuffer = g.loadBuffer
  handler : (g'.gp0Handler = g.gp0Handler ∧ g'.gp0WordsRemaining = g.gp0WordsRemaining)
    ∨ g'.gp0Handler = .handleCommand

lemma gp1_undisturbed {timers timers' : Timers} {sh' : SharedState} {calls : List Call}
    (h : g.gp1 ratio sh timers w = .ok (g', sh', timers', calls)) : Undisturbed g g' := by
  rw [gp1] at h
  split at h
  · obtain ⟨r, -, h⟩ := bind_eq_ok.mp h
    cases h
    exact ⟨rfl, .inr rfl⟩
  · cases h
    exact ⟨rfl, .inr rfl⟩
  · cases h
    exact ⟨rfl, .inl ⟨rfl, rfl⟩⟩
  · cases h
    exact ⟨rfl, .inl ⟨rfl, rfl⟩⟩
  · cases h
    exact ⟨rfl, .inl ⟨rfl, rfl⟩⟩
  · cases h
    exact ⟨rfl, .inl ⟨rfl, rfl⟩⟩
  · cases h
    exact ⟨rfl, .inl ⟨rfl, rfl⟩⟩
  · cases h
    exact ⟨rfl, .inl ⟨rfl, rfl⟩⟩
  · obtain ⟨⟨g₁, sh₁⟩, hmode, h⟩ := bind_eq_ok.mp h
    obtain ⟨r, -, h⟩ := bind_eq_ok.mp h
    cases h
    rw [gp1DisplayMode] at hmode
    split at hmode
    · cases hmode
    · obtain ⟨rfl, -⟩ := Prod.ext_iff.mp (Except.ok.inj hmode)
      exact ⟨rfl, .inl ⟨rfl, rfl⟩⟩
  · obtain ⟨g₁, hinfo, h⟩ := bind_eq_ok.mp h
    cases h
    rw [gp1GetInfo] at hinfo
    split at hinfo <;> cases hinfo <;> exact ⟨rfl, .inl ⟨rfl, rfl⟩⟩
  · cases h

lemma access_of_word_none (hw : a.word = none) (h : g.access ratio sh a = .ok g') :
    Undisturbed g g' := by
  have hsame {g₁ : Gpu} {sh₁ : SharedState} (hsync : g.sync ratio sh = (g₁, sh₁)) :
      Undisturbed g g₁ := by
    obtain ⟨rfl, -⟩ := Prod.ext_iff.mp hsync
    exact ⟨rfl, .inl ⟨rfl, rfl⟩⟩
  cases a with
  | sync =>
      cases h
      exact hsame rfl
  | load width offset =>
      obtain ⟨⟨v, g₁, sh₁⟩, hload, h⟩ := bind_eq_ok.mp h
      cases h
      rw [load] at hload
      split at hload
      · cases hload
      · split at hload
        next g₂ sh₂ hsync =>
        split at hload
        · cases hload
          exact hsame hsync
        · cases hload
          exact hsame hsync
        · cases hload
  | store timers width offset val =>
      obtain ⟨⟨g₁, sh₁, timers₁, calls⟩, hstore, h⟩ := bind_eq_ok.mp h
      cases h
      rw [store] at hstore
      split at hstore
      · cases hstore
      · next hwidth =>
        split at hstore
        next g₂ sh₂ hsync =>
        split at hstore
        · next hoffset =>
          have hword : width = .word ∧ offset = 0 := by
            refine ⟨?_, BitVec.eq_of_toNat_eq hoffset⟩
            cases width <;> simp [Width.size] at hwidth ⊢
          rw [Access.word, if_pos hword] at hw
          cases hw
        · have hgp1 := gp1_undisturbed hstore
          obtain ⟨rfl, -⟩ := Prod.ext_iff.mp hsync
          exact ⟨hgp1.buffer, hgp1.handler⟩
        · cases hstore
  | gp0 val => cases hw

lemma Undisturbed.coherent (h : Undisturbed g g') (hg : Gp0.Coherent g.toGp0) :
    Gp0.Coherent g'.toGp0 := by
  rcases h.handler with ⟨hhandler, hremaining⟩ | hhandler
  · refine ⟨?_, ?_, fun hloading => ?_⟩
    · rw [h.buffer]
      exact hg.room
    · rw [h.buffer]
      exact hg.partially
    · rw [h.buffer, hremaining]
      exact hg.loading (hhandler.symm.trans hloading)
  · refine hg.of_handler h.buffer ?_
    rw [hhandler]
    nofun

/-- The step lemma for anything that the console does to the GPU. -/
lemma access_coherent (hg : Gp0.Coherent g.toGp0) (h : g.access ratio sh a = .ok g') :
    Gp0.Coherent g'.toGp0 := by
  cases hw : a.word with
  | none => exact (access_of_word_none hw h).coherent hg
  | some w =>
      obtain ⟨calls, hgp0⟩ := access_of_word hw h
      exact Gp0.gp0_coherent hg hgp0

end Gpu

/-! ### Payloads -/

/-- A GPU, with the payload words that the load in progress has received. -/
structure Upload where
  gpu : Gpu
  payload : List U32

namespace Upload

open Gp0 (area written pixelsOf)

variable {ratio : VideoClock → FracCycles} {u u' : Upload} {op : SharedState × Gpu.Access} {w : U32}

def new (standard : VideoClock) : Upload := ⟨.new standard, []⟩

/-- The payload after a word: a word that is not for the load in progress is not part of it. -/
def received (u : Upload) : Option U32 → List U32
  | some w => if u.gpu.gp0Handler = .handleImageLoad then u.payload ++ [w] else []
  | none => u.payload

def perform (ratio : VideoClock → FracCycles) (u : Upload) (op : SharedState × Gpu.Access) :
    Outcome Upload := do
  let gpu ← u.gpu.access ratio op.1 op.2
  pure ⟨gpu, u.received op.2.word⟩

/-- The pixels in the buffer are those of the payload. -/
structure Recorded (u : Upload) : Prop where
  coherent : u.gpu.toGp0.Coherent
  written : u.gpu.gp0Handler = .handleImageLoad →
    written u.gpu.loadBuffer = pixelsOf u.payload

lemma pixelsOf_append (ws ws' : List U32) : pixelsOf (ws ++ ws') = pixelsOf ws ++ pixelsOf ws' := by
  rw [pixelsOf, pixelsOf, pixelsOf, List.flatMap_append]

lemma length_pixelsOf (payload : List U32) : (pixelsOf payload).length = 2 * payload.length := by
  induction payload with
  | nil => rfl
  | cons w ws ih =>
      rw [← List.singleton_append, pixelsOf_append, List.length_append, ih, List.length_append,
        Nat.mul_add]
      rfl

lemma Recorded.index (h : Recorded u) (hg : u.gpu.gp0Handler = .handleImageLoad) :
    u.gpu.loadBuffer.index = 2 * u.payload.length := by
  have hlength := congrArg List.length (h.written hg)
  rw [length_pixelsOf, Gp0.written, List.length_map, List.length_range] at hlength
  exact hlength

/-- The step lemma. -/
lemma perform_recorded (h : Recorded u) (hrun : u.perform ratio op = .ok u') : Recorded u' := by
  obtain ⟨gpu, hgpu, hrun⟩ := bind_eq_ok.mp hrun
  obtain rfl := Except.ok.inj hrun
  refine ⟨Gpu.access_coherent h.coherent hgpu, fun hloading => ?_⟩
  cases hw : op.2.word with
  | none =>
      have hsame := Gpu.access_of_word_none hw hgpu
      rcases hsame.handler with ⟨hhandler, -⟩ | hhandler
      · show written gpu.loadBuffer = _
        rw [hsame.buffer]
        exact h.written (hhandler.symm.trans hloading)
      · exact absurd (hhandler.symm.trans hloading) nofun
  | some w =>
      obtain ⟨calls, hgp0⟩ := Gpu.access_of_word hw hgpu
      show written gpu.loadBuffer = pixelsOf (u.received (some w))
      rw [received]
      by_cases hg : u.gpu.gp0Handler = .handleImageLoad
      · rw [if_pos hg]
        rcases h.coherent.room_or_full hg with hroom | hfull
        · obtain ⟨b, hgrown, hstep⟩ := Gp0.gp0_payload h.coherent hg hroom w
          rw [hstep] at hgp0
          split at hgp0
          · -- the load has ended with this word
            have hport := (Prod.ext_iff.mp (Except.ok.inj hgp0)).1
            have hhandler := congrArg (fun g : Gp0 => g.gp0Handler) hport
            exact absurd (hhandler.trans hloading) nofun
          · have hport := (Prod.ext_iff.mp (Except.ok.inj hgp0)).1
            have hbuffer : b = gpu.loadBuffer := congrArg (fun g : Gp0 => g.loadBuffer) hport
            rw [← hbuffer, hgrown.written, h.written hg, pixelsOf_append]
        · rw [Gp0.gp0_full hg hfull] at hgp0
          cases hgp0
      · rw [if_neg hg]
        have hindex := (Gp0.gp0_other_coherent h.coherent hg hgp0).2 hloading
        rw [written, hindex]
        rfl

/-- The word that the operation brings, if it is for the load in progress. -/
def payloadWord (u : Upload) (op : SharedState × Gpu.Access) : Option U32 :=
  if u.gpu.gp0Handler = .handleImageLoad then op.2.word else none

/-- A payload word goes to entries of the buffer, and with the last one the renderer is handed as
many pixels as the image has, the first ones of the payload in order. -/
def Inside (u : Upload) (op : SharedState × Gpu.Access) : Prop :=
  ∀ w, u.payloadWord op = some w →
    u.gpu.loadBuffer.index + 1 < VRAM_SIZE_PIXELS
      ∧ (u.gpu.gp0WordsRemaining = 1 → area u.gpu.loadBuffer ≤ VRAM_SIZE_PIXELS
        ∧ ∃ port pixels, u.gpu.toGp0.gp0 w
            = .ok (port, [.loadImage u.gpu.loadBuffer.topLeft u.gpu.loadBuffer.resolution pixels])
          ∧ pixels.length = area u.gpu.loadBuffer ∧ pixels <+: pixelsOf (u.payload ++ [w]))

/-- The load has received fewer words than the VRAM has pairs of pixels. -/
def Within (u : Upload) (op : SharedState × Gpu.Access) : Prop :=
  ∀ w, u.payloadWord op = some w → u.payload.length < 262144

lemma inside_iff_within (h : Recorded u) (op : SharedState × Gpu.Access) :
    Inside u op ↔ Within u op := by
  refine forall₂_congr fun w hw => ?_
  have hg : u.gpu.gp0Handler = .handleImageLoad := by
    rw [payloadWord] at hw
    split at hw
    · assumption
    · cases hw
  have hindex := h.index hg
  obtain ⟨hpos, hleft⟩ := h.coherent.loading hg
  constructor
  · rintro ⟨hlt, -⟩
    rw [VRAM_SIZE_PIXELS] at hlt
    omega
  · intro hlt
    have hroom : u.gpu.loadBuffer.index + 2 ≤ VRAM_SIZE_PIXELS := by
      rw [VRAM_SIZE_PIXELS]
      omega
    refine ⟨by omega, fun hone => ?_⟩
    obtain ⟨b, -, hstep⟩ := Gp0.gp0_payload h.coherent hg hroom w
    have hnat : u.gpu.gp0WordsRemaining.toNat = 1 := by rw [hone]; rfl
    rw [hnat, Gp0.payloadLength] at hleft
    have hpixels : written u.gpu.loadBuffer ++ pixelsOf [w] = pixelsOf (u.payload ++ [w]) := by
      rw [h.written hg, pixelsOf_append]
    rw [if_pos hone, hpixels] at hstep
    refine ⟨by omega, _, _, hstep, ?_, List.take_prefix _ _⟩
    rw [List.length_take, length_pixelsOf, List.length_append, List.length_singleton]
    omega

/-- **Image loads stay inside the buffer up to its last pixel.**  In every run from power-on, over
anything that the console does to the GPU, the words of images go to entries of the buffer and the
renderer is handed the payload, exactly as long as no load receives a word beyond the 262144th. -/
theorem image_loads_inside_iff (ratio : VideoClock → FracCycles) (standard : VideoClock)
    (ops : List (SharedState × Gpu.Access)) :
    Run.Steps (Run.next (perform ratio)) (fun s op => ∀ u, s = .ok u → Inside u op)
        (.ok (new standard)) ops
      ↔ Run.Steps (Run.next (perform ratio)) (fun s op => ∀ u, s = .ok u → Within u op)
        (.ok (new standard)) ops := by
  refine Run.steps_congr (I := Run.Holds Recorded) (H := fun _ _ => True) (fun s op hs _ => ?_)
    (fun s op hs _ => ?_) ?_ (Run.steps_trivial _ _ _)
  · rw [Run.holds_next]
    exact fun u u' hu hu' => perform_recorded (hs u hu) hu'
  · exact forall₂_congr fun u hu => inside_iff_within (hs u hu) op
  · rw [Run.holds_ok]
    exact ⟨Gp0.coherent_new, nofun⟩

/-! ### A load that is too large -/

lemma perform_gp0 (ratio : VideoClock → FracCycles) {port : Gp0} {calls : List Call}
    (h : u.gpu.toGp0.gp0 w = .ok (port, calls)) (sh : SharedState) :
    u.perform ratio (sh, .gp0 w) = .ok ⟨{ u.gpu with toGp0 := port }, u.received (some w)⟩ := by
  rw [perform, Gpu.access, Gpu.gp0, h]
  rfl

/-- Words that the port takes, sent one by one. -/
lemma run_gp0 (ratio : VideoClock → FracCycles) {ws : List U32} {port : Gp0} {calls : List Call}
    (hr : Recorded u) (h : u.gpu.toGp0.feed ws = .ok (port, calls)) (sh : SharedState) :
    ∃ payload, (ws.map fun w => (sh, .gp0 w)).foldl (Run.next (perform ratio)) (.ok u)
        = .ok ⟨{ u.gpu with toGp0 := port }, payload⟩
      ∧ Recorded ⟨{ u.gpu with toGp0 := port }, payload⟩ := by
  induction ws generalizing u calls with
  | nil =>
      cases h
      exact ⟨u.payload, rfl, hr⟩
  | cons w ws ih =>
      obtain ⟨⟨port₁, calls₁⟩, hword, h⟩ := bind_eq_ok.mp h
      obtain ⟨⟨port₂, calls₂⟩, hrest, h⟩ := bind_eq_ok.mp h
      cases h
      have hperform := perform_gp0 ratio hword sh
      obtain ⟨payload, hrun, hr'⟩ := ih (perform_recorded hr hperform) hrest
      refine ⟨payload, ?_, hr'⟩
      rw [List.map_cons, List.foldl_cons]
      exact (congrArg (List.foldl _ · _) hperform).trans hrun

/-- Payload words of a load that is far from its end. -/
lemma run_payload (ratio : VideoClock → FracCycles) (w : U32) {n : ℕ} (h : Recorded u)
    (hg : u.gpu.gp0Handler = .handleImageLoad) (hroom : u.payload.length + n ≤ 262144)
    (hmore : n < u.gpu.gp0WordsRemaining.toNat) (sh : SharedState) :
    ∃ u', (List.replicate n (sh, .gp0 w)).foldl (Run.next (perform ratio)) (.ok u) = .ok u'
      ∧ Recorded u' ∧ u'.gpu.gp0Handler = .handleImageLoad
      ∧ u'.payload.length = u.payload.length + n := by
  induction n generalizing u with
  | zero => exact ⟨u, rfl, h, hg, rfl⟩
  | succ n ih =>
      have hindex := h.index hg
      obtain ⟨b, -, hstep⟩ := Gp0.gp0_payload h.coherent hg (by rw [VRAM_SIZE_PIXELS]; omega) w
      have hone : u.gpu.gp0WordsRemaining ≠ 1 := by
        intro hone
        rw [hone] at hmore
        exact absurd hmore (by simp)
      rw [if_neg hone] at hstep
      have hperform := perform_gp0 ratio hstep sh
      rw [received, if_pos hg] at hperform
      obtain ⟨u', hrun, h', hg', hlength⟩ := ih (perform_recorded h hperform) hg
        (by rw [List.length_append, List.length_singleton]; omega)
        (by show n < (u.gpu.gp0WordsRemaining - 1).toNat; bv_omega)
      refine ⟨u', ?_, h', hg', ?_⟩
      · rw [List.replicate_succ, List.foldl_cons]
        exact (congrArg (List.foldl _ · _) hperform).trans hrun
      · rw [hlength, List.length_append, List.length_singleton]
        omega

/-- The first words of an image of 1024 x 513 pixels, as many as the buffer has room for. -/
def oversize : List (SharedState × Gpu.Access) :=
  ([0xa0000000#32, 0#32, 0x02010400#32].map fun w => (.new, .gp0 w))
    ++ List.replicate 262144 (.new, .gp0 0#32)

/-- They fill the buffer in the middle of the load. -/
lemma oversize_fills (ratio : VideoClock → FracCycles) (standard : VideoClock) :
    ∃ u, oversize.foldl (Run.next (perform ratio)) (.ok (new standard)) = .ok u
      ∧ Recorded u ∧ u.gpu.gp0Handler = .handleImageLoad ∧ u.payload.length = 262144 := by
  have hnew : Recorded (new standard) := ⟨Gp0.coherent_new, nofun⟩
  obtain ⟨port, hfeed, hhandler, hremaining, hindex⟩ : ∃ port,
      Gp0.new.feed [0xa0000000#32, 0#32, 0x02010400#32] = .ok (port, [])
        ∧ port.gp0Handler = .handleImageLoad ∧ port.gp0WordsRemaining = 262656#32
        ∧ port.loadBuffer.index = 0 := by
    refine ⟨_, rfl, ?_, ?_, ?_⟩
    · rfl
    · rfl
    · rfl
  obtain ⟨payload, hstart, hr⟩ := run_gp0 ratio hnew hfeed .new
  have hempty : payload.length = 0 := by
    have hpayload : port.loadBuffer.index = 2 * payload.length := hr.index hhandler
    omega
  obtain ⟨u, hrun, hu, hg, hlength⟩ := run_payload ratio 0#32 (n := 262144) hr hhandler
    (by rw [hempty])
    (by show 262144 < port.gp0WordsRemaining.toNat; rw [hremaining]; decide) .new
  refine ⟨u, ?_, hu, hg, ?_⟩
  · rw [oversize, List.foldl_append, hstart]
    exact hrun
  · rw [hlength, hempty]

/-- The next word does not fit. -/
theorem oversize_not_inside :
    ¬ ∀ ratio standard ops, Run.Steps (Run.next (perform ratio))
        (fun s op => ∀ u, s = .ok u → Inside u op) (.ok (new standard)) ops := by
  intro hall
  obtain ⟨u, hrun, hr, hg, hlength⟩ := oversize_fills (fun _ => .fromCycles 1) .ntsc
  have hsteps := hall (fun _ => .fromCycles 1) .ntsc (oversize ++ [(.new, .gp0 0#32)])
  have hinside : Inside u (.new, .gp0 0#32) := hsteps.at u hrun
  have hindex := hr.index hg
  obtain ⟨hlt, -⟩ := hinside 0#32 (if_pos hg)
  rw [VRAM_SIZE_PIXELS] at hlt
  omega

end Upload

end Rustation
