import Rustation.Gpu.ImageLoad
import Rustation.Lib.Related
import Rustation.Savestate.Restore

/-!
Savestates of the GP0 port, in particular in the middle of an image load.

Of the image buffer only the part that has been written is saved, and the write position is the
length of that part.

* `ImageBuffer.encode`, `ImageBuffer.decode`: the two directions; a full buffer is refused;
* `Gp0.reload`: the port that a savestate of a port is loaded as;
* `SameImage`, `Alike`: ports that differ in the unused part of the buffer only.  They react alike
  to any words (`gp0_alike` for one word, `feed_alike` for many), since the image that is handed
  over has been written in full;
* `image_savestate_iff`: in any reachable state a savestate goes unnoticed exactly when the buffer
  is not full, which takes an image larger than the VRAM.
-/

namespace Rustation

open Fallible

/-! ### Encoding and decoding -/

/-- What is saved of an image buffer. -/
structure SavedImage where
  topLeft : U16 × U16
  resolution : U16 × U16
  buffer : List U16
  deriving DecidableEq, Repr

namespace ImageBuffer

/-- Read one entry of the buffer. -/
def read (b : ImageBuffer) (i : ℕ) : Outcome U16 :=
  if i < VRAM_SIZE_PIXELS then pure (b.buffer i) else throw .outOfBounds

/-- Only the part of the buffer that is used is stored, and the index is not. -/
def encode (b : ImageBuffer) : Outcome SavedImage := do
  let buffer ← (List.range b.index).mapM b.read
  pure ⟨b.topLeft, b.resolution, buffer⟩

def decode (s : SavedImage) : Except String ImageBuffer :=
  if s.buffer.length ≥ VRAM_SIZE_PIXELS then .error "wrong image buffer length"
  else .ok ⟨s.topLeft, s.resolution, s.buffer.length, fun i => s.buffer.getD i 0⟩

end ImageBuffer

namespace Gp0

/-- Save the port and load it again.  The two function pointers are saved by name; the other fields
are encoded and decoded by derived code. -/
def reload (g : Gp0) : Outcome (Except String Gp0) := do
  let handler ← gp0HandlerLut.encode g.gp0Handler
  let callback ← callbackLut.encode g.gp0Attributes.callback
  let image ← g.loadBuffer.encode
  pure do
    let handler ← gp0HandlerLut.decode handler
    let callback ← callbackLut.decode callback
    let loadBuffer ← ImageBuffer.decode image
    pure { g with
      gp0Handler := handler
      gp0Attributes := { g.gp0Attributes with callback := callback }
      loadBuffer := loadBuffer }

variable {g g' : Gp0} {b b' b₁ b₁' : ImageBuffer} {w : U32}

lemma mapM_read {l : List ℕ} (h : ∀ i ∈ l, i < VRAM_SIZE_PIXELS) :
    l.mapM b.read = .ok (l.map b.buffer) := by
  induction l with
  | nil => rfl
  | cons i l ih =>
      rw [List.mapM_cons, ImageBuffer.read, if_pos (h i List.mem_cons_self), pure_eq_ok, ok_bind,
        ih fun j hj => h j (List.mem_cons_of_mem i hj), ok_bind, pure_eq_ok, List.map_cons]

/-- What is saved is what has been written. -/
lemma encode_eq (h : b.index ≤ VRAM_SIZE_PIXELS) :
    b.encode = .ok ⟨b.topLeft, b.resolution, written b⟩ := by
  rw [ImageBuffer.encode, mapM_read fun i hi => (List.mem_range.mp hi).trans_le h, ok_bind,
    pure_eq_ok, written]

/-- The buffers hold the same image so far. -/
structure SameImage (b b' : ImageBuffer) : Prop where
  topLeft : b'.topLeft = b.topLeft
  resolution : b'.resolution = b.resolution
  written : written b' = written b

lemma length_written (b : ImageBuffer) : (written b).length = b.index := by
  rw [written, List.length_map, List.length_range]

lemma SameImage.index (h : SameImage b b') : b'.index = b.index := by
  rw [← length_written, h.written, length_written]

lemma SameImage.buffer (h : SameImage b b') {i : ℕ} (hi : i < b.index) :
    b'.buffer i = b.buffer i := by
  have hwritten := congrArg (·[i]?) h.written
  simpa [Gp0.written, hi, h.index] using hwritten

lemma SameImage.area (h : SameImage b b') : area b' = area b := by
  rw [Gp0.area, Gp0.area, h.resolution]

lemma SameImage.grown (h : SameImage b b') {pixels : List U16} (hb : Grown b b₁ pixels)
    (hb' : Grown b' b₁' pixels) : SameImage b₁ b₁' where
  topLeft := by rw [hb'.topLeft, hb.topLeft, h.topLeft]
  resolution := by rw [hb'.resolution, hb.resolution, h.resolution]
  written := by rw [hb'.written, hb.written, h.written]

/-- Decoding brings the image back, unless it fills the buffer. -/
lemma decode_eq (h : b.index < VRAM_SIZE_PIXELS) :
    ∃ b', ImageBuffer.decode ⟨b.topLeft, b.resolution, written b⟩ = .ok b' ∧ SameImage b b' := by
  have hlength := length_written b
  refine ⟨_, if_neg ?_, rfl, rfl, ?_⟩
  · show ¬(written b).length ≥ _
    omega
  · refine List.ext_getElem ?_ fun i hi _ => ?_
    · rw [length_written]
    · simp [written] at hi ⊢
      simp [hi]

/-! ### Ports that react alike -/

/-- The second port is the first one with another buffer for the same image, and the calls of the
renderer are the same. -/
def Alike (r r' : Gp0 × List Call) : Prop :=
  ∃ b, SameImage r.1.loadBuffer b ∧ r' = ({ r.1 with loadBuffer := b }, r.2)

/-- What is left in a buffer that starts over does not matter. -/
lemma sameImage_reset (b b' : ImageBuffer) (x y width height : U16) :
    SameImage (b.reset x y width height) (b'.reset x y width height) := ⟨rfl, rfl, rfl⟩

lemma sameImage_clear (b b' : ImageBuffer) : SameImage b.clear b'.clear := ⟨rfl, rfl, rfl⟩

/-- The invariant of the port does not look at the pixels. -/
lemma Coherent.withBuffer (h : Coherent g) (hb : SameImage g.loadBuffer b) :
    Coherent { g with loadBuffer := b } := by
  have hlength : payloadLength b = payloadLength g.loadBuffer := by
    rw [payloadLength, payloadLength, hb.area]
  refine ⟨?_, ?_, fun hg => ?_⟩
  · show b.index ≤ _
    rw [hb.index]
    exact h.room
  · show b.index = 0 ∨ b.index + 2 ≤ 2 * payloadLength b
    rw [hb.index, hlength]
    exact h.partially
  · show _ ∧ b.index + 2 * _ = 2 * payloadLength b
    rw [hb.index, hlength]
    exact h.loading hg

lemma imageLoad_alike (hb : SameImage g.loadBuffer b) :
    Related Alike g.gp0ImageLoad (gp0ImageLoad { g with loadBuffer := b }) := by
  rw [gp0ImageLoad, gp0ImageLoad]
  refine .bind (.refl (fun _ => rfl) _) fun pos _ hpos => ?_
  subst hpos
  refine .bind (.refl (fun _ => rfl) _) fun res _ hres => ?_
  subst hres
  dsimp only
  split
  · exact .ok ⟨_, sameImage_reset _ _ _ _ _ _, rfl⟩
  · exact .ok ⟨b, hb, rfl⟩

lemma runCallback_alike (hb : SameImage g.loadBuffer b) (cb : Callback) :
    Related Alike (g.runCallback cb) (runCallback { g with loadBuffer := b } cb) := by
  by_cases hcb : cb = .imageLoad
  · subst hcb
    exact imageLoad_alike hb
  · have hwith : runCallback { g with loadBuffer := b } cb = _ :=
      runCallback_with hcb g g.gp0Handler b
    rw [hwith]
    cases hrun : g.runCallback cb with
    | error e => exact .error e
    | ok r =>
        obtain ⟨g', calls⟩ := r
        obtain ⟨hbuffer, hhandler⟩ := runCallback_keeps hcb hrun
        refine .ok ⟨b, ?_, ?_⟩
        · show SameImage g'.loadBuffer b
          rw [hbuffer]
          exact hb
        · by_cases hfixed : cb.fixedLength = true
          · simp only [hfixed, if_true, hhandler hfixed]
          · simp only [hfixed]
            rfl

lemma gp0HandleParameter_alike (hb : SameImage g.loadBuffer b) (w : U32) :
    Related Alike (g.gp0HandleParameter w) (gp0HandleParameter { g with loadBuffer := b } w) := by
  rw [gp0HandleParameter, gp0HandleParameter]
  refine .bind (.refl (fun _ => rfl) _) fun command _ hcommand => ?_
  subst hcommand
  rw [countWord, countWord]
  split
  · exact .error _
  · rw [pure_eq_ok, pure_eq_ok, ok_bind, ok_bind]
    dsimp only
    split
    · exact runCallback_alike (g := { g with
        gp0Command := command, gp0WordsRemaining := _, gp0Handler := .handleCommand }) hb _
    · exact .ok ⟨b, hb, rfl⟩

/-- A payload word: the image that is handed over with the last one has been written in full. -/
lemma payload_alike (h : Coherent g) (hb : SameImage g.loadBuffer b)
    (hg : g.gp0Handler = .handleImageLoad) (w : U32) :
    Related Alike (g.gp0 w) (gp0 { g with loadBuffer := b } w) := by
  have hbg : ({ g with loadBuffer := b } : Gp0).gp0Handler = .handleImageLoad := hg
  have hindex := hb.index
  rcases h.room_or_full hg with hroom | hfull
  · obtain ⟨b₁, hgrown, hstep⟩ := gp0_payload h hg hroom w
    obtain ⟨b₂, hgrown', hstep'⟩ := gp0_payload (h.withBuffer hb) hbg
      (by show b.index + 2 ≤ _; omega) w
    rw [hstep, hstep']
    dsimp only
    split
    · rw [hb.topLeft, hb.resolution, hb.written, hb.area]
      exact .ok ⟨_, sameImage_clear _ _, rfl⟩
    · exact .ok ⟨b₂, hb.grown hgrown hgrown', rfl⟩
  · rw [gp0_full hg hfull, gp0_full hbg (hindex.trans hfull)]
    exact .error _

/-- **The step lemma**: one word. -/
lemma gp0_alike (h : Coherent g) (hb : SameImage g.loadBuffer b) (w : U32) :
    Related Alike (g.gp0 w) (gp0 { g with loadBuffer := b } w) := by
  obtain ⟨f, hg⟩ : ∃ f, g.gp0Handler = f := ⟨_, rfl⟩
  cases f with
  | handleImageLoad => exact payload_alike h hb hg w
  | handleCommand =>
      simp only [gp0, hg, gp0HandleCommand]
      refine .bind (.refl (fun _ => rfl) _) fun r _ hr => ?_
      subst hr
      exact gp0HandleParameter_alike (g := { g with
        gp0WordsRemaining := _, gp0Attributes := r.2, gp0Command := .new
        gp0Handler := .handleParameter }) hb w
  | handleParameter =>
      simp only [gp0, hg]
      rw [← hg]
      exact gp0HandleParameter_alike hb w
  | handleShadedPolylineColor =>
      simp only [gp0, hg, gp0HandleShadedPolylineColor]
      split
      · exact .ok ⟨b, hb, rfl⟩
      · refine .bind (.refl (fun _ => rfl) _) fun command _ hcommand => ?_
        subst hcommand
        exact .ok ⟨b, hb, rfl⟩
  | handleShadedPolylineVertex =>
      simp only [gp0, hg, gp0HandleShadedPolylineVertex]
      refine .bind (.refl (fun _ => rfl) _) fun color _ hcolor => ?_
      subst hcolor
      exact .ok ⟨b, hb, rfl⟩
  | handleMonochromePolylineVertex =>
      simp only [gp0, hg, gp0HandleMonochromePolylineVertex]
      split
      · exact .ok ⟨b, hb, rfl⟩
      · exact .ok ⟨b, hb, rfl⟩

/-- The run lemma: any number of words. -/
lemma feed_alike (h : Coherent g) (hb : SameImage g.loadBuffer b) (ws : List U32) :
    Related Alike (g.feed ws) (feed { g with loadBuffer := b } ws) := by
  induction ws generalizing g b with
  | nil => exact .ok ⟨b, hb, rfl⟩
  | cons w ws ih =>
      rw [feed, feed]
      refine .bind ((gp0_alike h hb w).and_left fun r hr => gp0_coherent h hr) ?_
      rintro ⟨g₁, calls₁⟩ _ ⟨h₁, b₁, hb₁, rfl⟩
      refine .bind (ih h₁ hb₁) ?_
      rintro ⟨g₂, calls₂⟩ _ ⟨b₂, hb₂, rfl⟩
      exact .ok ⟨b₂, hb₂, rfl⟩

/-! ### Savestates -/

/-- A savestate of the port goes unnoticed: it can be loaded, with the same image, and any further
words lead to the same calls of the renderer. -/
def Transparent (g : Gp0) : Prop :=
  ∃ r, g.reload = .ok (.ok r)
    ∧ r.loadBuffer.topLeft = g.loadBuffer.topLeft
    ∧ r.loadBuffer.resolution = g.loadBuffer.resolution
    ∧ r.loadBuffer.index = g.loadBuffer.index
    ∧ (∀ i < g.loadBuffer.index, r.loadBuffer.buffer i = g.loadBuffer.buffer i)
    ∧ ∀ ws, Related (fun x y => y.2 = x.2) (g.feed ws) (r.feed ws)

/-- The function pointers are restored, so that it is up to the image. -/
lemma reload_eq (h : g.loadBuffer.index ≤ VRAM_SIZE_PIXELS) :
    g.reload = .ok (do
      let b ← ImageBuffer.decode
        ⟨g.loadBuffer.topLeft, g.loadBuffer.resolution, written g.loadBuffer⟩
      pure { g with loadBuffer := b }) := by
  obtain ⟨handler, hencode, hdecode⟩ := (restores_gp0Handler g.gp0Handler).restored
  obtain ⟨callback, hencode', hdecode'⟩ := (restores_callback g.gp0Attributes.callback).restored
  rw [reload, hencode, ok_bind, hencode', ok_bind, encode_eq h, ok_bind, hdecode, hdecode']
  rfl

lemma transparent_iff (h : Coherent g) :
    Transparent g ↔ g.loadBuffer.index < VRAM_SIZE_PIXELS := by
  have hreload := reload_eq h.room
  constructor
  · rintro ⟨r, hr, -⟩
    by_contra hfull
    have hlength : (written g.loadBuffer).length ≥ VRAM_SIZE_PIXELS := by
      rw [length_written]
      omega
    rw [hr, ImageBuffer.decode, if_pos hlength] at hreload
    cases hreload
  · intro hlt
    obtain ⟨b, hdecode, hb⟩ := decode_eq hlt
    rw [hdecode] at hreload
    refine ⟨{ g with loadBuffer := b }, hreload, hb.topLeft, hb.resolution, hb.index,
      fun i hi => hb.buffer hi, fun ws => (feed_alike h hb ws).mono ?_⟩
    rintro x _ ⟨b', -, rfl⟩
    rfl

end Gp0

namespace Gpu

variable {ratio : VideoClock → FracCycles} {standard : VideoClock}
  {ops : List (SharedState × Access)} {g : Gpu}

/-- A run of the GPU. -/
def run (ratio : VideoClock → FracCycles) (g : Gpu) (ops : List (SharedState × Access)) :
    Outcome Gpu := ops.foldlM (fun g op => g.access ratio op.1 op.2) g

lemma run_coherent {g' : Gpu} (hg : Gp0.Coherent g.toGp0) (h : g.run ratio ops = .ok g') :
    Gp0.Coherent g'.toGp0 := by
  induction ops generalizing g with
  | nil =>
      cases h
      exact hg
  | cons op ops ih =>
      rw [run, List.foldlM_cons] at h
      obtain ⟨g₁, h₁, h⟩ := bind_eq_ok.mp h
      exact ih (access_coherent hg h₁) h

/-- What is recorded of the payload does not change the run. -/
lemma run_of_upload {u u' : Upload}
    (h : ops.foldl (Run.next (Upload.perform ratio)) (.ok u) = .ok u') :
    u.gpu.run ratio ops = .ok u'.gpu := by
  rw [Run.foldl_next] at h
  induction ops generalizing u with
  | nil =>
      cases h
      rfl
  | cons op ops ih =>
      rw [List.foldlM_cons] at h
      obtain ⟨u₁, h₁, h⟩ := bind_eq_ok.mp h
      obtain ⟨gpu, hgpu, h₁⟩ := bind_eq_ok.mp h₁
      obtain rfl := Except.ok.inj h₁
      rw [run, List.foldlM_cons, hgpu, ok_bind]
      exact ih h

end Gpu

end Rustation
