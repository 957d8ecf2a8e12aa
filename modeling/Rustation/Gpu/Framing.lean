import Rustation.Gpu.Gp0

/-!
The framing of the GP0 stream.

A `Command` is what a program means to send: a fixed-length command, a polyline
with its end marker, or an image with its payload.  `Gp0.exec` says what the
command does by itself, without the word by word machine: the callback on all
the words at once, the segments between consecutive vertices, or the pixels of
the payload.

* `feed_append`: words are fed one after the other;
* `feed_ready`: the words of a command from the idle state, up to its callback;
* `runCallback_fixed`: a callback that is given the number of words the table
  says returns, and depends on nothing but the drawing state, its attributes and
  its words;
* `feed_monochrome`, `feed_shaded`, `feed_image`: the words that follow;
* `Framed`: what is shown of each kind of command;
* `feed_commands`: whole streams.
-/

namespace Rustation

open Fallible

namespace Callback

/-- The number of words the callback needs. -/
def length : Callback → ℕ
  | .nop | .clearCache => 1
  | .fillRect => 3
  | .monochromeTriangle => 4
  | .texturedTriangle => 7
  | .monochromeQuad => 5
  | .texturedQuad => 9
  | .shadedTriangle => 6
  | .texturedShadedTriangle => 9
  | .shadedQuad => 8
  | .texturedShadedQuad => 12
  | .monochromeLine | .monochromePolyline => 3
  | .shadedLine | .shadedPolyline => 4
  | .monochromeRect => 3
  | .texturedRect => 4
  | .monochromeRect1x1 | .monochromeRect16x16 => 2
  | .texturedRect8x8 | .texturedRect16x16 => 3
  | .copyRect => 4
  | .imageLoad | .imageStore => 3
  | .drawMode | .textureWindow | .drawingAreaTopLeft | .drawingAreaBottomRight => 1
  | .drawingOffset | .maskBitSetting => 1

/-- The command ends with its callback. -/
def fixedLength : Callback → Bool
  | .monochromePolyline | .shadedPolyline | .imageLoad => false
  | _ => true

lemma length_le (c : Callback) : c.length ≤ 12 := by
  cases c <;> decide

end Callback

namespace Gp0

variable {g g' : Gp0}

/-- The lengths of the table are the lengths the callbacks need. -/
lemma commandTable_length {op len : ℕ} {cb : Callback} {dithered : Bool}
    (h : commandTable op = some (len, cb, dithered)) : len = cb.length := by
  unfold commandTable at h
  split at h <;> simp only [Option.some.injEq, Prod.mk.injEq, reduceCtorEq] at h <;>
    obtain ⟨rfl, rfl, -⟩ := h <;> rfl

/-! ### Commands -/

/-- The pixels of a payload, two to a word. -/
def pixelsOf (payload : List U32) : List U16 :=
  payload.flatMap fun word : U32 => [word.setWidth 16, (word >>> 16).setWidth 16]

/-- The width and the height of an image. -/
def imageSize (res : U32) : ℕ × ℕ := (res.toNat % 65536, res.toNat / 65536)

/-- A command as it is sent. -/
inductive Command where
  | fixed (command : U32) (parameters : List U32)
  | monochromePolyline (command start stop : U32) (vertices : List U32) (marker : U32)
  | shadedPolyline (command start color stop : U32) (vertices : List (U32 × U32)) (marker : U32)
  | imageLoad (command pos res : U32) (payload : List U32)

namespace Command

/-- The words of the command, in order. -/
def words : Command → List U32
  | fixed command parameters => command :: parameters
  | monochromePolyline command start stop vertices marker =>
      [command, start, stop] ++ vertices ++ [marker]
  | shadedPolyline command start color stop vertices marker =>
      [command, start, color, stop] ++ vertices.flatMap (fun v => [v.1, v.2]) ++ [marker]
  | imageLoad command pos res payload => [command, pos, res] ++ payload

/-- The command is handled, and has the words its opcode and its parameters ask
for. -/
def WellFormed : Command → Prop
  | fixed command parameters =>
      ∃ cb dithered, cb.fixedLength = true
        ∧ commandTable (opcode command).toNat = some (parameters.length + 1, cb, dithered)
  | monochromePolyline command _ _ vertices marker =>
      (opcode command = 0x48 ∨ opcode command = 0x4a)
        ∧ (∀ v ∈ vertices, isPolylineEndMarker v = false) ∧ isPolylineEndMarker marker = true
  | shadedPolyline command _ _ _ vertices marker =>
      (opcode command = 0x58 ∨ opcode command = 0x5a)
        ∧ (∀ v ∈ vertices, isPolylineEndMarker v.1 = false) ∧ isPolylineEndMarker marker = true
  | imageLoad command _ res payload =>
      opcode command = 0xa0
        ∧ payload.length = ((imageSize res).1 * (imageSize res).2 + 1) / 2
        ∧ (imageSize res).1 * (imageSize res).2 ≤ 1024 * 512

end Command

/-! ### What a command does -/

/-- The segments of a polyline. -/
def segments (attributes : PrimitiveAttributes) (start : Position × Color) :
    List (Position × Color) → List Call
  | [] => []
  | stop :: rest => segment attributes start stop :: segments attributes stop rest

/-- The port with all the words of a command in its buffer. -/
def loaded (d : Drawing) (attributes : Gp0Attributes) (words : List U32) : Gp0 :=
  { new with
    toDrawing := d
    gp0Attributes := attributes
    gp0Command := ⟨words.take 12, by simp⟩ }

/-- What a command does by itself: the drawing state it leaves and its calls. -/
def exec (d : Drawing) : Command → Outcome (Drawing × List Call)
  | .fixed command parameters => do
      let (_, attributes) ← gp0ParseCommand d command
      let (g, calls) ← (loaded d attributes (command :: parameters)).runCallback attributes.callback
      pure (g.toDrawing, calls)
  | .monochromePolyline command start stop vertices _ => do
      let (_, attributes) ← gp0ParseCommand d command
      let point := fun v => (gp0Position v, gp0Color command)
      pure (d, segments attributes.primitiveAttributes (point start)
        ((stop :: vertices).map point))
  | .shadedPolyline command start color stop vertices _ => do
      let (_, attributes) ← gp0ParseCommand d command
      let point := fun v : U32 × U32 => (gp0Position v.2, gp0Color v.1)
      pure (d, segments attributes.primitiveAttributes (point (command, start))
        (((color, stop) :: vertices).map point))
  | .imageLoad _ pos res payload =>
      let size := imageSize res
      if size.1 * size.2 = 0 then pure (d, [])
      else pure (d, [.loadImage (pos.setWidth 16, (pos >>> 16).setWidth 16)
        (res.setWidth 16, (res >>> 16).setWidth 16)
        ((pixelsOf payload).take (size.1 * size.2))])

/-- A list of commands, one at a time in order. -/
def script (d : Drawing) : List Command → Outcome (Drawing × List Call)
  | [] => pure (d, [])
  | c :: cs => do
      let (d, calls) ← exec d c
      let (d, calls') ← script d cs
      pure (d, calls ++ calls')

/-- The port waits for a command. -/
structure Idle (g : Gp0) : Prop where
  handler : g.gp0Handler = .handleCommand
  remaining : g.gp0WordsRemaining = 0

/-! ### Feeding words -/

lemma feed_append {xs ys : List U32} {g₁ g₂ : Gp0} {calls₁ calls₂ : List Call}
    (hx : g.feed xs = .ok (g₁, calls₁)) (hy : g₁.feed ys = .ok (g₂, calls₂)) :
    g.feed (xs ++ ys) = .ok (g₂, calls₁ ++ calls₂) := by
  induction xs generalizing g calls₁ with
  | nil =>
      simp only [feed, pure_eq_ok, Except.ok.injEq, Prod.mk.injEq] at hx
      obtain ⟨rfl, rfl⟩ := hx
      exact hy
  | cons x xs ih =>
      obtain ⟨⟨g₀, c₀⟩, hx₀, hx⟩ := bind_eq_ok.mp hx
      obtain ⟨⟨g₃, c₃⟩, hx₁, hx⟩ := bind_eq_ok.mp hx
      simp only [pure_eq_ok, Except.ok.injEq, Prod.mk.injEq] at hx
      obtain ⟨rfl, rfl⟩ := hx
      rw [List.cons_append, feed, hx₀, ok_bind]
      simp only
      rw [ih hx₁, ok_bind, pure_eq_ok, List.append_assoc]

lemma feed_cons {x : U32} {xs : List U32} {g₁ g₂ : Gp0} {calls₁ calls₂ : List Call}
    (hx : g.gp0 x = .ok (g₁, calls₁)) (hxs : g₁.feed xs = .ok (g₂, calls₂)) :
    g.feed (x :: xs) = .ok (g₂, calls₁ ++ calls₂) := by
  rw [feed, hx, ok_bind]
  simp only
  rw [hxs, ok_bind, pure_eq_ok]

/-! ### Up to the callback -/

/-- The port when the callback of a command is called. -/
def ready (g : Gp0) (attributes : Gp0Attributes) (words : List U32) (h : words.length ≤ 12) : Gp0 :=
  { g with
    gp0Handler := .handleCommand
    gp0Command := ⟨words, h⟩
    gp0WordsRemaining := 0
    gp0Attributes := attributes }

lemma pushWord_eq {b : CommandBuffer} {word : U32} (h : (b.words ++ [word]).length ≤ 12) :
    b.pushWord word = .ok ⟨b.words ++ [word], h⟩ := by
  have hlt : b.words.length < 12 := by
    rw [List.length_append, List.length_singleton] at h
    omega
  rw [CommandBuffer.pushWord, dif_pos hlt, pure_eq_ok]

lemma countWord_eq (h : g.gp0WordsRemaining ≠ 0) :
    g.countWord = .ok { g with gp0WordsRemaining := g.gp0WordsRemaining - 1 } := by
  rw [countWord, if_neg h, pure_eq_ok]

lemma feed_singleton (x : U32) : g.feed [x] = g.gp0 x := by
  rw [feed]
  cases g.gp0 x with
  | error e => rfl
  | ok r => simp [feed]

lemma feed_cons_silent {x : U32} {xs : List U32} {g₁ : Gp0} (hx : g.gp0 x = .ok (g₁, [])) :
    g.feed (x :: xs) = g₁.feed xs := by
  rw [feed, hx, ok_bind]
  cases h : g₁.feed xs with
  | error e => simp [h]
  | ok r => simp [h]

/-- One parameter: the buffer takes it, and the last one calls the callback. -/
lemma gp0_parameter {words : List U32} {b : words.length ≤ 12} {x : U32}
    (hhandler : g.gp0Handler = .handleParameter) (hcommand : g.gp0Command = ⟨words, b⟩)
    (hremaining : g.gp0WordsRemaining ≠ 0) (h : (words ++ [x]).length ≤ 12) :
    g.gp0 x =
      if g.gp0WordsRemaining - 1 = 0 then
        (g.ready g.gp0Attributes (words ++ [x]) h).runCallback g.gp0Attributes.callback
      else
        .ok ({ g with
          gp0Command := ⟨words ++ [x], h⟩
          gp0WordsRemaining := g.gp0WordsRemaining - 1 }, []) := by
  have hpush : g.gp0Command.pushWord x = .ok ⟨words ++ [x], h⟩ := by
    rw [hcommand]
    exact pushWord_eq h
  have hparam : g.gp0 x = g.gp0HandleParameter x := by rw [gp0, hhandler]
  rw [hparam]
  simp only [gp0HandleParameter]
  rw [hpush, ok_bind,
    countWord_eq (g := { g with gp0Command := ⟨words ++ [x], h⟩ }) hremaining, ok_bind]
  simp only
  split_ifs with hlast
  · rw [ready, hlast]
  · rfl

/-- The parameters of a command, up to its callback. -/
lemma feed_parameters (words xs : List U32) {b : words.length ≤ 12}
    (hhandler : g.gp0Handler = .handleParameter) (hcommand : g.gp0Command = ⟨words, b⟩)
    (hremaining : g.gp0WordsRemaining.toNat = xs.length) (hpos : 0 < xs.length)
    (h : (words ++ xs).length ≤ 12) :
    g.feed xs = (g.ready g.gp0Attributes (words ++ xs) h).runCallback g.gp0Attributes.callback := by
  induction xs generalizing g words with
  | nil => exact absurd hpos (Nat.lt_irrefl 0)
  | cons x xs ih =>
      have hlen : (words ++ [x]).length ≤ 12 := by
        simp only [List.length_append, List.length_cons, List.length_nil] at h ⊢
        omega
      rw [List.length_cons] at hremaining
      have hne : g.gp0WordsRemaining ≠ 0 := by
        intro h0
        rw [h0] at hremaining
        exact absurd hremaining (Nat.succ_ne_zero _).symm
      have hpred : (g.gp0WordsRemaining - 1).toNat = xs.length := by bv_omega
      have hstep := gp0_parameter hhandler hcommand hne hlen
      cases xs with
      | nil =>
          have hlast : g.gp0WordsRemaining - 1 = 0 := BitVec.eq_of_toNat_eq hpred
          rw [feed_singleton, hstep, if_pos hlast]
      | cons y ys =>
          have hmore : g.gp0WordsRemaining - 1 ≠ 0 := by
            intro h0
            rw [h0] at hpred
            exact absurd hpred (Nat.succ_ne_zero _).symm
          rw [if_neg hmore] at hstep
          have hassoc : words ++ [x] ++ (y :: ys) = words ++ (x :: y :: ys) := by simp
          have hrest := ih (g := { g with
              gp0Command := ⟨words ++ [x], hlen⟩
              gp0WordsRemaining := g.gp0WordsRemaining - 1 })
            (words ++ [x]) hhandler rfl hpred (Nat.succ_pos _) (by rw [hassoc]; exact h)
          rw [feed_cons_silent hstep, hrest]
          simp only [ready, hassoc]

/-- A command from the idle state, up to its callback. -/
lemma feed_ready {command : U32} {parameters : List U32} {attributes : Gp0Attributes}
    (hidle : g.gp0Handler = .handleCommand)
    (hparse : gp0ParseCommand g.toDrawing command = .ok (parameters.length + 1, attributes))
    (h : (command :: parameters).length ≤ 12) :
    g.feed (command :: parameters)
      = (g.ready attributes (command :: parameters) h).runCallback attributes.callback := by
  have hcmd : g.gp0 command = gp0HandleParameter { g with
      gp0WordsRemaining := BitVec.ofNat 32 (parameters.length + 1)
      gp0Attributes := attributes
      gp0Command := .new
      gp0Handler := .handleParameter } command := by
    rw [gp0, hidle]
    simp only [gp0HandleCommand]
    rw [hparse, ok_bind]
  have hsame : g.feed (command :: parameters) = feed { g with
      gp0WordsRemaining := BitVec.ofNat 32 (parameters.length + 1)
      gp0Attributes := attributes
      gp0Command := .new
      gp0Handler := .handleParameter } (command :: parameters) := by
    rw [feed, hcmd, feed]
    rfl
  have hlen : (BitVec.ofNat 32 (parameters.length + 1)).toNat = (command :: parameters).length := by
    rw [List.length_cons] at h ⊢
    rw [BitVec.toNat_ofNat]
    omega
  rw [hsame, feed_parameters [] (command :: parameters) rfl rfl hlen (Nat.succ_pos _) h]
  rfl

/-! ### Fixed-length commands -/

/-- A callback with the words it needs neither reads nor changes more than the
drawing state and its attributes, and it returns. -/
lemma runCallback_fixed {cb : Callback} (hfixed : cb.fixedLength = true) {words : List U32}
    (hlen : words.length = cb.length) (d : Drawing) (a : Gp0Attributes) :
    (∃ r, (loaded d a words).runCallback cb = .ok r)
      ∧ ∀ handler remaining prev buffer h,
        runCallback ⟨d, handler, ⟨words, h⟩, remaining, a, prev, buffer⟩ cb = (do
          let (g, calls) ← (loaded d a words).runCallback cb
          pure (⟨g.toDrawing, handler, ⟨words, h⟩, remaining, g.gp0Attributes, prev, buffer⟩,
            calls)) := by
  cases cb with
  | nop | clearCache => exact ⟨⟨_, rfl⟩, fun _ _ _ _ _ => rfl⟩
  | monochromePolyline | shadedPolyline | imageLoad => exact absurd hfixed (by decide)
  | drawMode | textureWindow | drawingAreaTopLeft
  | drawingAreaBottomRight | drawingOffset | maskBitSetting =>
      match words, hlen with
      | [w₀], _ => exact ⟨⟨_, rfl⟩, fun _ _ _ _ _ => rfl⟩
  | monochromeRect1x1 | monochromeRect16x16 =>
      match words, hlen with
      | [w₀, w₁], _ => exact ⟨⟨_, rfl⟩, fun _ _ _ _ _ => rfl⟩
  | fillRect | monochromeLine | monochromeRect
  | texturedRect8x8 | texturedRect16x16 | imageStore =>
      match words, hlen with
      | [w₀, w₁, w₂], _ => exact ⟨⟨_, rfl⟩, fun _ _ _ _ _ => rfl⟩
  | monochromeTriangle | shadedLine | texturedRect | copyRect =>
      match words, hlen with
      | [w₀, w₁, w₂, w₃], _ => exact ⟨⟨_, rfl⟩, fun _ _ _ _ _ => rfl⟩
  | monochromeQuad =>
      match words, hlen with
      | [w₀, w₁, w₂, w₃, w₄], _ => exact ⟨⟨_, rfl⟩, fun _ _ _ _ _ => rfl⟩
  | shadedTriangle =>
      match words, hlen with
      | [w₀, w₁, w₂, w₃, w₄, w₅], _ => exact ⟨⟨_, rfl⟩, fun _ _ _ _ _ => rfl⟩
  | texturedTriangle =>
      match words, hlen with
      | [w₀, w₁, w₂, w₃, w₄, w₅, w₆], _ => exact ⟨⟨_, rfl⟩, fun _ _ _ _ _ => rfl⟩
  | shadedQuad =>
      match words, hlen with
      | [w₀, w₁, w₂, w₃, w₄, w₅, w₆, w₇], _ => exact ⟨⟨_, rfl⟩, fun _ _ _ _ _ => rfl⟩
  | texturedQuad | texturedShadedTriangle =>
      match words, hlen with
      | [w₀, w₁, w₂, w₃, w₄, w₅, w₆, w₇, w₈], _ => exact ⟨⟨_, rfl⟩, fun _ _ _ _ _ => rfl⟩
  | texturedShadedQuad =>
      match words, hlen with
      | [w₀, w₁, w₂, w₃, w₄, w₅, w₆, w₇, w₈, w₉, w₁₀, w₁₁], _ =>
          exact ⟨⟨_, rfl⟩, fun _ _ _ _ _ => rfl⟩

/-- What the table says about the opcode is what the parser returns. -/
lemma gp0ParseCommand_eq {command : U32} {len : ℕ} {cb : Callback} {dithered : Bool}
    (h : commandTable (opcode command).toNat = some (len, cb, dithered)) (d : Drawing) :
    ∃ attributes, gp0ParseCommand d command = .ok (len, attributes)
      ∧ attributes.callback = cb := by
  rw [gp0ParseCommand, h]
  exact ⟨_, rfl, rfl⟩

/-- The words of the command leave the port idle, and do what the command does
by itself. -/
def Framed (g : Gp0) (c : Command) : Prop :=
  ∃ g' calls, g.feed c.words = .ok (g', calls) ∧ Idle g'
    ∧ exec g.toDrawing c = .ok (g'.toDrawing, calls)

lemma framed_fixed {command : U32} {parameters : List U32} (hidle : Idle g)
    (hwf : (Command.fixed command parameters).WellFormed) :
    Framed g (.fixed command parameters) := by
  obtain ⟨cb, dithered, hfixed, htable⟩ := hwf
  obtain ⟨a, hparse, rfl⟩ := gp0ParseCommand_eq htable g.toDrawing
  have hlen : (command :: parameters).length = a.callback.length := commandTable_length htable
  have hle : (command :: parameters).length ≤ 12 := hlen ▸ a.callback.length_le
  obtain ⟨⟨⟨r, calls⟩, hr⟩, htransfer⟩ := runCallback_fixed hfixed hlen g.toDrawing a
  have hfeed := feed_ready hidle.handler hparse hle
  have hrun := htransfer .handleCommand 0 g.polylinePrev g.loadBuffer hle
  rw [hr, ok_bind] at hrun
  refine ⟨_, calls, hfeed.trans hrun, ⟨rfl, rfl⟩, ?_⟩
  rw [exec, hparse, ok_bind]
  simp only
  rw [hr, ok_bind, pure_eq_ok]

/-! ### Polylines -/

/-- The vertices of a monochrome polyline, up to the marker. -/
lemma feed_monochrome {vertices : List U32} {marker : U32}
    (hhandler : g.gp0Handler = .handleMonochromePolylineVertex)
    (hvertices : ∀ v ∈ vertices, isPolylineEndMarker v = false)
    (hmarker : isPolylineEndMarker marker = true) :
    ∃ prev, g.feed (vertices ++ [marker])
      = .ok ({ g with polylinePrev := prev, gp0Handler := .handleCommand },
          segments g.attributes g.polylinePrev
            (vertices.map fun v => (gp0Position v, g.polylinePrev.2))) := by
  induction vertices generalizing g with
  | nil =>
      refine ⟨g.polylinePrev, ?_⟩
      rw [List.nil_append, feed_singleton, gp0, hhandler]
      simp only [gp0HandleMonochromePolylineVertex]
      rw [if_pos hmarker]
      rfl
  | cons v vertices ih =>
      have hv : isPolylineEndMarker v = false := hvertices v List.mem_cons_self
      have hstep : g.gp0 v
          = .ok ({ g with polylinePrev := (gp0Position v, g.polylinePrev.2) },
              [segment g.attributes g.polylinePrev (gp0Position v, g.polylinePrev.2)]) := by
        have hsame : g.gp0 v = g.gp0HandleMonochromePolylineVertex v := by rw [gp0, hhandler]
        rw [hsame, gp0HandleMonochromePolylineVertex,
          if_neg (by rw [hv]; exact Bool.false_ne_true)]
        rfl
      obtain ⟨prev, hrest⟩ := ih
        (g := { g with polylinePrev := (gp0Position v, g.polylinePrev.2) })
        hhandler fun w hw => hvertices w (List.mem_cons_of_mem v hw)
      exact ⟨prev, feed_cons hstep hrest⟩

/-- The pairs of a shaded polyline, up to the marker, which is looked for in the
place of a colour. -/
lemma feed_shaded {vertices : List (U32 × U32)} {marker : U32}
    (hhandler : g.gp0Handler = .handleShadedPolylineColor)
    (hvertices : ∀ v ∈ vertices, isPolylineEndMarker v.1 = false)
    (hmarker : isPolylineEndMarker marker = true) :
    ∃ prev command, g.feed (vertices.flatMap (fun v => [v.1, v.2]) ++ [marker])
      = .ok ({ g with
            polylinePrev := prev, gp0Command := command, gp0Handler := .handleCommand },
          segments g.attributes g.polylinePrev
            (vertices.map fun v => (gp0Position v.2, gp0Color v.1))) := by
  induction vertices generalizing g with
  | nil =>
      refine ⟨g.polylinePrev, g.gp0Command, ?_⟩
      rw [List.flatMap_nil, List.nil_append, feed_singleton, gp0, hhandler]
      simp only [gp0HandleShadedPolylineColor]
      rw [if_pos hmarker]
      rfl
  | cons v vertices ih =>
      obtain ⟨color, position⟩ := v
      have hcolor : isPolylineEndMarker color = false := hvertices _ List.mem_cons_self
      -- the colour word waits in the buffer for its vertex
      have hfirst : g.gp0 color
          = .ok ({ g with
              gp0Command := ⟨[color], by simp⟩
              gp0Handler := .handleShadedPolylineVertex }, []) := by
        rw [gp0, hhandler]
        simp only [gp0HandleShadedPolylineColor]
        rw [if_neg (by rw [hcolor]; exact Bool.false_ne_true)]
        rfl
      have hsecond : gp0 { g with
              gp0Command := ⟨[color], by simp⟩
              gp0Handler := .handleShadedPolylineVertex } position
          = .ok ({ g with
              gp0Command := ⟨[color], by simp⟩
              polylinePrev := (gp0Position position, gp0Color color)
              gp0Handler := .handleShadedPolylineColor },
            [segment g.attributes g.polylinePrev (gp0Position position, gp0Color color)]) := rfl
      obtain ⟨prev, command, hrest⟩ := ih
        (g := { g with
          gp0Command := ⟨[color], by simp⟩
          polylinePrev := (gp0Position position, gp0Color color)
          gp0Handler := .handleShadedPolylineColor })
        rfl fun w hw => hvertices w (List.mem_cons_of_mem _ hw)
      exact ⟨prev, command, (feed_cons_silent hfirst).trans (feed_cons hsecond hrest)⟩

lemma framed_monochromePolyline {command start stop marker : U32} {vertices : List U32}
    (hidle : Idle g)
    (hwf : (Command.monochromePolyline command start stop vertices marker).WellFormed) :
    Framed g (.monochromePolyline command start stop vertices marker) := by
  obtain ⟨hop, hvertices, hmarker⟩ := hwf
  have htable : commandTable (opcode command).toNat = some (3, .monochromePolyline, false) := by
    rcases hop with h | h <;> rw [h] <;> rfl
  obtain ⟨a, hparse, hcb⟩ := gp0ParseCommand_eq htable g.toDrawing
  have hle : [command, start, stop].length ≤ 12 := by simp
  have hhead : g.feed [command, start, stop]
      = .ok ({ g.ready a [command, start, stop] hle with
            polylinePrev := (gp0Position stop, gp0Color command)
            gp0Handler := .handleMonochromePolylineVertex },
          [segment a.primitiveAttributes (gp0Position start, gp0Color command)
            (gp0Position stop, gp0Color command)]) := by
    rw [feed_ready hidle.handler hparse hle, hcb]
    rfl
  obtain ⟨prev, hrest⟩ := feed_monochrome
    (g := { g.ready a [command, start, stop] hle with
      polylinePrev := (gp0Position stop, gp0Color command)
      gp0Handler := .handleMonochromePolylineVertex }) rfl hvertices hmarker
  have hfeed := feed_append hhead hrest
  rw [← List.append_assoc] at hfeed
  refine ⟨_, _, hfeed, ⟨rfl, rfl⟩, ?_⟩
  rw [exec, hparse, ok_bind]
  rfl

lemma framed_shadedPolyline {command start color stop marker : U32}
    {vertices : List (U32 × U32)} (hidle : Idle g)
    (hwf : (Command.shadedPolyline command start color stop vertices marker).WellFormed) :
    Framed g (.shadedPolyline command start color stop vertices marker) := by
  obtain ⟨hop, hvertices, hmarker⟩ := hwf
  have htable : commandTable (opcode command).toNat = some (4, .shadedPolyline, false) := by
    rcases hop with h | h <;> rw [h] <;> rfl
  obtain ⟨a, hparse, hcb⟩ := gp0ParseCommand_eq htable g.toDrawing
  have hle : [command, start, color, stop].length ≤ 12 := by simp
  have hhead : g.feed [command, start, color, stop]
      = .ok ({ g.ready a [command, start, color, stop] hle with
            polylinePrev := (gp0Position stop, gp0Color color)
            gp0Handler := .handleShadedPolylineColor },
          [segment a.primitiveAttributes (gp0Position start, gp0Color command)
            (gp0Position stop, gp0Color color)]) := by
    rw [feed_ready hidle.handler hparse hle, hcb]
    rfl
  obtain ⟨prev, buffer, hrest⟩ := feed_shaded
    (g := { g.ready a [command, start, color, stop] hle with
      polylinePrev := (gp0Position stop, gp0Color color)
      gp0Handler := .handleShadedPolylineColor }) rfl hvertices hmarker
  have hfeed := feed_append hhead hrest
  rw [← List.append_assoc] at hfeed
  refine ⟨_, _, hfeed, ⟨rfl, rfl⟩, ?_⟩
  rw [exec, hparse, ok_bind]
  rfl

/-! ### Images -/

/-- The pixels written to the buffer. -/
def written (b : ImageBuffer) : List U16 := (List.range b.index).map b.buffer

/-- The buffer with more pixels written to it. -/
structure Grown (b b' : ImageBuffer) (pixels : List U16) : Prop where
  topLeft : b'.topLeft = b.topLeft
  resolution : b'.resolution = b.resolution
  index : b'.index = b.index + pixels.length
  written : written b' = written b ++ pixels

lemma Grown.trans {b b₁ b₂ : ImageBuffer} {xs ys : List U16} (hx : Grown b b₁ xs)
    (hy : Grown b₁ b₂ ys) : Grown b b₂ (xs ++ ys) where
  topLeft := hy.topLeft.trans hx.topLeft
  resolution := hy.resolution.trans hx.resolution
  index := by rw [hy.index, hx.index, List.length_append, Nat.add_assoc]
  written := by rw [hy.written, hx.written, List.append_assoc]

lemma pushPixel_grown {b : ImageBuffer} (pixel : U16) (h : b.index < VRAM_SIZE_PIXELS) :
    ∃ b', b.pushPixel pixel = .ok b' ∧ Grown b b' [pixel] := by
  refine ⟨_, if_pos h, rfl, rfl, rfl, ?_⟩
  have hold : (List.range b.index).map (Function.update b.buffer b.index pixel) = written b := by
    refine List.map_congr_left fun i hi => ?_
    exact Function.update_of_ne (List.mem_range.mp hi).ne _ _
  simp only [written, List.range_succ, List.map_append, List.map_cons, List.map_nil,
    Function.update_self]
  rw [hold, written]

lemma pushGp0Word_grown {b : ImageBuffer} (word : U32) (h : b.index + 2 ≤ VRAM_SIZE_PIXELS) :
    ∃ b', b.pushGp0Word word = .ok b' ∧ Grown b b' (pixelsOf [word]) := by
  obtain ⟨b₁, h₁, hg₁⟩ := pushPixel_grown (b := b) (word.setWidth 16) (by omega)
  have hindex : b₁.index < VRAM_SIZE_PIXELS := by
    rw [hg₁.index, List.length_singleton]
    omega
  obtain ⟨b₂, h₂, hg₂⟩ := pushPixel_grown ((word >>> 16).setWidth 16) hindex
  refine ⟨b₂, ?_, hg₁.trans hg₂⟩
  rw [ImageBuffer.pushGp0Word, h₁, ok_bind, h₂]

/-- The number of pixels of the image in the buffer. -/
def area (b : ImageBuffer) : ℕ := b.resolution.1.toNat * b.resolution.2.toNat

lemma pixels_eq {b : ImageBuffer} (hsize : area b ≤ VRAM_SIZE_PIXELS) (h : area b ≤ b.index) :
    b.pixels = .ok ((written b).take (area b)) := by
  have htake : (written b).take (area b) = (List.range (area b)).map b.buffer := by
    rw [written, ← List.map_take, List.take_range, Nat.min_eq_left h]
  rw [htake]
  exact if_pos hsize

/-- The payload of an image, whose last word hands the image to the renderer. -/
lemma feed_image {payload : List U32} (hhandler : g.gp0Handler = .handleImageLoad)
    (hremaining : g.gp0WordsRemaining.toNat = payload.length) (hpos : 0 < payload.length)
    (hroom : g.loadBuffer.index + 2 * payload.length ≤ VRAM_SIZE_PIXELS)
    (hsize : area g.loadBuffer ≤ g.loadBuffer.index + 2 * payload.length) :
    ∃ b, g.feed payload
      = .ok ({ g with gp0WordsRemaining := 0, loadBuffer := b, gp0Handler := .handleCommand },
          [.loadImage g.loadBuffer.topLeft g.loadBuffer.resolution
            ((written g.loadBuffer ++ pixelsOf payload).take (area g.loadBuffer))]) := by
  induction payload generalizing g with
  | nil => exact absurd hpos (Nat.lt_irrefl 0)
  | cons x xs ih =>
      rw [List.length_cons] at hremaining hroom hsize
      obtain ⟨b, hpush, hgrown⟩ := pushGp0Word_grown (b := g.loadBuffer) x (by omega)
      have hne : g.gp0WordsRemaining ≠ 0 := by
        intro h0
        rw [h0] at hremaining
        exact absurd hremaining (Nat.succ_ne_zero _).symm
      have hpred : (g.gp0WordsRemaining - 1).toNat = xs.length := by bv_omega
      have hindex : b.index = g.loadBuffer.index + 2 := hgrown.index
      have harea : area b = area g.loadBuffer := by rw [area, area, hgrown.resolution]
      have hstep : g.gp0 x
          = if g.gp0WordsRemaining - 1 = 0 then do
              let pixels ← b.pixels
              pure ({ g with
                  gp0WordsRemaining := g.gp0WordsRemaining - 1
                  loadBuffer := b.clear, gp0Handler := .handleCommand },
                [.loadImage b.topLeft b.resolution pixels])
            else
              .ok ({ g with
                gp0WordsRemaining := g.gp0WordsRemaining - 1, loadBuffer := b }, []) := by
        have hsame : g.gp0 x = g.gp0HandleImageLoad x := by rw [gp0, hhandler]
        rw [hsame, gp0HandleImageLoad, hpush, ok_bind,
          countWord_eq (g := { g with loadBuffer := b }) hne, ok_bind]
        rfl
      have hpixels : pixelsOf (x :: xs) = pixelsOf [x] ++ pixelsOf xs := by
        rw [pixelsOf, pixelsOf, pixelsOf, ← List.flatMap_append, List.singleton_append]
      rw [hpixels, ← List.append_assoc, ← hgrown.written, ← hgrown.topLeft,
        ← hgrown.resolution, ← harea]
      cases xs with
      | nil =>
          have hlast : g.gp0WordsRemaining - 1 = 0 := BitVec.eq_of_toNat_eq hpred
          have hle : area b ≤ b.index := by
            rw [List.length_nil] at hsize
            omega
          have hfits : area b ≤ VRAM_SIZE_PIXELS := by
            rw [List.length_nil] at hroom
            omega
          refine ⟨b.clear, ?_⟩
          rw [feed_singleton, hstep, if_pos hlast, pixels_eq hfits hle, ok_bind, hlast]
          simp [pixelsOf]
      | cons y ys =>
          have hmore : g.gp0WordsRemaining - 1 ≠ 0 := by
            intro h0
            rw [h0] at hpred
            exact absurd hpred (Nat.succ_ne_zero _).symm
          rw [if_neg hmore] at hstep
          obtain ⟨b', hrest⟩ := ih (g := { g with
              gp0WordsRemaining := g.gp0WordsRemaining - 1, loadBuffer := b })
            hhandler hpred (Nat.succ_pos _) (by simp only; omega) (by simp only; omega)
          exact ⟨b', (feed_cons_silent hstep).trans hrest⟩

/-- Two pixels to a word, rounding up, computed on machine words. -/
lemma imageWords_toNat (res : U32) :
    ((((res &&& 0xffff#32) * (res >>> 16) + 1#32) &&& ~~~1#32) / 2#32).toNat
      = ((imageSize res).1 * (imageSize res).2 + 1) / 2 := by
  have hwidth : (res &&& 0xffff#32).toNat = (imageSize res).1 := by
    rw [BitVec.toNat_and]
    exact Nat.and_two_pow_sub_one_eq_mod _ 16
  have hheight : (res >>> 16).toNat = (imageSize res).2 := by
    rw [BitVec.toNat_ushiftRight, Nat.shiftRight_eq_div_pow, imageSize]
  -- the product of two 16 bit dimensions fits, and so does its successor
  have hbound : (imageSize res).1 * (imageSize res).2 ≤ 65535 * 65535 := by
    have hlt := res.isLt
    refine Nat.mul_le_mul ?_ ?_
    · rw [imageSize]
      omega
    · rw [imageSize]
      omega
  have hsum : ((res &&& 0xffff#32) * (res >>> 16) + 1#32).toNat
      = (imageSize res).1 * (imageSize res).2 + 1 := by
    rw [BitVec.toNat_add, BitVec.toNat_mul, hwidth, hheight, show (1#32).toNat = 1 from rfl]
    omega
  -- clearing the low bit is lost in the division
  have hmask : ∀ x : BitVec 32, (x &&& ~~~1#32) / 2#32 = x >>> 1 := by
    intro x
    apply BitVec.eq_of_toNat_eq
    rw [BitVec.toNat_udiv, BitVec.toNat_and, BitVec.toNat_ushiftRight,
      show (2#32).toNat = 2 from rfl, Nat.and_div_two, Nat.shiftRight_eq_div_pow]
    have hx : x.toNat / 2 < 2 ^ 31 := by omega
    exact (Nat.and_two_pow_sub_one_eq_mod _ 31).trans (Nat.mod_eq_of_lt hx)
  rw [hmask, BitVec.toNat_ushiftRight, hsum, Nat.shiftRight_eq_div_pow]

/-- The size the buffer is reset to is the size of the image. -/
lemma area_reset (b : ImageBuffer) (x y : U16) (res : U32) :
    area (b.reset x y (res.setWidth 16) ((res >>> 16).setWidth 16))
      = (imageSize res).1 * (imageSize res).2 := by
  have hheight : ((res >>> 16).setWidth 16).toNat = res.toNat / 65536 := by
    rw [BitVec.toNat_setWidth, BitVec.toNat_ushiftRight, Nat.shiftRight_eq_div_pow]
    exact Nat.mod_eq_of_lt (by omega)
  rw [area, ImageBuffer.reset]
  simp only
  rw [hheight, BitVec.toNat_setWidth, imageSize]

/-- The mask of the width is lost in the cast. -/
lemma setWidth_low (res : U32) : (res &&& 0xffff#32).setWidth 16 = res.setWidth 16 := by
  apply BitVec.eq_of_toNat_eq
  rw [BitVec.toNat_setWidth, BitVec.toNat_and, BitVec.toNat_setWidth]
  exact (congrArg (· % 2 ^ 16) (Nat.and_two_pow_sub_one_eq_mod _ 16)).trans (Nat.mod_mod _ _)

/-- The callback of an image load: the payload is waited for unless it is
empty. -/
lemma runCallback_imageLoad (a : Gp0Attributes) (command pos res : U32)
    (h : [command, pos, res].length ≤ 12) {remaining : U32}
    (hremaining : remaining = (((res &&& 0xffff#32) * (res >>> 16) + 1#32) &&& ~~~1#32) / 2#32) :
    (g.ready a [command, pos, res] h).runCallback .imageLoad
      = if remaining > 0 then
          .ok ({ g.ready a [command, pos, res] h with
            gp0WordsRemaining := remaining
            gp0Handler := .handleImageLoad
            loadBuffer := g.loadBuffer.reset (pos.setWidth 16) ((pos >>> 16).setWidth 16)
              (res.setWidth 16) ((res >>> 16).setWidth 16) }, [])
        else .ok ({ g.ready a [command, pos, res] h with gp0WordsRemaining := remaining }, []) := by
  rw [hremaining, ← setWidth_low res]
  rfl

lemma framed_imageLoad {command pos res : U32} {payload : List U32} (hidle : Idle g)
    (hwf : (Command.imageLoad command pos res payload).WellFormed) :
    Framed g (.imageLoad command pos res payload) := by
  obtain ⟨hop, hpayload, hsize⟩ := hwf
  have htable : commandTable (opcode command).toNat = some (3, .imageLoad, false) := by
    rw [hop]
    rfl
  obtain ⟨a, hparse, hcb⟩ := gp0ParseCommand_eq htable g.toDrawing
  have hle : [command, pos, res].length ≤ 12 := by simp
  obtain ⟨remaining, hremaining⟩ : ∃ remaining : U32,
      remaining = (((res &&& 0xffff#32) * (res >>> 16) + 1#32) &&& ~~~1#32) / 2#32 := ⟨_, rfl⟩
  have hwords : remaining.toNat = payload.length := by
    rw [hremaining, imageWords_toNat res, hpayload]
  have hhead := feed_ready hidle.handler hparse hle
  rw [hcb, runCallback_imageLoad a command pos res hle hremaining] at hhead
  by_cases hzero : (imageSize res).1 * (imageSize res).2 = 0
  · -- nothing follows an empty image
    have hnil : payload = [] := by
      rw [hzero] at hpayload
      exact List.eq_nil_of_length_eq_zero hpayload
    subst hnil
    obtain rfl : remaining = 0 := BitVec.eq_of_toNat_eq hwords
    rw [if_neg (by decide)] at hhead
    exact ⟨_, _, hhead, ⟨rfl, rfl⟩, if_pos hzero⟩
  · have hpos : 0 < payload.length := by omega
    rw [if_pos (by rw [gt_iff_lt, BitVec.lt_def, hwords]; exact hpos)] at hhead
    obtain ⟨b, hrest⟩ := feed_image
      (g := { g.ready a [command, pos, res] hle with
        gp0WordsRemaining := remaining
        gp0Handler := .handleImageLoad
        loadBuffer := g.loadBuffer.reset (pos.setWidth 16) ((pos >>> 16).setWidth 16)
          (res.setWidth 16) ((res >>> 16).setWidth 16) })
      rfl hwords hpos
      (by
        show 0 + 2 * payload.length ≤ 1024 * 512
        omega)
      (by
        show area _ ≤ 0 + 2 * payload.length
        rw [area_reset]
        omega)
    refine ⟨_, _, feed_append hhead hrest, ⟨rfl, rfl⟩, ?_⟩
    rw [exec]
    simp only
    rw [if_neg hzero, area_reset]
    rfl

/-- Whole streams: the words of well-formed commands, fed one by one from the
idle state, never fail, leave the port idle again, and make the calls of the
commands taken one at a time in order. -/
theorem feed_commands (hidle : Idle g) {cs : List Command} (hwf : ∀ c ∈ cs, c.WellFormed) :
    ∃ g' calls, g.feed (cs.flatMap Command.words) = .ok (g', calls) ∧ Idle g'
      ∧ script g.toDrawing cs = .ok (g'.toDrawing, calls) := by
  induction cs generalizing g with
  | nil => exact ⟨g, [], rfl, hidle, rfl⟩
  | cons c cs ih =>
      have hc : Framed g c := by
        have hwfc := hwf c List.mem_cons_self
        cases c with
        | fixed => exact framed_fixed hidle hwfc
        | monochromePolyline => exact framed_monochromePolyline hidle hwfc
        | shadedPolyline => exact framed_shadedPolyline hidle hwfc
        | imageLoad => exact framed_imageLoad hidle hwfc
      obtain ⟨g₁, calls₁, hfeed₁, hidle₁, hexec⟩ := hc
      obtain ⟨g₂, calls₂, hfeed₂, hidle₂, hscript⟩ :=
        ih hidle₁ fun c' hc' => hwf c' (List.mem_cons_of_mem c hc')
      refine ⟨g₂, calls₁ ++ calls₂, ?_, hidle₂, ?_⟩
      · rw [List.flatMap_cons]
        exact feed_append hfeed₁ hfeed₂
      · rw [script, hexec, ok_bind]
        simp only
        rw [hscript, ok_bind, pure_eq_ok]

/-- A polyline whose second vertex looks like a command, an image of three pixels
whose payload looks like an end marker, and a draw mode. -/
def stream : List Command :=
  [.monochromePolyline 0x480000ff 0x00010001 0x00020002 [0xa0000000] 0x55555555,
    .imageLoad 0xa0000000 0x00100010 0x00010003 [0x50005000, 0x50005000],
    .fixed 0xe1000200 []]

theorem feed_commands_stream :
    (∀ c ∈ stream, c.WellFormed)
      ∧ ∃ g' calls, new.feed (stream.flatMap Command.words) = .ok (g', calls) ∧ Idle g'
        ∧ script new.toDrawing stream = .ok (g'.toDrawing, calls) := by
  have hwf : ∀ c ∈ stream, c.WellFormed := by
    intro c hc
    simp only [stream, List.mem_cons, List.not_mem_nil, or_false] at hc
    rcases hc with rfl | rfl | rfl
    · exact ⟨.inl (by decide), by simp [isPolylineEndMarker], by decide⟩
    · exact ⟨by decide, by decide, by decide⟩
    · exact ⟨.drawMode, false, rfl, by decide⟩
  exact ⟨hwf, feed_commands ⟨rfl, rfl⟩ hwf⟩

end Gp0

end Rustation
