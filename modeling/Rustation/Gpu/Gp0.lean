import Rustation.Lib.Outcome
import Rustation.Gpu.Renderer

/-!
The GP0 port of the GPU (`gpu/mod.rs`): a stream of words is cut into commands
by a handler that is switched as words arrive, and each complete command runs a
callback.

The two function pointers of the source, `gp0_handler` and the callback of the
command attributes, are the enumerations `Gp0Handler` and `Callback`.  A callback
may call the renderer; the calls are returned in order.  Sixteen bit sums in the
callbacks wrap.

* `CommandBuffer`: at most twelve words, with the checked index of the source;
* `ImageBuffer`: the pixels of an image on their way to the VRAM;
* `Gp0`: the state of the port with the drawing state that commands change;
* `Gp0.gp0`: the reaction to one word, `Gp0.feed` to a list of words.
-/

namespace Rustation

open Fallible

/-! ### Words -/

def gp0Position (pos : U32) : Position := (pos.setWidth 16, (pos >>> 16).setWidth 16)

def gp0Color (col : U32) : Color :=
  (col.setWidth 8, (col >>> 8).setWidth 8, (col >>> 16).setWidth 8)

/-- Offsets within the current texture page. -/
def gp0TextureCoordinates (gp0 : U32) : U16 × U16 :=
  ((gp0 &&& 0xff).setWidth 16, ((gp0 >>> 8) &&& 0xff).setWidth 16)

/-- The GPU looks for `0x5XXX5XXX`. -/
def isPolylineEndMarker (val : U32) : Bool := val &&& 0xf000f000 == 0x50005000

/-! ### Buffers -/

/-- The words of the current command. -/
structure CommandBuffer where
  words : List U32
  bounded : words.length ≤ 12

namespace CommandBuffer

def new : CommandBuffer := ⟨[], by decide⟩

def pushWord (b : CommandBuffer) (word : U32) : Outcome CommandBuffer :=
  if h : b.words.length < 12 then
    pure ⟨b.words ++ [word], by rw [List.length_append, List.length_singleton]; omega⟩
  else throw .outOfBounds

def index (b : CommandBuffer) (i : ℕ) : Outcome U32 :=
  match b.words[i]? with
  | some word => pure word
  | none => throw (.panic "Command buffer index out of range")

end CommandBuffer

/-- Total number of 16 bit pixels in the VRAM. -/
def VRAM_SIZE_PIXELS : ℕ := 1024 * 512

/-- A portion of the VRAM while it is being transferred. -/
structure ImageBuffer where
  topLeft : U16 × U16
  resolution : U16 × U16
  /-- current write position -/
  index : ℕ
  buffer : ℕ → U16

namespace ImageBuffer

def new : ImageBuffer := ⟨(0, 0), (0, 0), 0, fun _ => 0⟩

/-- The pixels themselves are left as they are. -/
def clear (b : ImageBuffer) : ImageBuffer :=
  { b with topLeft := (0, 0), resolution := (0, 0), index := 0 }

def reset (b : ImageBuffer) (x y width height : U16) : ImageBuffer :=
  { b with topLeft := (x, y), resolution := (width, height), index := 0 }

/-- Store one pixel at the write position. -/
def pushPixel (b : ImageBuffer) (pixel : U16) : Outcome ImageBuffer :=
  if b.index < VRAM_SIZE_PIXELS then
    pure { b with buffer := Function.update b.buffer b.index pixel, index := b.index + 1 }
  else throw .outOfBounds

def pushGp0Word (b : ImageBuffer) (word : U32) : Outcome ImageBuffer := do
  let b ← b.pushPixel (word.setWidth 16)
  b.pushPixel ((word >>> 16).setWidth 16)

/-- The pixels of the image, which may be one fewer than have been written. -/
def pixels (b : ImageBuffer) : Outcome (List U16) :=
  let len := b.resolution.1.toNat * b.resolution.2.toNat
  if len ≤ VRAM_SIZE_PIXELS then pure ((List.range len).map b.buffer) else throw .outOfBounds

end ImageBuffer

/-! ### Function pointers -/

/-- The handlers of GP0 writes. -/
inductive Gp0Handler where
  | handleCommand
  | handleParameter
  | handleShadedPolylineColor
  | handleShadedPolylineVertex
  | handleMonochromePolylineVertex
  | handleImageLoad
  deriving DecidableEq, Repr

/-- The callbacks of complete commands. -/
inductive Callback where
  | nop
  | clearCache
  | fillRect
  | monochromeTriangle
  | texturedTriangle
  | monochromeQuad
  | texturedQuad
  | shadedTriangle
  | texturedShadedTriangle
  | shadedQuad
  | texturedShadedQuad
  | monochromeLine
  | monochromePolyline
  | shadedLine
  | shadedPolyline
  | monochromeRect
  | texturedRect
  | monochromeRect1x1
  | texturedRect8x8
  | monochromeRect16x16
  | texturedRect16x16
  | copyRect
  | imageLoad
  | imageStore
  | drawMode
  | textureWindow
  | drawingAreaTopLeft
  | drawingAreaBottomRight
  | drawingOffset
  | maskBitSetting
  deriving DecidableEq, Repr

/-! ### State -/

/-- Attributes of the current command. -/
structure Gp0Attributes where
  callback : Callback
  primitiveAttributes : PrimitiveAttributes
  deriving DecidableEq, Repr

namespace Gp0Attributes

def new (callback : Callback) (semiTransparent : Bool) (blendMode : BlendMode) (dither : Bool) :
    Gp0Attributes where
  callback := callback
  primitiveAttributes :=
    { semiTransparent := semiTransparent
      semiTransparencyMode := .average
      blendMode := blendMode
      texturePage := (0, 0)
      textureDepth := .t4Bpp
      clut := (0, 0)
      dither := dither }

/-- Load the clut coordinates from a GP0 word. -/
def setClut (a : Gp0Attributes) (clut : U32) : Gp0Attributes :=
  let x := (clut &&& 0x3f) <<< 4
  let y := (clut >>> 6) &&& 0x1ff
  { a with primitiveAttributes :=
      { a.primitiveAttributes with clut := (x.setWidth 16, y.setWidth 16) } }

def setDrawParams (a : Gp0Attributes) (params : U32) : Gp0Attributes :=
  let x := (params &&& 0xf) <<< 6
  let y := ((params >>> 4) &&& 1) <<< 8
  { a with primitiveAttributes :=
      { a.primitiveAttributes with
        texturePage := (x.setWidth 16, y.setWidth 16)
        semiTransparencyMode :=
          match ((params >>> 5) &&& 3).toNat with
          | 0 => .average
          | 1 => .add
          | 2 => .substractSource
          | _ => .addQuarterSource
        textureDepth :=
          match ((params >>> 7) &&& 3).toNat with
          | 0 => .t4Bpp
          | 1 => .t8Bpp
          | _ => .t16Bpp } }

end Gp0Attributes

/-- The drawing state that commands change and that outlives them. -/
structure Drawing where
  drawMode : U16
  textureWindowXMask : U8
  textureWindowYMask : U8
  textureWindowXOffset : U8
  textureWindowYOffset : U8
  forceSetMaskBit : Bool
  preserveMaskedPixels : Bool
  drawingAreaLeft : U16
  drawingAreaTop : U16
  drawingAreaRight : U16
  drawingAreaBottom : U16
  drawingOffset : I16 × I16
  deriving DecidableEq, Repr

def Drawing.new : Drawing := ⟨0, 0, 0, 0, 0, false, false, 0, 0, 0, 0, (0, 0)⟩

/-- The state of the GP0 port. -/
structure Gp0 extends Drawing where
  gp0Handler : Gp0Handler
  gp0Command : CommandBuffer
  /-- words to fetch for the current command -/
  gp0WordsRemaining : U32
  gp0Attributes : Gp0Attributes
  /-- previous vertex of a polyline -/
  polylinePrev : Position × Color
  loadBuffer : ImageBuffer

namespace Gp0

def new : Gp0 where
  toDrawing := .new
  gp0Handler := .handleCommand
  gp0Command := .new
  gp0WordsRemaining := 0
  gp0Attributes := .new .nop false .none false
  polylinePrev := ((0, 0), (0, 0, 0))
  loadBuffer := .new

/-- What a callback or a handler returns: the new state and the calls of the
renderer. -/
abbrev Reaction := Outcome (Gp0 × List Call)

/-! ### Primitives -/

/-- The attributes a primitive is drawn with. -/
def attributes (g : Gp0) : PrimitiveAttributes := g.gp0Attributes.primitiveAttributes

/-- The vertex with its position and its colour in the given words. -/
def vertex (g : Gp0) (position color : ℕ) : Outcome Vertex := do
  let position ← g.gp0Command.index position
  let color ← g.gp0Command.index color
  pure (.new (gp0Position position) (gp0Color color))

def texturedVertex (g : Gp0) (position color coord : ℕ) : Outcome Vertex := do
  let position ← g.gp0Command.index position
  let color ← g.gp0Command.index color
  let coord ← g.gp0Command.index coord
  pure (.newTextured (gp0Position position) (gp0Color color) (gp0TextureCoordinates coord))

def pushLine (g : Gp0) (a b : Outcome Vertex) : Reaction := do
  let a ← a
  let b ← b
  pure (g, [.pushLine g.attributes #v[a, b]])

def pushTriangle (g : Gp0) (a b c : Outcome Vertex) : Reaction := do
  let a ← a
  let b ← b
  let c ← c
  pure (g, [.pushTriangle g.attributes #v[a, b, c]])

def pushQuad (g : Gp0) (a b c d : Outcome Vertex) : Reaction := do
  let a ← a
  let b ← b
  let c ← c
  let d ← d
  pure (g, [.pushQuad g.attributes #v[a, b, c, d]])

/-- Take the clut and the drawing parameters from the given words. -/
def setTexture (g : Gp0) (clut params : ℕ) : Outcome Gp0 := do
  let clut ← g.gp0Command.index clut
  let params ← g.gp0Command.index params
  pure { g with
    gp0Attributes := (g.gp0Attributes.setClut (clut >>> 16)).setDrawParams (params >>> 16) }

/-! ### Callbacks -/

def gp0Nop (g : Gp0) : Reaction := pure (g, [])

/-- Not implemented by the source. -/
def gp0ClearCache (g : Gp0) : Reaction := pure (g, [])

def gp0FillRect (g : Gp0) : Reaction := do
  let topLeft := gp0Position (← g.gp0Command.index 1)
  let size := gp0Position (← g.gp0Command.index 2)
  let color := gp0Color (← g.gp0Command.index 0)
  let left := topLeft.1 &&& 0x3f0
  let top := topLeft.2 &&& 0x1ff
  -- a width of 0x400 counts as 0
  let width := if size.1 &&& 0x7ff = 0x400 then 0 else ((size.1 &&& 0x7ff) + 0xf) &&& 0x3f0
  let height := size.2 &&& 0x1ff
  let bottom := top + height
  let right := left + width
  let right := if right > 0x400 then 0x400 else right
  let bottom := if bottom > 0x200 then 0x200 else bottom
  pure (g, [.fillRect color (left, top) (right - left, bottom - top)])

/-- Not implemented by the source, which reads its parameters. -/
def gp0CopyRect (g : Gp0) : Reaction := do
  let _ ← g.gp0Command.index 3
  let _ ← g.gp0Command.index 1
  let _ ← g.gp0Command.index 2
  pure (g, [])

def gp0MonochromeTriangle (g : Gp0) : Reaction :=
  g.pushTriangle (g.vertex 1 0) (g.vertex 2 0) (g.vertex 3 0)

def gp0MonochromeQuad (g : Gp0) : Reaction :=
  g.pushQuad (g.vertex 1 0) (g.vertex 2 0) (g.vertex 3 0) (g.vertex 4 0)

def gp0MonochromeLine (g : Gp0) : Reaction := g.pushLine (g.vertex 1 0) (g.vertex 2 0)

def gp0ShadedTriangle (g : Gp0) : Reaction :=
  g.pushTriangle (g.vertex 1 0) (g.vertex 3 2) (g.vertex 5 4)

def gp0ShadedQuad (g : Gp0) : Reaction :=
  g.pushQuad (g.vertex 1 0) (g.vertex 3 2) (g.vertex 5 4) (g.vertex 7 6)

def gp0ShadedLine (g : Gp0) : Reaction := g.pushLine (g.vertex 1 0) (g.vertex 3 2)

def gp0TexturedTriangle (g : Gp0) : Reaction := do
  let g ← g.setTexture 2 4
  g.pushTriangle (g.texturedVertex 1 0 2) (g.texturedVertex 3 0 4) (g.texturedVertex 5 0 6)

def gp0TexturedQuad (g : Gp0) : Reaction := do
  let g ← g.setTexture 2 4
  g.pushQuad (g.texturedVertex 1 0 2) (g.texturedVertex 3 0 4) (g.texturedVertex 5 0 6)
    (g.texturedVertex 7 0 8)

def gp0TexturedShadedTriangle (g : Gp0) : Reaction := do
  let g ← g.setTexture 2 5
  g.pushTriangle (g.texturedVertex 1 0 2) (g.texturedVertex 4 3 5) (g.texturedVertex 7 6 8)

def gp0TexturedShadedQuad (g : Gp0) : Reaction := do
  let g ← g.setTexture 2 5
  g.pushQuad (g.texturedVertex 1 0 2) (g.texturedVertex 4 3 5) (g.texturedVertex 7 6 8)
    (g.texturedVertex 10 9 11)

/-- Draw the segment to the second vertex and remember where it ended. -/
def startPolyline (g : Gp0) (handler : Gp0Handler) (a b : Outcome Vertex) : Reaction := do
  let a ← a
  let b ← b
  pure ({ g with polylinePrev := (b.position, b.color), gp0Handler := handler },
    [.pushLine g.attributes #v[a, b]])

def gp0MonochromePolyline (g : Gp0) : Reaction :=
  g.startPolyline .handleMonochromePolylineVertex (g.vertex 1 0) (g.vertex 2 0)

def gp0ShadedPolyline (g : Gp0) : Reaction :=
  g.startPolyline .handleShadedPolylineColor (g.vertex 1 0) (g.vertex 3 2)

def gp0RectSized (g : Gp0) (width height : I16) : Reaction := do
  let topLeft := gp0Position (← g.gp0Command.index 1)
  let color := gp0Color (← g.gp0Command.index 0)
  pure (g, [.pushQuad g.attributes #v[
    .new topLeft color,
    .new (topLeft.1 + width, topLeft.2) color,
    .new (topLeft.1, topLeft.2 + height) color,
    .new (topLeft.1 + width, topLeft.2 + height) color]])

def gp0RectSizedTextured (g : Gp0) (width height : I16) : Reaction := do
  -- the parameters of rectangles are set by the "draw mode" command
  let attributes := g.gp0Attributes.setDrawParams (g.drawMode.setWidth 32)
  let clut ← g.gp0Command.index 2
  let g := { g with gp0Attributes := attributes.setClut (clut >>> 16) }
  let topLeft := gp0Position (← g.gp0Command.index 1)
  let tex := gp0TextureCoordinates clut
  let color := gp0Color (← g.gp0Command.index 0)
  pure (g, [.pushQuad g.attributes #v[
    .newTextured topLeft color tex,
    .newTextured (topLeft.1 + width, topLeft.2) color (tex.1 + width, tex.2),
    .newTextured (topLeft.1, topLeft.2 + height) color (tex.1, tex.2 + height),
    .newTextured (topLeft.1 + width, topLeft.2 + height) color (tex.1 + width, tex.2 + height)]])

def gp0TexturedRect (g : Gp0) : Reaction := do
  let size := gp0Position (← g.gp0Command.index 3)
  g.gp0RectSizedTextured size.1 size.2

def gp0MonochromeRect (g : Gp0) : Reaction := do
  let size := gp0Position (← g.gp0Command.index 2)
  g.gp0RectSized size.1 size.2

def gp0MonochromeRect1x1 (g : Gp0) : Reaction := g.gp0RectSized 1 1

def gp0MonochromeRect16x16 (g : Gp0) : Reaction := g.gp0RectSized 16 16

def gp0TexturedRect8x8 (g : Gp0) : Reaction := g.gp0RectSizedTextured 8 8

def gp0TexturedRect16x16 (g : Gp0) : Reaction := g.gp0RectSizedTextured 16 16

def gp0ImageLoad (g : Gp0) : Reaction := do
  let pos ← g.gp0Command.index 1
  let res ← g.gp0Command.index 2
  let width := res &&& 0xffff
  let height := res >>> 16
  -- two pixels to a word, rounding up
  let imgsize := (width * height + 1) &&& ~~~1#32
  let g := { g with gp0WordsRemaining := imgsize / 2 }
  if g.gp0WordsRemaining > 0 then
    pure ({ g with
        loadBuffer := g.loadBuffer.reset (pos.setWidth 16) ((pos >>> 16).setWidth 16)
          (width.setWidth 16) (height.setWidth 16)
        gp0Handler := .handleImageLoad }, [])
  else pure (g, [])

/-- Not implemented by the source, which reads its size. -/
def gp0ImageStore (g : Gp0) : Reaction := do
  let _ ← g.gp0Command.index 2
  pure (g, [])

def gp0DrawMode (g : Gp0) : Reaction := do
  let val ← g.gp0Command.index 0
  pure ({ g with drawMode := val.setWidth 16 }, [])

def gp0TextureWindow (g : Gp0) : Reaction := do
  let val ← g.gp0Command.index 0
  pure ({ g with
    textureWindowXMask := (val &&& 0x1f).setWidth 8
    textureWindowYMask := ((val >>> 5) &&& 0x1f).setWidth 8
    textureWindowXOffset := ((val >>> 10) &&& 0x1f).setWidth 8
    textureWindowYOffset := ((val >>> 15) &&& 0x1f).setWidth 8 }, [])

/-- Tell the renderer about the drawing area. -/
def updateDrawArea (d : Drawing) : Call :=
  .setDrawArea (d.drawingAreaLeft, d.drawingAreaTop) (d.drawingAreaRight, d.drawingAreaBottom)

def gp0DrawingAreaTopLeft (g : Gp0) : Reaction := do
  let val ← g.gp0Command.index 0
  let g := { g with
    drawingAreaTop := ((val >>> 10) &&& 0x3ff).setWidth 16
    drawingAreaLeft := (val &&& 0x3ff).setWidth 16 }
  pure (g, [updateDrawArea g.toDrawing])

def gp0DrawingAreaBottomRight (g : Gp0) : Reaction := do
  let val ← g.gp0Command.index 0
  let g := { g with
    drawingAreaBottom := ((val >>> 10) &&& 0x3ff).setWidth 16
    drawingAreaRight := (val &&& 0x3ff).setWidth 16 }
  pure (g, [updateDrawArea g.toDrawing])

/-- Sign extend an 11 bit value. -/
def signExtend11 (x : U16) : I16 := (x <<< 5).sshiftRight 5

def gp0DrawingOffset (g : Gp0) : Reaction := do
  let val ← g.gp0Command.index 0
  let x := signExtend11 ((val &&& 0x7ff).setWidth 16)
  let y := signExtend11 (((val >>> 11) &&& 0x7ff).setWidth 16)
  pure ({ g with drawingOffset := (x, y) }, [.setDrawOffset x y])

def gp0MaskBitSetting (g : Gp0) : Reaction := do
  let val ← g.gp0Command.index 0
  pure ({ g with
    forceSetMaskBit := val &&& 1 != 0
    preserveMaskedPixels := val &&& 2 != 0 }, [])

/-- Call the method behind a callback. -/
def runCallback (g : Gp0) : Callback → Reaction
  | .nop => g.gp0Nop
  | .clearCache => g.gp0ClearCache
  | .fillRect => g.gp0FillRect
  | .monochromeTriangle => g.gp0MonochromeTriangle
  | .texturedTriangle => g.gp0TexturedTriangle
  | .monochromeQuad => g.gp0MonochromeQuad
  | .texturedQuad => g.gp0TexturedQuad
  | .shadedTriangle => g.gp0ShadedTriangle
  | .texturedShadedTriangle => g.gp0TexturedShadedTriangle
  | .shadedQuad => g.gp0ShadedQuad
  | .texturedShadedQuad => g.gp0TexturedShadedQuad
  | .monochromeLine => g.gp0MonochromeLine
  | .monochromePolyline => g.gp0MonochromePolyline
  | .shadedLine => g.gp0ShadedLine
  | .shadedPolyline => g.gp0ShadedPolyline
  | .monochromeRect => g.gp0MonochromeRect
  | .texturedRect => g.gp0TexturedRect
  | .monochromeRect1x1 => g.gp0MonochromeRect1x1
  | .texturedRect8x8 => g.gp0TexturedRect8x8
  | .monochromeRect16x16 => g.gp0MonochromeRect16x16
  | .texturedRect16x16 => g.gp0TexturedRect16x16
  | .copyRect => g.gp0CopyRect
  | .imageLoad => g.gp0ImageLoad
  | .imageStore => g.gp0ImageStore
  | .drawMode => g.gp0DrawMode
  | .textureWindow => g.gp0TextureWindow
  | .drawingAreaTopLeft => g.gp0DrawingAreaTopLeft
  | .drawingAreaBottomRight => g.gp0DrawingAreaBottomRight
  | .drawingOffset => g.gp0DrawingOffset
  | .maskBitSetting => g.gp0MaskBitSetting

/-! ### Command words -/

/-- The table of `gp0_parse_command`: length, callback, and whether the dithering
setting applies. -/
def commandTable : ℕ → Option (ℕ × Callback × Bool)
  | 0x00 => some (1, .nop, false)
  | 0x01 => some (1, .clearCache, false)
  | 0x02 => some (3, .fillRect, false)
  | 0x20 => some (4, .monochromeTriangle, false)
  | 0x22 => some (4, .monochromeTriangle, false)
  | 0x24 => some (7, .texturedTriangle, true)
  | 0x25 => some (7, .texturedTriangle, true)
  | 0x26 => some (7, .texturedTriangle, true)
  | 0x27 => some (7, .texturedTriangle, true)
  | 0x28 => some (5, .monochromeQuad, false)
  | 0x2a => some (5, .monochromeQuad, false)
  | 0x2c => some (9, .texturedQuad, true)
  | 0x2d => some (9, .texturedQuad, true)
  | 0x2e => some (9, .texturedQuad, true)
  | 0x2f => some (9, .texturedQuad, true)
  | 0x30 => some (6, .shadedTriangle, true)
  | 0x32 => some (6, .shadedTriangle, true)
  | 0x34 => some (9, .texturedShadedTriangle, true)
  | 0x36 => some (9, .texturedShadedTriangle, true)
  | 0x38 => some (8, .shadedQuad, true)
  | 0x3a => some (8, .shadedQuad, true)
  | 0x3c => some (12, .texturedShadedQuad, true)
  | 0x3e => some (12, .texturedShadedQuad, true)
  | 0x40 => some (3, .monochromeLine, false)
  | 0x42 => some (3, .monochromeLine, false)
  | 0x48 => some (3, .monochromePolyline, false)
  | 0x4a => some (3, .monochromePolyline, false)
  | 0x50 => some (4, .shadedLine, false)
  | 0x52 => some (4, .shadedLine, false)
  | 0x58 => some (4, .shadedPolyline, false)
  | 0x5a => some (4, .shadedPolyline, false)
  | 0x60 => some (3, .monochromeRect, false)
  | 0x62 => some (3, .monochromeRect, false)
  | 0x64 => some (4, .texturedRect, false)
  | 0x65 => some (4, .texturedRect, false)
  | 0x66 => some (4, .texturedRect, false)
  | 0x67 => some (4, .texturedRect, false)
  | 0x68 => some (2, .monochromeRect1x1, false)
  | 0x6a => some (2, .monochromeRect1x1, false)
  | 0x74 => some (3, .texturedRect8x8, false)
  | 0x75 => some (3, .texturedRect8x8, false)
  | 0x76 => some (3, .texturedRect8x8, false)
  | 0x77 => some (3, .texturedRect8x8, false)
  | 0x78 => some (2, .monochromeRect16x16, false)
  | 0x7a => some (2, .monochromeRect16x16, false)
  | 0x7c => some (3, .texturedRect16x16, false)
  | 0x7d => some (3, .texturedRect16x16, false)
  | 0x7e => some (3, .texturedRect16x16, false)
  | 0x7f => some (3, .texturedRect16x16, false)
  | 0x80 => some (4, .copyRect, false)
  | 0xa0 => some (3, .imageLoad, false)
  | 0xc0 => some (3, .imageStore, false)
  | 0xe1 => some (1, .drawMode, false)
  | 0xe2 => some (1, .textureWindow, false)
  | 0xe3 => some (1, .drawingAreaTopLeft, false)
  | 0xe4 => some (1, .drawingAreaBottomRight, false)
  | 0xe5 => some (1, .drawingOffset, false)
  | 0xe6 => some (1, .maskBitSetting, false)
  | _ => none

def opcode (gp0 : U32) : U32 := gp0 >>> 24

/-- The dithering setting. -/
def dither (d : Drawing) : Bool := (d.drawMode >>> 9) &&& 1 != 0

/-- The length of a command in words and its attributes. -/
def gp0ParseCommand (d : Drawing) (gp0 : U32) : Outcome (ℕ × Gp0Attributes) :=
  match commandTable (opcode gp0).toNat with
  | none => throw (.panic "Unhandled GP0 command")
  | some (len, callback, dithered) =>
      let textured := opcode gp0 &&& 4 != 0
      let blendMode : BlendMode :=
        if textured then if opcode gp0 &&& 1 != 0 then .raw else .blended else .none
      let semiTransparent := opcode gp0 &&& 2 != 0
      pure (len, .new callback semiTransparent blendMode (dithered && dither d))

/-! ### Handlers -/

/-- Take one off the words to come; the source's subtraction is checked. -/
def countWord (g : Gp0) : Outcome Gp0 :=
  if g.gp0WordsRemaining = 0 then throw .overflow
  else pure { g with gp0WordsRemaining := g.gp0WordsRemaining - 1 }

def gp0HandleParameter (g : Gp0) (val : U32) : Reaction := do
  let command ← g.gp0Command.pushWord val
  let g ← countWord { g with gp0Command := command }
  if g.gp0WordsRemaining = 0 then
    -- the callback may override the handler
    runCallback { g with gp0Handler := .handleCommand } g.gp0Attributes.callback
  else pure (g, [])

def gp0HandleCommand (g : Gp0) (val : U32) : Reaction := do
  let (len, attributes) ← gp0ParseCommand g.toDrawing val
  gp0HandleParameter { g with
    gp0WordsRemaining := BitVec.ofNat 32 len
    gp0Attributes := attributes
    gp0Command := .new
    gp0Handler := .handleParameter } val

def gp0HandleShadedPolylineColor (g : Gp0) (val : U32) : Reaction :=
  if isPolylineEndMarker val then pure ({ g with gp0Handler := .handleCommand }, [])
  else do
    let command ← CommandBuffer.new.pushWord val
    pure ({ g with gp0Command := command, gp0Handler := .handleShadedPolylineVertex }, [])

/-- The segment from the last vertex of a polyline to the next one. -/
def segment (attributes : PrimitiveAttributes) (start stop : Position × Color) : Call :=
  .pushLine attributes #v[.new start.1 start.2, .new stop.1 stop.2]

/-- The end marker is not looked for here, it only works in colour words. -/
def gp0HandleShadedPolylineVertex (g : Gp0) (val : U32) : Reaction := do
  let color ← g.gp0Command.index 0
  let stop := (gp0Position val, gp0Color color)
  pure ({ g with polylinePrev := stop, gp0Handler := .handleShadedPolylineColor },
    [segment g.attributes g.polylinePrev stop])

def gp0HandleMonochromePolylineVertex (g : Gp0) (val : U32) : Reaction :=
  if isPolylineEndMarker val then pure ({ g with gp0Handler := .handleCommand }, [])
  else
    let stop := (gp0Position val, g.polylinePrev.2)
    pure ({ g with polylinePrev := stop }, [segment g.attributes g.polylinePrev stop])

def gp0HandleImageLoad (g : Gp0) (word : U32) : Reaction := do
  let loadBuffer ← g.loadBuffer.pushGp0Word word
  let g ← countWord { g with loadBuffer := loadBuffer }
  if g.gp0WordsRemaining = 0 then
    let pixels ← g.loadBuffer.pixels
    pure ({ g with loadBuffer := g.loadBuffer.clear, gp0Handler := .handleCommand },
      [.loadImage g.loadBuffer.topLeft g.loadBuffer.resolution pixels])
  else pure (g, [])

/-- Dispatch to the current handler. -/
def gp0 (g : Gp0) (val : U32) : Reaction :=
  match g.gp0Handler with
  | .handleCommand => g.gp0HandleCommand val
  | .handleParameter => g.gp0HandleParameter val
  | .handleShadedPolylineColor => g.gp0HandleShadedPolylineColor val
  | .handleShadedPolylineVertex => g.gp0HandleShadedPolylineVertex val
  | .handleMonochromePolylineVertex => g.gp0HandleMonochromePolylineVertex val
  | .handleImageLoad => g.gp0HandleImageLoad val

/-- Feed a list of words to the port, one by one. -/
def feed (g : Gp0) : List U32 → Reaction
  | [] => pure (g, [])
  | word :: words => do
      let (g, calls) ← g.gp0 word
      let (g, calls') ← g.feed words
      pure (g, calls ++ calls')

end Gp0

end Rustation
