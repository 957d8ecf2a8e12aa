import Rustation.Lib.Word

/-!
The interface of the GPU to its renderer (`gpu/renderer.rs`).  A renderer only
consumes what it is told, so a run of the GPU is observed as the list of the
`Call`s it makes.
-/

namespace Rustation

/-- Primitive texturing methods. -/
inductive BlendMode where
  | none | raw | blended
  deriving DecidableEq, Repr

inductive SemiTransparencyMode where
  | average | add | substractSource | addQuarterSource
  deriving DecidableEq, Repr

/-- Depth of the pixel values in a texture page. -/
inductive TextureDepth where
  | t4Bpp | t8Bpp | t16Bpp
  deriving DecidableEq, Repr

structure PrimitiveAttributes where
  semiTransparent : Bool
  semiTransparencyMode : SemiTransparencyMode
  blendMode : BlendMode
  texturePage : U16 × U16
  textureDepth : TextureDepth
  clut : U16 × U16
  dither : Bool
  deriving DecidableEq, Repr

/-- Red, green and blue. -/
abbrev Color := U8 × U8 × U8

/-- A point of the frame buffer, read as two signed coordinates. -/
abbrev Position := I16 × I16

structure Vertex where
  position : Position
  color : Color
  textureCoord : U16 × U16
  deriving DecidableEq, Repr

namespace Vertex

def new (position : Position) (color : Color) : Vertex := ⟨position, color, (0, 0)⟩

def newTextured (position : Position) (color : Color) (textureCoord : U16 × U16) : Vertex :=
  ⟨position, color, textureCoord⟩

end Vertex

/-- A call of one of the methods of the `Renderer` trait. -/
inductive Call where
  | setDrawOffset (x y : I16)
  | setDrawArea (topLeft dimensions : U16 × U16)
  | setDisplayMode (topLeft resolution : U16 × U16) (depth24bpp : Bool)
  | pushLine (attributes : PrimitiveAttributes) (vertices : Vector Vertex 2)
  | pushTriangle (attributes : PrimitiveAttributes) (vertices : Vector Vertex 3)
  | pushQuad (attributes : PrimitiveAttributes) (vertices : Vector Vertex 4)
  | fillRect (color : Color) (topLeft dimensions : U16 × U16)
  | loadImage (topLeft dimensions : U16 × U16) (pixelBuffer : List U16)
  deriving DecidableEq, Repr

end Rustation
