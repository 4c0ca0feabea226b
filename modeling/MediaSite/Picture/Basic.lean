import MediaSite.Text.Basic

namespace MediaSite

/-!
# Pictures

A picture in a file is known by its encoding, its size and the colour of its
top left corner.  Artwork is scaled as a whole, so these are what a page that
shows it depends on.
-/

/-- The encodings in which artwork is stored. -/
inductive PictureFormat where
  | png
  | jpeg
  deriving DecidableEq, Repr

/-- Width and height in pixels. -/
structure Size where
  width : Nat
  height : Nat
  deriving DecidableEq, Repr

/-- A colour with eight bits per channel. -/
structure Color where
  red : Nat
  green : Nat
  blue : Nat
  alpha : Nat
  deriving DecidableEq, Repr

/-- An encoded picture. -/
structure Picture where
  format : PictureFormat
  size : Size
  corner : Color
  deriving DecidableEq, Repr

end MediaSite
