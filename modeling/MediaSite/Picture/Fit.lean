import MediaSite.Picture.Basic

namespace MediaSite

/-!
# Fitting a picture into a box

A picture is scaled, up or down, to the largest size that keeps its shape and
lies within a box: one edge is that of the box, the other one follows from the
scale, is rounded to the nearest pixel and never leaves the box.
-/

/-- The scale that brings an edge to a bound. -/
def edgeScale (edge bound : Nat) : Float :=
  bound.toFloat / edge.toFloat

/-- A scaled edge in whole pixels, a half rounded up. -/
def scaledEdge (edge : Nat) (scale : Float) : Nat :=
  (edge.toFloat * scale).round.toUInt32.toNat

/-- An edge brought into the range from one pixel to a bound. -/
def clampEdge (edge bound : Nat) : Nat :=
  max 1 (min edge (max 1 bound))

/-- The size of a picture in a box.  A picture without pixels takes the whole box. -/
def Size.fit (source bounds : Size) : Size :=
  if source.width = 0 || source.height = 0 then ⟨max 1 bounds.width, max 1 bounds.height⟩
  else
    let byWidth := edgeScale source.width bounds.width
    let byHeight := edgeScale source.height bounds.height
    if byWidth ≤ byHeight then
      ⟨max 1 bounds.width, clampEdge (scaledEdge source.height byWidth) bounds.height⟩
    else
      ⟨clampEdge (scaledEdge source.width byHeight) bounds.width, max 1 bounds.height⟩

end MediaSite
