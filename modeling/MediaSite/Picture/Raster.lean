import MediaSite.Picture.Basic

namespace MediaSite

/-!
# Rasters

A decoded picture is a raster: a size, and for every place in it a list of
samples, which are gray, gray and opacity, three colours, or three colours and
opacity.  Rasters are scaled with a windowed sinc of three lobes on both sides,
down each column first and then along the row.  Of a scaled raster only the
corner is kept, and only the samples within reach of it are looked at.
-/

/-- A decoded picture. -/
structure Raster where
  size : Size
  /-- The greatest value of a sample, of eight or sixteen bits. -/
  top : Nat
  /-- The samples at a column and a row. -/
  pixel : (column row : Nat) → List Nat

/-- The number of octets that decoded pictures may take. -/
def rasterLimit : Nat :=
  536870912

/-- A sample in eight bits. -/
def octetOfSample (top sample : Nat) : Nat :=
  if top = 255 then sample else (sample + 128) / 257

/-- The colour that samples stand for. -/
def Color.ofSamples (top : Nat) (samples : List Nat) : Color :=
  match samples.map (octetOfSample top) with
  | [gray] => ⟨gray, gray, gray, 255⟩
  | [gray, alpha] => ⟨gray, gray, gray, alpha⟩
  | [red, green, blue] => ⟨red, green, blue, 255⟩
  | [red, green, blue, alpha] => ⟨red, green, blue, alpha⟩
  | _ => ⟨0, 0, 0, 0⟩

/-! ## Scaling -/

/-- The sine of a multiple of pi over that multiple. -/
def sinc (value : Float32) : Float32 :=
  let angle := value * 3.14159265358979
  if value == 0 then 1 else angle.sin / angle

/-- The filter: a sinc in the window of a wider one. -/
def lanczos (value : Float32) : Float32 :=
  if value.abs < 3 then sinc value * sinc (value / 3) else 0

/-- The weights of the first samples of an edge in the first sample of the
scaled edge.  They add up to one. -/
def cornerWeights (edge target : Nat) : List Float32 :=
  let ratio := edge.toFloat32 / target.toFloat32
  let stretch := if ratio < 1 then 1 else ratio
  let centre := 0.5 * ratio
  let reach := (centre + 3 * stretch).ceil.toUInt32.toNat
  let weights := (List.range (max 1 (min reach edge))).map fun index =>
    lanczos ((index.toFloat32 - (centre - 0.5)) / stretch)
  let total := weights.foldl (· + ·) 0
  weights.map (· / total)

/-- A weighted sum of samples, channel by channel. -/
def weightedSamples (weights : List Float32) (samples : Nat → List Float32) : List Float32 :=
  match weights.zipIdx.map fun item => (samples item.2).map (item.1 * ·) with
  | [] => []
  | first :: rest => rest.foldl (List.zipWith (· + ·)) first

/-- The nearest sample to a value. -/
def nearestSample (top : Nat) (value : Float32) : Nat :=
  let limit := top.toFloat32
  (if value < 0 then 0 else if limit < value then limit else value).round.toUInt32.toNat

namespace Raster

/-- The colour of the corner of a raster that is scaled to a size. -/
def cornerAt (raster : Raster) (size : Size) : Color :=
  if size = raster.size then Color.ofSamples raster.top (raster.pixel 0 0)
  else
    let rows := cornerWeights raster.size.height size.height
    let columns := cornerWeights raster.size.width size.width
    let column (index : Nat) : List Float32 :=
      weightedSamples rows fun row => (raster.pixel index row).map Nat.toFloat32
    Color.ofSamples raster.top ((weightedSamples columns column).map (nearestSample raster.top))

end Raster
end MediaSite
