import MediaSite.Picture.WebP.Lossy.Heading

namespace MediaSite

/-!
# Squares

A picture is covered by squares of sixteen by sixteen pixels.  Each says how it is
predicted: as a whole, or in sixteen small blocks of four by four pixels, and how
the colours are.  What the prediction lacks is given by the coefficients of its
blocks: sixteen for luminance, four for each of two colour differences, and one
more for the means of the first if the square is predicted as a whole.
-/

namespace WebP.Lossy

/-- How a whole square or the colours of a square are predicted. -/
inductive Kind where
  | mean
  | vertical
  | horizontal
  | slope
  deriving DecidableEq, Repr

/-- The number of the small kind that is like a kind. -/
def Kind.small : Kind → Nat
  | .mean => 0
  | .slope => 1
  | .vertical => 2
  | .horizontal => 3

/-- How the luminance of a square is predicted. -/
inductive Luma where
  | whole (kind : Kind)
  /-- The numbers of the kinds of small blocks, row by row. -/
  | small (kinds : Array Nat)

/-- What a square says in front of its coefficients. -/
structure Square where
  segment : Nat
  isEmpty : Bool
  luma : Luma
  colour : Kind

/-- The square is predicted in small blocks. -/
def Square.isSmall (square : Square) : Bool :=
  match square.luma with
  | .small _ => true
  | .whole _ => false

namespace Drawing

/-- The number of a segment. -/
def segment (chances : Array Nat) : Drawing Nat := do
  if (← bit (chances.getD 0 255)) = 0 then bit (chances.getD 1 255)
  else return 2 + (← bit (chances.getD 2 255))

/-- The number of a kind of small prediction, given the chances of its bits. -/
def smallKind (chances : Array Nat) : Drawing Nat := do
  let next (place : Nat) : Drawing Bool := do return (← bit (chances.getD place 128)) = 1
  if !(← next 0) then return 0
  if !(← next 1) then return 1
  if !(← next 2) then return 2
  if !(← next 3) then
    if !(← next 4) then return 3
    if !(← next 5) then return 4 else return 5
  if !(← next 6) then return 6
  if !(← next 7) then return 7
  if !(← next 8) then return 8 else return 9

/-- The kind of a whole square. -/
def wholeKind : Drawing Kind := do
  if (← bit 156) = 1 then
    if (← bit 128) = 1 then return .slope else return .horizontal
  else if (← bit 163) = 1 then return .vertical
  else return .mean

/-- The kind of the colours. -/
def colourKind : Drawing Kind := do
  if (← bit 142) = 0 then return .mean
  if (← bit 114) = 0 then return .vertical
  if (← bit 183) = 0 then return .horizontal else return .slope

/-- The kinds of small blocks from left to right, given the kinds above. -/
def kindsInRow : (above : List Nat) → (left : Nat) → Drawing (List Nat)
  | [], _ => return []
  | above :: rest, left => do
    let kind ← smallKind ((kindChances.getD above #[]).getD left #[])
    let others ← kindsInRow rest kind
    return kind :: others

/-- The kinds of small blocks, row by row, given the kinds above and to the left. -/
def kindsInRows : (left : List Nat) → (above : List Nat) → Drawing (List (List Nat))
  | [], _ => return []
  | left :: rest, above => do
    let row ← kindsInRow above left
    let others ← kindsInRows rest row
    return row :: others

/-- Read what a square says, given the small kinds above and to the left: also the
small kinds at its lower and right edges. -/
def square (heading : Heading) (above left : List Nat) :
    Drawing (Square × List Nat × List Nat) := do
  let segment ←
    match heading.segments.bind (·.chances) with
    | some chances => segment chances
    | none => pure 0
  let isEmpty ←
    match heading.fullChance with
    | some chance => (return (← bit chance) == 1)
    | none => pure false
  if (← bit 145) = 1 then
    let kind ← wholeKind
    let colour ← colourKind
    let edge := List.replicate 4 kind.small
    return (⟨segment, isEmpty, .whole kind, colour⟩, edge, edge)
  else
    let rows ← kindsInRows left above
    let colour ← colourKind
    return (⟨segment, isEmpty, .small rows.flatten.toArray, colour⟩, rows.getLastD [],
      rows.map (·.getLastD 0))

/-- Read a row of squares, given the small kinds above each of them. -/
def squaresInRow (heading : Heading) : (above : List (List Nat)) → (left : List Nat) →
    Drawing (List (Square × List Nat))
  | [], _ => return []
  | above :: rest, left => do
    let (square, below, right) ← square heading above left
    let others ← squaresInRow heading rest right
    return (square, below) :: others

/-- The small kinds beyond the edges. -/
def outside : List Nat :=
  [0, 0, 0, 0]

/-- Read so many rows of squares. -/
def squareRows (heading : Heading) : (rows : Nat) → (above : List (List Nat)) →
    Drawing (List (List Square))
  | 0, _ => return []
  | rows + 1, above => do
    let row ← squaresInRow heading above outside
    let others ← squareRows heading rows (row.map (·.2))
    return row.map (·.1) :: others

/-! ## Coefficients -/

/-- The size of a large coefficient, from two on. -/
def largeSize (chances : Array Nat) : Drawing Nat := do
  let next (place : Nat) : Drawing Nat := bit (chances.getD place 128)
  if (← next 3) = 0 then
    if (← next 4) = 0 then return 2
    return 3 + (← next 5)
  else if (← next 6) = 0 then
    if (← next 7) = 0 then return 5 + (← bit 159)
    let high ← bit 165
    return 7 + 2 * high + (← bit 145)
  else
    let high ← next 8
    let low ← next (9 + high)
    let group := 2 * high + low
    let rest ← (largeChances.getD group []).foldlM
      (fun number chance => do return 2 * number + (← bit chance)) 0
    return rest + 3 + (8 <<< group)

/-- Read the coefficients of a block from a place on: the block, and whether there
are any.  `before` tells how large the coefficient before is, and behind a zero
the block does not end. -/
def coefficientsFrom (chances : Array (Array (Array Nat))) (mean detail : Nat) :
    (steps before : Nat) → (isBehindZero : Bool) → Array Int → Drawing (Array Int)
  | 0, _, _, block => return block
  | steps + 1, before, isBehindZero, block => do
    let place := 15 - steps
    let here := (chances.getD (bands.getD place 0) #[]).getD before #[]
    let isOver ← if isBehindZero then pure false else (return (← bit (here.getD 0 128)) == 0)
    if isOver then return block
    if (← bit (here.getD 1 128)) = 0 then
      let full := if block.isEmpty then .replicate 16 0 else block
      coefficientsFrom chances mean detail steps 0 true full
    else
      let isLarge := (← bit (here.getD 2 128)) = 1
      let size ← if isLarge then largeSize here else pure 1
      let isNegative ← flag
      let factor := if place = 0 then mean else detail
      let value : Int := if isNegative then -(size * factor : Nat) else (size * factor : Nat)
      let full := if block.isEmpty then .replicate 16 0 else block
      coefficientsFrom chances mean detail steps (if isLarge then 2 else 1) false
        (full.setIfInBounds (zigzag.getD place 0) value)

end Drawing

/-- The factors of the coefficients in a square: of means and of details. -/
structure Factors where
  luma : Nat × Nat
  square : Nat × Nat
  colour : Nat × Nat

/-- A factor from a table by a scale, which is brought into the table. -/
def factorAt (table : Array Nat) (scale : Int) : Nat :=
  table.getD (max 0 (min 127 scale)).toNat 0

/-- The scale of the factors in a segment. -/
def Heading.scale (heading : Heading) (segment : Nat) : Int :=
  let base : Int := heading.scales.base
  match heading.segments with
  | none => base
  | some segments =>
    let own := (segments.segments.getD segment {}).scale
    if segments.isAbsolute then own else base + own

/-- The factors in a segment. -/
def Heading.factors (heading : Heading) (segment : Nat) : Factors :=
  let scale := heading.scale segment
  let scales := heading.scales
  { luma := (factorAt meanFactors (scale + scales.luma), factorAt detailFactors scale)
    square := (2 * factorAt meanFactors (scale + scales.squareMean),
      max 8 (factorAt detailFactors (scale + scales.squareDetail) * 155 / 100))
    colour := (min 132 (factorAt meanFactors (scale + scales.colourMean)),
      factorAt detailFactors (scale + scales.colourDetail)) }

/-- Whether there are coefficients in the blocks at the edges of squares, as zeros
and ones: of the means of a square, of luminance, and of both colour differences. -/
structure Edge where
  square : Nat := 0
  luma : List Nat := [0, 0, 0, 0]
  first : List Nat := [0, 0]
  second : List Nat := [0, 0]

/-- The coefficients of a square: of blocks that have none, nothing. -/
structure Coefficients where
  luma : Array (Array Int)
  first : Array (Array Int)
  second : Array (Array Int)

namespace Drawing

/-- Read a block of a kind, of which the first coefficients may be left out. -/
def block (heading : Heading) (kind skipped before : Nat) (factors : Nat × Nat) :
    Drawing (Array Int) :=
  coefficientsFrom (heading.chances.getD kind #[]) factors.1 factors.2 (16 - skipped) before false
    #[]

/-- Whether a block has coefficients, as a number. -/
def fullness (block : Array Int) : Nat :=
  if block.isEmpty then 0 else 1

/-- Read blocks from left to right, given what is above. -/
def blocksInRow (read : Nat → Drawing (Array Int)) : (above : List Nat) → (left : Nat) →
    Drawing (List (Array Int))
  | [], _ => return []
  | above :: rest, left => do
    let block ← read (above + left)
    let others ← blocksInRow read rest (fullness block)
    return block :: others

/-- Read rows of blocks, given what is to the left and above: also what is at the
lower and right edges. -/
def blocksInRows (read : Nat → Drawing (Array Int)) : (left above : List Nat) →
    Drawing (List (List (Array Int)))
  | [], _ => return []
  | left :: rest, above => do
    let row ← blocksInRow read above left
    let others ← blocksInRows read rest (row.map fullness)
    return row :: others

/-- Read an area of blocks: the blocks, and what is at the lower and right edges. -/
def area (read : Nat → Drawing (Array Int)) (above left : List Nat) :
    Drawing (Array (Array Int) × List Nat × List Nat) := do
  let rows ← blocksInRows read left above
  return (rows.flatten.toArray, (rows.getLastD []).map fullness,
    rows.map fun row => fullness (row.getLastD #[]))

end Drawing

/-- The means of blocks from the coefficients of their means. -/
def squareMeans (block : Array Int) : Array Int :=
  let stored (place : Nat) : Int := block.getD place 0
  let columns := (Array.range 4).map fun column =>
    let outer := stored column + stored (12 + column)
    let inner := stored (4 + column) + stored (8 + column)
    let less := stored (4 + column) - stored (8 + column)
    let more := stored column - stored (12 + column)
    #[outer + inner, more + less, outer - inner, more - less]
  (Array.range 4).flatMap fun row =>
    let value (column : Nat) : Int := (columns.getD column #[]).getD row 0
    let start := value 0 + 3
    let outer := start + value 3
    let inner := value 1 + value 2
    let less := value 1 - value 2
    let more := start - value 3
    #[outer + inner, more + less, outer - inner, more - less].map fun (sum : Int) => sum / 8

/-- A block with a mean. -/
def withMean (block : Array Int) (mean : Int) : Array Int :=
  if block.isEmpty && mean = 0 then block
  else (if block.isEmpty then .replicate 16 0 else block).setIfInBounds 0 mean

/-- Read the coefficients of a square, given what is above and to the left: also
what is at the lower and right edges. -/
def Drawing.coefficients (heading : Heading) (square : Square) (above left : Edge) :
    Drawing (Coefficients × Edge × Edge) := do
  if square.isEmpty then
    let edge (before : Edge) : Edge :=
      { square := if square.isSmall then before.square else 0 }
    return (⟨#[], #[], #[]⟩, edge above, edge left)
  else
    let factors := heading.factors square.segment
    let means ←
      if square.isSmall then pure #[]
      else block heading 1 0 (above.square + left.square) factors.square
    let (kind, skipped) := if square.isSmall then (3, 0) else (0, 1)
    let (luma, below, right) ←
      area (block heading kind skipped · factors.luma) above.luma left.luma
    let (first, firstBelow, firstRight) ←
      area (block heading 2 0 · factors.colour) above.first left.first
    let (second, secondBelow, secondRight) ←
      area (block heading 2 0 · factors.colour) above.second left.second
    let luma :=
      if square.isSmall then luma
      else
        let means := if means.isEmpty then #[] else squareMeans means
        luma.mapIdx fun place block => withMean block (means.getD place 0)
    let fullness (before : Nat) : Nat := if square.isSmall then before else fullness means
    return (⟨luma, first, second⟩,
      ⟨fullness above.square, below, firstBelow, secondBelow⟩,
      ⟨fullness left.square, right, firstRight, secondRight⟩)

/-- Read the coefficients of a row of squares, given what is above each of them:
also what is at the lower edges. -/
def Drawing.coefficientsInRow (heading : Heading) : (squares : List (Square × Edge)) →
    (left : Edge) → Drawing (List (Coefficients × Edge))
  | [], _ => return []
  | (square, above) :: rest, left => do
    let (coefficients, below, right) ← coefficients heading square above left
    let others ← coefficientsInRow heading rest right
    return (coefficients, below) :: others

/-- Read the coefficients of rows of squares, each out of the part whose turn it is. -/
def coefficientRows? (heading : Heading) : (rows : List (List Square)) → (number : Nat) →
    (parts : Array Chances) → (above : List Edge) → Option (List (List Coefficients))
  | [], _, _, _ => some []
  | squares :: rest, number, parts, above => do
    let place := number % parts.size
    let part ← parts[place]?
    let (row, part) ← (Drawing.coefficientsInRow heading (squares.zip above) {}).run part
    let others ← coefficientRows? heading rest (number + 1) (parts.setIfInBounds place part)
      (row.map (·.2))
    some (row.map (·.1) :: others)

end WebP.Lossy
end MediaSite
