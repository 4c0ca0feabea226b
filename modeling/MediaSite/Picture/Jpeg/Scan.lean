import MediaSite.Picture.Jpeg.Block

namespace MediaSite

/-!
# Scans

A scan gives the blocks of one component row by row, or units of several
components, each of which has as many blocks of a component as that has samples
to one of the coarsest.  Units between restarts depend on each other.  A picture
whose frame is progressive, or whose first scan lacks components, is decoded scan
by scan; in any other one all blocks are in the first scan.
-/

namespace Jpeg

/-- The blocks of a component, row by row. -/
structure Plane where
  component : Component
  /-- The number of blocks in a row. -/
  across : Nat
  blocks : Array Block

/-- Where decoding stands. -/
structure State where
  heading : Heading
  feed : Feed
  planes : Array Plane
  /-- The last mean of each component since the restart. -/
  means : Array Int
  /-- The number of units up to the next restart. -/
  left : Nat
  /-- The number of further blocks without details. -/
  blank : Nat

/-- A step of decoding, which fails if the file is not supported. -/
abbrev Decoding := StateT State Option

/-- Number of units of a frame in a row and in a column. -/
structure Grid where
  /-- The greatest numbers of samples of a component. -/
  horizontal : Nat
  vertical : Nat
  across : Nat
  down : Nat

/-- The units of a frame. -/
def Frame.grid (frame : Frame) : Grid :=
  let horizontal := frame.components.foldl (fun most part => max most part.horizontal) 1
  let vertical := frame.components.foldl (fun most part => max most part.vertical) 1
  ⟨horizontal, vertical, (frame.size.width + 8 * horizontal - 1) / (8 * horizontal),
    (frame.size.height + 8 * vertical - 1) / (8 * vertical)⟩

/-- Samples are not all equally many. -/
def Grid.isMixed (grid : Grid) : Bool :=
  grid.horizontal != 1 || grid.vertical != 1

/-- The code of a kind with a number. -/
def Heading.code? (heading : Heading) (kind : CodeKind) (id : Nat) : Option PrefixCode :=
  heading.codes.lookup (kind, id)

/-- The numbers of the codes of a component. -/
def Heading.chosenFor (heading : Heading) (place : Nat) : Nat × Nat :=
  (heading.chosen.lookup place).getD (0, 0)

namespace Decoding

/-- Go on at a marker, and read what stands behind it. -/
def segment (kind : Nat) : Decoding Unit := do
  let state ← get
  let (heading, index) ← state.heading.withSegment? state.feed.data kind state.feed.index
  set { state with heading, feed := { state.feed.reset with index } }

/-- Begin anew at the marker of a restart.  At the end nothing changes, and other
markers cannot be there. -/
def restartAt (kind : Nat) : Decoding Unit := do
  if isRestart kind then
    modify fun state => { state with
      feed := state.feed.reset, means := state.means.map fun _ => 0, blank := 0 }
  else if kind = endMarker then return ()
  else failure

/-- Count a unit.  When it is the last one before a restart, look for the marker. -/
def countUnit : Decoding Unit := do
  let state ← get
  if state.heading.interval = 0 then return ()
  if state.left ≠ 1 then set { state with left := state.left - 1 }
  else
    set { state with left := state.heading.interval }
    match state.feed.marker with
    | some kind => restartAt kind
    | none =>
      if state.feed.isOver then return ()
      else
        let (kind, feed) ← state.feed.nextMarker?
        modify fun state => { state with feed := { feed with marker := kind } }
        restartAt kind

/-- Change the block of a component at an index. -/
def putBlock (place index : Nat) (block : Block) : Decoding Unit :=
  modify fun state => { state with
    planes := state.planes.modify place fun plane =>
      { plane with blocks := plane.blocks.setIfInBounds index block } }

/-- The component at a place. -/
def componentAt (place : Nat) : Decoding Component := do
  return (← (← get).planes[place]?).component

/-- The number of blocks of a component in a row. -/
def acrossAt (place : Nat) : Decoding Nat := do
  return (← (← get).planes[place]?).across

/-- The block of a component at an index. -/
def blockAt (place index : Nat) : Decoding Block := do
  match (← get).planes[place]? with
  | some plane => return plane.blocks.getD index #[]
  | none => failure

/-! ## Blocks in scans -/

/-- Read a block at once. -/
def wholeBlock (place index : Nat) : Decoding Unit := do
  let component ← componentAt place
  let state ← get
  let (meanId, detailId) := state.heading.chosenFor place
  let means ← state.heading.code? .mean meanId
  let details ← state.heading.code? .detail detailId
  let scale ← state.heading.scales.lookup component.table
  let ((block, mean), feed) ← block? means details scale (state.means.getD place 0) state.feed
  set { state with feed, means := state.means.setIfInBounds place mean }
  putBlock place index block

/-- Read the mean of a block, or one of its lower bits. -/
def meanOf (scan : Scan) (place index : Nat) : Decoding Unit := do
  let state ← get
  let unit : Int := (1 <<< scan.low : Nat)
  if scan.high = 0 then
    let means ← state.heading.code? .mean (state.heading.chosenFor place).1
    let (difference, feed) ← difference? means state.feed
    let mean := state.means.getD place 0 + difference
    set { state with feed, means := state.means.setIfInBounds place mean }
    putBlock place index #[mean * unit]
  else
    let feed ← state.feed.refill?
    let (bit, feed) := feed.take 1
    set { state with feed }
    if bit = 1 then
      let block ← blockAt place index
      putBlock place index (block.put 0 (block.stored 0 + unit))

/-- Read details of a block, or one of their lower bits. -/
def detailsOf (scan : Scan) (place index : Nat) : Decoding Unit := do
  let state ← get
  if scan.high = 0 && state.blank ≠ 0 then set { state with blank := state.blank - 1 }
  else
    let block ← blockAt place index
    let ((block, blank), feed) ←
      if state.blank ≠ 0 then
        (refineFrom? scan 64 scan.first 64 block state.feed).map fun found =>
          ((found.1.2, state.blank - 1), found.2)
      else do
        let details ← state.heading.code? .detail (state.heading.chosenFor place).2
        if scan.high = 0 then firstDetails? details scan 64 scan.first block state.feed
        else laterDetails? details scan 64 scan.first block state.feed
    set { state with feed, blank }
    putBlock place index block

/-- Read a part of a block: of a progressive picture a scan from zero on has means. -/
def partOf (isProgressive : Bool) (scan : Scan) (place index : Nat) : Decoding Unit :=
  if !isProgressive then wholeBlock place index
  else if scan.first = 0 then meanOf scan place index
  else detailsOf scan place index

/-- Read the blocks of a component in a unit. -/
def unitOf (read : Nat → Nat → Decoding Unit) (column row place : Nat) : Decoding Unit := do
  let component ← componentAt place
  let across ← acrossAt place
  (List.range component.vertical).forM fun down =>
    (List.range component.horizontal).forM fun right =>
      read place
        ((row * component.vertical + down) * across + column * component.horizontal + right)

/-! ## Pictures that are decoded scan by scan -/

/-- Begin a scan. -/
def beginScan : Decoding Unit :=
  modify fun state => { state with
    means := state.means.map fun _ => 0
    left := state.heading.interval
    blank := 0 }

/-- Read the blocks of a scan. -/
def scanBlocks (frame : Frame) (scan : Scan) : Decoding Unit := do
  beginScan
  let grid := frame.grid
  let read := partOf frame.isProgressive scan
  match scan.components with
  | [place] =>
    let component ← componentAt place
    let across ← acrossAt place
    if frame.isProgressive && scan.first = 0 && scan.last ≠ 0 then failure
    let isWhole := place = 0 && (component.vertical != 1 || component.horizontal != 1)
    let area : Nat × Nat :=
      if isWhole || !grid.isMixed then ((frame.size.width + 7) / 8, (frame.size.height + 7) / 8)
      else (grid.across, grid.down)
    (List.range area.2).forM fun row =>
      (List.range area.1).forM fun column => do
        read place (row * across + column)
        countUnit
  | places =>
    if frame.isProgressive && scan.last ≠ 0 then failure
    (List.range grid.down).forM fun row =>
      (List.range grid.across).forM fun column => do
        places.forM (unitOf read column row)
        countUnit

/-- Read further segments and scans up to the end.  When the octets come to an
end, so does the picture. -/
def furtherScans (frame : Frame) : (count : Nat) → Decoding Unit
  | 0 => return ()
  | count + 1 => do
    let state ← get
    match state.feed.nextMarker? with
    | none => return ()
    | some (kind, feed) =>
      set { state with feed }
      if kind = endMarker then return ()
      if isRestart kind then restartAt kind
      else
        segment kind
        if kind = scanMarker then
          let scan ← (← get).heading.scan
          let state ← get
          match (scanBlocks frame scan).run state with
          | some (_, state) => set state
          | none => return ()
      furtherScans frame count

/-- Read all scans.  A marker has to follow the first one. -/
def allScans (frame : Frame) (scan : Scan) : Decoding Unit := do
  scanBlocks frame scan
  let state ← get
  if frame.isProgressive && state.feed.marker.isNone then failure
  furtherScans frame state.feed.data.size

/-! ## Pictures in one scan -/

/-- Look at a marker behind a unit: the end is remembered, and restarts are left
where they are.  A further scan ends the picture. -/
def passMarker : Decoding Bool := do
  let state ← get
  match state.feed.marker with
  | none => return true
  | some kind =>
    if kind = endMarker then
      set { state with feed := { state.feed with marker := none, isOver := true } }
      return true
    else if isRestart kind then return true
    else
      segment kind
      return kind != scanMarker

/-- Read the units of a row from a column on: whether the picture goes on. -/
def unitsFrom (scan : Scan) (row : Nat) : (count column : Nat) → Decoding Bool
  | 0, _ => return true
  | count + 1, column => do
    scan.components.forM (unitOf wholeBlock column row)
    countUnit
    if ← passMarker then unitsFrom scan row count (column + 1) else return false

/-- The number of octets that may be missing before decoding stops. -/
def missingLimit : Nat := 37

/-- Read rows of units: how many there are. -/
def rowsFrom (scan : Scan) (across : Nat) : (count row : Nat) → Decoding Nat
  | 0, row => return row
  | count + 1, row => do
    if missingLimit < (← get).feed.missing then return row
    else if ← unitsFrom scan row across 0 then rowsFrom scan across count (row + 1)
    else return row + 1

end Decoding

/-- Means and details of all components have codes. -/
def Heading.hasCodes (heading : Heading) (count : Nat) : Bool :=
  (List.range count).all fun place =>
    let (mean, detail) := heading.chosenFor place
    (heading.code? .mean mean).isSome && (heading.code? .detail detail).isSome

/-- A block with scaled coefficients. -/
def Block.scaled (scale : Array Nat) (block : Block) : Block :=
  block.mapIdx fun place value => value * (scale.getD place 0 : Nat)

/-- The blocks of the components of a picture, and the number of rows of units
that are there. -/
def planes? (data : ByteArray) (start : Nat) (heading : Heading) (frame : Frame) :
    Option (Array Plane × Nat) := do
  let grid := frame.grid
  let scan ← heading.scan
  let scales ← frame.components.mapM fun component => heading.scales.lookup component.table
  let planes := frame.components.map fun component =>
    let across := grid.across * component.horizontal
    ⟨component, across, Array.replicate (across * grid.down * component.vertical) #[]⟩
  let state : State :=
    ⟨heading, { data, index := start }, planes, frame.components.map fun _ => 0,
      heading.interval, 0⟩
  if frame.isProgressive then
    let (_, state) ← (Decoding.allScans frame scan).run state
    let planes := state.planes.mapIdx fun place plane =>
      { plane with blocks := plane.blocks.map (Block.scaled (scales.getD place #[])) }
    some (planes, grid.down)
  else if !heading.hasCodes frame.components.size then none
  else if scan.components.length = frame.components.size then
    let (rows, state) ← (Decoding.rowsFrom scan grid.across grid.down 0).run state
    some (state.planes, rows)
  else
    let (_, state) ← (Decoding.allScans frame scan).run state
    some (state.planes, grid.down)

end Jpeg
end MediaSite
