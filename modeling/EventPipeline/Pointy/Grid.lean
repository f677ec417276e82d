import EventPipeline.Document.Validation
import EventPipeline.Settings

/-!
# The grid on which events are placed

Events that were read from pointy text are placed on a grid, row by row. The grid begins at an
origin; each step goes one column to the right, and when that would lie beyond the limit, back to
the first column and one row down. The first column of a row is used wherever it lies.

The measures of a grid are values as the settings hold them, and a sum is taken in their own kind:
integers exactly, numbers in double precision, and texts by putting one behind the other. Whether
what results is a position is decided point by point, and only for as many points as are needed.
-/

namespace EventPipeline

/-- Why a grid has no next position. -/
inductive GridError
  /-- The coordinates are no position. -/
  | position (issues : List Issue)
  /-- Two measures cannot be added or compared. -/
  | mismatch
  /-- An integer is too large to be added to a double-precision number. -/
  | overflow
  /-- A measure is not set. -/
  | unset (error : SettingsError)
  /-- What was asked for are no measures of a grid. -/
  | noMeasures
  deriving DecidableEq, Repr

/-! ## Measures -/

namespace Measure

/-- The integer that a measure is, a truth value being zero or one. -/
def whole? : Json → Option Int
  | .int n => some n
  | .bool b => some (if b then 1 else 0)
  | _ => none

/-- An integer in double precision, if it is not too large. -/
def widen (n : Int) : Except GridError Binary64 :=
  let x := Binary64.ofInt n
  if x.isFinite then .ok x else .error .overflow

/-- The sum of two measures. -/
def add (a b : Json) : Except GridError Json :=
  match a, b with
  | .float x, .float y => .ok (.float (x.add y))
  | .text s, .text t => .ok (.text (s ++ t))
  | .float x, b =>
    match whole? b with
    | some n => (widen n).map fun y => .float (x.add y)
    | none => .error .mismatch
  | a, .float y =>
    match whole? a with
    | some n => (widen n).map fun x => .float (x.add y)
    | none => .error .mismatch
  | a, b =>
    match whole? a, whole? b with
    | some m, some n => .ok (.int (m + n))
    | _, _ => .error .mismatch

/-- The place of a measure among the numbers; none inside stands for what is not a number. -/
def place? : Json → Option (Option Binary64.Place)
  | .float x => some x.place?
  | v => (whole? v).map fun n => some (.ofInt n)

/-- Whether a measure is beyond another one. -/
def exceeds (a b : Json) : Except GridError Bool :=
  match a, b with
  | .text s, .text t => .ok (t.before s)
  | a, b =>
    match place? a, place? b with
    | some (some p), some (some q) => .ok (q.lt p)
    | some _, some _ => .ok false
    | _, _ => .error .mismatch

end Measure

/-! ## The grid -/

/-- The measures of a grid. -/
structure Grid where
  /-- Where every row begins. -/
  originX : Json
  /-- Where the first row lies. -/
  originY : Json
  /-- The distance between two columns. -/
  columnSpacing : Json
  /-- The distance between two rows. -/
  rowSpacing : Json
  /-- No column but the first begins beyond this. -/
  maxX : Json

namespace Grid

/-- A point of the grid, in the measures of the grid. -/
structure Point where
  /-- The distance to the right. -/
  x : Json
  /-- The distance downwards. -/
  y : Json

/-- The first point. -/
def start (g : Grid) : Point where
  x := g.originX
  y := g.originY

/-- The point behind a point. -/
def next (g : Grid) (p : Point) : Except GridError Point :=
  match Measure.add p.x g.columnSpacing with
  | .error e => .error e
  | .ok x =>
    match Measure.exceeds x g.maxX with
    | .error e => .error e
    | .ok false => .ok ⟨x, p.y⟩
    | .ok true => (Measure.add p.y g.rowSpacing).map fun y => ⟨g.originX, y⟩

/-- The position that a point denotes. -/
def Point.position (p : Point) : Except GridError Position :=
  Except.mapError .position <|
    .ok Position.mk
      |> Checked.feed (Checked.under (.member ['x']) (Scalar.number p.x))
      |> Checked.feed (Checked.under (.member ['y']) (Scalar.number p.y))

/-- The positions of a number of points from a point on. -/
def positionsFrom (g : Grid) (p : Point) : (count : Nat) → Except GridError (List Position)
  | 0 => .ok []
  | 1 => p.position.map fun q => [q]
  | count + 1 =>
    match p.position with
    | .error e => .error e
    | .ok q =>
      match g.next p with
      | .error e => .error e
      | .ok p' => (positionsFrom g p' count).map (q :: ·)

/-- The positions of the first points. -/
def positions (g : Grid) (count : Nat) : Except GridError (List Position) :=
  g.positionsFrom g.start count

/-- The positions of the first points, found by going through the points until one is beyond the
count: that one has to be a position as well. -/
def leadingPositions (g : Grid) (count : Nat) : Except GridError (List Position) :=
  (g.positions (count + 1)).map (·.take count)

/-! ## Where the measures come from -/

/-- Measures of which each may be left to the settings. -/
structure Request where
  /-- Where every row begins. -/
  originX : Json := .null
  /-- Where the first row lies. -/
  originY : Json := .null
  /-- The distance between two columns. -/
  columnSpacing : Json := .null
  /-- The distance between two rows. -/
  rowSpacing : Json := .null
  /-- No column but the first begins beyond this. -/
  maxX : Json := .null

/-- The names of the measures that may be asked for. -/
def Request.names : List Text :=
  ["origin_x", "origin_y", "column_spacing", "row_spacing", "max_x"].map String.toList

/-- The measures that an object asks for by name. -/
def Request.ofJson (v : Json) : Except GridError Request :=
  match v with
  | .object members =>
    if members.all fun m => names.contains m.1 then
      .ok { originX := v.member "origin_x".toList, originY := v.member "origin_y".toList
            columnSpacing := v.member "column_spacing".toList
            rowSpacing := v.member "row_spacing".toList, maxX := v.member "max_x".toList }
    else .error .noMeasures
  | _ => .error .noMeasures

/-- A measure that was asked for, or the setting of a key. -/
def measure (s : Settings) (env : Environment) (key : Text) (fallback : Int) (asked : Json) :
    Except GridError Json :=
  if asked.isNull then ((s.get env key (.int fallback)).map (·.toJson)).mapError .unset
  else .ok asked

/-- The grid of the measures asked for; what is null comes from the settings. -/
def ofRequest (s : Settings) (env : Environment) (r : Request) : Except GridError Grid := do
  let originX ← measure s env "LAYOUT_ORIGIN_X".toList 100 r.originX
  let originY ← measure s env "LAYOUT_ORIGIN_Y".toList 100 r.originY
  let columnSpacing ← measure s env "LAYOUT_COLUMN_SPACING".toList 200 r.columnSpacing
  let rowSpacing ← measure s env "LAYOUT_ROW_SPACING".toList 150 r.rowSpacing
  let maxX ← measure s env "LAYOUT_MAX_X".toList 700 r.maxX
  return { originX, originY, columnSpacing, rowSpacing, maxX }

/-- The grid of the settings. -/
def ofSettings (s : Settings) (env : Environment) : Except GridError Grid :=
  ofRequest s env {}

/-- The grid when nothing is set. -/
def standard : Grid where
  originX := .int 100
  originY := .int 100
  columnSpacing := .int 200
  rowSpacing := .int 150
  maxX := .int 700

end Grid

end EventPipeline
