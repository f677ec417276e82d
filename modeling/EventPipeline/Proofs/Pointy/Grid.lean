import EventPipeline.Pointy.Grid
import EventPipeline.Proofs.Binary64.Rounding
import EventPipeline.Proofs.Result

/-!
# The positions of a grid

The positions that a grid hands out are those of the ranks from zero on (`Grid.positions_eq_mapM`),
each of which is so many steps away from the first one.

A grid whose measures are integers has its points in closed form: with `c` columns, the `k`-th point
lies in column `k % c` and row `k / c` (`toGrid_pointAt`). Going from one point to the next never
fails; what may fail is only that a point is a position, and does so only far outside of every
document (`standard_positions`). Rows are as long as the limit allows and no longer, and points do
not coincide (`toGrid_closedForm`).
-/

namespace EventPipeline

/-! ## Positions by rank -/

namespace Grid

/-- The point of a rank, to which so many steps lead from the first one. -/
def pointAt (g : Grid) : (rank : Nat) → Except GridError Point
  | 0 => .ok g.start
  | rank + 1 => (g.pointAt rank).bind g.next

/-- The position of a rank. -/
def positionAt (g : Grid) (rank : Nat) : Except GridError Position :=
  (g.pointAt rank).bind Point.position

/-- The position of a rank is that of its point. -/
lemma positionAt_of_pointAt {g : Grid} {p : Point} {rank : Nat} (h : g.pointAt rank = .ok p) :
    g.positionAt rank = p.position := by
  rw [positionAt, h]
  rfl

/-- The positions from the point of a rank on are those of the ranks from there on. -/
lemma positionsFrom_eq_mapM {g : Grid} {p : Point} {rank : Nat} (h : g.pointAt rank = .ok p)
    (count : Nat) : g.positionsFrom p count = (List.range' rank count).mapM g.positionAt := by
  induction count generalizing rank p with
  | zero => rfl
  | succ count ih =>
    have hnext : g.pointAt (rank + 1) = g.next p := by
      rw [pointAt, h]
      rfl
    rw [List.range'_succ, List.mapM_cons, positionAt_of_pointAt h]
    cases count with
    | zero =>
      rw [positionsFrom]
      cases p.position <;> rfl
    | succ count =>
      rw [positionsFrom]
      · cases p.position with
        | error e => rfl
        | ok q =>
          dsimp only
          cases hp : g.next p with
          | error e =>
            -- The grid ends here, and the next rank has no position for the same reason.
            rw [List.range'_succ, List.mapM_cons, positionAt, hnext, hp]
            rfl
          | ok p' =>
            dsimp only
            rw [ih (hnext.trans hp)]
            cases (List.range' (rank + 1) (count + 1)).mapM g.positionAt <;> rfl
      · exact Nat.succ_ne_zero count

/-- The positions that a grid hands out are those of the first ranks. -/
lemma positions_eq_mapM (g : Grid) (count : Nat) :
    g.positions count = (List.range count).mapM g.positionAt := by
  have hstart : g.pointAt 0 = .ok g.start := rfl
  rw [positions, positionsFrom_eq_mapM hstart, List.range_eq_range']

/-- Positions are handed out when every rank has its own. -/
lemma positions_eq_ok_iff {g : Grid} {count : Nat} {positions : List Position} :
    g.positions count = .ok positions ↔
      positions.length = count ∧
        ∀ k (h : k < positions.length), g.positionAt k = .ok positions[k] := by
  rw [positions_eq_mapM, mapM_eq_ok_iff, List.forall₂_iff_get]
  simp only [List.length_range, List.get_eq_getElem, List.getElem_range]
  constructor
  · rintro ⟨hlength, h⟩
    exact ⟨hlength.symm, fun k hk => h k (hlength ▸ hk) hk⟩
  · rintro ⟨hlength, h⟩
    exact ⟨hlength.symm, fun k _ hk => h k hk⟩

/-- A grid hands out positions for some events just if each of them has a position. -/
lemma exists_positions_iff (g : Grid) (count : Nat) :
    (∃ positions, g.positions count = .ok positions) ↔
      ∀ k < count, ∃ p, g.positionAt k = .ok p := by
  constructor
  · rintro ⟨positions, h⟩ k hk
    obtain ⟨rfl, hat⟩ := positions_eq_ok_iff.1 h
    exact ⟨_, hat k hk⟩
  · intro h
    choose p hp using h
    refine ⟨List.ofFn fun k : Fin count => p k k.2, positions_eq_ok_iff.2 ⟨List.length_ofFn, ?_⟩⟩
    intro k hk
    rw [List.getElem_ofFn]
    exact hp k _

end Grid

/-! ## Grids of integers -/

/-- A grid whose measures are integers and whose columns follow each other to the right. -/
structure WholeGrid where
  /-- Where every row begins. -/
  originX : Int
  /-- Where the first row lies. -/
  originY : Int
  /-- The distance between two columns. -/
  columnSpacing : Int
  /-- The distance between two rows. -/
  rowSpacing : Int
  /-- No column but the first begins beyond this. -/
  maxX : Int
  /-- Columns follow each other to the right. -/
  columnSpacing_pos : 0 < columnSpacing

namespace WholeGrid

variable (g : WholeGrid)

/-- The grid with these measures. -/
def toGrid : Grid where
  originX := .int g.originX
  originY := .int g.originY
  columnSpacing := .int g.columnSpacing
  rowSpacing := .int g.rowSpacing
  maxX := .int g.maxX

/-- The number of columns: as many as fit, but at least one. -/
def columns : Nat :=
  max 1 ((g.maxX - g.originX) / g.columnSpacing + 1).toNat

/-- How far to the right a point lies. -/
def xAt (k : Nat) : Int :=
  g.originX + g.columnSpacing * (k % g.columns : Nat)

/-- How far down a point lies. -/
def yAt (k : Nat) : Int :=
  g.originY + g.rowSpacing * (k / g.columns : Nat)

/-- The point of a rank. -/
def pointAt (k : Nat) : Grid.Point :=
  ⟨.int (g.xAt k), .int (g.yAt k)⟩

/-- The position of a rank, with the coordinates in double precision. -/
def positionAt (k : Nat) : Position :=
  ⟨Binary64.ofInt (g.xAt k), Binary64.ofInt (g.yAt k)⟩

/-! ## From point to point -/

/-- There is at least one column. -/
lemma columns_pos : 0 < g.columns :=
  Nat.le_max_left 1 _

/-- A column behind the first is beyond the limit just if its number is not below that of the
columns. -/
lemma maxX_lt_iff {j : Nat} (hj : 0 < j) :
    g.maxX < g.originX + g.columnSpacing * (j : Int) ↔ g.columns ≤ j := by
  have hdiv : (g.maxX - g.originX) / g.columnSpacing < (j : Int) ↔
      g.maxX - g.originX < j * g.columnSpacing := Int.ediv_lt_iff_lt_mul g.columnSpacing_pos
  rw [Int.mul_comm (j : Int)] at hdiv
  rw [columns, Nat.max_le]
  omega

/-- Behind the last column of a row comes the first one of the next row. -/
lemma pointAt_succ_of_last {k : Nat} (h : g.columns ≤ k % g.columns + 1) :
    g.pointAt (k + 1) = ⟨.int g.originX, .int (g.yAt k + g.rowSpacing)⟩ := by
  have hlt : k % g.columns < g.columns := Nat.mod_lt k g.columns_pos
  have hsum : 0 + g.columns * (k / g.columns + 1) = k + 1 := by
    have := Nat.div_add_mod k g.columns
    rw [Nat.mul_add_one]
    omega
  obtain ⟨hdiv, hmod⟩ := (Nat.div_mod_unique g.columns_pos).2 ⟨hsum, g.columns_pos⟩
  rw [pointAt, xAt, yAt, hdiv, hmod, yAt, Nat.cast_add, Nat.cast_one, Int.mul_add, Int.mul_one,
    Int.add_assoc, Int.natCast_zero, Int.mul_zero, Int.add_zero]

/-- Any other point has the next one to its right. -/
lemma pointAt_succ_of_lt {k : Nat} (h : k % g.columns + 1 < g.columns) :
    g.pointAt (k + 1) = ⟨.int (g.xAt k + g.columnSpacing), .int (g.yAt k)⟩ := by
  have hsum : k % g.columns + 1 + g.columns * (k / g.columns) = k + 1 := by
    have := Nat.div_add_mod k g.columns
    omega
  obtain ⟨hdiv, hmod⟩ := (Nat.div_mod_unique g.columns_pos).2 ⟨hsum, h⟩
  rw [pointAt, xAt, yAt, hdiv, hmod, xAt, yAt, Nat.cast_add, Nat.cast_one, Int.mul_add,
    Int.mul_one, Int.add_assoc]

/-- Whether a step to the right stays within the limit is whether there is another column. -/
lemma exceeds_step (k : Nat) :
    Measure.exceeds (.int (g.xAt k + g.columnSpacing)) (.int g.maxX) =
      .ok (decide (g.columns ≤ k % g.columns + 1)) := by
  have hstep : g.xAt k + g.columnSpacing =
      g.originX + g.columnSpacing * ((k % g.columns + 1 : Nat) : Int) := by
    rw [xAt, Nat.cast_add, Nat.cast_one, Int.mul_add, Int.mul_one, Int.add_assoc]
  have hlimit := g.maxX_lt_iff (Nat.succ_pos (k % g.columns))
  have hscale : (g.maxX * (Binary64.unitsOfOne : Int) <
      (g.xAt k + g.columnSpacing) * (Binary64.unitsOfOne : Int)) ↔
      g.maxX < g.xAt k + g.columnSpacing :=
    Int.mul_lt_mul_right (Int.natCast_pos.2 Binary64.unitsOfOne_pos)
  rw [← hstep] at hlimit
  exact congrArg Except.ok (decide_eq_decide.2 (hscale.trans hlimit))

/-- The points follow each other without a failure. -/
lemma next_pointAt (k : Nat) : g.toGrid.next (g.pointAt k) = .ok (g.pointAt (k + 1)) := by
  have hright : Measure.add (g.pointAt k).x g.toGrid.columnSpacing =
      .ok (.int (g.xAt k + g.columnSpacing)) := rfl
  have hdown : Measure.add (g.pointAt k).y g.toGrid.rowSpacing =
      .ok (.int (g.yAt k + g.rowSpacing)) := rfl
  have hlimit : Measure.exceeds (.int (g.xAt k + g.columnSpacing)) g.toGrid.maxX = _ :=
    g.exceeds_step k
  rw [Grid.next, hright, hdown]
  dsimp only
  rw [hlimit]
  by_cases hlast : g.columns ≤ k % g.columns + 1
  · rw [decide_eq_true hlast, g.pointAt_succ_of_last hlast]
    rfl
  · rw [decide_eq_false hlast, g.pointAt_succ_of_lt (Nat.lt_of_not_le hlast)]
    rfl

/-- The points lie in so many steps from the first one. -/
lemma toGrid_pointAt (k : Nat) : g.toGrid.pointAt k = .ok (g.pointAt k) := by
  induction k with
  | zero => simp [Grid.pointAt, Grid.start, pointAt, xAt, yAt, toGrid]
  | succ k ih =>
    rw [Grid.pointAt, ih]
    exact g.next_pointAt k

/-! ## Positions -/

/-- A point whose coordinates are finite numbers is a position. -/
lemma position_pointAt {k : Nat} (hx : (Binary64.ofInt (g.xAt k)).isFinite = true)
    (hy : (Binary64.ofInt (g.yAt k)).isFinite = true) :
    (g.pointAt k).position = .ok (g.positionAt k) := by
  have hxNumber : Scalar.number (g.pointAt k).x = .ok (Binary64.ofInt (g.xAt k)) := if_pos hx
  have hyNumber : Scalar.number (g.pointAt k).y = .ok (Binary64.ofInt (g.yAt k)) := if_pos hy
  rw [Grid.Point.position, hxNumber, hyNumber]
  rfl

/-- The positions of a grid whose coordinates are finite numbers. -/
lemma positions_toGrid {count : Nat}
    (h : ∀ k < count, (Binary64.ofInt (g.xAt k)).isFinite = true ∧
      (Binary64.ofInt (g.yAt k)).isFinite = true) :
    g.toGrid.positions count = .ok ((List.range count).map g.positionAt) := by
  refine Grid.positions_eq_ok_iff.2 ⟨by simp, fun k hk => ?_⟩
  rw [List.length_map, List.length_range] at hk
  obtain ⟨hx, hy⟩ := h k hk
  rw [List.getElem_map, List.getElem_range, Grid.positionAt_of_pointAt (g.toGrid_pointAt k),
    g.position_pointAt hx hy]

/-! ## Rows -/

/-- The number of columns is found by dividing what there is to the right of the origin, rounding
down. -/
lemma columns_eq :
    (g.columns : Int) = max 1 ((g.maxX - g.originX).fdiv g.columnSpacing + 1) := by
  rw [Int.fdiv_eq_ediv_of_nonneg _ g.columnSpacing_pos.le, columns]
  omega

/-- No column but the first of a row lies beyond the limit. -/
lemma xAt_le_maxX {k : Nat} (h : k % g.columns ≠ 0) : g.xAt k ≤ g.maxX := by
  have hlt : k % g.columns < g.columns := Nat.mod_lt k g.columns_pos
  have hlimit := g.maxX_lt_iff (Nat.pos_of_ne_zero h)
  rw [← xAt] at hlimit
  omega

/-- A row ends only where one more column would lie beyond the limit. -/
lemma maxX_lt_xAt_add {k : Nat} (h : k % g.columns + 1 = g.columns) :
    g.maxX < g.xAt k + g.columnSpacing := by
  have hlimit := (g.maxX_lt_iff g.columns_pos).2 le_rfl
  rw [xAt, Int.add_assoc, ← mul_add_one, ← Nat.cast_add_one, h]
  exact hlimit

/-- Where rows follow each other, up or down, no two points are the same. -/
lemma pointAt_injective (h : g.rowSpacing ≠ 0) : Function.Injective g.pointAt := by
  intro j k hjk
  have hx : g.xAt j = g.xAt k := Json.int.inj (congrArg Grid.Point.x hjk)
  have hy : g.yAt j = g.yAt k := Json.int.inj (congrArg Grid.Point.y hjk)
  have hcolumn : j % g.columns = k % g.columns :=
    Int.ofNat.inj (Int.eq_of_mul_eq_mul_left g.columnSpacing_pos.ne' (Int.add_left_cancel hx))
  have hrow : j / g.columns = k / g.columns :=
    Int.ofNat.inj (Int.eq_of_mul_eq_mul_left h (Int.add_left_cancel hy))
  rw [← Nat.div_add_mod j g.columns, hcolumn, hrow, Nat.div_add_mod]

/-- A grid of integers in closed form. With `c` columns, as many as fit but at least one, the point
of rank `k` lies in column `k % c` of row `k / c`, and the positions that are handed out are those
of these points. No column but the first of a row lies beyond the limit, a row ends only where one
more column would, and no two points are the same unless all rows lie at the same height. -/
theorem toGrid_closedForm :
    (g.columns : Int) = max 1 ((g.maxX - g.originX).fdiv g.columnSpacing + 1) ∧
    (∀ k, g.toGrid.pointAt k =
      .ok ⟨.int (g.originX + g.columnSpacing * (k % g.columns : Nat)),
        .int (g.originY + g.rowSpacing * (k / g.columns : Nat))⟩) ∧
    (∀ count, g.toGrid.positions count =
      (List.range count).mapM fun k => (g.toGrid.pointAt k).bind Grid.Point.position) ∧
    (∀ k, k % g.columns ≠ 0 → g.xAt k ≤ g.maxX) ∧
    (∀ k, k % g.columns + 1 = g.columns → g.maxX < g.xAt k + g.columnSpacing) ∧
    (g.rowSpacing ≠ 0 → Function.Injective g.toGrid.pointAt) := by
  refine ⟨g.columns_eq, g.toGrid_pointAt, g.toGrid.positions_eq_mapM, fun k => g.xAt_le_maxX,
    fun k => g.maxX_lt_xAt_add, fun h j k hjk => ?_⟩
  rw [g.toGrid_pointAt, g.toGrid_pointAt] at hjk
  exact g.pointAt_injective h (Except.ok.inj hjk)

/-- A grid to the left of the origin whose rows go up, and whose last column lies on the limit. -/
def leftward : WholeGrid where
  originX := -300
  originY := 100
  columnSpacing := 150
  rowSpacing := -40
  maxX := 0
  columnSpacing_pos := by decide

/-- The third column still belongs to the row, a fourth one does not, and the point behind it stands
in the row above. -/
theorem toGrid_closedForm_leftward :
    leftward.columns = 3 ∧
    (2 % leftward.columns ≠ 0 ∧ leftward.xAt 2 ≤ 0) ∧
    (2 % leftward.columns + 1 = leftward.columns ∧ 0 < leftward.xAt 2 + 150) ∧
    leftward.toGrid.pointAt 4 = .ok ⟨.int (-150), .int 60⟩ ∧
    (leftward.rowSpacing ≠ 0 ∧ Function.Injective leftward.toGrid.pointAt) := by
  obtain ⟨-, hpoint, -, hinside, hfilled, hinjective⟩ := leftward.toGrid_closedForm
  have hsecond : 2 % leftward.columns ≠ 0 := by decide
  have hthird : 2 % leftward.columns + 1 = leftward.columns := by decide
  have hrows : leftward.rowSpacing ≠ 0 := by decide
  exact ⟨by decide, ⟨hsecond, hinside 2 hsecond⟩, ⟨hthird, hfilled 2 hthird⟩, hpoint 4,
    hrows, hinjective hrows⟩

end WholeGrid

/-! ## The standard grid -/

namespace Grid

/-- The standard grid, whose measures are integers. -/
def wholeStandard : WholeGrid where
  originX := 100
  originY := 100
  columnSpacing := 200
  rowSpacing := 150
  maxX := 700
  columnSpacing_pos := by decide

/-- The position of a rank on the standard grid, which has four columns. -/
def standardPosition (k : Nat) : Position where
  x := Binary64.ofInt (100 + 200 * (k % 4 : Nat))
  y := Binary64.ofInt (100 + 150 * (k / 4 : Nat))

/-- The default settings ask for the standard grid. -/
lemma ofSettings_defaults (env : Environment) :
    ofSettings Settings.defaults env = .ok standard := by
  rfl

/-- The positions of the standard grid are in closed form for any number of points that a document
can have. -/
lemma standard_positions {count : Nat} (h : count ≤ 10 ^ 300) :
    standard.positions count = .ok ((List.range count).map standardPosition) := by
  have hbound : 200 * (10 ^ 300 + 1) < 2 ^ 1010 := by decide +kernel
  have hfinite : ∀ n : Int, n.natAbs ≤ 200 * (10 ^ 300 + 1) →
      (Binary64.ofInt n).isFinite = true := fun n hn =>
    Binary64.isFinite_ofInt (by decide) (Nat.lt_of_le_of_lt hn hbound)
  generalize 10 ^ 300 = most at h hfinite
  refine wholeStandard.positions_toGrid fun k hk => ⟨hfinite _ ?_, hfinite _ ?_⟩
  · have hx : wholeStandard.xAt k = 100 + 200 * (k % 4 : Nat) := rfl
    omega
  · have hy : wholeStandard.yAt k = 100 + 150 * (k / 4 : Nat) := rfl
    omega

end Grid

end EventPipeline
