import Mathlib.Data.UInt
import Styller.Library.Slices

/-! The areas of combats: the cells around a centre, and how an area is turned and mirrored. -/

namespace Styller

open Library List

/-- `MatrixArea`. The cells are stored row by row, and the centre is a column and a row. -/
structure MatrixArea where
  arr : List Bool := []
  center : UInt32 × UInt32 := (0, 0)
  rows : UInt32 := 0
  cols : UInt32 := 0

namespace MatrixArea

def counts (bound : UInt32) : List UInt32 := (List.range bound.toNat).map UInt32.ofNat

/-- `std::slice`, of `uint32_t` values. -/
def slice (start size stride : UInt32) : Slice := ⟨start.toNat, size.toNat, stride.toNat⟩

variable (area : MatrixArea)

/-- `operator()`. -/
def get (row col : UInt32) : Bool := area.arr.getD (row * area.cols + col).toNat false

/-- A new array of the same size that slices of the array are copied to. -/
def copied (copies : List (Slice × Slice)) : List Bool :=
  Slice.copyAll false (List.replicate area.arr.length false) area.arr copies

def flip : MatrixArea where
  -- rows, top to bottom, from the current rows, bottom to top
  arr := area.copied ((counts area.rows).map fun i =>
    (slice (i * area.cols) area.cols 1, slice ((area.rows - i - 1) * area.cols) area.cols 1))
  center := (area.center.1, area.rows - area.center.2 - 1)
  rows := area.rows
  cols := area.cols

def mirror : MatrixArea where
  -- columns, left to right, from the current columns, right to left
  arr := area.copied ((counts area.cols).map fun i =>
    (slice i area.rows area.cols, slice (area.cols - i - 1) area.rows area.cols))
  center := (area.cols - area.center.1 - 1, area.center.2)
  rows := area.rows
  cols := area.cols

def rotate90 : MatrixArea where
  -- columns, left to right, from the current rows, bottom to top
  arr := area.copied ((counts area.rows).map fun i =>
    (slice i area.cols area.rows, slice ((area.rows - i - 1) * area.cols) area.cols 1))
  center := (area.rows - area.center.2 - 1, area.center.1)
  rows := area.cols
  cols := area.rows

def rotate180 : MatrixArea where
  arr := area.arr.reverse
  center := (area.cols - area.center.1 - 1, area.rows - area.center.2 - 1)
  rows := area.rows
  cols := area.cols

def rotate270 : MatrixArea where
  -- rows, top to bottom, from the current columns, right to left
  arr := area.copied ((counts area.cols).map fun i =>
    (slice (i * area.rows) area.rows 1, slice (area.cols - i - 1) area.rows area.cols))
  center := (area.center.2, area.cols - area.center.1 - 1)
  rows := area.cols
  cols := area.rows

/-- A value of `createArea` at its place: 1 and 3 are cells of the area, 2 and 3 the centre. -/
def mark (value x y : UInt32) : MatrixArea :=
  let area := if value = 1 ∨ value = 3 then { area with arr := area.arr.set (y * area.cols + x).toNat true } else area
  if value = 2 ∨ value = 3 then { area with center := (x, y) } else area

/-- `createArea`, with the position that the loop has come to. -/
def create (vec : List UInt32) (rows : UInt32) : MatrixArea :=
  let cols := if rows = 0 then 0 else UInt32.ofNat (vec.length / rows.toNat)
  let start : MatrixArea := { arr := List.replicate (rows * cols).toNat false, rows := rows, cols := cols }
  (vec.foldl (fun (state : MatrixArea × UInt32 × UInt32) (value : UInt32) =>
    let (area, x, y) := state
    if cols = x + 1 then (area.mark value x y, 0, y + 1) else (area.mark value x y, x + 1, y)) (start, 0, 0)).1

/-- An area as the constructor makes it, with as many cells as a `uint32_t` can count. -/
structure Whole : Prop where
  size : area.arr.length = area.rows.toNat * area.cols.toNat
  fits : area.rows.toNat * area.cols.toNat < 2 ^ 32

/-- The centre is a cell. -/
structure Centred : Prop where
  column : area.center.1 < area.cols
  row : area.center.2 < area.rows

theorem Whole.mark {area : MatrixArea} (whole : area.Whole) (value x y : UInt32) : (area.mark value x y).Whole := by
  have size := whole.size
  unfold MatrixArea.mark
  dsimp only
  split
  · split
    · exact ⟨(length_set ..).trans size, whole.fits⟩
    · exact ⟨size, whole.fits⟩
  · split
    · exact ⟨(length_set ..).trans size, whole.fits⟩
    · exact ⟨size, whole.fits⟩

/-- `createArea` makes such areas. -/
theorem whole_create {vec : List UInt32} (rows : UInt32) (fits : vec.length < 2 ^ 32) : (create vec rows).Whole := by
  have along : ∀ (values : List UInt32) (step : MatrixArea × UInt32 × UInt32 → UInt32 → MatrixArea × UInt32 × UInt32)
      (state : MatrixArea × UInt32 × UInt32), (∀ state value, state.1.Whole → (step state value).1.Whole) → state.1.Whole →
        (values.foldl step state).1.Whole := by
    intro values step state keeps
    induction values generalizing state with
    | nil => exact id
    | cons value values ih => exact fun whole => ih (step state value) (keeps state value whole)
  apply along
  · rintro ⟨area, x, y⟩ value whole
    dsimp only
    generalize (if rows = 0 then 0 else UInt32.ofNat (vec.length / rows.toNat)) = cols
    split
    · exact whole.mark value x y
    · exact whole.mark value x y
  · have cells : rows.toNat * (if rows = 0 then 0 else UInt32.ofNat (vec.length / rows.toNat)).toNat < 2 ^ 32 := by
      split
      · exact Nat.lt_of_le_of_lt (Nat.le_of_eq (Nat.mul_zero _)) (by decide)
      · have less := Nat.div_le_self vec.length rows.toNat
        rw [UInt32.toNat_ofNat_of_lt' (Nat.lt_of_le_of_lt less fits)]
        exact Nat.lt_of_le_of_lt (Nat.mul_div_le vec.length rows.toNat) fits
    refine ⟨?_, cells⟩
    rw [length_replicate, UInt32.toNat_mul, Nat.mod_eq_of_lt cells]

def cell (row col : Nat) : Bool := area.arr.getD (row * area.cols.toNat + col) false

section
variable {rows cols : UInt32} {i : Nat}

theorem toNat_count (below : i < rows.toNat) : (UInt32.ofNat i).toNat = i :=
  UInt32.toNat_ofNat_of_lt' (Nat.lt_trans below rows.toNat_lt)

/-- The last row, or column, less some. -/
theorem toNat_back (count : UInt32) (below : count.toNat < rows.toNat) : (rows - count - 1).toNat = rows.toNat - 1 - count.toNat := by
  have bound := rows.toNat_lt
  simp only [UInt32.toNat_sub, UInt32.toNat_one]
  omega

theorem toNat_place (below : i < rows.toNat) (fits : rows.toNat * cols.toNat < 2 ^ 32) {row : UInt32} (same : row.toNat = i) :
    (row * cols).toNat = i * cols.toNat := by
  rw [UInt32.toNat_mul, same, Nat.mod_eq_of_lt]
  exact Nat.lt_of_le_of_lt (Nat.mul_le_mul_right _ (Nat.le_of_lt below)) fits

/-- A loop whose indices do not wrap. -/
theorem map_counts {β : Type} {step : UInt32 → β} (plain : Nat → β)
    (same : ∀ i < rows.toNat, step (UInt32.ofNat i) = plain i) : (counts rows).map step = (List.range rows.toNat).map plain := by
  rw [counts, map_map]
  exact map_congr_left fun i member => same i (mem_range.mp member)

end

section
variable {area : MatrixArea} {row col : Nat}

theorem get_eq_cell (whole : area.Whole) {row col : UInt32} (below : row < area.rows) (within : col < area.cols) :
    area.get row col = area.cell row.toNat col.toNat := by
  rw [UInt32.lt_iff_toNat_lt] at below within
  have inside := place_lt below within
  have fits := whole.fits
  rw [get, cell, UInt32.toNat_add, UInt32.toNat_mul, Nat.mod_add_mod, Nat.mod_eq_of_lt (Nat.lt_trans inside fits)]

theorem length_copied (copies : List (Slice × Slice)) : (area.copied copies).length = area.arr.length := by
  rw [copied, Slice.length_copyAll, length_replicate]

theorem Whole.flip (whole : area.Whole) : area.flip.Whole := ⟨(length_copied _).trans whole.size, whole.fits⟩

theorem Whole.mirror (whole : area.Whole) : area.mirror.Whole := ⟨(length_copied _).trans whole.size, whole.fits⟩

theorem Whole.rotate90 (whole : area.Whole) : area.rotate90.Whole :=
  ⟨((length_copied _).trans whole.size).trans (Nat.mul_comm _ _), Nat.mul_comm area.rows.toNat _ ▸ whole.fits⟩

theorem Whole.rotate180 (whole : area.Whole) : area.rotate180.Whole :=
  ⟨length_reverse.trans whole.size, whole.fits⟩

theorem Whole.rotate270 (whole : area.Whole) : area.rotate270.Whole :=
  ⟨((length_copied _).trans whole.size).trans (Nat.mul_comm _ _), Nat.mul_comm area.rows.toNat _ ▸ whole.fits⟩

/-- The row, or column, that a loop over the back ones copies. -/
theorem toNat_back_count {bound : UInt32} {i : Nat} (below : i < bound.toNat) : (bound - UInt32.ofNat i - 1).toNat = bound.toNat - 1 - i := by
  have back := toNat_back (UInt32.ofNat i) (by rwa [toNat_count below] : (UInt32.ofNat i).toNat < bound.toNat)
  rwa [toNat_count below] at back

theorem cell_flip (whole : area.Whole) (below : row < area.rows.toNat) (within : col < area.cols.toNat) :
    area.flip.cell row col = area.cell (area.rows.toNat - 1 - row) col := by
  have fits := whole.fits
  simp only [cell, flip, copied]
  rw [map_counts (fun i => (⟨i * area.cols.toNat, area.cols.toNat, 1⟩,
    ⟨(area.rows.toNat - 1 - i) * area.cols.toNat, area.cols.toNat, 1⟩))]
  · rw [Slice.getD_copyAll_rows (length_replicate.trans whole.size) (fun _ _ => rfl) below within, Nat.mul_one]
  · intro i counted
    simp only [slice, toNat_place counted fits (toNat_count counted), toNat_place (by omega) fits (toNat_back_count counted),
      UInt32.toNat_one]

theorem cell_mirror (whole : area.Whole) (below : row < area.rows.toNat) (within : col < area.cols.toNat) :
    area.mirror.cell row col = area.cell row (area.cols.toNat - 1 - col) := by
  simp only [cell, mirror, copied]
  rw [map_counts (fun i => (⟨i, area.rows.toNat, area.cols.toNat⟩, ⟨area.cols.toNat - 1 - i, area.rows.toNat, area.cols.toNat⟩))]
  · rw [Slice.getD_copyAll_cols (length_replicate.trans whole.size) (fun _ _ => rfl) below within, Nat.add_comm]
  · intro i counted
    simp only [slice, toNat_count counted, toNat_back_count counted]

theorem cell_rotate90 (whole : area.Whole) (below : row < area.cols.toNat) (within : col < area.rows.toNat) :
    area.rotate90.cell row col = area.cell (area.rows.toNat - 1 - col) row := by
  have fits := whole.fits
  have size := whole.size.trans (Nat.mul_comm _ _)
  simp only [cell, rotate90, copied]
  rw [map_counts (fun i => (⟨i, area.cols.toNat, area.rows.toNat⟩,
    ⟨(area.rows.toNat - 1 - i) * area.cols.toNat, area.cols.toNat, 1⟩))]
  · rw [Slice.getD_copyAll_cols (length_replicate.trans size) (fun _ _ => rfl) below within, Nat.mul_one]
  · intro i counted
    simp only [slice, toNat_count counted, toNat_place (by omega) fits (toNat_back_count counted), UInt32.toNat_one]

theorem cell_rotate180 (whole : area.Whole) (below : row < area.rows.toNat) (within : col < area.cols.toNat) :
    area.rotate180.cell row col = area.cell (area.rows.toNat - 1 - row) (area.cols.toNat - 1 - col) := by
  have inside : row * area.cols.toNat + col < area.arr.length := whole.size ▸ place_lt below within
  have there : (area.rows.toNat - 1 - row) * area.cols.toNat + (area.cols.toNat - 1 - col) < area.arr.length :=
    whole.size ▸ place_lt (by omega) (by omega)
  have opposite : area.arr.length - 1 - (row * area.cols.toNat + col) =
      (area.rows.toNat - 1 - row) * area.cols.toNat + (area.cols.toNat - 1 - col) := by
    obtain ⟨rest, above⟩ := Nat.exists_eq_add_of_lt below
    have back : area.rows.toNat - 1 - row = rest := by omega
    rw [whole.size, back, above, Nat.succ_mul, Nat.add_mul]
    omega
  simp only [cell, rotate180]
  rw [getD_eq_getElem _ _ (by rwa [length_reverse]), getD_eq_getElem _ _ there, getElem_reverse]
  congr 1

theorem cell_rotate270 (whole : area.Whole) (below : row < area.cols.toNat) (within : col < area.rows.toNat) :
    area.rotate270.cell row col = area.cell col (area.cols.toNat - 1 - row) := by
  have fits : area.cols.toNat * area.rows.toNat < 2 ^ 32 := Nat.mul_comm area.rows.toNat _ ▸ whole.fits
  have size := whole.size.trans (Nat.mul_comm _ _)
  simp only [cell, rotate270, copied]
  rw [map_counts (fun i => (⟨i * area.rows.toNat, area.rows.toNat, 1⟩, ⟨area.cols.toNat - 1 - i, area.rows.toNat, area.cols.toNat⟩))]
  · rw [Slice.getD_copyAll_rows (length_replicate.trans size) (fun _ _ => rfl) below within, Nat.add_comm]
  · intro i counted
    simp only [slice, toNat_place counted fits (toNat_count counted), toNat_back_count counted, UInt32.toNat_one]

/-- An area is known by its size, its centre and its cells. -/
theorem ext_cells {first second : MatrixArea} (one : first.Whole) (two : second.Whole) (rows : first.rows = second.rows)
    (cols : first.cols = second.cols) (center : first.center = second.center)
    (cells : ∀ row < second.rows.toNat, ∀ col < second.cols.toNat, first.cell row col = second.cell row col) : first = second := by
  have size := one.size
  rw [rows, cols] at size
  have arr : first.arr = second.arr := by
    apply rectangle_ext size two.size
    intro row below col within
    have same := cells row below col within
    rwa [cell, cell, cols] at same
  cases first
  cases second
  cases rows
  cases cols
  cases center
  cases arr
  rfl

end

section
variable {area : MatrixArea}

theorem rotate90_rotate90 (whole : area.Whole) : area.rotate90.rotate90 = area.rotate180 := by
  apply ext_cells whole.rotate90.rotate90 whole.rotate180 rfl rfl rfl
  intro row below col within
  rw [cell_rotate90 whole.rotate90 below within, cell_rotate180 whole below within]
  have turned : area.rotate90.rows.toNat - 1 - col < area.cols.toNat := Nat.sub_one_sub_lt within
  exact cell_rotate90 whole turned below

theorem flip_mirror (whole : area.Whole) : area.mirror.flip = area.rotate180 := by
  apply ext_cells whole.mirror.flip whole.rotate180 rfl rfl rfl
  intro row below col within
  rw [cell_flip whole.mirror below within, cell_rotate180 whole below within]
  exact cell_mirror whole (Nat.sub_one_sub_lt below) within

/-- Twice from the other end. -/
theorem back_back (bound count : UInt32) : bound - (bound - count - 1) - 1 = count := by grind

theorem sub_sub_of_lt {bound count : Nat} (below : count < bound) : bound - 1 - (bound - 1 - count) = count := by omega

theorem flip_flip (whole : area.Whole) : area.flip.flip = area := by
  apply ext_cells whole.flip.flip whole rfl rfl (Prod.ext rfl (back_back area.rows area.center.2))
  intro row below col within
  rw [cell_flip whole.flip below within]
  exact (cell_flip whole (Nat.sub_one_sub_lt below) within).trans (congrArg (area.cell · col) (sub_sub_of_lt below))

theorem mirror_mirror (whole : area.Whole) : area.mirror.mirror = area := by
  apply ext_cells whole.mirror.mirror whole rfl rfl (Prod.ext (back_back area.cols area.center.1) rfl)
  intro row below col within
  rw [cell_mirror whole.mirror below within]
  exact (cell_mirror whole below (Nat.sub_one_sub_lt within)).trans (congrArg (area.cell row) (sub_sub_of_lt within))

theorem rotate180_rotate180 (whole : area.Whole) : area.rotate180.rotate180 = area := by
  apply ext_cells whole.rotate180.rotate180 whole rfl rfl
    (Prod.ext (back_back area.cols area.center.1) (back_back area.rows area.center.2))
  intro row below col within
  rw [cell_rotate180 whole.rotate180 below within]
  apply (cell_rotate180 whole (Nat.sub_one_sub_lt below) (Nat.sub_one_sub_lt within)).trans
  exact congrArg₂ area.cell (sub_sub_of_lt below) (sub_sub_of_lt within)

theorem rotate90_rotate180 (whole : area.Whole) : area.rotate180.rotate90 = area.rotate270 := by
  apply ext_cells whole.rotate180.rotate90 whole.rotate270 rfl rfl (Prod.ext (back_back area.rows area.center.2) rfl)
  intro row below col within
  rw [cell_rotate90 whole.rotate180 below within, cell_rotate270 whole below within]
  apply (cell_rotate180 whole (Nat.sub_one_sub_lt within) below).trans
  exact congrArg (area.cell · _) (sub_sub_of_lt within)

end

inductive Transform where
  | flip
  | mirror
  | rotate90
  | rotate180
  | rotate270

namespace Transform

def apply (area : MatrixArea) : Transform → MatrixArea
  | flip => area.flip
  | mirror => area.mirror
  | rotate90 => area.rotate90
  | rotate180 => area.rotate180
  | rotate270 => area.rotate270

/-- Where a cell of an area comes to, a column and a row. -/
def image (area : MatrixArea) : Transform → UInt32 × UInt32 → UInt32 × UInt32
  | flip, (x, y) => (x, area.rows - 1 - y)
  | mirror, (x, y) => (area.cols - 1 - x, y)
  | rotate90, (x, y) => (area.rows - 1 - y, x)
  | rotate180, (x, y) => (area.cols - 1 - x, area.rows - 1 - y)
  | rotate270, (x, y) => (y, area.cols - 1 - x)

variable {area : MatrixArea}

theorem whole_apply (whole : area.Whole) (transform : Transform) : (transform.apply area).Whole := by
  cases transform with
  | flip => exact whole.flip
  | mirror => exact whole.mirror
  | rotate90 => exact whole.rotate90
  | rotate180 => exact whole.rotate180
  | rotate270 => exact whole.rotate270

/-- From the other end. -/
theorem toNat_opposite {bound count : UInt32} (below : count < bound) :
    (bound - 1 - count).toNat = bound.toNat - 1 - count.toNat ∧ bound - 1 - count < bound := by
  have same : bound - 1 - count = bound - count - 1 := by grind
  rw [UInt32.lt_iff_toNat_lt] at below
  have back := toNat_back count below
  rw [same, UInt32.lt_iff_toNat_lt, back]
  exact ⟨rfl, Nat.sub_one_sub_lt below⟩

/-- The image of a cell is a cell. -/
theorem image_lt (transform : Transform) {x y : UInt32} (within : x < area.cols) (below : y < area.rows) :
    (transform.image area (x, y)).1 < (transform.apply area).cols ∧ (transform.image area (x, y)).2 < (transform.apply area).rows := by
  cases transform with
  | flip => exact ⟨within, (toNat_opposite below).2⟩
  | mirror => exact ⟨(toNat_opposite within).2, below⟩
  | rotate90 => exact ⟨(toNat_opposite below).2, within⟩
  | rotate180 => exact ⟨(toNat_opposite within).2, (toNat_opposite below).2⟩
  | rotate270 => exact ⟨below, (toNat_opposite within).2⟩

/-- The image of a cell has what the cell has. -/
theorem get_image (whole : area.Whole) (transform : Transform) {x y : UInt32} (within : x < area.cols) (below : y < area.rows) :
    (transform.apply area).get (transform.image area (x, y)).2 (transform.image area (x, y)).1 = area.get y x := by
  obtain ⟨within_image, below_image⟩ := image_lt transform within below
  rw [get_eq_cell (whole_apply whole transform) below_image within_image, get_eq_cell whole below within]
  obtain ⟨left, left_lt⟩ := toNat_opposite within
  obtain ⟨top, top_lt⟩ := toNat_opposite below
  rw [UInt32.lt_iff_toNat_lt] at within below left_lt top_lt
  cases transform with
  | flip =>
    apply (cell_flip whole top_lt within).trans
    rw [top, sub_sub_of_lt below]
  | mirror =>
    apply (cell_mirror whole below left_lt).trans
    rw [left, sub_sub_of_lt within]
  | rotate90 =>
    apply (cell_rotate90 whole within top_lt).trans
    rw [top, sub_sub_of_lt below]
  | rotate180 =>
    apply (cell_rotate180 whole top_lt left_lt).trans
    rw [top, left, sub_sub_of_lt below, sub_sub_of_lt within]
  | rotate270 =>
    apply (cell_rotate270 whole left_lt below).trans
    rw [left, sub_sub_of_lt within]

/-- The centre goes where its cell goes. -/
theorem center_apply (transform : Transform) : (transform.apply area).center = transform.image area area.center := by
  have same : ∀ bound count : UInt32, bound - count - 1 = bound - 1 - count := by grind
  cases transform with
  | flip => exact Prod.ext rfl (same _ _)
  | mirror => exact Prod.ext (same _ _) rfl
  | rotate90 => exact Prod.ext (same _ _) rfl
  | rotate180 => exact Prod.ext (same _ _) (same _ _)
  | rotate270 => exact Prod.ext rfl (same _ _)

theorem centred_apply (centred : area.Centred) (transform : Transform) : (transform.apply area).Centred := by
  obtain ⟨within, below⟩ := image_lt transform centred.column centred.row
  rw [← center_apply] at within below
  exact ⟨within, below⟩

end Transform

/-- The transforms are the symmetries of the rectangle. -/
theorem transforms_symmetries {area : MatrixArea} (whole : area.Whole) (centred : area.Centred) :
    area.rotate90.rotate90 = area.rotate180 ∧ area.rotate90.rotate90.rotate90 = area.rotate270 ∧
    area.rotate90.rotate90.rotate90.rotate90 = area ∧ area.flip.flip = area ∧ area.mirror.mirror = area ∧
    area.mirror.flip = area.rotate180 ∧
    ∀ transform : Transform,
      (∀ x y : UInt32, x < area.cols → y < area.rows →
        let (x', y') := transform.image area (x, y)
        x' < (transform.apply area).cols ∧ y' < (transform.apply area).rows ∧ (transform.apply area).get y' x' = area.get y x) ∧
      (transform.apply area).center = transform.image area area.center ∧ (transform.apply area).Centred := by
  have twice := rotate90_rotate90 whole
  refine ⟨twice, ?_, ?_, flip_flip whole, mirror_mirror whole, flip_mirror whole, fun transform => ⟨?_, ?_, ?_⟩⟩
  · rw [twice, rotate90_rotate180 whole]
  · rw [twice, rotate90_rotate90 whole.rotate180, rotate180_rotate180 whole]
  · intro x y within below
    obtain ⟨within_image, below_image⟩ := transform.image_lt within below
    exact ⟨within_image, below_image, transform.get_image whole within below⟩
  · exact transform.center_apply
  · exact transform.centred_apply centred

/-- The area of two rows with the centre in its corner. -/
theorem transforms_symmetries_corner :
    let area := create [0, 1, 3, 1, 0, 1] 2
    area.Whole ∧ area.Centred ∧ area.rotate90.rotate90 = area.rotate180 ∧ area.mirror.flip = area.rotate180 := by
  have whole : (create [0, 1, 3, 1, 0, 1] 2).Whole := whole_create 2 (by decide)
  have centred : (create [0, 1, 3, 1, 0, 1] 2).Centred := ⟨by decide, by decide⟩
  have symmetries := transforms_symmetries whole centred
  exact ⟨whole, centred, symmetries.1, symmetries.2.2.2.2.2.1⟩

end MatrixArea

end Styller
