import AddRate.Proofs.Coverage

/-!
# Limits of a split

Workgroups are split so that no dimension is longer than a device allows. A row never is. The
number of rows is within the limit wherever any grid of two dimensions within it could hold the
workgroups, and the workgroups with the surplus ones fit 32 bits even where none could.
-/

namespace AddRate

theorem ceilDiv_le_iff {total rows bound : Nat} (positive : 0 < rows) :
    (total + rows - 1) / rows ≤ bound ↔ total ≤ bound * rows := by
  rw [Nat.div_le_iff_le_mul_add_pred positive, Nat.mul_comm rows]
  omega

/-- There are as many rows as workgroups in full rows need. -/
theorem splitWorkgroups_y_le_iff {total bound : Nat} (positive : 0 < bound) :
    (splitWorkgroups total).y ≤ bound ↔ total ≤ bound * maxWorkgroupsInRow := by
  rcases Nat.lt_or_ge maxWorkgroupsInRow total with long | short
  · rw [splitWorkgroups_of_lt long]
    exact ceilDiv_le_iff (by decide)
  · rw [splitWorkgroups_of_le short]
    have oneRow : maxWorkgroupsInRow ≤ bound * maxWorkgroupsInRow :=
      Nat.le_mul_of_pos_left _ positive
    exact iff_of_true positive (Nat.le_trans short oneRow)

/-- Rows of equal length are no longer than full rows. -/
theorem splitWorkgroups_x_le (total : Nat) : (splitWorkgroups total).x ≤ maxWorkgroupsInRow := by
  rcases Nat.lt_or_ge maxWorkgroupsInRow total with long | short
  · have rows := (splitWorkgroups_y_bounds (Nat.zero_lt_of_lt long)).1
    have held : total ≤ (splitWorkgroups total).y * maxWorkgroupsInRow :=
      (splitWorkgroups_y_le_iff rows).mp (Nat.le_refl _)
    rw [Nat.mul_comm] at held
    rw [splitWorkgroups_of_lt long] at rows held ⊢
    exact (ceilDiv_le_iff rows).mpr held
  · rw [splitWorkgroups_of_le short]
    exact short

/-- No grid of two dimensions within the limit holds more workgroups than the largest square. -/
theorem exists_grid_within_iff (total : Nat) :
    (∃ columns rows, columns ≤ maxWorkgroupsInRow ∧ rows ≤ maxWorkgroupsInRow ∧
        total ≤ columns * rows) ↔
      total ≤ maxWorkgroupsInRow * maxWorkgroupsInRow := by
  constructor
  · rintro ⟨columns, rows, columnsWithin, rowsWithin, held⟩
    exact Nat.le_trans held (Nat.mul_le_mul columnsWithin rowsWithin)
  · intro held
    exact ⟨_, _, Nat.le_refl _, Nat.le_refl _, held⟩

/-- Any number of workgroups is split into rows within the limit that hold all of them and fewer
surplus ones than there are rows. The number of rows is within the limit, too, exactly if some grid
of two dimensions within it can hold the workgroups. -/
theorem splitWorkgroups_withinLimit (total : UInt32) :
    let workgroups := total.toNat
    let counts := splitWorkgroups workgroups
    counts.x ≤ maxWorkgroupsInRow ∧ counts.z = 1 ∧
      (counts.y ≤ maxWorkgroupsInRow ↔
        ∃ columns rows, columns ≤ maxWorkgroupsInRow ∧ rows ≤ maxWorkgroupsInRow ∧
          workgroups ≤ columns * rows) ∧
      workgroups ≤ counts.x * counts.y ∧ counts.x * counts.y < UInt32.size ∧
      counts.x * counts.y - workgroups < counts.y ∧
      (workgroups ≤ maxWorkgroupsInRow → counts = ⟨workgroups, 1, 1⟩) := by
  intro workgroups counts
  have row : counts.x ≤ maxWorkgroupsInRow := splitWorkgroups_x_le workgroups
  -- The largest number of 32 bits fills 65537 full rows.
  have rows : counts.y ≤ 65537 := by
    rw [splitWorkgroups_y_le_iff (by decide)]
    exact Nat.le_of_lt_succ total.toNat_lt
  have bounds : workgroups ≤ counts.x * counts.y ∧ counts.x * counts.y < workgroups + counts.y := by
    rcases Nat.eq_zero_or_pos workgroups with none | positive
    · simp [counts, none, splitWorkgroups]
    · exact splitWorkgroups_bounds positive
  refine ⟨row, splitWorkgroups_z _, ?_, bounds.1, ?_, by omega, splitWorkgroups_of_le⟩
  · rw [exists_grid_within_iff]
    exact splitWorkgroups_y_le_iff (by decide)
  · calc counts.x * counts.y ≤ maxWorkgroupsInRow * 65537 := Nat.mul_le_mul row rows
      _ < UInt32.size := by decide

/-- One workgroup more than the largest square holds is split into too many rows. -/
theorem splitWorkgroups_beyondLimit :
    let total : UInt32 := 4294836226
    let counts := splitWorkgroups total.toNat
    counts = ⟨65535, 65536, 1⟩ ∧ ¬counts.y ≤ maxWorkgroupsInRow := by
  decide

end AddRate
