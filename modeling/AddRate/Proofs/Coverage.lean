import AddRate.Grid
import AddRate.Proofs.Config
import Mathlib.Data.Set.Function

/-!
# Coverage of dispatches

A long row of workgroups is split into rows of one length, and a shader finds the index of its
work-item from its position in two dimensions, in 32 bits. Splitting adds fewer workgroups than
there are rows, so the padding of a dispatch whose results can be bound does not wrap around, and
every index is that of one invocation.
-/

namespace AddRate

/-! ## Splitting -/

section Rounding

variable (total : Nat) {rows : Nat}

theorem le_ceilDiv_mul (positive : 0 < rows) : total ≤ (total + rows - 1) / rows * rows := by
  have above := Nat.lt_div_mul_add (a := total + rows - 1) positive
  omega

theorem ceilDiv_mul_lt (positive : 0 < rows) :
    (total + rows - 1) / rows * rows < total + rows := by
  have below := Nat.div_mul_le_self (total + rows - 1) rows
  omega

end Rounding

theorem splitWorkgroups_of_le {total : Nat} (short : total ≤ maxWorkgroupsInRow) :
    splitWorkgroups total = ⟨total, 1, 1⟩ :=
  if_pos short

theorem splitWorkgroups_of_lt {total : Nat} (long : maxWorkgroupsInRow < total) :
    splitWorkgroups total =
      let rows := (total + maxWorkgroupsInRow - 1) / maxWorkgroupsInRow
      ⟨(total + rows - 1) / rows, rows, 1⟩ :=
  if_neg (Nat.not_le_of_lt long)

@[simp] theorem splitWorkgroups_z (total : Nat) : (splitWorkgroups total).z = 1 := by
  unfold splitWorkgroups
  split <;> rfl

/-- There are rows, but no more than workgroups. -/
theorem splitWorkgroups_y_bounds {total : Nat} (positive : 0 < total) :
    0 < (splitWorkgroups total).y ∧ (splitWorkgroups total).y ≤ total := by
  rcases Nat.lt_or_ge maxWorkgroupsInRow total with long | short
  · rw [splitWorkgroups_of_lt long]
    simp only [maxWorkgroupsInRow] at long ⊢
    omega
  · rw [splitWorkgroups_of_le short]
    exact ⟨Nat.one_pos, positive⟩

/-- The rows hold all workgroups, and fewer surplus ones than there are rows. -/
theorem splitWorkgroups_bounds {total : Nat} (positive : 0 < total) :
    let counts := splitWorkgroups total
    total ≤ counts.x * counts.y ∧ counts.x * counts.y < total + counts.y := by
  have rows := (splitWorkgroups_y_bounds positive).1
  rcases Nat.lt_or_ge maxWorkgroupsInRow total with long | short
  · rw [splitWorkgroups_of_lt long] at rows ⊢
    exact ⟨le_ceilDiv_mul total rows, ceilDiv_mul_lt total rows⟩
  · rw [splitWorkgroups_of_le short]
    simp

/-! ## Work-items -/

namespace WorkgroupCounts

/-- The positions of the invocations of a dispatch, for workgroups of a size. -/
def invocations (counts : WorkgroupCounts) (localSize : Nat) : Set (Nat × Nat) :=
  {position | position.1 < counts.x * localSize ∧ position.2 < counts.y}

/-- The index that a shader computes from the position of its invocation. -/
def workItem (counts : WorkgroupCounts) (localSize : Nat) (position : Nat × Nat) : Nat :=
  (position.1 + position.2 * counts.x * localSize) % UInt32.size

variable {counts : WorkgroupCounts} {localSize : Nat}

/-- Where the dispatch has at most `UInt32.size` invocations, indices do not wrap around. -/
theorem workItem_eq (fits : counts.x * localSize * counts.y ≤ UInt32.size) {position : Nat × Nat}
    (inside : position ∈ counts.invocations localSize) :
    counts.workItem localSize position =
      position.1 + position.2 * (counts.x * localSize) := by
  obtain ⟨column, row⟩ := inside
  have nextRow : (position.2 + 1) * (counts.x * localSize) ≤
      counts.y * (counts.x * localSize) := Nat.mul_le_mul_right _ row
  rw [Nat.succ_mul, Nat.mul_comm counts.y] at nextRow
  rw [workItem, Nat.mul_assoc]
  apply Nat.mod_eq_of_lt
  omega

theorem workItem_div (fits : counts.x * localSize * counts.y ≤ UInt32.size)
    {position : Nat × Nat} (inside : position ∈ counts.invocations localSize) :
    counts.workItem localSize position / (counts.x * localSize) = position.2 := by
  have width : 0 < counts.x * localSize := Nat.zero_lt_of_lt inside.1
  rw [workItem_eq fits inside, Nat.add_mul_div_right _ _ width, Nat.div_eq_of_lt inside.1,
    Nat.zero_add]

theorem workItem_mod (fits : counts.x * localSize * counts.y ≤ UInt32.size)
    {position : Nat × Nat} (inside : position ∈ counts.invocations localSize) :
    counts.workItem localSize position % (counts.x * localSize) = position.1 := by
  rw [workItem_eq fits inside, Nat.add_mul_mod_self_right, Nat.mod_eq_of_lt inside.1]

/-- Different invocations have different work-items. -/
theorem injOn_workItem (fits : counts.x * localSize * counts.y ≤ UInt32.size) :
    Set.InjOn (counts.workItem localSize) (counts.invocations localSize) := by
  intro left leftInside right rightInside same
  apply Prod.ext
  · rw [← workItem_mod fits leftInside, same, workItem_mod fits rightInside]
  · rw [← workItem_div fits leftInside, same, workItem_div fits rightInside]

/-- Every index below the number of invocations is that of an invocation. -/
theorem exists_workItem_eq (fits : counts.x * localSize * counts.y ≤ UInt32.size) {item : Nat}
    (within : item < counts.x * localSize * counts.y) :
    ∃ position ∈ counts.invocations localSize, counts.workItem localSize position = item := by
  have width : 0 < counts.x * localSize := Nat.pos_of_mul_pos_right (Nat.zero_lt_of_lt within)
  have inside : (item % (counts.x * localSize), item / (counts.x * localSize)) ∈
      counts.invocations localSize :=
    ⟨Nat.mod_lt _ width, Nat.div_lt_of_lt_mul within⟩
  refine ⟨_, inside, ?_⟩
  rw [workItem_eq fits inside]
  exact Nat.mod_add_div' _ _

end WorkgroupCounts

/-! ## Dispatches of accepted configurations -/

/-- A valid configuration has a whole number of workgroups, whichever way they are counted. -/
theorem Config.Valid.workgroups_eq {config : Config} (valid : config.Valid) :
    ∃ total, 0 < total ∧ total * config.localSize.toNat = config.threads.toNat ∧
      Grid.workgroups ⟨config.threads, config.localSize⟩ = .ok total ∧
      config.workgroups = .ok total := by
  have size := valid.localSize_pos
  obtain ⟨total, threads⟩ := valid.localSize_dvd
  have positive : 0 < total := by
    apply Nat.pos_of_mul_pos_left (a := config.localSize.toNat)
    rw [← threads]
    exact valid.threads_pos
  have roundedUp : (config.threads.toNat + config.localSize.toNat - 1) / config.localSize.toNat =
      total := by
    rw [threads, Nat.add_sub_assoc size, Nat.mul_add_div size,
      Nat.div_eq_of_lt (Nat.sub_lt size Nat.one_pos), Nat.add_zero]
  refine ⟨total, positive, ?_, ?_, ?_⟩
  · rw [threads, Nat.mul_comm]
  · rw [Grid.workgroups, Trap.ceilDiv_eq_ok _ (Nat.ne_of_gt size), roundedUp]
  · rw [Config.workgroups, Trap.div_eq_ok _ (Nat.ne_of_gt size), threads,
      Nat.mul_div_cancel_left _ size]

/-- Where the result buffer of an accepted configuration has less than `UInt32.size` bytes, every
work-item is that of exactly one invocation, and no two invocations have the same. -/
theorem existsUnique_workItem {threads localSize iterations : UInt32} {config : Config}
    (made : Config.make threads localSize iterations = .ok config)
    (bindable : 16 * config.threads.toNat < UInt32.size) :
    ∃ total, Grid.workgroups ⟨config.threads, config.localSize⟩ = .ok total ∧
      config.workgroups = .ok total ∧
      let counts := splitWorkgroups total
      let size := config.localSize.toNat
      counts.z = 1 ∧ Set.InjOn (counts.workItem size) (counts.invocations size) ∧
        ∀ item < config.threads.toNat,
          ∃! position, position ∈ counts.invocations size ∧ counts.workItem size position = item := by
  have valid := Config.valid_of_make made
  obtain ⟨total, positive, threads, grid, workgroups⟩ := valid.workgroups_eq
  obtain ⟨covered, padded⟩ := splitWorkgroups_bounds positive
  obtain ⟨-, rows⟩ := splitWorkgroups_y_bounds positive
  have count : (splitWorkgroups total).x * config.localSize.toNat * (splitWorkgroups total).y =
      (splitWorkgroups total).x * (splitWorkgroups total).y * config.localSize.toNat :=
    Nat.mul_right_comm _ _ _
  -- The padding at most doubles the invocations.
  have fits : (splitWorkgroups total).x * config.localSize.toNat * (splitWorkgroups total).y ≤
      UInt32.size := by
    have doubled : (splitWorkgroups total).x * (splitWorkgroups total).y *
        config.localSize.toNat ≤ (total + total) * config.localSize.toNat :=
      Nat.mul_le_mul_right _ (by omega)
    rw [count]
    rw [Nat.add_mul] at doubled
    omega
  have distinct := WorkgroupCounts.injOn_workItem fits
  refine ⟨total, grid, workgroups, splitWorkgroups_z total, distinct, ?_⟩
  intro item within
  have among : item <
      (splitWorkgroups total).x * config.localSize.toNat * (splitWorkgroups total).y := by
    rw [count]
    rw [← threads] at within
    exact Nat.lt_of_lt_of_le within (Nat.mul_le_mul_right _ covered)
  obtain ⟨position, inside, index⟩ := WorkgroupCounts.exists_workItem_eq fits among
  refine ⟨position, ⟨inside, index⟩, ?_⟩
  rintro other ⟨otherInside, otherIndex⟩
  exact distinct otherInside inside (otherIndex.trans index.symm)

/-- Three rows of workgroups with a surplus one, and the work-item in the middle. -/
theorem existsUnique_workItem_threeRows :
    Config.make 131072 1 2048 = .ok ⟨131072, 1, 2048, 4⟩ ∧ 16 * 131072 < UInt32.size ∧
      splitWorkgroups 131072 = ⟨43691, 3, 1⟩ ∧
      ∃ total, Grid.workgroups ⟨131072, 1⟩ = .ok total ∧
        ∃! position, position ∈ (splitWorkgroups total).invocations 1 ∧
          (splitWorkgroups total).workItem 1 position = 65536 := by
  have made : Config.make 131072 1 2048 = .ok ⟨131072, 1, 2048, 4⟩ := by decide
  have bindable : 16 * 131072 < UInt32.size := by decide
  obtain ⟨total, grid, -, -, -, unique⟩ := existsUnique_workItem made bindable
  exact ⟨made, bindable, by decide, total, grid, unique 65536 (by decide)⟩

end AddRate
