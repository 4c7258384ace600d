import AddRate.Trap

/-!
# Dispatch grids

A dispatch covers its work-items with workgroups of one size. A device bounds the number of
workgroups in one dimension, so a long row of them is split into two dimensions.
-/

namespace AddRate

/-- Work-items in a row, in groups of one size. -/
structure Grid where
  globalSize : UInt32
  localSize : UInt32
  deriving DecidableEq, Repr

/-- Workgroups needed to cover every work-item. -/
def Grid.workgroups (grid : Grid) : Except Trap Nat :=
  Trap.ceilDiv grid.globalSize.toNat grid.localSize.toNat

/-- Numbers of workgroups in three dimensions. -/
structure WorkgroupCounts where
  x : Nat
  y : Nat
  z : Nat
  deriving DecidableEq, Repr

/-- The most workgroups that are put into one dimension. -/
def maxWorkgroupsInRow : Nat := 65535

/-- Workgroups split into as few rows as possible, all of the same length; the last row may hold
surplus workgroups. -/
def splitWorkgroups (total : Nat) : WorkgroupCounts :=
  if total ≤ maxWorkgroupsInRow then
    ⟨total, 1, 1⟩
  else
    let rows := (total + maxWorkgroupsInRow - 1) / maxWorkgroupsInRow
    ⟨(total + rows - 1) / rows, rows, 1⟩

end AddRate
