import LoadTest.Scalar

/-!
# Statistics of a list of figures

Mean, population standard deviation, percentiles with linear interpolation, outliers by z-score and
the correlation coefficient. Every function is total: the empty list has mean, deviation and
percentiles zero, and a constant list has no outliers and no correlation.
-/

namespace LoadTest

open Scalar

variable {α : Type} [Scalar α]

def mean (values : List α) : α :=
  if values.isEmpty then zero else sum values / ofCount values.length

/-- The population standard deviation, which divides by the number of values. -/
def standardDeviation (values : List α) : α :=
  if values.isEmpty then zero
  else
    let centre := mean values
    let squares := values.map fun v => (v - centre) * (v - centre)
    sqrt (sum squares / ofCount values.length)

/-- The value at percentile `p` of an ascending list: rank `p / 100 * (n - 1)`, interpolated between
the neighbouring ranks. Ranks past the end give the last value. -/
def percentile (sorted : List α) (p : α) : α :=
  let last := sorted.length - 1
  let rank := atLeast p zero / ofCount 100 * ofCount last
  let lower := whole rank
  if last ≤ lower then sorted.getLastD zero
  else
    let below := sorted.getD lower zero
    let above := sorted.getD (lower + 1) zero
    below + (above - below) * (rank - ofCount lower)

/-- A value that lies far from the mean of its list. -/
structure Outlier (α : Type) where
  index : Nat
  value : α
  zScore : α

/-- The values whose distance from the mean exceeds `threshold` standard deviations. -/
def outliers (values : List α) (threshold : α) : List (Outlier α) :=
  let deviation := standardDeviation values
  if same deviation zero then []
  else
    let centre := mean values
    values.zipIdx.filterMap fun (value, index) =>
      let zScore := abs (value - centre) / deviation
      if threshold < zScore then some { index, value, zScore } else none

/-- Running sums of products of deviations. -/
structure Moments (α : Type) where
  cross : α
  left : α
  right : α

/-- The correlation coefficient of two lists; zero where it is undefined. -/
def correlation (xs ys : List α) : α :=
  if xs.length ≠ ys.length || xs.isEmpty then zero
  else
    let centreX := mean xs
    let centreY := mean ys
    let moments := (xs.zip ys).foldl (fun (m : Moments α) (x, y) =>
      let dx := x - centreX
      let dy := y - centreY
      { cross := m.cross + dx * dy, left := m.left + dx * dx, right := m.right + dy * dy })
      { cross := zero, left := zero, right := zero }
    let scale := sqrt (moments.left * moments.right)
    if same scale zero then zero else moments.cross / scale

end LoadTest
