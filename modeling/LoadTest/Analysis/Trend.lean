import LoadTest.Json.Record
import LoadTest.Statistics

/-!
# Trends

The least-squares line through a series, read at its positions, and the direction that a series
takes over its most recent points.
-/

namespace LoadTest

open Scalar

/-- A line through the points of a series, and how much of their spread it explains. -/
structure LineFit (α : Type) where
  slope : α
  intercept : α
  rSquared : α

namespace LineFit

variable {α : Type} [Scalar α]

/-- The least-squares line through `(i, values[i])`. A flat series is explained not at all. -/
def ofValues (values : List α) : LineFit α :=
  if values.length < 2 then
    { slope := zero, intercept := values.headD zero, rSquared := zero }
  else
    let centreX := (ofCount values.length - ofCount 1) / ofCount 2
    let centreY := mean values
    let points := values.zipIdx
    let (cross, spreadX) := points.foldl (fun (cross, spread) (y, i) =>
      let dx := ofCount i - centreX
      (cross + dx * (y - centreY), spread + dx * dx)) ((zero : α), (zero : α))
    let slope := cross / spreadX
    let intercept := centreY - slope * centreX
    let spreadY := sum (values.map fun y => (y - centreY) * (y - centreY))
    let rSquared :=
      if same spreadY zero then zero
      else
        let residual := sum (points.map fun (y, i) =>
          let distance := y - (intercept + slope * ofCount i)
          distance * distance)
        clamp (ofCount 1 - residual / spreadY) zero (ofCount 1)
    { slope, intercept, rSquared }

end LineFit

inductive TrendDirection where
  | improving
  | stable
  | degrading
  deriving DecidableEq, Repr, Inhabited

namespace TrendDirection

def name : TrendDirection → String
  | .improving => "improving"
  | .stable => "stable"
  | .degrading => "degrading"

def cases : List (String × TrendDirection) :=
  [improving, stable, degrading].map fun d => (d.name, d)

end TrendDirection

/-- The trend of one figure. -/
structure Trend (α : Type) where
  metric : String
  direction : TrendDirection
  slope : α
  /-- How much of the spread the fitted line explains. -/
  confidence : α
  /-- The number of points that the line was fitted to. -/
  points : Nat
  deriving Inhabited

/-- No trend is fitted to fewer points. -/
def fewestTrendPoints : Nat := 3

namespace Trend

/-- The last `window` points of a series, at least as many as a trend needs. -/
def recent {α : Type} (series : List α) (window : Nat) : List α :=
  series.drop (series.length - max window fewestTrendPoints)

/-- Fits a trend to the last `window` points of a series. -/
def ofSeries? {α : Type} [Scalar α] (metric : String) (series : List α) (window : Nat)
    (slopeThreshold : α) (lowerIsBetter : Bool) : Option (Trend α) :=
  let recent := recent series window
  if recent.length < fewestTrendPoints then none
  else
    let fit := LineFit.ofValues recent
    let gain := if lowerIsBetter then -fit.slope else fit.slope
    let direction :=
      if slopeThreshold < gain then .improving
      else if gain < -slopeThreshold then .degrading
      else .stable
    some { metric, direction, slope := fit.slope, confidence := fit.rSquared,
           points := recent.length }

def toJson (t : Trend Float) : Json :=
  .obj
    [("metric", .str t.metric),
     ("direction", .str t.direction.name),
     ("slope", .ofFloat t.slope),
     ("confidence", .ofFloat t.confidence),
     ("points", .nat t.points)]

def ofJson? (j : Json) : Option (Trend Float) := do
  let [metric, direction, slope, confidence, points] ←
    Json.slots? ["metric", "direction", "slope", "confidence", "points"] j | none
  return {
    metric := ← metric.required Json.text?
    direction := ← direction.required (Json.choice? TrendDirection.cases)
    slope := ← slope.required Json.float?
    confidence := ← confidence.required Json.float?
    points := ← points.required Json.word? }

end Trend

end LoadTest
