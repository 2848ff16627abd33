import Mathlib.Algebra.Order.Ring.Int
import Mathlib.Data.List.Lex
import Mathlib.Data.List.Sort
import Mathlib.Data.Prod.Lex
import RobotLlm.Hazard.ScanEvidence
import RobotLlm.Lib.Dict

/-!
# Where a scan looks again

Between two neighbouring rays of which one was blocked and the other was not, a
scan looks once more, halfway between them. The bearings to be looked at are
visited in one sweep, up or down, whichever is shorter with the way back to the
start heading.
-/

namespace RobotLlm.Scan

open RobotLlm.Lib

structure ActiveIrRay extends Hazard.ScanRayEvidence where
  ordinal : Int
  observedAtMs : Int
  stateVersion : Int
  sequence_valid : 0 < ordinal ∧ 0 ≤ observedAtMs ∧ 0 < stateVersion
deriving DecidableEq

/-- The rays of a scan by the bearings that were asked for. -/
def byBearing (rays : List ActiveIrRay) : Dict Int ActiveIrRay :=
  rays.foldl (fun d item => d.set item.requestedRelativeBearingMdeg item) Dict.empty

/-- `int(round(total / 2.0))`: half of an odd number goes to the even side. -/
def roundedHalf (total : Int) : Int :=
  if total % 2 = 0 ∨ total / 2 % 2 = 0 then total / 2 else total / 2 + 1

/-- What one pair of neighbours adds to the candidates, a set as a list. -/
def addMidpoint (rays : Dict Int ActiveIrRay) (fineStepMdeg : Int) (candidates : List Int) (pair : Int × Int) : List Int :=
  let (left, right) := pair
  if (rays.get? left).map (·.blocked) = (rays.get? right).map (·.blocked) then candidates
  else if right - left ≤ fineStepMdeg then candidates
  else
    let midpoint := roundedHalf (left + right)
    if midpoint ∈ rays.keys then candidates else candidates.insert midpoint

/-- `sorted(by_bearing)`. -/
def sortedOffsets (rays : Dict Int ActiveIrRay) : List Int := rays.keys.insertionSort (· ≤ ·)

def midpointCandidates (rays : List ActiveIrRay) (fineStepMdeg : Int) : List Int :=
  let offsets := sortedOffsets (byBearing rays)
  (offsets.zip offsets.tail).foldl (addMidpoint (byBearing rays) fineStepMdeg) []

/-- `restoring_travel`, as the loop goes. -/
def restoringTravel (currentOffsetMdeg : Int) (schedule : List Int) : Int :=
  let (previous, distance) := schedule.foldl (fun (previous, distance) target => (target, distance + |target - previous|))
    (currentOffsetMdeg, 0)
  distance + |previous|

def sweepKey (currentOffsetMdeg : Int) (schedule : List Int) : Lex (Int × Lex (Int × List Int)) :=
  toLex (restoringTravel currentOffsetMdeg schedule,
    toLex (|schedule.headD 0 - currentOffsetMdeg|, schedule))

def transitionMidpoints (rays : List ActiveIrRay) (fineStepMdeg currentOffsetMdeg : Int) : List Int :=
  let ascending := (midpointCandidates rays fineStepMdeg).insertionSort (· ≤ ·)
  let descending := ascending.reverse
  if ascending = [] then []
  else if sweepKey currentOffsetMdeg descending < sweepKey currentOffsetMdeg ascending then descending
  else ascending

end RobotLlm.Scan
