import RobotLlm.Lib.Check
import RobotLlm.Lib.Exact
import RobotLlm.Hazard.ScanEvidence
import RobotLlm.Navigation.Contract
import RobotLlm.Odometry.VerifiedMotion

/-!
# Frames that are calibrated to each other

A robot's own frame is placed in a world frame by a turn and a shift. Both ways the
coordinates are rounded to whole millimetres. A conversion is only done for the frame
that was calibrated, and two calibrations compose where one ends in the frame the
other starts from.
-/

namespace RobotLlm.Frame

open RobotLlm.Lib
open RobotLlm.Navigation (identifierOk)
open RobotLlm.Odometry (normalizeHeadingMdeg)
open RobotLlm.Hazard (PhysicalPose)

def maxFrameCoordinateMm : Int := 1000000

def maxPositionUncertaintyMm : Int := 1000000

def maxYawUncertaintyMdeg : Int := 180000

structure FrameTransformError where
  code : String
  message : String

abbrev Checked := Except FrameTransformError

def identifier (value name : String) : Checked String :=
  if identifierOk value then .ok value else .error ⟨"invalid_frame_transform_identity", name ++ " is invalid"⟩

def integer (value : Int) (name : String) (minimum maximum : Int) : Checked Int :=
  if minimum ≤ value ∧ value ≤ maximum then .ok value else .error ⟨"invalid_frame_transform_value", name ++ " is invalid"⟩

def coordinate (value : Int) (name : String) : Checked Int :=
  integer value name (-maxFrameCoordinateMm) maxFrameCoordinateMm

def heading (value : Int) (name : String) : Checked Int := integer value name (-180000) 179999

structure SourceIdentity where
  sourceRobotId : String
  sourceControllerId : String
  sourceFrameId : String
  sourceGenerationId : String
deriving DecidableEq

structure WorldIdentity where
  worldFrameId : String
  worldGenerationId : String
deriving DecidableEq

structure FrameFields where
  source : SourceIdentity
  world : WorldIdentity
  txMm : Int
  tyMm : Int
  yawMdeg : Int
  positionUncertaintyMm : Int
  yawUncertaintyMdeg : Int
  provenance : List String

def invalidProvenance : FrameTransformError :=
  ⟨"invalid_frame_transform_provenance", "Frame transform provenance is invalid"⟩

def FrameFields.postInit (f : FrameFields) : Checked Unit := do
  let _ ← identifier f.source.sourceRobotId "source_robot_id"
  let _ ← identifier f.source.sourceControllerId "source_controller_id"
  let _ ← identifier f.source.sourceFrameId "source_frame_id"
  let _ ← identifier f.source.sourceGenerationId "source_generation_id"
  let _ ← identifier f.world.worldFrameId "world_frame_id"
  let _ ← identifier f.world.worldGenerationId "world_generation_id"
  let _ ← coordinate f.txMm "tx_mm"
  let _ ← coordinate f.tyMm "ty_mm"
  let _ ← heading f.yawMdeg "yaw_mdeg"
  let _ ← integer f.positionUncertaintyMm "position_uncertainty_mm" 0 maxPositionUncertaintyMm
  let _ ← integer f.yawUncertaintyMdeg "yaw_uncertainty_mdeg" 0 maxYawUncertaintyMdeg
  require (f.provenance ≠ [] ∧ f.provenance.length ≤ 32) invalidProvenance
  f.provenance.forM fun value => do
    let _ ← identifier value "provenance"
  require f.provenance.Nodup invalidProvenance

structure CalibratedFrameTransform extends FrameFields where
  built : toFrameFields.postInit = .ok ()

namespace CalibratedFrameTransform

/-- `CalibratedFrameTransform(..)`. -/
def new (f : FrameFields) : Checked CalibratedFrameTransform :=
  match h : f.postInit with
  | .ok () => .ok ⟨f, h⟩
  | .error e => .error e

variable (R : Type) [Field R] [LinearOrder R] [IsStrictOrderedRing R] [FloorRing R] [Trig R]

def rotate (xMm yMm yawMdeg : Int) : Int × Int :=
  let angle : R := radians (yawMdeg / 1000)
  let cosine := Trig.cos angle
  let sine := Trig.sin angle
  (roundEven (xMm * cosine - yMm * sine), roundEven (xMm * sine + yMm * cosine))

def requireSource (t : CalibratedFrameTransform) (presented : SourceIdentity) : Checked Unit :=
  require (presented = t.source) ⟨"source_frame_mismatch", "Source identity does not match frame calibration"⟩

def requireWorld (t : CalibratedFrameTransform) (presented : WorldIdentity) : Checked Unit :=
  require (presented = t.world) ⟨"world_frame_mismatch", "World identity does not match frame calibration"⟩

def toWorldPoint (t : CalibratedFrameTransform) (xMm yMm : Int) (presented : SourceIdentity) : Checked (Int × Int) := do
  t.requireSource presented
  let xMm ← coordinate xMm "x_mm"
  let yMm ← coordinate yMm "y_mm"
  let rotated := rotate R xMm yMm t.yawMdeg
  let worldX ← coordinate (t.txMm + rotated.1) "world_x_mm"
  let worldY ← coordinate (t.tyMm + rotated.2) "world_y_mm"
  pure (worldX, worldY)

def toWorldHeading (t : CalibratedFrameTransform) (headingMdeg : Int) (presented : SourceIdentity) : Checked Int := do
  t.requireSource presented
  let headingMdeg ← heading headingMdeg "heading_mdeg"
  pure (normalizeHeadingMdeg (headingMdeg + t.yawMdeg))

def toSourcePoint (t : CalibratedFrameTransform) (xMm yMm : Int) (presented : WorldIdentity) : Checked (Int × Int) := do
  t.requireWorld presented
  let worldX ← coordinate xMm "world_x_mm"
  let worldY ← coordinate yMm "world_y_mm"
  let source := rotate R (worldX - t.txMm) (worldY - t.tyMm) (-t.yawMdeg)
  let sourceX ← coordinate source.1 "source_x_mm"
  let sourceY ← coordinate source.2 "source_y_mm"
  pure (sourceX, sourceY)

def toSourceHeading (t : CalibratedFrameTransform) (headingMdeg : Int) (presented : WorldIdentity) : Checked Int := do
  t.requireWorld presented
  let headingMdeg ← heading headingMdeg "heading_mdeg"
  pure (normalizeHeadingMdeg (headingMdeg - t.yawMdeg))

/-- `then`: from the source of the first to the world of `outer`. -/
def andThen (t outer : CalibratedFrameTransform) : Checked CalibratedFrameTransform := do
  require (outer.source.sourceRobotId = t.source.sourceRobotId ∧
      outer.source.sourceControllerId = t.source.sourceControllerId ∧
      outer.source.sourceFrameId = t.world.worldFrameId ∧ outer.source.sourceGenerationId = t.world.worldGenerationId)
    ⟨"frame_transform_composition_mismatch", "Frame transforms do not share an intermediate identity"⟩
  let rotated := rotate R t.txMm t.tyMm outer.yawMdeg
  let txMm ← coordinate (outer.txMm + rotated.1) "composed_tx_mm"
  let tyMm ← coordinate (outer.tyMm + rotated.2) "composed_ty_mm"
  let positionUncertaintyMm ← integer (t.positionUncertaintyMm + outer.positionUncertaintyMm)
    "composed_position_uncertainty_mm" 0 maxPositionUncertaintyMm
  let yawUncertaintyMdeg ← integer (t.yawUncertaintyMdeg + outer.yawUncertaintyMdeg)
    "composed_yaw_uncertainty_mdeg" 0 maxYawUncertaintyMdeg
  new {
    source := t.source
    world := outer.world
    txMm, tyMm
    yawMdeg := normalizeHeadingMdeg (t.yawMdeg + outer.yawMdeg)
    positionUncertaintyMm, yawUncertaintyMdeg
    -- `dict.fromkeys` keeps the first of each.
    provenance := (t.provenance ++ outer.provenance).eraseDups }

end CalibratedFrameTransform

end RobotLlm.Frame
