import RobotLlm.Frame.SharedFrameTransform
import RobotLlm.Lib.Rotation

/-!
# There and back, and one frame after the other

A conversion rounds each coordinate once. The next one turns that error and rounds
again, so that two coordinates which should agree differ by less than the sum of the
turned and the new errors; between integers that leaves one millimetre of a round
trip and two of a composition. Headings only wrap, and agree exactly.
-/

namespace RobotLlm.Frame.CalibratedFrameTransform

open RobotLlm.Lib RobotLlm.Lib.Rotation
open RobotLlm.Odometry (normalizeHeadingMdeg)

-- What a conversion answers

theorem integer_ok {value v minimum maximum : Int} {name : String} (h : integer value name minimum maximum = .ok v) :
    v = value ∧ minimum ≤ value ∧ value ≤ maximum := by
  unfold integer at h
  split at h
  next hrange =>
    cases h
    exact ⟨rfl, hrange⟩
  next => cases h

variable {t inner outer both : CalibratedFrameTransform} {xMm yMm headingMdeg answer : Int} {p : Int × Int}
  {source : SourceIdentity} {world : WorldIdentity}

theorem toWorldPoint_ok (h : t.toWorldPoint ℝ xMm yMm source = .ok p) :
    p.1 = t.txMm + (rotate ℝ xMm yMm t.yawMdeg).1 ∧ p.2 = t.tyMm + (rotate ℝ xMm yMm t.yawMdeg).2 := by
  unfold toWorldPoint requireSource at h
  rw [require_bind_ok_iff] at h
  obtain ⟨-, h⟩ := h
  rw [bind_ok_iff] at h
  obtain ⟨x, hx, h⟩ := h
  rw [bind_ok_iff] at h
  obtain ⟨y, hy, h⟩ := h
  obtain rfl := (integer_ok hx).1
  obtain rfl := (integer_ok hy).1
  dsimp only at h
  rw [bind_ok_iff] at h
  obtain ⟨wx, hwx, h⟩ := h
  rw [bind_ok_iff] at h
  obtain ⟨wy, hwy, h⟩ := h
  cases h
  exact ⟨(integer_ok hwx).1, (integer_ok hwy).1⟩

theorem toSourcePoint_ok (h : t.toSourcePoint ℝ xMm yMm world = .ok p) :
    p = rotate ℝ (xMm - t.txMm) (yMm - t.tyMm) (-t.yawMdeg) := by
  unfold toSourcePoint requireWorld at h
  rw [require_bind_ok_iff] at h
  obtain ⟨-, h⟩ := h
  rw [bind_ok_iff] at h
  obtain ⟨x, hx, h⟩ := h
  rw [bind_ok_iff] at h
  obtain ⟨y, hy, h⟩ := h
  obtain rfl := (integer_ok hx).1
  obtain rfl := (integer_ok hy).1
  dsimp only at h
  rw [bind_ok_iff] at h
  obtain ⟨sx, hsx, h⟩ := h
  rw [bind_ok_iff] at h
  obtain ⟨sy, hsy, h⟩ := h
  cases h
  exact Prod.ext (integer_ok hsx).1 (integer_ok hsy).1

theorem toWorldHeading_ok (h : t.toWorldHeading headingMdeg source = .ok answer) :
    (-180000 ≤ headingMdeg ∧ headingMdeg ≤ 179999) ∧ answer = normalizeHeadingMdeg (headingMdeg + t.yawMdeg) := by
  unfold toWorldHeading requireSource at h
  rw [require_bind_ok_iff] at h
  obtain ⟨-, h⟩ := h
  rw [bind_ok_iff] at h
  obtain ⟨v, hv, h⟩ := h
  obtain ⟨rfl, hrange⟩ := integer_ok hv
  cases h
  exact ⟨hrange, rfl⟩

theorem toSourceHeading_ok (h : t.toSourceHeading headingMdeg world = .ok answer) :
    answer = normalizeHeadingMdeg (headingMdeg - t.yawMdeg) := by
  unfold toSourceHeading requireWorld at h
  rw [require_bind_ok_iff] at h
  obtain ⟨-, h⟩ := h
  rw [bind_ok_iff] at h
  obtain ⟨v, hv, h⟩ := h
  obtain ⟨rfl, -⟩ := integer_ok hv
  cases h
  rfl

theorem new_ok {f : FrameFields} (h : new f = .ok t) : t.toFrameFields = f := by
  unfold new at h
  split at h
  · cases h
    rfl
  · cases h

theorem andThen_ok (h : inner.andThen ℝ outer = .ok both) :
    both.txMm = outer.txMm + (rotate ℝ inner.txMm inner.tyMm outer.yawMdeg).1 ∧
    both.tyMm = outer.tyMm + (rotate ℝ inner.txMm inner.tyMm outer.yawMdeg).2 ∧
    both.yawMdeg = normalizeHeadingMdeg (inner.yawMdeg + outer.yawMdeg) := by
  unfold andThen at h
  rw [require_bind_ok_iff] at h
  obtain ⟨-, h⟩ := h
  dsimp only at h
  rw [bind_ok_iff] at h
  obtain ⟨tx, htx, h⟩ := h
  rw [bind_ok_iff] at h
  obtain ⟨ty, hty, h⟩ := h
  rw [bind_ok_iff] at h
  obtain ⟨position, -, h⟩ := h
  rw [bind_ok_iff] at h
  obtain ⟨yaw, -, h⟩ := h
  obtain rfl := (integer_ok htx).1
  obtain rfl := (integer_ok hty).1
  have hfields := new_ok h
  rw [hfields]
  exact ⟨rfl, rfl, rfl⟩

-- Angles and rounding

noncomputable def angleOf (yawMdeg : Int) : ℝ := radians ((yawMdeg : ℝ) / 1000)

theorem angleOf_neg (yawMdeg : Int) : angleOf (-yawMdeg) = -angleOf yawMdeg := by
  simp only [angleOf, radians]
  push_cast
  ring

theorem angleOf_add (a b : Int) : angleOf (a + b) = angleOf a + angleOf b := by
  simp only [angleOf, radians]
  push_cast
  ring

theorem rotate_error (xMm yMm yawMdeg : Int) : ∃ u v : ℝ, |u| ≤ 1 / 2 ∧ |v| ≤ 1 / 2 ∧
    ((rotate ℝ xMm yMm yawMdeg).1 : ℝ) = turnX (angleOf yawMdeg) xMm yMm + u ∧
    ((rotate ℝ xMm yMm yawMdeg).2 : ℝ) = turnY (angleOf yawMdeg) xMm yMm + v := by
  refine ⟨_, _, abs_roundEven_sub_le (turnX (angleOf yawMdeg) xMm yMm),
    abs_roundEven_sub_le (turnY (angleOf yawMdeg) xMm yMm), ?_, ?_⟩
  · rw [add_sub_cancel]
    rfl
  · rw [add_sub_cancel]
    rfl

theorem abs_sub_le_of_lt {a b n : Int} {e : ℝ} (h : (a : ℝ) - b = e) (herror : |e| < n + 1) : |a - b| ≤ n := by
  have hcast : ((|a - b| : Int) : ℝ) < n + 1 := by
    push_cast
    rw [h]
    exact herror
  exact Int.lt_add_one_iff.mp (by exact_mod_cast hcast)

-- There and back

theorem point_there_and_back {there back : Int × Int} (hthere : t.toWorldPoint ℝ xMm yMm source = .ok there)
    (hback : t.toSourcePoint ℝ there.1 there.2 world = .ok back) : |back.1 - xMm| ≤ 1 ∧ |back.2 - yMm| ≤ 1 := by
  obtain ⟨hx, hy⟩ := toWorldPoint_ok hthere
  obtain rfl := toSourcePoint_ok hback
  obtain ⟨u, v, hu, hv, hx₁, hy₁⟩ := rotate_error xMm yMm t.yawMdeg
  obtain ⟨u', v', hu', hv', hx₂, hy₂⟩ := rotate_error (there.1 - t.txMm) (there.2 - t.tyMm) (-t.yawMdeg)
  have hmoved : there.1 - t.txMm = (rotate ℝ xMm yMm t.yawMdeg).1 ∧ there.2 - t.tyMm = (rotate ℝ xMm yMm t.yawMdeg).2 := by
    constructor <;> omega
  have hangle : angleOf t.yawMdeg + -angleOf t.yawMdeg = 0 := by ring
  obtain ⟨herrorX, herrorY⟩ := abs_turn_le (a := -angleOf t.yawMdeg) hu hv
  rw [hmoved.1, hmoved.2] at hx₂ hy₂ ⊢
  constructor
  · apply abs_sub_le_of_lt (e := turnX (-angleOf t.yawMdeg) u v + u')
    · rw [hx₂, hx₁, hy₁, angleOf_neg, turnX_add, turnX_turn, hangle, turnX_zero]
      ring
    · have := abs_add_le (turnX (-angleOf t.yawMdeg) u v) u'
      push_cast
      linarith
  · apply abs_sub_le_of_lt (e := turnY (-angleOf t.yawMdeg) u v + v')
    · rw [hy₂, hx₁, hy₁, angleOf_neg, turnY_add, turnY_turn, hangle, turnY_zero]
      ring
    · have := abs_add_le (turnY (-angleOf t.yawMdeg) u v) v'
      push_cast
      linarith

theorem heading_there_and_back {there back : Int} (hthere : t.toWorldHeading headingMdeg source = .ok there)
    (hback : t.toSourceHeading there world = .ok back) : back = headingMdeg := by
  obtain ⟨hrange, rfl⟩ := toWorldHeading_ok hthere
  obtain rfl := toSourceHeading_ok hback
  unfold normalizeHeadingMdeg
  omega

-- One after the other

theorem point_composed {middle last direct : Int × Int} {source' source'' : SourceIdentity}
    (hboth : inner.andThen ℝ outer = .ok both) (hinner : inner.toWorldPoint ℝ xMm yMm source = .ok middle)
    (houter : outer.toWorldPoint ℝ middle.1 middle.2 source' = .ok last)
    (hdirect : both.toWorldPoint ℝ xMm yMm source'' = .ok direct) :
    |direct.1 - last.1| ≤ 2 ∧ |direct.2 - last.2| ≤ 2 := by
  obtain ⟨htx, hty, hyaw⟩ := andThen_ok hboth
  obtain ⟨hmx, hmy⟩ := toWorldPoint_ok hinner
  obtain ⟨hlx, hly⟩ := toWorldPoint_ok houter
  obtain ⟨hdx, hdy⟩ := toWorldPoint_ok hdirect
  obtain ⟨u₁, v₁, hu₁, hv₁, hx₁, hy₁⟩ := rotate_error xMm yMm inner.yawMdeg
  obtain ⟨u₂, v₂, hu₂, hv₂, hx₂, hy₂⟩ := rotate_error middle.1 middle.2 outer.yawMdeg
  obtain ⟨u₃, v₃, hu₃, hv₃, hx₃, hy₃⟩ := rotate_error inner.txMm inner.tyMm outer.yawMdeg
  obtain ⟨u₄, v₄, hu₄, hv₄, hx₄, hy₄⟩ := rotate_error xMm yMm both.yawMdeg
  obtain ⟨herrorX, herrorY⟩ := abs_turn_le (a := angleOf outer.yawMdeg) hu₁ hv₁
  have hmiddleX : (middle.1 : ℝ) = inner.txMm + (turnX (angleOf inner.yawMdeg) xMm yMm + u₁) := by
    rw [hmx, Int.cast_add, hx₁]
  have hmiddleY : (middle.2 : ℝ) = inner.tyMm + (turnY (angleOf inner.yawMdeg) xMm yMm + v₁) := by
    rw [hmy, Int.cast_add, hy₁]
  rw [hyaw] at hdx hdy hx₄ hy₄
  have hwrappedX : turnX (angleOf (normalizeHeadingMdeg (inner.yawMdeg + outer.yawMdeg))) xMm yMm = _ :=
    (turn_wrapped (inner.yawMdeg + outer.yawMdeg) xMm yMm).1
  have hwrappedY : turnY (angleOf (normalizeHeadingMdeg (inner.yawMdeg + outer.yawMdeg))) xMm yMm = _ :=
    (turn_wrapped (inner.yawMdeg + outer.yawMdeg) xMm yMm).2
  rw [hwrappedX, ← angleOf, angleOf_add] at hx₄
  rw [hwrappedY, ← angleOf, angleOf_add] at hy₄
  rw [hmiddleX, hmiddleY, turnX_add, turnX_add, turnX_turn] at hx₂
  rw [hmiddleX, hmiddleY, turnY_add, turnY_add, turnY_turn] at hy₂
  constructor
  · apply abs_sub_le_of_lt (e := u₃ + u₄ - turnX (angleOf outer.yawMdeg) u₁ v₁ - u₂)
    · rw [hdx, hlx, htx]
      push_cast
      rw [hx₄, hx₃, hx₂]
      ring
    · have h₁ := abs_le.mp herrorX
      have h₂ := abs_le.mp hu₂
      have h₃ := abs_le.mp hu₃
      have h₄ := abs_le.mp hu₄
      rw [abs_lt]
      push_cast
      constructor <;> linarith
  · apply abs_sub_le_of_lt (e := v₃ + v₄ - turnY (angleOf outer.yawMdeg) u₁ v₁ - v₂)
    · rw [hdy, hly, hty]
      push_cast
      rw [hy₄, hy₃, hy₂]
      ring
    · have h₁ := abs_le.mp herrorY
      have h₂ := abs_le.mp hv₂
      have h₃ := abs_le.mp hv₃
      have h₄ := abs_le.mp hv₄
      rw [abs_lt]
      push_cast
      constructor <;> linarith

theorem heading_composed {middle last direct : Int} {source' source'' : SourceIdentity}
    (hboth : inner.andThen ℝ outer = .ok both) (hinner : inner.toWorldHeading headingMdeg source = .ok middle)
    (houter : outer.toWorldHeading middle source' = .ok last)
    (hdirect : both.toWorldHeading headingMdeg source'' = .ok direct) : direct = last := by
  obtain ⟨-, -, hyaw⟩ := andThen_ok hboth
  obtain ⟨-, rfl⟩ := toWorldHeading_ok hinner
  obtain ⟨-, rfl⟩ := toWorldHeading_ok houter
  obtain ⟨-, rfl⟩ := toWorldHeading_ok hdirect
  rw [hyaw]
  unfold normalizeHeadingMdeg
  omega

/-- Points come back to within a millimetre and headings exactly; a composition agrees with its parts, one
after the other, to within two millimetres and exactly in the headings. -/
theorem conversions_agree :
    (∀ (t : CalibratedFrameTransform) (source : SourceIdentity) (world : WorldIdentity),
      (∀ (xMm yMm : Int) (there back : Int × Int), t.toWorldPoint ℝ xMm yMm source = .ok there →
        t.toSourcePoint ℝ there.1 there.2 world = .ok back → |back.1 - xMm| ≤ 1 ∧ |back.2 - yMm| ≤ 1) ∧
      ∀ headingMdeg there back : Int, t.toWorldHeading headingMdeg source = .ok there →
        t.toSourceHeading there world = .ok back → back = headingMdeg) ∧
    ∀ inner outer both : CalibratedFrameTransform, inner.andThen ℝ outer = .ok both →
      ∀ source source' source'' : SourceIdentity,
        (∀ (xMm yMm : Int) (middle last direct : Int × Int), inner.toWorldPoint ℝ xMm yMm source = .ok middle →
          outer.toWorldPoint ℝ middle.1 middle.2 source' = .ok last →
          both.toWorldPoint ℝ xMm yMm source'' = .ok direct → |direct.1 - last.1| ≤ 2 ∧ |direct.2 - last.2| ≤ 2) ∧
        ∀ headingMdeg middle last direct : Int, inner.toWorldHeading headingMdeg source = .ok middle →
          outer.toWorldHeading middle source' = .ok last → both.toWorldHeading headingMdeg source'' = .ok direct →
          direct = last :=
  ⟨fun _ _ _ => ⟨fun _ _ _ _ => point_there_and_back, fun _ _ _ => heading_there_and_back⟩,
    fun _ _ _ hboth _ _ _ => ⟨fun _ _ _ _ _ => point_composed hboth, fun _ _ _ _ => heading_composed hboth⟩⟩

-- A quarter turn

/-- A robot whose frame is turned to the left by a quarter. -/
def quarterTurn : CalibratedFrameTransform where
  source := ⟨"blast-01", "hub", "odometry", "boot-1"⟩
  world := ⟨"room", "survey-1"⟩
  txMm := 100
  tyMm := 50
  yawMdeg := 90000
  positionUncertaintyMm := 5
  yawUncertaintyMdeg := 1000
  provenance := ["tape-measure"]
  built := by rfl

theorem rotate_quarter (xMm yMm : Int) : rotate ℝ xMm yMm 90000 = (-yMm, xMm) := by
  have hangle : radians ((90000 : Int) / 1000 : ℝ) = Real.pi / 2 := by
    have hpi : Trig.pi = Real.pi := rfl
    rw [radians, hpi]
    push_cast
    ring
  have hcos : Trig.cos (Real.pi / 2) = 0 := Real.cos_pi_div_two
  have hsin : Trig.sin (Real.pi / 2) = 1 := Real.sin_pi_div_two
  unfold rotate
  simp only [hangle, hcos, hsin, mul_zero, mul_one, zero_sub, add_zero]
  rw [← Int.cast_neg, roundEven_intCast, roundEven_intCast]

theorem quarterTurn_world : quarterTurn.toWorldPoint ℝ 10 20 quarterTurn.source = .ok (80, 60) := by
  have hyaw : quarterTurn.yawMdeg = 90000 := rfl
  unfold toWorldPoint
  simp only [hyaw, rotate_quarter]
  rfl

theorem rotate_quarter_back (xMm yMm : Int) : rotate ℝ xMm yMm (-90000) = (yMm, -xMm) := by
  have hangle : radians ((-90000 : Int) / 1000 : ℝ) = -(Real.pi / 2) := by
    have hpi : Trig.pi = Real.pi := rfl
    rw [radians, hpi]
    push_cast
    ring
  have hcos : Trig.cos (Real.pi / 2) = 0 := Real.cos_pi_div_two
  have hsin : Trig.sin (Real.pi / 2) = 1 := Real.sin_pi_div_two
  unfold rotate
  simp only [hangle, cos_neg, sin_neg, hcos, hsin, mul_zero, mul_neg, mul_one, zero_sub, neg_neg, add_zero]
  rw [← Int.cast_neg, roundEven_intCast, roundEven_intCast]

theorem quarterTurn_source : quarterTurn.toSourcePoint ℝ 80 60 quarterTurn.world = .ok (10, 20) := by
  have hyaw : quarterTurn.yawMdeg = 90000 := rfl
  unfold toSourcePoint
  simp only [hyaw, rotate_quarter_back]
  rfl

theorem conversions_agree_quarter : |(10 : Int) - 10| ≤ 1 ∧ |(20 : Int) - 20| ≤ 1 :=
  (conversions_agree.1 quarterTurn quarterTurn.source quarterTurn.world).1 10 20 (80, 60) (10, 20)
    quarterTurn_world quarterTurn_source

-- Any number of frames

/-- A point through the frames, from the first one's source to the last one's world. -/
noncomputable def throughPoint : List CalibratedFrameTransform → Int × Int → Checked (Int × Int)
  | [], p => .ok p
  | t :: rest, p => do
    let next ← t.toWorldPoint ℝ p.1 p.2 t.source
    throughPoint rest next

/-- The way back. -/
noncomputable def returnPoint : List CalibratedFrameTransform → Int × Int → Checked (Int × Int)
  | [], p => .ok p
  | t :: rest, p => do
    let next ← returnPoint rest p
    t.toSourcePoint ℝ next.1 next.2 t.world

/-- The motion that the frames stand for, without rounding. -/
noncomputable def exactPoint : List CalibratedFrameTransform → ℝ × ℝ → ℝ × ℝ
  | [], p => p
  | t :: rest, p => exactPoint rest (t.txMm + turnX (angleOf t.yawMdeg) p.1 p.2, t.tyMm + turnY (angleOf t.yawMdeg) p.1 p.2)

/-- Turning and rounding once adds half the diagonal of a square millimetre. -/
theorem hypot_rounded {a x y u v e : ℝ} (h : hypot x y ≤ e) (hu : |u| ≤ 1 / 2) (hv : |v| ≤ 1 / 2) :
    hypot (turnX a x y + u) (turnY a x y + v) ≤ e + 71 / 100 := by
  have herror : hypot u v ≤ 71 / 100 := by
    rw [hypot_le_iff (by norm_num)]
    have := half_sq hu
    have := half_sq hv
    linarith
  have := hypot_add_le (turnX a x y) (turnY a x y) u v
  rw [hypot_turn] at this
  linarith

theorem turnX_sub (a x y u v : ℝ) : turnX a x y - turnX a u v = turnX a (x - u) (y - v) := by
  unfold turnX
  ring

theorem turnY_sub (a x y u v : ℝ) : turnY a x y - turnY a u v = turnY a (x - u) (y - v) := by
  unfold turnY
  ring

theorem throughPoint_error (frames : List CalibratedFrameTransform) : ∀ (p q : Int × Int) (exact : ℝ × ℝ) (e : ℝ),
    throughPoint frames p = .ok q → hypot (p.1 - exact.1) (p.2 - exact.2) ≤ e →
    hypot (q.1 - (exactPoint frames exact).1) (q.2 - (exactPoint frames exact).2) ≤ e + 71 / 100 * frames.length := by
  induction frames with
  | nil =>
    intro p q exact e h herror
    cases h
    simpa [exactPoint] using herror
  | cons t rest ih =>
    intro p q exact e h herror
    rw [throughPoint, bind_ok_iff] at h
    obtain ⟨next, hnext, h⟩ := h
    obtain ⟨hx, hy⟩ := toWorldPoint_ok hnext
    obtain ⟨u, v, hu, hv, hrx, hry⟩ := rotate_error p.1 p.2 t.yawMdeg
    refine (ih next q _ (e + 71 / 100) h ?_).trans_eq ?_
    · have hstep := hypot_rounded (a := angleOf t.yawMdeg) herror hu hv
      rw [← turnX_sub, ← turnY_sub] at hstep
      rw [hx, hy]
      push_cast
      rw [hrx, hry]
      convert hstep using 2 <;> ring
    · rw [List.length_cons]
      push_cast
      ring

theorem returnPoint_error (frames : List CalibratedFrameTransform) : ∀ (p q : Int × Int) (exact : ℝ × ℝ) (e : ℝ),
    returnPoint frames p = .ok q → hypot (p.1 - (exactPoint frames exact).1) (p.2 - (exactPoint frames exact).2) ≤ e →
    hypot (q.1 - exact.1) (q.2 - exact.2) ≤ e + 71 / 100 * frames.length := by
  induction frames with
  | nil =>
    intro p q exact e h herror
    cases h
    simpa [exactPoint] using herror
  | cons t rest ih =>
    intro p q exact e h herror
    rw [returnPoint, bind_ok_iff] at h
    obtain ⟨next, hnext, h⟩ := h
    have hbefore := ih p next _ e hnext herror
    obtain rfl := toSourcePoint_ok h
    obtain ⟨u, v, hu, hv, hrx, hry⟩ := rotate_error (next.1 - t.txMm) (next.2 - t.tyMm) (-t.yawMdeg)
    have hundo : turnX (angleOf (-t.yawMdeg)) (turnX (angleOf t.yawMdeg) exact.1 exact.2) (turnY (angleOf t.yawMdeg) exact.1 exact.2) = exact.1 ∧
        turnY (angleOf (-t.yawMdeg)) (turnX (angleOf t.yawMdeg) exact.1 exact.2) (turnY (angleOf t.yawMdeg) exact.1 exact.2) = exact.2 := by
      rw [turnX_turn, turnY_turn, angleOf_neg, add_neg_cancel, turnX_zero, turnY_zero]
      exact ⟨rfl, rfl⟩
    have hstep := hypot_rounded (a := angleOf (-t.yawMdeg)) hbefore hu hv
    rw [← sub_sub, ← sub_sub, ← turnX_sub, ← turnY_sub, hundo.1, hundo.2] at hstep
    push_cast at hrx hry
    rw [hrx, hry, List.length_cons, add_sub_right_comm, add_sub_right_comm]
    push_cast
    linarith

/-- Through any number of frames, and back through all of them, each frame adds at most half the diagonal of a square millimetre. -/
theorem frames_there_and_back (frames : List CalibratedFrameTransform) (p there back : Int × Int)
    (hthere : throughPoint frames p = .ok there) (hback : returnPoint frames there = .ok back) :
    hypot (there.1 - (exactPoint frames (p.1, p.2)).1) (there.2 - (exactPoint frames (p.1, p.2)).2) ≤ 71 / 100 * frames.length ∧
      hypot ((back.1 : ℝ) - p.1) (back.2 - p.2) ≤ 71 / 50 * frames.length := by
  have hstart : hypot ((p.1 : ℝ) - p.1) (p.2 - p.2) ≤ 0 := by
    rw [sub_self, sub_self, hypot_le_iff le_rfl]
    norm_num
  have hout := throughPoint_error frames p there (p.1, p.2) 0 hthere hstart
  have hin := returnPoint_error frames there back (p.1, p.2) _ hback hout
  rw [zero_add] at hout
  exact ⟨hout, hin.trans_eq (by ring)⟩

theorem frames_there_and_back_quarter :
    hypot ((80 : Int) - (exactPoint [quarterTurn] ((10 : Int), (20 : Int))).1) ((60 : Int) - (exactPoint [quarterTurn] ((10 : Int), (20 : Int))).2) ≤
        71 / 100 * ([quarterTurn].length : ℝ) ∧
      hypot (((10 : Int) : ℝ) - (10 : Int)) (((20 : Int) : ℝ) - (20 : Int)) ≤ 71 / 50 * ([quarterTurn].length : ℝ) :=
  frames_there_and_back [quarterTurn] (10, 20) (80, 60) (10, 20) (by rw [throughPoint, quarterTurn_world]; rfl)
    (by rw [returnPoint]; exact quarterTurn_source)

end RobotLlm.Frame.CalibratedFrameTransform
