import Mathlib.Algebra.Order.Field.Rat
import RobotLlm.Blast.EpisodeHistory
import RobotLlm.Lib.Brackets

/-!
# Every step back undoes a step forward

Read as brackets, an advance opens and a reverse closes. The look back through the
history is a search for an opening that nothing has closed, so the steps back that
it allowed have partners of their own, and the pairs are nested.
-/

namespace RobotLlm.Blast.Episode

open RobotLlm.Lib

variable {R : Type}

theorem not_advance_of_reverse {item : HistoryItem R} (h : actionIn [reverse] item = true) : actionIn [advance] item = false := by
  have hvalue : (PyValue.field item "action").isStr Episode.reverse = true := by simpa [actionIn] using h
  cases haction : PyValue.field item "action" with
  | str value =>
    rw [haction] at hvalue
    obtain rfl : value = Episode.reverse := by simpa [PyValue.isStr] using hvalue
    simp [actionIn, haction, PyValue.isStr, advance, Episode.reverse]
  | _ => simp [haction, PyValue.isStr] at hvalue

variable [Ring R] [LinearOrder R]

-- Entries as marks

def mark (item : HistoryItem R) : Mark :=
  if zeroMotion item then .skip
  else if actionIn [advance] item then
    if completed item then .opens else .stop
  else if actionIn [reverse] item then
    if completed item then .closes else .stop
  else if actionIn [scanFrontArc, scanSurroundings] item || verifiedTurn item || routeValidation item then .skip
  else .stop

theorem allowsReverseFrom_eq (unmatchedReverses : Nat) (items : List (HistoryItem R)) :
    allowsReverseFrom unmatchedReverses items = (Mark.find unmatchedReverses (items.map mark)).isSome := by
  induction items generalizing unmatchedReverses with
  | nil => rfl
  | cons item items ih =>
    unfold allowsReverseFrom
    rw [List.map_cons, mark]
    by_cases hzero : zeroMotion item = true
    · simp [hzero, ih]
    by_cases hadvance : actionIn [advance] item = true
    · by_cases hcompleted : completed item = true
      · cases unmatchedReverses <;> simp [hzero, hadvance, hcompleted, ih]
      · simp [hzero, hadvance, hcompleted]
    by_cases hreverse : actionIn [reverse] item = true
    · by_cases hcompleted : completed item = true <;> simp [hzero, hadvance, hreverse, hcompleted, ih]
    by_cases hscan : actionIn [scanFrontArc, scanSurroundings] item = true
    · simp [hzero, hadvance, hreverse, hscan, ih]
    by_cases hturn : verifiedTurn item = true
    · simp [hzero, hadvance, hreverse, hscan, hturn, ih]
    by_cases hroute : routeValidation item = true <;> simp [hzero, hadvance, hreverse, hscan, hturn, hroute, ih]

theorem allowsReverse_eq (items : List (HistoryItem R)) :
    completedAdvanceAllowsBoundedReverse items = (Mark.find 0 (items.map mark).reverse).isSome := by
  rw [completedAdvanceAllowsBoundedReverse, allowsReverseFrom_eq, List.map_reverse]

theorem mark_opens {item : HistoryItem R} (h : mark item = .opens) :
    zeroMotion item = false ∧ actionIn [advance] item = true ∧ completed item = true := by
  unfold mark at h
  split_ifs at h with hzero hadvance hcompleted
  exact ⟨by simpa using hzero, hadvance, hcompleted⟩

theorem mark_closes {item : HistoryItem R} (hzero : zeroMotion item = false) (hnot : actionIn [advance] item = false)
    (hreverse : actionIn [reverse] item = true) (hcompleted : completed item = true) : mark item = .closes := by
  simp [mark, hzero, hnot, hreverse, hcompleted]

theorem mark_stop {item : HistoryItem R} (hzero : zeroMotion item = false) (hdrive : actionIn [advance, reverse] item = true)
    (hcompleted : completed item = false) : mark item = .stop := by
  have hdrive : actionIn [advance] item = true ∨ actionIn [reverse] item = true := by simpa [actionIn] using hdrive
  unfold mark
  rcases hdrive with hadvance | hreverse
  · simp [hzero, hadvance, hcompleted]
  · by_cases hadvance : actionIn [advance] item = true <;> simp [hzero, hadvance, hreverse, hcompleted]

-- Steps back and their partners

/-- The entry at this place is a reverse that no scan covered, and it moved the
wheels and was completed. -/
structure SteppedBack (steps : List (Appended R)) (i : Nat) (step : Appended R) : Prop where
  entry : steps[i]? = some step
  reverse : actionIn [reverse] step.item = true
  uncovered : currentScanSupportsBoundedReverse (history (steps.take i)) step.latestScanView = false
  moved : zeroMotion step.item = false
  completed : completed step.item = true

/-- The entry at this place is an advance that moved the wheels and was completed. -/
structure SteppedForward (steps : List (Appended R)) (j : Nat) (step : Appended R) : Prop where
  entry : steps[j]? = some step
  advance : actionIn [advance] step.item = true
  moved : zeroMotion step.item = false
  completed : completed step.item = true

/-- Every step back has a step forward of its own before it, the pairs are
nested, and whatever drove in between was completed or did not move. -/
structure Matched (steps : List (Appended R)) (partner : Nat → Nat) : Prop where
  earlier {i step} (hi : SteppedBack steps i step) : partner i < i
  forward {i step} (hi : SteppedBack steps i step) : ∃ step', SteppedForward steps (partner i) step'
  distinct {i i' step step'} (hi : SteppedBack steps i step) (hi' : SteppedBack steps i' step') (h : partner i = partner i') : i = i'
  nested {i i' step step'} (hi : SteppedBack steps i step) (hi' : SteppedBack steps i' step') (hlt : i < i') :
    i < partner i' ∨ partner i' < partner i
  clear {i k step step'} (hi : SteppedBack steps i step) (hk : partner i < k ∧ k < i) (hentry : steps[k]? = some step')
    (hdrive : actionIn [Episode.advance, Episode.reverse] step'.item = true) (hmoved : zeroMotion step'.item = false) :
    Episode.completed step'.item = true

theorem Built.guard {steps : List (Appended R)} (h : Built steps) {i : Nat} {step : Appended R} (hi : steps[i]? = some step) :
    MayAppend (steps.take i) step := by
  induction h with
  | nil => cases hi
  | @append steps last hbuilt hmay ih =>
    have hbound : i < (steps ++ [last]).length := (List.getElem?_eq_some_iff.mp hi).1
    rcases Nat.lt_or_ge i steps.length with hlt | hge
    · rw [List.getElem?_append_left hlt] at hi
      rw [List.take_append_of_le_length hlt.le]
      exact ih hi
    · obtain rfl : i = steps.length := by simp at hbound; omega
      obtain rfl : last = step := by simpa using hi
      rw [List.take_left]
      exact hmay

def marks (steps : List (Appended R)) : List Mark := (history steps).map mark

theorem marks_getElem? {steps : List (Appended R)} {i : Nat} {step : Appended R} (h : steps[i]? = some step) :
    (marks steps)[i]? = some (mark step.item) := by
  simp [marks, history, h]

theorem SteppedBack.partner {steps : List (Appended R)} (hbuilt : Built steps) {i : Nat} {step : Appended R}
    (hi : SteppedBack steps i step) : ∃ j, Mark.partner (marks steps) i = some j := by
  have hallows := hbuilt.guard hi.entry hi.reverse hi.uncovered
  have htaken : (marks steps).take i = (history (steps.take i)).map mark := by simp [marks, history, List.map_take]
  rw [allowsReverse_eq, ← htaken, Option.isSome_iff_exists] at hallows
  obtain ⟨k, hk⟩ := hallows
  exact ⟨i - 1 - k, by rw [Mark.partner, hk]; rfl⟩

def partnerOf (steps : List (Appended R)) (i : Nat) : Nat := (Mark.partner (marks steps) i).getD 0

section
variable {steps : List (Appended R)} {i : Nat} {step : Appended R}

theorem SteppedBack.partnerOf (hbuilt : Built steps) (hi : SteppedBack steps i step) :
    Mark.partner (marks steps) i = some (partnerOf steps i) := by
  obtain ⟨j, hj⟩ := hi.partner hbuilt
  rw [Episode.partnerOf, hj]
  rfl

theorem SteppedBack.bound (hi : SteppedBack steps i step) : i ≤ (marks steps).length := by
  have hlt := (List.getElem?_eq_some_iff.mp hi.entry).1
  simp only [marks, history, List.length_map]
  omega

theorem SteppedBack.closes (hi : SteppedBack steps i step) : (marks steps)[i]? = some .closes := by
  rw [marks_getElem? hi.entry, mark_closes hi.moved (not_advance_of_reverse hi.reverse) hi.reverse hi.completed]

end

/-- In a history in which every reverse was covered or allowed, the steps back
have partners of their own. -/
theorem stepsBack_matched (steps : List (Appended R)) (hbuilt : Built steps) : Matched steps (partnerOf steps) where
  earlier hi := (Mark.partner_eq_some (hi.partnerOf hbuilt) hi.bound).1
  forward hi := by
    have hopens := Mark.partner_opens (hi.partnerOf hbuilt) hi.bound
    simp only [marks, history, List.getElem?_map, Option.map_eq_some_iff] at hopens
    obtain ⟨_, ⟨step', hentry, rfl⟩, hmark⟩ := hopens
    obtain ⟨hmoved, hadvance, hcompleted⟩ := mark_opens hmark
    exact ⟨step', hentry, hadvance, hmoved, hcompleted⟩
  distinct {i i' _ _} hi hi' h := by
    have hnested : ∀ {a b step step'}, SteppedBack steps a step → SteppedBack steps b step' → a < b →
        partnerOf steps a ≠ partnerOf steps b := by
      intro a b _ _ ha hb hlt heq
      have hbefore := (Mark.partner_eq_some (ha.partnerOf hbuilt) ha.bound).1
      rcases Mark.partner_nested (ha.partnerOf hbuilt) (hb.partnerOf hbuilt) hb.bound hlt ha.closes with h | h <;> omega
    rcases Nat.lt_trichotomy i i' with hlt | heq | hgt
    · exact absurd h (hnested hi hi' hlt)
    · exact heq
    · exact absurd h.symm (hnested hi' hi hgt)
  nested hi hi' hlt := Mark.partner_nested (hi.partnerOf hbuilt) (hi'.partnerOf hbuilt) hi'.bound hlt hi.closes
  clear hi hk hentry hdrive hmoved := by
    by_contra hcompleted
    have hstop := Mark.partner_passes (hi.partnerOf hbuilt) hi.bound hk.1 hk.2
    rw [marks_getElem? hentry, mark_stop hmoved hdrive (by simpa using hcompleted)] at hstop
    exact hstop rfl

/-- An action whose motion was completed, by the wheels' turn. -/
def moved (action : String) (degrees : Int) : HistoryItem Rat :=
  [("action", .str action),
    ("motion", .dict [("left_encoder_delta_degrees", .int degrees), ("right_encoder_delta_degrees", .int degrees),
      ("command_completed", .bool true)])]

def thereAndBack : List (Appended Rat) :=
  [⟨moved advance 90, .none⟩, ⟨moved advance 90, .none⟩, ⟨moved Episode.reverse (-90), .none⟩]

theorem thereAndBack_built : Built thereAndBack :=
  .append (.append (.append .nil fun h => by cases h) fun h => by cases h) fun _ _ => by decide +kernel

theorem stepsBack_matched_thereAndBack : Matched thereAndBack (partnerOf thereAndBack) :=
  stepsBack_matched thereAndBack thereAndBack_built

end RobotLlm.Blast.Episode
