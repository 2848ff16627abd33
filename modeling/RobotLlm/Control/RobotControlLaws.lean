import RobotLlm.Control.RobotControl

/-!
# Signals that are recorded first

Every call of the service records what it does before it goes on, and what it
has done by then stays done if a record fails. For a stop this loses the signal
and leaves it counted; for a start the request that was forgotten for the new
one stays forgotten.
-/

namespace RobotLlm.Control

open RobotLlm.Lib Prog

-- What recording touches

/-- The state but for its records and the calls they took. -/
def control (s : RobotControlService) : RobotControlService :=
  { s with events := {}, snapshots := {}, clockCalls := 0, idCalls := 0 }

def OnlyRecords (s s' : RobotControlService) : Prop := control s' = control s

instance : IsPreorder RobotControlService OnlyRecords where
  refl _ := rfl
  trans _ _ _ h h' := h'.trans h

theorem OnlyRecords.signals {s s' : RobotControlService} (h : OnlyRecords s s') : s'.signals = s.signals := by
  have hsame : (control s').signals = (control s).signals := congrArg _ h
  exact hsame

theorem OnlyRecords.inflight {s s' : RobotControlService} (h : OnlyRecords s s') :
    s'.controlSignalsInflight = s.controlSignalsInflight := by
  have hsame : (control s').controlSignalsInflight = (control s).controlSignalsInflight := congrArg _ h
  exact hsame

theorem onEvents_keeps (f : History → Except ControlError Unit × History) : Keeps OnlyRecords (onEvents f) := fun _ => rfl

theorem onSnapshots_keeps (f : History → Except ControlError Unit × History) : Keeps OnlyRecords (onSnapshots f) := fun _ => rfl

theorem appendEvent_keeps (host : ControlHost) (text : EventText) : Keeps OnlyRecords (appendEvent host text) :=
  .bind (onEvents_keeps _) fun _ => .bind (fun _ => rfl) fun _ => .bind (fun _ => rfl) fun _ => .bind .get fun _ => onEvents_keeps _

theorem recordSnapshot_keeps (host : ControlHost) : Keeps OnlyRecords (recordSnapshot host) :=
  .bind (onSnapshots_keeps _) fun _ => .bind (fun _ => rfl) fun _ => .bind .get fun _ => .bind (.ofExcept _) fun _ =>
    .bind (onSnapshots_keeps _) fun _ => .pure _

theorem record_keeps (host : ControlHost) (text : EventText) : Keeps OnlyRecords (record host text) :=
  .bind (appendEvent_keeps host text) fun _ => recordSnapshot_keeps host

theorem currentSnapshot_keeps (host : ControlHost) : Keeps OnlyRecords (currentSnapshot host) := by
  refine .bind .get fun s => ?_
  cases s.snapshots.items.getLast? with
  | none => exact recordSnapshot_keeps host
  | some item => exact .pure _

-- When a record goes through

/-- An event is numbered, and an id and a time are had for it. -/
def eventNumbered (s : RobotControlService) : RobotControlService := (s.withEvents s.events.nextSequence).takeId.tick

/-- A snapshot is numbered, and a time is had for it. -/
def snapshotNumbered (s : RobotControlService) : RobotControlService := (s.withSnapshots s.snapshots.nextSequence).tick

def eventAppended (host : ControlHost) (item : Item) (s : RobotControlService) : RobotControlService :=
  s.withEvents (History.append host.eventLimits item s.events).2

def snapshotAppended (host : ControlHost) (item : Item) (s : RobotControlService) : RobotControlService :=
  s.withSnapshots (History.append host.snapshotLimits item s.snapshots).2

/-- An id and a time are to be had, and the event made of them is not too large:
it is appended. -/
def EventTo (host : ControlHost) (s : RobotControlService) (text : EventText) (s' : RobotControlService) : Prop :=
  ∃ eventId occurredAt, host.validatedId "robot-event" s.idCalls = .ok eventId ∧ host.now s.clockCalls = .ok occurredAt ∧
    (eventItem (eventNumbered s) text eventId occurredAt).size ≤ host.eventLimits.byteCapacity ∧
    s' = eventAppended host (eventItem (eventNumbered s) text eventId occurredAt) (eventNumbered s)

/-- A time is to be had, and the snapshot made at it is not too large. -/
def SnapshotTo (host : ControlHost) (s : RobotControlService) (snapshot : Json) (s' : RobotControlService) : Prop :=
  ∃ updatedAt, host.now s.clockCalls = .ok updatedAt ∧ host.snapshotDict (snapshotNumbered s) updatedAt = .ok snapshot ∧
    snapshot.byteLength ≤ host.snapshotLimits.byteCapacity ∧
    s' = snapshotAppended host ⟨(snapshotNumbered s).snapshots.sequence, snapshot⟩ (snapshotNumbered s)

def RecordsTo (host : ControlHost) (s : RobotControlService) (text : EventText) (snapshot : Json) (s' : RobotControlService) : Prop :=
  ∃ s₁, EventTo host s text s₁ ∧ SnapshotTo host s₁ snapshot s'

theorem append_ok_iff {limits : HistoryLimits} {item : Item} {h : History} :
    (History.append limits item h).1 = .ok () ↔ item.size ≤ limits.byteCapacity := by
  unfold History.append
  by_cases hlarge : item.size > limits.byteCapacity
  · simp [hlarge]
  · simp [hlarge, not_lt.mp hlarge]

theorem appendEvent_ok_iff {host : ControlHost} {s s' : RobotControlService} {text : EventText} {u : Unit} :
    appendEvent host text s = (.ok u, s') ↔ EventTo host s text s' := by
  unfold appendEvent EventTo
  simp only [bind_ok, onEvents_run, validatedId_run, now_run, get_run, Prod.mk.injEq, Except.ok.injEq]
  constructor
  · rintro ⟨_, _, ⟨_, rfl⟩, eventId, _, ⟨hid, rfl⟩, occurredAt, _, ⟨hnow, rfl⟩, _, _, ⟨rfl, rfl⟩, happend, rfl⟩
    exact ⟨eventId, occurredAt, hid, hnow, append_ok_iff.mp happend, rfl⟩
  · rintro ⟨eventId, occurredAt, hid, hnow, hfits, rfl⟩
    exact ⟨(), _, ⟨trivial, rfl⟩, eventId, _, ⟨hid, rfl⟩, occurredAt, _, ⟨hnow, rfl⟩, _, _, ⟨rfl, rfl⟩, append_ok_iff.mpr hfits, rfl⟩

theorem recordSnapshot_ok_iff {host : ControlHost} {s s' : RobotControlService} {snapshot : Json} :
    recordSnapshot host s = (.ok snapshot, s') ↔ SnapshotTo host s snapshot s' := by
  unfold recordSnapshot SnapshotTo
  simp only [bind_ok, onSnapshots_run, now_run, get_run, ofExcept_run, pure_run, Prod.mk.injEq, Except.ok.injEq]
  constructor
  · rintro ⟨_, _, ⟨_, rfl⟩, updatedAt, _, ⟨hnow, rfl⟩, _, _, ⟨rfl, rfl⟩, _, _, ⟨hvalue, rfl⟩, _, _, ⟨happend, rfl⟩, rfl, rfl⟩
    exact ⟨updatedAt, hnow, hvalue, append_ok_iff.mp happend, rfl⟩
  · rintro ⟨updatedAt, hnow, hvalue, hfits, rfl⟩
    exact ⟨(), _, ⟨trivial, rfl⟩, updatedAt, _, ⟨hnow, rfl⟩, _, _, ⟨rfl, rfl⟩, snapshot, _, ⟨hvalue, rfl⟩, (), _,
      ⟨append_ok_iff.mpr hfits, rfl⟩, rfl, rfl⟩

theorem record_ok_iff {host : ControlHost} {s s' : RobotControlService} {text : EventText} {snapshot : Json} :
    record host text s = (.ok snapshot, s') ↔ RecordsTo host s text snapshot s' := by
  rw [record, bind_ok]
  simp only [appendEvent_ok_iff, recordSnapshot_ok_iff]
  constructor
  · rintro ⟨_, s₁, hevent, hsnapshot⟩
    exact ⟨s₁, hevent, hsnapshot⟩
  · rintro ⟨s₁, hevent, hsnapshot⟩
    exact ⟨(), s₁, hevent, hsnapshot⟩

def Recorded (host : ControlHost) (s : RobotControlService) (text : EventText) : Prop :=
  ∃ snapshot s', RecordsTo host s text snapshot s'

theorem recorded_iff {host : ControlHost} {s : RobotControlService} {text : EventText} :
    Recorded host s text ↔ ∃ snapshot s', record host text s = (.ok snapshot, s') := by
  unfold Recorded
  simp only [record_ok_iff]

theorem OnlyRecords.of_record {host : ControlHost} {text : EventText} {s s' : RobotControlService} {r : Except ControlError Json}
    (h : record host text s = (r, s')) : OnlyRecords s s' := by
  have hkeeps := record_keeps host text s
  rw [h] at hkeeps
  exact hkeeps

theorem RecordsTo.current {host : ControlHost} {s s' : RobotControlService} {text : EventText} {snapshot : Json}
    (h : RecordsTo host s text snapshot s') : currentSnapshot host s' = (.ok snapshot, s') := by
  obtain ⟨s₁, _, updatedAt, _, _, hfits, rfl⟩ := h
  have hsmall : ¬ (Item.mk (snapshotNumbered s₁).snapshots.sequence snapshot).size > host.snapshotLimits.byteCapacity :=
    not_lt.mpr hfits
  have hlast : (snapshotAppended host ⟨(snapshotNumbered s₁).snapshots.sequence, snapshot⟩
      (snapshotNumbered s₁)).snapshots.items.getLast? = some ⟨(snapshotNumbered s₁).snapshots.sequence, snapshot⟩ := by
    simp [snapshotAppended, History.append, hsmall, History.items]
  rw [currentSnapshot, bind_run, get_run]
  simp only [hlast, pure_run]

-- Signals

/-- No signal was given, and none is more or less in flight. -/
def SignalsStay (s s' : RobotControlService) : Prop :=
  s'.signals = s.signals ∧ s'.controlSignalsInflight = s.controlSignalsInflight

instance : IsPreorder RobotControlService SignalsStay where
  refl _ := ⟨rfl, rfl⟩
  trans _ _ _ h h' := ⟨h'.1.trans h.1, h'.2.trans h.2⟩

theorem OnlyRecords.signalsStay {s s' : RobotControlService} (h : OnlyRecords s s') : SignalsStay s s' :=
  ⟨h.signals, h.inflight⟩

theorem record_stays (host : ControlHost) (text : EventText) : Keeps SignalsStay (record host text) :=
  (record_keeps host text).mono fun _ _ h => h.signalsStay

theorem transition_stays (host : ControlHost) (state : ControlState) (text : EventText) :
    Keeps SignalsStay (transition host state text) :=
  .bind (.modify fun _ => ⟨rfl, rfl⟩) fun _ => record_stays host text

theorem finishStoppingIfQuiescent_stays (host : ControlHost) : Keeps SignalsStay (finishStoppingIfQuiescent host) := by
  have hend : ∀ s : RobotControlService,
      Keeps SignalsStay (if Quiescent s ∧ s.state.isActive = false then releaseGate host else pure () : Ctl Unit) := by
    intro s
    split
    · exact .modify fun _ => ⟨rfl, rfl⟩
    · exact .pure _
  refine .bind .get fun s => ?_
  split
  · exact .bind (.modify fun _ => ⟨rfl, rfl⟩) fun _ => .bind (transition_stays host _ _) fun _ => .bind .get hend
  · exact .bind .get hend

/-- The signal was given once, and none is more or less in flight than before. -/
def Delivers (signal : Signal) (s s' : RobotControlService) : Prop :=
  s'.signals = s.signals ++ [signal] ∧ s'.controlSignalsInflight = s.controlSignalsInflight

theorem not_delivers {signal : Signal} {s s' : RobotControlService} (h : s'.signals = s.signals) :
    ¬ Delivers signal s s' := by
  intro hd
  simpa using (congrArg List.length (h.symm.trans hd.1))

/-- One more signal is counted than before, and it was given. -/
structure Given (signal : Signal) (s s' : RobotControlService) : Prop where
  signals : s'.signals = s.signals ++ [signal]
  counted : s'.controlSignalsInflight = s.controlSignalsInflight + 1

theorem Given.done {signal : Signal} {s s' t : RobotControlService} (h : Given signal s s')
    (hstay : SignalsStay { s' with controlSignalsInflight := s'.controlSignalsInflight - 1 } t) : Delivers signal s t := by
  refine ⟨hstay.1.trans h.signals, hstay.2.trans ?_⟩
  show s'.controlSignalsInflight - 1 = _
  rw [h.counted, Int.add_sub_cancel]

def called (signal : Signal) (s : RobotControlService) : RobotControlService :=
  { s with adapterCalls := s.adapterCalls + 1, signals := s.signals ++ [signal] }

theorem callAdapter_run (signal : Signal) (answer : Nat → Except ControlError Unit) (s : RobotControlService) :
    callAdapter signal answer s = (.ok (answer s.adapterCalls), called signal s) := rfl

-- Emergency stop

section
variable {host : ControlHost} {s s₁ : RobotControlService}

theorem emergencyStop_run (hadapter : host.adapter = true) (henabled : s.state ≠ .disabled) :
    emergencyStop host s = (do
      let _ ← record host emergencyText
      match ← callAdapter .emergencyStop host.emergencyStop with
      | .ok _ => emergencySent host
      | .error e => emergencyFailed host e : Ctl Json) (raiseEmergency s) := by
  have henter : ¬ (host.adapter = false ∨ s.state = .disabled) := by simp [hadapter, henabled]
  have hpasses : ∀ e, (Prog.failIf (host.adapter = false ∨ s.state = .disabled) e : Ctl Unit) s = (.ok (), s) := by
    intro e
    rw [Prog.failIf, if_neg henter, pure_run]
  rw [emergencyStop, bind_run, get_run]
  simp only [bind_run (Prog.failIf _ _), hpasses]
  rfl

theorem emergencyStop_unrecorded (hadapter : host.adapter = true) (henabled : s.state ≠ .disabled) {e : ControlError}
    (h : record host emergencyText (raiseEmergency s) = (.error e, s₁)) : emergencyStop host s = (.error e, s₁) := by
  rw [emergencyStop_run hadapter henabled, bind_run, h]

theorem emergencyStop_recorded (hadapter : host.adapter = true) (henabled : s.state ≠ .disabled) {snapshot : Json}
    (h : record host emergencyText (raiseEmergency s) = (.ok snapshot, s₁)) :
    emergencyStop host s =
      match host.emergencyStop s₁.adapterCalls with
      | .ok _ => emergencySent host (called .emergencyStop s₁)
      | .error e => emergencyFailed host e (called .emergencyStop s₁) := by
  rw [emergencyStop_run hadapter henabled, bind_run, h]
  simp only [bind_run, callAdapter_run]
  rcases host.emergencyStop s₁.adapterCalls with _ | _ <;> rfl

theorem emergencySent_delivers {t : RobotControlService} (hgiven : Given .emergencyStop s t) :
    Delivers .emergencyStop s (emergencySent host t).2 := by
  refine hgiven.done ?_
  have hrest : Keeps SignalsStay (do
      let _ ← record host {
        eventType := "robot.emergency_stop_sent"
        message := "Robot emergency stop signal sent"
        level := "warning" }
      finishStoppingIfQuiescent host
      currentSnapshot host : Ctl Json) :=
    .bind (record_stays host _) fun _ => .bind (finishStoppingIfQuiescent_stays host) fun _ =>
      (currentSnapshot_keeps host).mono fun _ _ h => h.signalsStay
  exact hrest _

/-- The state in which the fault of an emergency stop is recorded. -/
def faulted (s : RobotControlService) : RobotControlService := { latchFault s with state := .faulted }

theorem emergencyFailed_delivers_iff {t : RobotControlService} {e : ControlError} (hgiven : Given .emergencyStop s t) :
    Delivers .emergencyStop s (emergencyFailed host e t).2 ↔ Recorded host (faulted t) (emergencyFailedText e) := by
  rw [recorded_iff]
  have hstart : emergencyFailed host e t = (do
      let _ ← record host (emergencyFailedText e)
      signalDone
      finishStoppingIfQuiescent host
      throw (.service 503 "robot_emergency_stop_failed" "Robot emergency stop failed") : Ctl Json) (faulted t) := rfl
  rw [hstart, bind_run]
  rcases hr : record host (emergencyFailedText e) (faulted t) with ⟨_ | snapshot, t₁⟩
  · have hmore : t₁.controlSignalsInflight = s.controlSignalsInflight + 1 :=
      (OnlyRecords.of_record hr).inflight.trans hgiven.counted
    constructor
    · rintro ⟨_, hcount⟩
      have hcount : t₁.controlSignalsInflight = s.controlSignalsInflight := hcount
      omega
    · rintro ⟨_, _, h⟩
      cases h
  · have hstays : SignalsStay (faulted t) t₁ := (OnlyRecords.of_record hr).signalsStay
    have hgiven' : Given .emergencyStop s t₁ := ⟨hstays.1.trans hgiven.signals, hstays.2.trans hgiven.counted⟩
    have hrest : Keeps SignalsStay (do
        finishStoppingIfQuiescent host
        throw (.service 503 "robot_emergency_stop_failed" "Robot emergency stop failed") : Ctl Json) :=
      .bind (finishStoppingIfQuiescent_stays host) fun _ => .throw _
    exact ⟨fun _ => ⟨snapshot, t₁, rfl⟩, fun _ => hgiven'.done (hrest _)⟩

-- Stop

/-- The state in which the request of a stop is recorded. -/
def stopping (s : RobotControlService) : RobotControlService := { raiseStop s with state := .stopping }

theorem stop_run (hstate : s.state = .starting ∨ s.state = .running) :
    stop host s = (do
      let _ ← record host stopText
      let snapshot ← currentSnapshot host
      sendStop host snapshot : Ctl Json) (stopping s) := by
  rw [stop, bind_run, get_run]
  rcases hstate with hstate | hstate <;> simp only [hstate] <;> rfl

theorem stop_unrecorded (hstate : s.state = .starting ∨ s.state = .running) {e : ControlError}
    (h : record host stopText (stopping s) = (.error e, s₁)) : stop host s = (.error e, s₁) := by
  rw [stop_run hstate, bind_run, h]

theorem stop_recorded (hstate : s.state = .starting ∨ s.state = .running) {snapshot : Json}
    (h : record host stopText (stopping s) = (.ok snapshot, s₁)) :
    stop host s = sendStop host snapshot s₁ := by
  have hcurrent := (record_ok_iff.mp h).current
  rw [stop_run hstate, bind_run, h]
  simp only [bind_run, hcurrent]

theorem stop_stopping (hstate : s.state = .stopping) : stop host s = currentSnapshot host s := by
  rw [stop, bind_run, get_run]
  simp only [hstate]

theorem andFinally_settles {x : Ctl α} {y : Ctl Unit} {P R : RobotControlService → Prop} (hx : Settles x s P)
    (hy : ∀ t, P t → Settles y t R) : Settles (andFinally x y) s R := by
  refine Triple.bind (Triple.attempt (P := fun _ => P) hx) fun r t hp => Triple.bind (hy t hp) fun _ u hr => ?_
  cases r with
  | ok a => exact hr
  | error e => exact hr

theorem sendStop_delivers {t : RobotControlService} (hadapter : host.adapter = true) (hsignals : t.signals = s.signals)
    (hcount : t.controlSignalsInflight = s.controlSignalsInflight + 1) (snapshot : Json) :
    Delivers .requestStop s (sendStop host snapshot t).2 := by
  have hcalled : Given .requestStop s (called .requestStop t) := ⟨congrArg (· ++ [Signal.requestStop]) hsignals, hcount⟩
  have hrecord : ∀ text t', Given .requestStop s t' → Settles (record host text) t' (Given .requestStop s) := fun text t' h =>
    ((record_stays host text).triple t').mono (fun _ _ hs => ⟨hs.1.trans h.signals, hs.2.trans h.counted⟩)
      fun _ _ hs => ⟨hs.1.trans h.signals, hs.2.trans h.counted⟩
  have hdone : ∀ t', Given .requestStop s t' →
      Settles (do signalDone; finishStoppingIfQuiescent host : Ctl Unit) t' (Delivers .requestStop s) := fun t' h =>
    Triple.modify_bind (((finishStoppingIfQuiescent_stays host).triple _).mono (fun _ _ hs => h.done hs) fun _ _ hs => h.done hs)
  refine Triple.after (show Settles (sendStop host snapshot) t _ from Triple.bind (andFinally_settles ?_ hdone) fun _ _ h => h)
  rw [if_pos hadapter]
  refine Triple.step (callAdapter_run _ _ _) ?_
  rcases host.requestStop t.adapterCalls with e | _
  · exact Triple.bind (hrecord _ _ hcalled) fun _ _ h => h
  · exact hcalled

-- When a signal is delivered

theorem emergencyStop_disabled (hstate : s.state = .disabled) : (emergencyStop host s).2 = s := by
  have hrefused : host.adapter = false ∨ s.state = .disabled := .inr hstate
  simp only [emergencyStop, bind_run, get_run, failIf, if_pos hrefused, throw_run]

theorem OnlyRecords.adapterCalls {s' : RobotControlService} (h : OnlyRecords s s') : s'.adapterCalls = s.adapterCalls := by
  have hsame : (control s').adapterCalls = (control s).adapterCalls := congrArg _ h
  exact hsame

theorem emergencyStop_delivers_iff (hadapter : host.adapter = true) :
    Delivers .emergencyStop s (emergencyStop host s).2 ↔
      s.state ≠ .disabled ∧ ∃ snapshot s₁, RecordsTo host (raiseEmergency s) emergencyText snapshot s₁ ∧
        ∀ e, host.emergencyStop s.adapterCalls = .error e →
          Recorded host (faulted (called .emergencyStop s₁)) (emergencyFailedText e) := by
  by_cases hstate : s.state = .disabled
  · have hstays : ¬ Delivers .emergencyStop s (emergencyStop host s).2 :=
      not_delivers (congrArg RobotControlService.signals (emergencyStop_disabled hstate))
    exact ⟨fun h => absurd h hstays, fun h => absurd hstate h.1⟩
  · simp only [← record_ok_iff]
    rcases hr : record host emergencyText (raiseEmergency s) with ⟨e | snapshot, s₁⟩
    · rw [emergencyStop_unrecorded hadapter hstate hr]
      refine ⟨fun h => absurd h (not_delivers (OnlyRecords.of_record hr).signals), ?_⟩
      rintro ⟨_, _, _, h, _⟩
      cases h
    · have honly := OnlyRecords.of_record hr
      have hgiven : Given .emergencyStop s (called .emergencyStop s₁) :=
        ⟨congrArg (· ++ [Signal.emergencyStop]) honly.signals, honly.inflight⟩
      have hcalls : s₁.adapterCalls = s.adapterCalls := honly.adapterCalls
      rw [emergencyStop_recorded hadapter hstate hr, hcalls]
      rcases hanswer : host.emergencyStop s.adapterCalls with e | _
      · rw [emergencyFailed_delivers_iff hgiven]
        constructor
        · intro h
          exact ⟨hstate, snapshot, s₁, rfl, fun e' he => by cases he; exact h⟩
        · rintro ⟨_, _, _, heq, h⟩
          cases heq
          exact h e rfl
      · refine ⟨fun _ => ⟨hstate, snapshot, s₁, rfl, fun _ he => by cases he⟩, fun _ => emergencySent_delivers hgiven⟩

theorem stop_delivers_iff (hadapter : host.adapter = true) (hactive : s.state.isActive = true) :
    Delivers .requestStop s (stop host s).2 ↔
      s.state ≠ .stopping ∧ Recorded host (stopping s) stopText := by
  by_cases hstate : s.state = .stopping
  · have honly : OnlyRecords s (stop host s).2 := by
      rw [stop_stopping hstate]
      exact currentSnapshot_keeps host s
    exact ⟨fun h => absurd h (not_delivers honly.signals), fun h => absurd hstate h.1⟩
  · have hopen : s.state = .starting ∨ s.state = .running := by
      cases hs : s.state <;> simp_all [ControlState.isActive]
    rw [recorded_iff]
    rcases hr : record host stopText (stopping s) with ⟨e | snapshot, s₁⟩
    · rw [stop_unrecorded hopen hr]
      refine ⟨fun h => absurd h (not_delivers (OnlyRecords.of_record hr).signals), ?_⟩
      rintro ⟨_, _, _, h⟩
      cases h
    · have honly := OnlyRecords.of_record hr
      rw [stop_recorded hopen hr]
      exact ⟨fun _ => ⟨hstate, snapshot, s₁, rfl⟩, fun _ =>
        sendStop_delivers (s := s) hadapter honly.signals honly.inflight snapshot⟩

end

/-- An emergency stop reaches the adapter and is balanced just when it could be
recorded that it was asked for and, if the adapter failed, that it failed. A
stop of an active episode is, just when the episode was not stopping and it
could be recorded that it does. -/
theorem signals_delivered_iff (host : ControlHost) (s : RobotControlService) (hadapter : host.adapter = true) :
    (Delivers .emergencyStop s (emergencyStop host s).2 ↔
      s.state ≠ .disabled ∧ ∃ snapshot s₁, RecordsTo host (raiseEmergency s) emergencyText snapshot s₁ ∧
        ∀ e, host.emergencyStop s.adapterCalls = .error e →
          Recorded host (faulted (called .emergencyStop s₁)) (emergencyFailedText e)) ∧
    (s.state.isActive = true →
      (Delivers .requestStop s (stop host s).2 ↔
        s.state ≠ .stopping ∧ Recorded host (stopping s) stopText)) :=
  ⟨emergencyStop_delivers_iff hadapter, stop_delivers_iff hadapter⟩

def quietHost : ControlHost where
  serviceId := 1
  adapter := true
  eventLimits := ⟨128, 1024 * 1024, ⟨by decide, by decide⟩, ⟨by decide, by decide⟩⟩
  snapshotLimits := ⟨128, 1024 * 1024, ⟨by decide, by decide⟩, ⟨by decide, by decide⟩⟩
  clockMs _ := .ok 1000
  idFactory _ := .ok "1"
  snapshotDict _ _ := .ok (.obj [])
  requestStop _ := .ok ()
  emergencyStop _ := .ok ()
  startThread _ := .ok ()

def namelessHost : ControlHost := { quietHost with idFactory := fun _ => .error (.raised "OSError") }

def runningService : RobotControlService where
  settings := ⟨1, false⟩
  state := .running
  requestHistory := ⟨Dict.empty, [], rfl⟩

theorem quietHost_records (s : RobotControlService) (text : EventText)
    (hsmall : (eventItem (eventNumbered s) text "robot-event-1" 1000).size ≤ 1024 * 1024) : Recorded quietHost s text :=
  ⟨.obj [], _, _, ⟨"robot-event-1", 1000, rfl, rfl, hsmall, rfl⟩, 1000, rfl, rfl, by decide, rfl⟩

/-- Both are asked of an episode that runs, and both are delivered. -/
theorem signals_delivered_iff_quiet :
    quietHost.adapter = true ∧ runningService.state.isActive = true ∧
    Delivers .emergencyStop runningService (emergencyStop quietHost runningService).2 ∧
    Delivers .requestStop runningService (stop quietHost runningService).2 := by
  obtain ⟨hemergency, hstop⟩ := signals_delivered_iff quietHost runningService rfl
  obtain ⟨snapshot, s₁, hrecord⟩ := quietHost_records (raiseEmergency runningService) emergencyText (by decide +kernel)
  refine ⟨rfl, rfl, hemergency.mpr ⟨by decide, snapshot, s₁, hrecord, fun _ he => by cases he⟩, (hstop rfl).mpr ⟨by decide, ?_⟩⟩
  exact quietHost_records (stopping runningService) stopText (by decide +kernel)

/-- The signal is lost, and counted for good: no episode starts any more. -/
theorem emergencyStop_unheard :
    ¬ ∀ (host : ControlHost) (s : RobotControlService), host.adapter = true → s.state ≠ .disabled →
      Delivers .emergencyStop s (emergencyStop host s).2 := by
  intro h
  have hsent : (emergencyStop namelessHost runningService).2.signals = [.emergencyStop] :=
    (h namelessHost runningService rfl (by decide)).1
  have hsilent : (emergencyStop namelessHost runningService).2.signals = [] := rfl
  rw [hsilent] at hsent
  cases hsent

end RobotLlm.Control
