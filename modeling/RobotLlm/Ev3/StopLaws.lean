import RobotLlm.Ev3.MotorOwnerLaws
import RobotLlm.Ev3.StartLaws

/-!
# Stops run

The stop and the close of a supervisor begin, first of all, to stop all motors.
A stop that began runs to its end, whatever fails in it, and writes to every
motor it knows of; every way in which a motion is given up makes such a stop.
-/

namespace RobotLlm.Ev3

open RobotLlm.Lib Prog

-- Stop attempts

/-- The first thing that happened is an attempt to stop all motors. -/
def Hardware.Begun (h h' : Hardware) : Prop := ∃ newer, h'.log = newer ++ .stopBegun :: h.log ∧ ∀ e ∈ newer, e.Own

theorem Hardware.Begun.later {h h' h'' : Hardware} (hb : h.Begun h') (hl : h'.Later h'') : h.Begun h'' := by
  obtain ⟨newer, hlog, hn⟩ := hb
  obtain ⟨newer', hlog', hn', -⟩ := hl.log
  refine ⟨newer' ++ newer, by rw [hlog', hlog, List.append_assoc], fun e he => ?_⟩
  rcases List.mem_append.mp he with he | he
  · exact hn' e he
  · exact hn e he

theorem Hardware.Begun.keeps {x : Io α} {h h' : Hardware} (hb : h.Begun h') (hx : Keeps Hardware.Later x) :
    Settles x h' h.Begun :=
  (hx.triple h').mono (fun _ _ hl => hb.later hl) fun _ _ hl => hb.later hl

theorem stopAll_begins (c : RobotConfig) (h : Hardware) : Settles (stopAll c) h h.Begun := by
  refine Triple.modify_bind (Hardware.Begun.keeps ⟨[], rfl, by simp⟩ ?_)
  exact .bind (.attempt Hardware.discoveredMotorPaths_grew) fun _ => .bind (.attempt (configuredPathsFrom_grew _ _)) fun _ =>
    .bind (stopRounds_grew _ _ _ _ _) fun _ => .bind (Hardware.note_later trivial rfl) fun _ => .pure _

namespace MotorOwner

variable {c : RobotConfig} {o o' : MotorOwner}

def Begun (o o' : MotorOwner) : Prop := o.hw.Begun o'.hw

theorem Begun.keeps {x : Own α} (hb : o.Begun o') (hx : Keeps Grows x) : Settles x o' o.Begun :=
  (hx.triple o').mono (fun _ _ hg => Hardware.Begun.later hb hg.hw) fun _ _ hg => Hardware.Begun.later hb hg.hw

theorem requireOpen_ok (ho : o.closed = false) : requireOpen o = (.ok (), o) := by
  simp [requireOpen, bind_run, failIf, ho]

theorem stopAllVerified_begins (ho : o.closed = false) : Settles (stopAllVerified c) o o.Begun := by
  refine Triple.step (requireOpen_ok ho) (Triple.bind (Q := fun _ => o.Begun) (Triple.onPart ?_) fun _ _ h => Triple.pure h)
  exact (stopAll_begins c o.hw).mono (fun _ _ h => h) fun _ _ h => h

theorem finishActive_begins (ho : o.closed = false) (verifyMotion : Bool) :
    Settles (finishActive c verifyMotion) o o.Begun := by
  refine Triple.step (requireOpen_ok ho) (Triple.get_bind ?_)
  split
  next => exact Triple.bind (stopAllVerified_begins ho) fun _ _ h => Triple.pure h
  next active _ =>
    refine Triple.modify_bind (Triple.bind (Q := fun _ => o.Begun) ?_ fun _ o₁ h₁ => ?_)
    · exact stopAllVerified_begins ho
    · exact h₁.keeps (.bind (onHw_grows (readFinishedMotors_grew active.motors)) fun _ => .pure _)

theorem close_begins (ho : o.closed = false) : Settles (close c) o o.Begun := by
  refine Triple.get_bind (Triple.ite (fun hc => by simp [ho] at hc) fun _ => ?_)
  exact Triple.bind (finishActive_begins ho false) fun _ _ h => h.keeps (.ite (unlock_grows _) (.pure _))

end MotorOwner

namespace EV3Supervisor

variable {c : SupervisorConfig} {s s' : EV3Supervisor}

def Begun (s s' : EV3Supervisor) : Prop := s.owner.hw.Begun s'.owner.hw

theorem Begun.grows {s'' : EV3Supervisor} (hb : s.Begun s') (hg : s'.Grows s'') : s.Begun s'' :=
  Hardware.Begun.later hb hg.hw

theorem Begun.keeps {x : Sup α} (hb : s.Begun s') (hx : Keeps Grows x) : Settles x s' s.Begun :=
  (hx.triple s').mono (fun _ _ hg => hb.grows hg) fun _ _ hg => hb.grows hg

theorem onOwner_begins {x : MotorOwner.Own α} (hx : Settles x s.owner s.owner.Begun) : Settles (onOwner x) s s.Begun :=
  Triple.onPart (hx.mono (fun _ _ h => h) fun _ _ h => h)

theorem finishActiveWithRetry_begins (ho : s.owner.closed = false) (phase : String) :
    Settles (finishActiveWithRetry c phase) s s.Begun := by
  refine Triple.bind (Triple.attempt (P := fun _ => s.Begun) ?_) fun r s₁ h₁ => ?_
  · exact Triple.bind (onOwner_begins (MotorOwner.finishActive_begins ho false)) fun _ _ h => Triple.pure h
  · cases r with
    | ok stop => exact Triple.pure h₁
    | error e => exact h₁.keeps (.bind (.attempt finishActiveStop_grows) fun _ => .pure _)

theorem requireDispatchThread_ok (ht : s.OnDispatchThread) : requireDispatchThread s = (.ok (), s) := by
  have ht : s.dispatchThreadId = s.owner.hw.thread := ht
  simp [requireDispatchThread, bind_run, failIf, ht]

theorem stop_begins (ht : s.OnDispatchThread) (hs : ¬ s.Shut) : Settles (stop c) s s.Begun := by
  obtain ⟨hclosed, howner⟩ := not_or.mp hs
  refine Triple.step (requireDispatchThread_ok ht) (Triple.get_bind (Triple.ite (fun h => absurd h hclosed) fun _ => ?_))
  refine Triple.get_bind (Triple.bind (finishActiveWithRetry_begins (by simpa using howner) _) fun r s₁ h₁ => h₁.keeps ?_)
  exact .bind (modify_grows (fun _ => rfl) fun _ => ⟨rfl, rfl⟩) fun _ => .bind (recordStop_grows _ _) fun _ =>
    .bind status_grows fun _ => .pure _

theorem close_begins (ht : s.OnDispatchThread) (hs : ¬ s.Shut) : Settles (close c) s s.Begun := by
  obtain ⟨hclosed, howner⟩ := not_or.mp hs
  refine Triple.step (requireDispatchThread_ok ht) (Triple.get_bind (Triple.ite (fun h => absurd h hclosed) fun _ => ?_))
  refine Triple.bind (Triple.modify_bind ?_) fun _ _ h => Triple.pure h
  have hclose : Settles (onOwner (MotorOwner.close c.toRobotConfig)) { s with state := .shuttingDown } s.Begun :=
    onOwner_begins (s := { s with state := .shuttingDown }) (MotorOwner.close_begins (by simpa using howner))
  refine Triple.bind (ownerClose_grows.and (Triple.attempt (P := fun _ => s.Begun) hclose)
    |>.mono (E := fun _ s' => s.Begun s' ∧ s.Begun s') (fun _ _ h => h) fun _ _ h => h.2) ?_
  rintro result s₁ ⟨⟨-, hclean⟩, hb⟩
  have hgrown {x : Sup SupervisorStatus} (hx : Settles x s₁ s₁.Grows) : Settles x s₁ s.Begun :=
    hx.mono (fun _ _ h => hb.grows h) fun _ _ h => hb.grows h
  cases result with
  | ok result => exact Triple.ite (fun hc => hgrown (finalizeClosed_grows (hclean result rfl hc) _)) fun _ => hb.keeps (shutdownFailed_grows _)
  | error e => exact hgrown (closeAgain_grows e)

end EV3Supervisor

-- Stops that ran

/-- A stop that wrote to every motor it knew of, in each of its rounds. -/
structure StopRecord.Sent (r : StopRecord) : Prop where
  knows : ∀ paths, r.discovered = some paths ∨ r.configured = some paths → ∀ path ∈ paths, path ∈ r.paths
  rounds : r.rounds ≠ []
  wrote : ∀ round ∈ r.rounds, round.writes.map StopAttempt.path = r.paths

structure StopLoop.Sends (paths : List String) (l : StopLoop) : Prop where
  rounds : l.rounds ≠ []
  wrote : ∀ round ∈ l.rounds, round.writes.map StopAttempt.path = paths

theorem stopRound_sends {paths : List String} {l : StopLoop} (hl : ∀ round ∈ l.rounds, round.writes.map StopAttempt.path = paths)
    (attempt maximumAttempts : Nat) : Returns (StopLoop.Sends paths) (stopRound paths attempt maximumAttempts l) := by
  refine .bind (stopMotors_returns attempt paths) fun writes hwrites => .next fun reading => ?_
  have hrounds : ∀ round ∈ (⟨writes, reading.states, reading.positions, reading.readErrors⟩ : StopRound) :: l.rounds,
      round.writes.map StopAttempt.path = paths := by
    intro round hround
    rcases List.mem_cons.mp hround with rfl | hround
    · exact hwrites
    · exact hl round hround
  exact .ite (.pure ⟨List.cons_ne_nil _ _, hrounds⟩) (.next fun _ => .pure ⟨List.cons_ne_nil _ _, hrounds⟩)

theorem stopRounds_sends {paths : List String} {l : StopLoop} (hl : l.Sends paths) (maximumAttempts remaining attempt : Nat) :
    Returns (StopLoop.Sends paths) (stopRounds paths maximumAttempts remaining attempt l) := by
  induction remaining generalizing attempt l with
  | zero => exact .pure hl
  | succ remaining ih => exact .bind (stopRound_sends hl.wrote _ _) fun l' hl' => .ite (.pure hl') (ih hl' _)

theorem stopMotors_total (attempt : Nat) (paths : List String) : Total (stopMotors attempt paths) := by
  induction paths with
  | nil => exact .pure _
  | cons path paths ih =>
    exact .bind (.bind (.attempt _) fun _ => .bind (.attempt _) fun _ => .pure _) fun _ => .bind ih fun _ => .pure _

theorem readMotors_total (r : StopReading) (paths : List String) : Total (readMotors r paths) := by
  induction paths generalizing r with
  | nil => exact .pure _
  | cons path paths ih =>
    refine .bind (.bind (.attempt _) fun state => ?_) fun _ => ih _
    cases state with
    | ok state => exact .bind (.attempt _) fun _ => .pure _
    | error e => exact .pure _

theorem roundErrors_total (isLast : Bool) (errors readErrors : List String) : Total (roundErrors isLast errors readErrors) := by
  refine .ite (.pure _) (.bind (.attempt _) fun slept => ?_)
  cases slept <;> exact .pure _

theorem stopRound_total (paths : List String) (attempt maximumAttempts : Nat) (l : StopLoop) :
    Total (stopRound paths attempt maximumAttempts l) :=
  .bind (stopMotors_total _ _) fun _ => .bind (readMotors_total _ _) fun _ =>
    .ite (.pure _) (.bind (roundErrors_total _ _ _) fun _ => .pure _)

theorem stopRounds_total (paths : List String) (maximumAttempts remaining attempt : Nat) (l : StopLoop) :
    Total (stopRounds paths maximumAttempts remaining attempt l) := by
  induction remaining generalizing attempt l with
  | zero => exact .pure _
  | succ remaining ih => exact .bind (stopRound_total _ _ _ _) fun _ => .ite (.pure _) (ih _ _)

theorem pathsToStop_knows (discovered configured : Except PyError (List String)) (paths : List String)
    (h : discovered.toOption = some paths ∨ configured.toOption = some paths) :
    ∀ path ∈ paths, path ∈ pathsToStop discovered configured := by
  intro path hp
  rcases h with h | h
  · cases discovered with
    | error e => cases h
    | ok found =>
      cases h
      cases configured <;> simp [pathsToStop, Except.toOption, hp]
  · cases configured with
    | error e => cases h
    | ok found =>
      cases h
      simp [pathsToStop, hp]

theorem stopAll_sends (c : RobotConfig) (discovered configured : Except PyError (List String)) :
    Returns (StopLoop.Sends (pathsToStop discovered configured))
      (stopRounds (pathsToStop discovered configured) c.limits.maximumAttempts c.limits.maximumAttempts 1
        { errors := errorLabelled "discover" discovered ++ errorLabelled "configured" configured }) := by
  obtain ⟨n, hn⟩ : ∃ n, c.limits.maximumAttempts = n + 1 :=
    ⟨c.limits.maximumAttempts - 1, by simp only [SupervisorLimits.maximumAttempts]; omega⟩
  rw [hn]
  exact .bind (stopRound_sends (by simp) _ _) fun l hl => .ite (.pure hl) (stopRounds_sends hl _ _ _)

namespace Hardware

/-- A stop of all motors ran to its end, and since it began no motor started. -/
def StopRan (h h' : Hardware) : Prop := ∃ recent record during older,
  h'.log = recent ++ .stopEnded record :: (during ++ .stopBegun :: (older ++ h.log)) ∧
    (∀ e ∈ recent, e.isStart = false) ∧ (∀ e ∈ during, e.isStart = false) ∧ record.Sent

variable {P : Happening → Prop} {h h' h'' : Hardware}

theorem StopRan.after (hb : h'.StopRan h'') (hg : h.Grew P h') : h.StopRan h'' := by
  obtain ⟨recent, record, during, older, hl, hrest⟩ := hb
  obtain ⟨oldest, hl', -⟩ := hg.log
  exact ⟨recent, record, during, older ++ oldest, by rw [hl, hl', List.append_assoc], hrest⟩

theorem StopRan.before (hb : h.StopRan h') (hg : h'.Grew Happening.Calm h'') : h.StopRan h'' := by
  obtain ⟨recent, record, during, older, hl, hrecent, hrest⟩ := hb
  obtain ⟨newest, hl', hcalm, -⟩ := hg.log
  refine ⟨newest ++ recent, record, during, older, by rw [hl', hl, List.append_assoc], fun e he => ?_, hrest⟩
  rcases List.mem_append.mp he with he | he
  · exact (hcalm e he).2
  · exact hrecent e he

theorem stopAll_ran (c : RobotConfig) (h : Hardware) : Triple (stopAll c) h (fun _ => h.StopRan) (fun _ _ => False) := by
  refine Triple.step (show note .stopBegun h = (.ok (), { h with log := .stopBegun :: h.log }) from rfl) ?_
  have hdiscovered : Keeps (Grew Happening.Calm) discoveredMotorPaths := discoveredMotorPaths_grew
  refine Triple.bind (Keeps.attempted hdiscovered _) fun discovered h₁ h₁' => ?_
  have hconfigured : Keeps (Grew Happening.Calm) (configuredPaths c) := configuredPathsFrom_grew _ _
  refine Triple.bind (Keeps.attempted hconfigured _) fun configured h₂ h₂' => ?_
  have hrounds := (stopRounds_grew (P := Happening.Calm) (pathsToStop discovered configured) c.limits.maximumAttempts
    c.limits.maximumAttempts 1 { errors := errorLabelled "discover" discovered ++ errorLabelled "configured" configured }).triple h₂
  have hsends := stopAll_sends c discovered configured h₂
  have htotal := stopRounds_total (pathsToStop discovered configured) c.limits.maximumAttempts c.limits.maximumAttempts 1
    { errors := errorLabelled "discover" discovered ++ errorLabelled "configured" configured } h₂
  refine Triple.bind (((hrounds.and hsends).and htotal).mono (fun _ _ h => h.1) fun _ _ h => h.2) ?_
  rintro l h₃ ⟨h₃', hsent⟩
  refine Triple.step (show note _ h₃ = (.ok (), { h₃ with log := _ :: h₃.log }) from rfl) (Triple.pure ?_)
  obtain ⟨during, hlog, hcalm, -⟩ := (h₁'.trans (h₂'.trans h₃')).log
  exact ⟨[], _, during, [], congrArg _ hlog, by simp, fun e he => (hcalm e he).2,
    pathsToStop_knows discovered configured, hsent.rounds, hsent.wrote⟩

end Hardware

namespace MotorOwner

variable {c : RobotConfig} {o : MotorOwner}

theorem stopAllVerified_ran (ho : o.closed = false) :
    Triple (stopAllVerified c) o (fun _ o' => o.hw.StopRan o'.hw) (fun _ _ => False) :=
  Triple.step (requireOpen_ok ho) (Triple.bind (Triple.onPart (Hardware.stopAll_ran c o.hw)) fun _ _ h => Triple.pure h)

theorem finishActive_ran (ho : o.closed = false) (verifyMotion : Bool) :
    Settles (finishActive c verifyMotion) o fun o' => o.hw.StopRan o'.hw := by
  refine Triple.step (requireOpen_ok ho) (Triple.get_bind ?_)
  split
  next => exact Triple.bind ((stopAllVerified_ran ho).mono (fun _ _ h => h) fun _ _ h => h.elim) fun _ _ h => Triple.pure h
  next active _ =>
    have hstop := stopAllVerified_ran (c := c) (o := { o with active := none }) ho
    refine Triple.modify_bind (Triple.bind (hstop.mono (fun _ _ h => h) fun _ _ h => h.elim) fun _ o₁ h₁ => ?_)
    have hread : Keeps (SameBy Happening.Calm) (onHw (readFinishedMotors active.motors)) := onHw_same (readFinishedMotors_grew active.motors)
    exact Triple.frame_bind hread (fun _ _ h => h₁.before h.hw) fun _ _ h => Triple.pure (h₁.before h.hw)

end MotorOwner

-- The end of a motion

namespace EV3Supervisor

variable {c : SupervisorConfig} {s s' s'' : EV3Supervisor} {code detail : String}

/-- No motion is known any more, and a stop of all motors ran. -/
structure Halts (s s' : EV3Supervisor) : Prop where
  forgotten : s'.owner.active = none
  stopped : s.owner.hw.StopRan s'.owner.hw

def MotionEnded (s s' : EV3Supervisor) : Prop := s.owner.active.isSome = true → s.Halts s'

def Idle (s s' : EV3Supervisor) : Prop := s.owner.Idles s'.owner

instance : IsPreorder EV3Supervisor Idle where
  refl s := refl_of MotorOwner.Idles s.owner
  trans _ _ _ h h' := trans_of MotorOwner.Idles h h'

instance : Bystander Idle where
  owner _ _ h := h
  session s s' ho _ := by
    show s.owner.Idles s'.owner
    rw [ho]
    exact refl_of MotorOwner.Idles s.owner

theorem Halts.idle (h : s.Halts s') (hi : s'.Idle s'') : s.Halts s'' where
  forgotten := by
    obtain hnone | hsame := hi.motion
    · exact hnone
    · simpa [MotorOwner.roles, h.forgotten] using hsame
  stopped := h.stopped.before hi.calms

theorem Halts.since {P : Happening → Prop} (h : s'.Halts s'') (hg : s.owner.hw.Grew P s'.owner.hw) : s.Halts s'' :=
  ⟨h.forgotten, h.stopped.after hg⟩

theorem Halts.after (h : s'.Halts s'') (hs : s.Same s') : s.Halts s'' := h.since hs.owner.hw

theorem Halts.then (h : s.Halts s') {x : Sup α} (hx : Keeps Idle x) : Settles x s' s.Halts :=
  (hx.triple s').mono (fun _ _ hi => h.idle hi) fun _ _ hi => h.idle hi

theorem finishActive_halts (ho : s.owner.closed = false) (verifyMotion : Bool) :
    Settles (onOwner (MotorOwner.finishActive c.toRobotConfig verifyMotion)) s s.Halts := by
  have hforgot := MotorOwner.finishActive_run (c := c.toRobotConfig) (o := s.owner) (fun hc => by simp [ho] at hc) verifyMotion
  refine Triple.onPart ((hforgot.and (MotorOwner.finishActive_ran ho verifyMotion)).mono ?_ ?_)
  · exact fun _ _ h => ⟨h.1.1, h.2⟩
  · exact fun _ _ h => ⟨h.1.1, h.2⟩

theorem finishActiveStop_halts (ho : s.owner.closed = false) : Settles (finishActiveStop c) s s.Halts :=
  Triple.bind (finishActive_halts ho false) fun _ _ h => Triple.pure h

theorem finishActiveWithRetry_halts {E : PyError → EV3Supervisor → Prop} (ho : s.owner.closed = false) (phase : String) :
    Triple (finishActiveWithRetry c phase) s (fun _ => s.Halts) E := by
  refine Triple.bind (Triple.attempt (P := fun _ => s.Halts) (finishActiveStop_halts ho)) fun r s₁ h₁ => ?_
  cases r with
  | ok stop => exact Triple.pure h₁
  | error e =>
    exact Triple.bind (Triple.attempt (P := fun _ => s.Halts) (h₁.then finishActiveStop_rests)) fun _ _ h₂ => Triple.pure h₂

theorem faultRetry_halts (ho : s.owner.closed = false) : Settles (faultRetry c) s s.Halts := by
  refine Triple.bind (Triple.attempt (P := fun _ => s.Halts) (finishActiveStop_halts ho)) fun retry s₁ h₁ => ?_
  cases retry <;> exact h₁.then (updateFault_rests _)

theorem stopForFault_halts (ho : s.owner.closed = false) : Settles (stopForFault c none) s s.Halts :=
  Triple.bind (Triple.attempt (P := fun _ => s.Halts) (finishActiveStop_halts ho)) fun _ _ h => Triple.pure h

theorem enterFaultSilently_halts (ho : s.owner.closed = false) : Settles (enterFaultSilently c code detail none) s s.Halts :=
  Triple.get_bind (Triple.ite (fun _ => faultRetry_halts ho) fun _ =>
    Triple.bind (stopForFault_halts ho) fun stop _ h => h.then (latch_rests stop))

theorem enterFault_halts (ho : s.owner.closed = false) : Settles (enterFault c code detail none) s s.Halts := by
  refine Triple.get_bind (Triple.ite (fun _ => faultRetry_halts ho) fun _ => ?_)
  refine Triple.bind (stopForFault_halts ho) fun stop s₁ h₁ => ?_
  exact h₁.then (.bind (latch_rests stop) fun _ => .tryCatch emit_rests fun _ => .ite (.pure _) (.throw _))

end EV3Supervisor

end RobotLlm.Ev3
