import Mathlib.Data.List.Dedup
import RobotLlm.Ev3.FrameLaws

/-!
# What a verified stop means

A stop without errors that is confirmed has written to every motor in every
attempt, has read all of them at the same positions twice, and found none
active or faulty the last time.
-/

namespace RobotLlm.Ev3

open RobotLlm.Lib Prog Hardware

-- Verified stops

/-- Both writes to each motor, and all of them succeeded. -/
def StopRound.Wrote (paths : List String) (r : StopRound) : Prop :=
  r.writes.map StopAttempt.path = paths ∧ ∀ w ∈ r.writes, w.stopActionError = none ∧ w.error = none

def StopRound.Complete (paths : List String) (r : StopRound) : Prop :=
  r.readErrors = [] ∧ r.states.map Prod.fst = paths ∧ r.positions.map Prod.fst = paths

/-- Every state text is known, and says neither active nor fault. -/
def Still (states : List (String × String)) : Prop :=
  ∀ m ∈ states, ∃ tokens, stateTokens m.2 = .ok tokens ∧ tokens.any MotorToken.Active = false ∧
    tokens.any MotorToken.Fault = false

/-- Two complete readings at the same positions, the last of them still. -/
def StopRecord.Stable (r : StopRecord) : Prop :=
  ∃ last older, r.rounds = last :: older ∧ last.Complete r.paths ∧ Still last.states ∧
    ∃ earlier ∈ older, earlier.Complete r.paths ∧ earlier.positions = last.positions

structure StopRecord.Verified (r : StopRecord) : Prop where
  listed : ∃ discovered configured, r.discovered = some discovered ∧ r.configured = some configured ∧
    ∀ path, path ∈ discovered ∨ path ∈ configured → path ∈ r.paths
  nonempty : r.paths ≠ []
  written : ∀ round ∈ r.rounds, round.Wrote r.paths
  stable : r.Stable

-- Reading

/-- What a reading without errors has seen of the motors read so far. -/
def StopReading.Covers (paths : List String) (r : StopReading) : Prop :=
  r.readErrors = [] → r.states.map Prod.fst = paths ∧ r.positions.map Prod.fst = paths ∧
    (r.active = [] → r.faultTokens = [] → Still r.states)

theorem readState_returns : Returns (fun state => stateTokens state.1 = .ok state.2) readState :=
  .next fun raw => .bind (P := fun tokens => stateTokens raw = .ok tokens) (.ofExcept fun _ h => h) fun _ h => .pure h

theorem StopReading.failed_covers (r : StopReading) (paths : List String) (path : String) (e : PyError) :
    (r.failed path e).Covers paths := by
  simp [Covers, failed]

theorem StopReading.observed_covers {r : StopReading} (hr : r.Covers paths) (htokens : stateTokens raw = .ok tokens)
    (position : Except PyError Int) : (r.observed path raw tokens position).Covers (paths ++ [path]) := by
  cases position with
  | error e => exact StopReading.failed_covers _ _ _ _
  | ok position =>
    intro hne
    obtain ⟨hstates, hpositions, hstill⟩ := hr hne
    refine ⟨by simp [observed, hstates], by simp [observed, hpositions], fun hactive hfault => ?_⟩
    have ha : tokens.any MotorToken.Active = false ∧ r.active = [] := by
      by_cases h : tokens.any MotorToken.Active = true <;> simp_all [observed]
    have hf : tokens.any MotorToken.Fault = false ∧ r.faultTokens = [] := by
      by_cases h : tokens.any MotorToken.Fault = true <;> simp_all [observed]
    intro m hm
    rcases List.mem_append.mp hm with hm | hm
    · exact hstill ha.2 hf.2 m hm
    · obtain rfl := List.mem_singleton.mp hm
      exact ⟨tokens, htokens, ha.1, hf.1⟩

theorem readMotor_returns {r : StopReading} (hr : r.Covers paths) (path : String) :
    Returns (StopReading.Covers (paths ++ [path])) (readMotor r path) := by
  refine .bind readState_returns.attempt fun state hstate => ?_
  cases state with
  | error e => exact .pure (r.failed_covers _ _ _)
  | ok state => exact .next fun position => .pure (StopReading.observed_covers hr (hstate state rfl) position)

theorem readMotors_returns {r : StopReading} (hr : r.Covers done) (paths : List String) :
    Returns (StopReading.Covers (done ++ paths)) (readMotors r paths) := by
  induction paths generalizing r done with
  | nil => exact .pure (by simpa using hr)
  | cons path paths ih =>
    refine .bind (readMotor_returns hr path) fun r' hr' => ?_
    have h := ih hr'
    rwa [List.append_assoc] at h

-- The retry loop

theorem stopMotors_returns (attempt : Nat) (paths : List String) :
    Returns (fun writes => writes.map StopAttempt.path = paths) (stopMotors attempt paths) := by
  induction paths with
  | nil => exact .pure rfl
  | cons path paths ih =>
    refine .bind (P := fun a => a.path = path) (.next fun _ => .next fun _ => .pure rfl) fun a ha => ?_
    exact .bind ih fun writes hw => .pure (by simp [ha, hw])

theorem addNew_eq_nil {errors details : List String} (h : addNew errors details = []) : errors = [] ∧ details = [] := by
  induction details generalizing errors with
  | nil => exact ⟨h, rfl⟩
  | cons detail details ih =>
    obtain ⟨hnil, -⟩ := ih h
    split at hnil
    · simp_all
    · simp at hnil

theorem roundErrors_returns (isLast : Bool) (errors readErrors : List String) :
    Returns (fun result => result = [] → errors = []) (roundErrors isLast errors readErrors) := by
  refine .ite (.pure fun h => (List.append_eq_nil_iff.mp h).1) (.next fun slept => ?_)
  cases slept with
  | ok _ => exact .pure fun h => h
  | error e => exact .pure fun h => (addNew_eq_nil h).1

structure StopLoop.Inv (paths errors₀ : List String) (l : StopLoop) : Prop where
  begun : l.errors = [] → errors₀ = []
  written : l.errors = [] → ∀ round ∈ l.rounds, round.Wrote paths
  /-- The positions to compare with are those of an earlier complete reading. -/
  previous : ∀ positions ∈ l.previousPositions, ∃ round ∈ l.rounds, round.Complete paths ∧ round.positions = positions
  confirmed : l.stopConfirmed = true → ∃ last older, l.rounds = last :: older ∧ last.Complete paths ∧ Still last.states ∧
    ∃ earlier ∈ older, earlier.Complete paths ∧ earlier.positions = last.positions

theorem wrote_of_details {writes : List StopAttempt} (hp : writes.map StopAttempt.path = paths)
    (hd : writes.flatMap StopAttempt.details = []) (states : List (String × String)) (positions : List (String × Int))
    (readErrors : List String) : StopRound.Wrote paths ⟨writes, states, positions, readErrors⟩ := by
  refine ⟨hp, fun w hw => ?_⟩
  have h := List.flatMap_eq_nil_iff.mp hd w hw
  simp only [StopAttempt.details, List.append_eq_nil_iff] at h
  constructor
  · cases hs : w.stopActionError <;> simp_all
  · cases hs : w.error <;> simp_all

/-- The loop after the writes and the reading of a round. -/
def StopLoop.read (l : StopLoop) (writes : List StopAttempt) (reading : StopReading) : StopLoop :=
  { l with
    errors := addNew l.errors (writes.flatMap StopAttempt.details)
    stopAttempts := l.stopAttempts ++ writes
    last := reading
    rounds := ⟨writes, reading.states, reading.positions, reading.readErrors⟩ :: l.rounds }

theorem StopLoop.Inv.read {l : StopLoop} (hl : l.Inv paths errors₀) (hn : l.stopConfirmed = false)
    (hp : writes.map StopAttempt.path = paths) (reading : StopReading) : (l.read writes reading).Inv paths errors₀ where
  begun h := hl.begun (addNew_eq_nil h).1
  written h round hr := by
    obtain ⟨hle, hd⟩ := addNew_eq_nil h
    rcases List.mem_cons.mp hr with rfl | hr
    · exact wrote_of_details hp hd _ _ _
    · exact hl.written hle round hr
  previous positions hp := by
    obtain ⟨round, hr, h⟩ := hl.previous positions hp
    exact ⟨round, List.mem_cons_of_mem _ hr, h⟩
  confirmed h := absurd (hn.symm.trans h) (by simp)

theorem StopReading.Covers.complete {reading : StopReading} (hr : reading.Covers paths) (hne : reading.readErrors = []) :
    StopRound.Complete paths ⟨writes, reading.states, reading.positions, reading.readErrors⟩ :=
  ⟨hne, (hr hne).1, (hr hne).2.1⟩

theorem stopRound_returns {l : StopLoop} (hl : l.Inv paths errors₀) (hn : l.stopConfirmed = false)
    (attempt maximumAttempts : Nat) :
    Returns (StopLoop.Inv paths errors₀) (stopRound paths attempt maximumAttempts l) := by
  refine .bind (stopMotors_returns attempt paths) fun writes hwrites => ?_
  have hnone : StopReading.Covers [] {} := by simp [StopReading.Covers, Still]
  refine .bind (readMotors_returns hnone paths) fun reading hreading => ?_
  rw [List.nil_append] at hreading
  have hread := hl.read hn hwrites reading
  show Returns _ (if reading.active = [] ∧ reading.readErrors = [] ∧ reading.faultTokens = [] ∧
      l.previousPositions = some reading.positions then
    return { l.read writes reading with stopConfirmed := true }
    else do
      let errors ← roundErrors (attempt = maximumAttempts) (l.read writes reading).errors reading.readErrors
      return { l.read writes reading with
        errors := errors
        previousPositions := if reading.readErrors = [] then some reading.positions else l.previousPositions })
  split
  next hc =>
    obtain ⟨hactive, hne, hfault, hsame⟩ := hc
    refine .pure { hread with confirmed := fun _ => ⟨_, l.rounds, rfl, hreading.complete hne, ?_, ?_⟩ }
    · exact (hreading hne).2.2 hactive hfault
    · exact hl.previous _ hsame
  next =>
    refine .bind (roundErrors_returns _ _ _) fun errors he => .pure ?_
    refine ⟨fun h => hread.begun (he h), fun h => hread.written (he h), fun positions hp => ?_, hread.confirmed⟩
    by_cases hne : reading.readErrors = []
    · rw [if_pos hne] at hp
      obtain rfl := Option.some.inj hp
      exact ⟨_, List.mem_cons_self, hreading.complete hne, rfl⟩
    · rw [if_neg hne] at hp
      exact hread.previous positions hp

theorem stopRounds_returns (maximumAttempts remaining attempt : Nat) {l : StopLoop} (hl : l.Inv paths errors₀)
    (hn : l.stopConfirmed = false) :
    Returns (StopLoop.Inv paths errors₀) (stopRounds paths maximumAttempts remaining attempt l) := by
  induction remaining generalizing attempt l with
  | zero => exact .pure hl
  | succ remaining ih =>
    refine .bind (stopRound_returns hl hn _ _) fun l' hl' => ?_
    split
    next => exact .pure hl'
    next hc => exact ih _ hl' (by simpa using hc)

-- Stops in the log

def lastStop : List Happening → Option StopRecord
  | [] => none
  | .stopEnded record :: _ => some record
  | _ :: log => lastStop log

theorem lastStop_requests {newer : List Happening} (h : ∀ e ∈ newer, e.isRequest = true) (log : List Happening) :
    lastStop (newer ++ log) = lastStop log := by
  induction newer with
  | nil => rfl
  | cons e newer ih =>
    have he := h e List.mem_cons_self
    cases e with
    | requested bound => exact ih fun e he => h e (List.mem_cons_of_mem _ he)
    | _ => simp [Happening.isRequest] at he

/-- Since the log `before`, stops have ended, and the last of them verified. -/
def StopProved (before log : List Happening) : Prop :=
  ∃ newer record, log = newer ++ before ∧ lastStop newer = some record ∧ record.Verified

theorem StopProved.read {h h' : Hardware} (hp : StopProved before h.log) (hr : Hardware.Read h h') :
    StopProved before h'.log := by
  obtain ⟨newer, record, hlog, hlast, hv⟩ := hp
  obtain ⟨requests, hlog', hreq, -⟩ := hr.log
  exact ⟨requests ++ newer, record, by rw [hlog', hlog, List.append_assoc], by rw [lastStop_requests hreq, hlast], hv⟩

theorem pathsToStop_covers (discovered configured : List String) :
    ∀ path, path ∈ discovered ∨ path ∈ configured → path ∈ pathsToStop (.ok discovered) (.ok configured) := by
  intro path h
  simpa [pathsToStop, Except.toOption] using h

theorem eq_ok_of_errorLabelled {r : Except PyError α} (h : errorLabelled label r = []) : ∃ a, r = .ok a := by
  cases r with
  | ok a => exact ⟨a, rfl⟩
  | error e => simp [errorLabelled] at h

theorem begun_inv (paths errors : List String) : StopLoop.Inv paths errors { errors := errors } where
  begun h := h
  written _ _ h := absurd h (by simp)
  previous _ h := absurd h (by simp)
  confirmed h := absurd h (by simp)

theorem verified_of_clean {discovered configured : Except PyError (List String)} {l : StopLoop}
    (hl : l.Inv (pathsToStop discovered configured)
      (errorLabelled "discover" discovered ++ errorLabelled "configured" configured))
    (hc : l.stopConfirmed = true) (he : l.errors = []) (hp : pathsToStop discovered configured ≠ []) :
    StopRecord.Verified ⟨discovered.toOption, configured.toOption, pathsToStop discovered configured, l.rounds⟩ := by
  obtain ⟨hd, hcfg⟩ := List.append_eq_nil_iff.mp (hl.begun he)
  obtain ⟨discovered, rfl⟩ := eq_ok_of_errorLabelled hd
  obtain ⟨configured, rfl⟩ := eq_ok_of_errorLabelled hcfg
  exact ⟨⟨discovered, configured, rfl, rfl, pathsToStop_covers _ _⟩, hp, hl.written he, hl.confirmed hc⟩

theorem stopAll_run (c : RobotConfig) {h₀ h : Hardware} (hl : Hardware.Later h₀ h) :
    Triple (stopAll c) h (fun run h' => run.stopConfirmed = true → run.errors = [] → StopProved h₀.log h'.log)
      (fun _ _ => True) := by
  have hbegun : Keeps Later (note .stopBegun) := note_later trivial rfl
  refine Triple.frame_bind hbegun (fun _ _ _ => trivial) fun _ h₁ hl₁ => ?_
  refine Triple.frame_bind (K := Later) (.attempt discoveredMotorPaths_grew) (fun _ _ _ => trivial) fun discovered h₂ hl₂ => ?_
  refine Triple.frame_bind (K := Later) (.attempt (configuredPathsFrom_grew _ _)) (fun _ _ _ => trivial) fun configured h₃ hl₃ => ?_
  refine Triple.bind ((Keeps.triple (K := Later) (stopRounds_grew _ _ _ _ _) h₃).and
    (stopRounds_returns _ _ _ (begun_inv _ _) rfl h₃) |>.mono (fun _ _ h => h) fun _ _ _ => trivial) ?_
  rintro l h₄ ⟨hl₄, hinv⟩
  refine Triple.modify_bind (Triple.pure fun hc he => ?_)
  obtain ⟨newer, hlog, -⟩ := (hl.trans (hl₁.trans (hl₂.trans (hl₃.trans hl₄)))).log
  simp only [List.append_eq_nil_iff, ite_eq_right_iff, List.cons_ne_self, imp_false] at he
  exact ⟨_ :: newer, _, congrArg _ hlog, rfl, verified_of_clean hinv hc he.1.1 he.2⟩

-- The owner

namespace MotorOwner

variable {c : RobotConfig} {o : MotorOwner} {h₀ : Hardware}

theorem stopAllVerified_run (hl : Later h₀ o.hw) :
    Triple (stopAllVerified c) o
      (fun stop o' => stop.stopConfirmed = true → stop.errors = [] → StopProved h₀.log o'.hw.log) (fun _ _ => True) := by
  refine Triple.bind (Q := fun _ o' => o' = o) (Triple.get_bind (Triple.check (fun _ => trivial) fun _ => rfl)) ?_
  rintro _ _ rfl
  exact Triple.bind (Triple.onPart ((stopAll_run c hl).mono (fun _ _ h => h) fun _ _ h => h)) fun _ _ h => Triple.pure h

theorem readFinished_read (motors : List Motor) : Keeps Hardware.Read (readFinishedMotors motors) := by
  induction motors with
  | nil => exact .pure _
  | cons motor motors ih =>
    refine .bind (.attempt (.bind (ask_read _) fun _ => .bind (ask_read _) fun _ => .pure _)) fun receipt => ?_
    cases receipt with
    | ok receipt => exact .bind ih fun _ => .pure _
    | error e => exact .bind (.failIf _ _) fun _ => .bind ih fun _ => .pure _

theorem finishActive_proved (hl : Later h₀ o.hw) (verifyMotion : Bool) :
    Triple (finishActive c verifyMotion) o
      (fun result o' => result.stop.stopConfirmed = true → result.stop.errors = [] → StopProved h₀.log o'.hw.log)
      (fun _ _ => True) := by
  refine Triple.bind (Q := fun _ o' => o' = o) (Triple.get_bind (Triple.check (fun _ => trivial) fun _ => rfl)) ?_
  rintro _ _ rfl
  refine Triple.get_bind ?_
  split
  next => exact Triple.bind (stopAllVerified_run hl) fun _ _ h => Triple.pure h
  next active _ =>
    refine Triple.modify_bind (Triple.bind (stopAllVerified_run hl) fun stop o₁ h₁ => ?_)
    refine Triple.bind (Q := fun _ o' => stop.stopConfirmed = true → stop.errors = [] → StopProved h₀.log o'.hw.log)
      (Triple.onPart (((readFinished_read active.motors).triple _).mono
        (fun _ _ hr hc he => (h₁ hc he).read hr) fun _ _ _ => trivial)) fun read o₂ h₂ => Triple.pure fun hc he => ?_
    exact h₂ hc (List.append_eq_nil_iff.mp he).1

end MotorOwner

end RobotLlm.Ev3
