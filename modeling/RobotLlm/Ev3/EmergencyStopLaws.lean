import RobotLlm.Ev3.EmergencyStop

/-!
# When a stop is confirmed

The polling counts the rounds that found every motor at rest where the round
before found it; the count is a function of what the rounds read, whatever
else went wrong. An error is never forgotten, so that a confirmed stop had
none, and an interrupt always comes with an error.
-/

namespace RobotLlm.Ev3.EmergencyStop

open RobotLlm.Lib
open RobotLlm.Lib.Prog (Triple)

abbrev Ends (x : Att α) (s : EmergencyStopAttempt) (Q : α → EmergencyStopAttempt → Prop) : Prop :=
  Triple x s Q fun _ _ => False

theorem appendOnce_ne_nil (items : List String) (value : String) : appendOnce items value ≠ [] := by
  unfold appendOnce
  split
  next h => exact List.ne_nil_of_mem h
  · simp

-- What every step keeps

/-- An interrupt that waits is an interrupt, and was noted as an error. -/
structure Accounted (s : EmergencyStopAttempt) : Prop where
  interrupt : ∀ e, s.deferredInterrupt = some e → e.isInterrupt = true
  noted : s.deferredInterrupt ≠ none → s.operationalErrors ≠ [] ∨ s.topologyErrors ≠ []

/-- What every step after the discovery leaves as it is. -/
structure Kept (s s' : EmergencyStopAttempt) : Prop where
  paths : s'.paths = s.paths
  required : s'.requiredStableIntervals = s.requiredStableIntervals
  known : ∀ p ∈ s.records.keys, p ∈ s'.records.keys
  operational : s.operationalErrors ≠ [] → s'.operationalErrors ≠ []
  topology : s.topologyErrors ≠ [] → s'.topologyErrors ≠ []
  accounted : Accounted s → Accounted s'
  attempts : ∀ a ∈ s.attempts, a ∈ s'.attempts
  writes : ∀ a ∈ s.writes, a ∈ s'.writes

structure Polled (s s' : EmergencyStopAttempt) : Prop extends Kept s s' where
  sameTopology : s'.topologyErrors = s.topologyErrors
  ports : s'.discoveredPorts = s.discoveredPorts

structure Quiet (s s' : EmergencyStopAttempt) : Prop extends Polled s s' where
  verdict : s'.inactiveAndStable = s.inactiveAndStable
  intervals : s'.stableIntervals = s.stableIntervals
  rounds : s'.rounds = s.rounds

structure Stepped (ok : Prop) (s s' : EmergencyStopAttempt) : Prop extends Quiet s s' where
  clean : ok → s'.operationalErrors = s.operationalErrors
  dirty : ¬ ok → s'.operationalErrors ≠ []

variable {s s' t : EmergencyStopAttempt} {w : World}

theorem Kept.refl (s : EmergencyStopAttempt) : Kept s s :=
  ⟨rfl, rfl, fun _ h => h, id, id, id, fun _ h => h, fun _ h => h⟩

theorem Kept.trans (h : Kept s s') (h' : Kept s' t) : Kept s t where
  paths := h'.paths.trans h.paths
  required := h'.required.trans h.required
  known p hp := h'.known p (h.known p hp)
  operational ho := h'.operational (h.operational ho)
  topology ht := h'.topology (h.topology ht)
  accounted ha := h'.accounted (h.accounted ha)
  attempts a ha := h'.attempts a (h.attempts a ha)
  writes a ha := h'.writes a (h.writes a ha)

theorem Polled.refl (s : EmergencyStopAttempt) : Polled s s := ⟨.refl s, rfl, rfl⟩

theorem Polled.trans (h : Polled s s') (h' : Polled s' t) : Polled s t :=
  ⟨h.toKept.trans h'.toKept, h'.sameTopology.trans h.sameTopology, h'.ports.trans h.ports⟩

theorem Quiet.refl (s : EmergencyStopAttempt) : Quiet s s := ⟨.refl s, rfl, rfl, rfl⟩

theorem Quiet.trans (h : Quiet s s') (h' : Quiet s' t) : Quiet s t :=
  ⟨h.toPolled.trans h'.toPolled, h'.verdict.trans h.verdict, h'.intervals.trans h.intervals, h'.rounds.trans h.rounds⟩

theorem Stepped.refl (s : EmergencyStopAttempt) : Stepped True s s := ⟨.refl s, fun _ => rfl, fun h => absurd trivial h⟩

theorem Stepped.trans {a b : Prop} (h : Stepped a s s') (h' : Stepped b s' t) : Stepped (a ∧ b) s t where
  toQuiet := h.toQuiet.trans h'.toQuiet
  clean hab := (h'.clean hab.2).trans (h.clean hab.1)
  dirty hab := by
    by_cases ha : a
    · exact h'.dirty fun hb => hab ⟨ha, hb⟩
    · exact h'.operational (h.dirty ha)

theorem Stepped.imp {a b : Prop} (h : Stepped a s s') (hab : a ↔ b) : Stepped b s s' :=
  ⟨h.toQuiet, fun hb => h.clean (hab.mpr hb), fun hb => h.dirty fun ha => hb (hab.mp ha)⟩

theorem rememberInterrupt_accounted (e : Raised) (ha : Accounted s)
    (hn : s.operationalErrors ≠ [] ∨ s.topologyErrors ≠ []) : Accounted (s.rememberInterrupt e) := by
  unfold EmergencyStopAttempt.rememberInterrupt
  split
  next h =>
    refine ⟨?_, fun _ => hn⟩
    rintro _ ⟨⟩
    exact h.1
  · exact ha

@[simp] theorem rememberInterrupt_operationalErrors (e : Raised) :
    (s.rememberInterrupt e).operationalErrors = s.operationalErrors := by
  unfold EmergencyStopAttempt.rememberInterrupt
  split <;> rfl

@[simp] theorem rememberInterrupt_topologyErrors (e : Raised) :
    (s.rememberInterrupt e).topologyErrors = s.topologyErrors := by
  unfold EmergencyStopAttempt.rememberInterrupt
  split <;> rfl

theorem rememberInterrupt_quiet (e : Raised) (hn : s.operationalErrors ≠ [] ∨ s.topologyErrors ≠ []) :
    Quiet s (s.rememberInterrupt e) := by
  have ha := fun ha : Accounted s => rememberInterrupt_accounted e ha hn
  unfold EmergencyStopAttempt.rememberInterrupt at ha ⊢
  split
  next h =>
    rw [if_pos h] at ha
    exact ⟨⟨⟨rfl, rfl, fun _ h => h, id, id, ha, fun _ h => h, fun _ h => h⟩, rfl, rfl⟩, rfl, rfl, rfl⟩
  · exact .refl s

theorem operationalNote_ne_nil (detail : String) : (s.operationalNote detail).operationalErrors ≠ [] :=
  appendOnce_ne_nil _ _

theorem topologyNote_ne_nil (detail : String) : (s.topologyNote detail).topologyErrors ≠ [] :=
  appendOnce_ne_nil _ _

theorem operationalNote_quiet (detail : String) : Quiet s (s.operationalNote detail) :=
  have hne : (s.operationalNote detail).operationalErrors ≠ [] := operationalNote_ne_nil detail
  ⟨⟨⟨rfl, rfl, fun _ h => h, fun _ => hne, id, fun ha => ⟨ha.interrupt, fun _ => .inl hne⟩, fun _ h => h,
    fun _ h => h⟩, rfl, rfl⟩, rfl, rfl, rfl⟩

theorem topologyNote_kept (detail : String) : Kept s (s.topologyNote detail) :=
  have hne : (s.topologyNote detail).topologyErrors ≠ [] := topologyNote_ne_nil detail
  ⟨rfl, rfl, fun _ h => h, id, fun _ => hne, fun ha => ⟨ha.interrupt, fun _ => .inr hne⟩, fun _ h => h, fun _ h => h⟩

theorem topologyError_ne_nil (detail : String) (e : Raised) : (s.topologyError detail e).topologyErrors ≠ [] := by
  simpa [EmergencyStopAttempt.topologyError] using topologyNote_ne_nil detail

theorem topologyError_kept (detail : String) (e : Raised) : Kept s (s.topologyError detail e) :=
  (topologyNote_kept detail).trans (rememberInterrupt_quiet e (.inr (topologyNote_ne_nil detail))).toKept

theorem operationalError_stepped (detail : String) (e : Raised) : Stepped False s (s.operationalError detail e) where
  toQuiet := (operationalNote_quiet detail).trans (rememberInterrupt_quiet e (.inl (operationalNote_ne_nil detail)))
  clean := False.elim
  dirty _ := by simpa [EmergencyStopAttempt.operationalError] using operationalNote_ne_nil detail

-- The writes of a round

def World.Writes (w : World) (number : Nat) (path : Item) (file : StopFile) : Prop :=
  ∃ text, path = .path text ∧ w.write number text file = .ok ()

def World.Wrote (w : World) (number : Nat) (path : Item) : Prop :=
  w.Writes number path .stopAction ∧ w.Writes number path .command

/-- The motor was written to in some round: the attempt is recorded, and if it
has a path, the stop was called. -/
def Attempted (path : Item) (s : EmergencyStopAttempt) : Prop :=
  (∃ a ∈ s.attempts, a.path = path) ∧ ∀ text, path = .path text → ∃ number, (number, text, .command) ∈ s.writes

theorem Attempted.kept {path : Item} (ha : Attempted path s) (h : Kept s s') : Attempted path s' := by
  obtain ⟨⟨a, hmem, hpath⟩, hw⟩ := ha
  refine ⟨⟨a, h.attempts a hmem, hpath⟩, fun text ht => ?_⟩
  obtain ⟨number, hn⟩ := hw text ht
  exact ⟨number, h.writes _ hn⟩

theorem called_quiet (number : Nat) (text : String) (file : StopFile) :
    Quiet s { s with writes := s.writes ++ [(number, text, file)] } :=
  ⟨⟨⟨rfl, rfl, fun _ h => h, id, id, fun ha => ⟨ha.interrupt, ha.noted⟩, fun _ h => h,
    fun _ h => List.mem_append_left _ h⟩, rfl, rfl⟩, rfl, rfl, rfl⟩

theorem writeStop_ends (number : Nat) (path : Item) (file : StopFile) :
    Ends (writeStop w number path file) s fun _ s' =>
      Stepped (w.Writes number path file) s s' ∧ ∀ text, path = .path text → (number, text, file) ∈ s'.writes := by
  unfold writeStop
  cases path with
  | other value =>
    refine Triple.tryCatch (F := fun _ s' => s' = s) rfl ?_
    rintro e _ rfl
    refine ⟨(operationalError_stepped _ e).imp ⟨False.elim, ?_⟩, nofun⟩
    rintro ⟨_, ⟨⟩, -⟩
  | path text =>
    have hcalled := called_quiet (s := s) number text file
    have hmem : (number, text, file) ∈ s.writes ++ [(number, text, file)] := by simp
    cases hw : w.write number text file with
    | ok u =>
      refine Triple.tryCatch (F := fun _ _ => False) ?_ (fun _ _ h => h.elim)
      refine Triple.of_run (r := .ok none) (by simp [Prog.bind_run, Item.join, hw]) ⟨⟨hcalled, fun _ => rfl, ?_⟩, ?_⟩
      · exact fun h => absurd ⟨text, rfl, hw⟩ h
      · rintro _ ⟨⟩
        exact hmem
    | error e =>
      refine Triple.tryCatch (F := fun _ s' => s' = { s with writes := s.writes ++ [(number, text, file)] }) ?_ ?_
      · exact Triple.of_run (r := .error e) (by simp [Prog.bind_run, Item.join, hw]) rfl
      rintro failure _ rfl
      have hstep := operationalError_stepped (s := { s with writes := s.writes ++ [(number, text, file)] })
        s!"{text} {file.label}: {failure.text}" failure
      refine ⟨⟨hcalled.trans hstep.toQuiet, ?_, fun _ => hstep.dirty id⟩, ?_⟩
      · rintro ⟨_, ⟨⟩, hok⟩
        rw [hw] at hok
        cases hok
      · rintro _ ⟨⟩
        exact hstep.writes _ hmem

theorem writeStopCommand_ends (number : Nat) (path : Item) :
    Ends (writeStopCommand w number path) s fun _ s' => Stepped (w.Wrote number path) s s' ∧ Attempted path s' := by
  unfold writeStopCommand
  refine Triple.bind (writeStop_ends number path .stopAction) ?_
  rintro actionError s₁ ⟨h₁, -⟩
  refine Triple.bind (writeStop_ends number path .command) ?_
  rintro commandError s₂ ⟨h₂, hmem⟩
  have hlast : Stepped True s₂ { s₂ with attempts := s₂.attempts ++ [⟨number, path, actionError, commandError⟩] } := by
    refine ⟨⟨⟨⟨rfl, rfl, fun _ h => h, id, id, fun ha => ⟨ha.interrupt, ha.noted⟩, ?_, fun _ h => h⟩, rfl, rfl⟩,
      rfl, rfl, rfl⟩, fun _ => rfl, fun h => absurd trivial h⟩
    exact fun _ h => List.mem_append_left _ h
  refine Triple.modify ⟨((h₁.trans h₂).trans hlast).imp ⟨And.left, fun h => ⟨h, trivial⟩⟩, ?_, ?_⟩
  · exact ⟨_, List.mem_append_right _ (List.mem_singleton_self _), rfl⟩
  · exact fun text ht => ⟨number, hmem text ht⟩

theorem writeStopCommands_ends (number : Nat) (paths : List Item) :
    Ends (writeStopCommands w number paths) s fun _ s' =>
      Stepped (∀ p ∈ paths, w.Wrote number p) s s' ∧ ∀ p ∈ paths, Attempted p s' := by
  induction paths generalizing s with
  | nil => exact ⟨(Stepped.refl s).imp (by simp), by simp⟩
  | cons path paths ih =>
    refine Triple.bind (writeStopCommand_ends number path) ?_
    rintro _ s₁ ⟨h₁, ha⟩
    refine ih.mono ?_ fun _ _ h => h
    rintro _ s₂ ⟨h₂, hall⟩
    refine ⟨(h₁.trans h₂).imp (by simp), ?_⟩
    rintro p (_ | ⟨_, hp⟩)
    · exact ha.kept h₂.toKept
    · exact hall p hp

-- The readings of a round

def World.observe (w : World) (number : Nat) (n : Snapshot) (path : Item) : Snapshot :=
  match w.reading number path with
  | .ok r => n.add path r
  | .error _ => { n with readSucceeded := false }

def World.Read (w : World) (number : Nat) (path : Item) : Prop := ∃ r, w.reading number path = .ok r

def World.Faultless (w : World) (number : Nat) (path : Item) : Prop :=
  ∀ r, w.reading number path = .ok r → r.faults = []

theorem Stepped.ofRecords (hk : ∀ p ∈ s.records.keys, p ∈ records.keys) :
    Stepped True s { s with records := records, finalFaultTokens := tokens } :=
  ⟨⟨⟨⟨rfl, rfl, hk, id, id, fun ha => ⟨ha.interrupt, ha.noted⟩, fun _ h => h, fun _ h => h⟩, rfl, rfl⟩, rfl, rfl, rfl⟩,
    fun _ => rfl, fun h => absurd trivial h⟩

theorem recordForPath_stepped (path : Item) : Stepped True s (recordForPath path s) := by
  unfold recordForPath
  split
  · exact .refl s
  · exact Stepped.ofRecords fun p hp => Dict.mem_keys_set.mpr (.inr hp)

theorem recordForPath_known (path : Item) : ∃ record, (recordForPath path s).records.get? path = some record := by
  unfold recordForPath
  split
  next record h => exact ⟨record, h⟩
  · exact ⟨{}, Dict.get?_set_self⟩

theorem recordForPath_faults (path : Item) : (recordForPath path s).finalFaultTokens = s.finalFaultTokens := by
  unfold recordForPath
  split <;> rfl

theorem addReading_stepped (path : Item) (record : Record) (r : Reading) : Stepped True s (s.addReading path record r) :=
  Stepped.ofRecords fun p hp => Dict.mem_keys_set.mpr (.inr hp)

theorem operationalError_faults (detail : String) (e : Raised) :
    (s.operationalError detail e).finalFaultTokens = s.finalFaultTokens := by
  unfold EmergencyStopAttempt.operationalError EmergencyStopAttempt.rememberInterrupt
  split <;> rfl

theorem addReading_faults (path : Item) (record : Record) (r : Reading) :
    (s.addReading path record r).finalFaultTokens.keys = [] ↔ s.finalFaultTokens.keys = [] ∧ r.faults = [] := by
  unfold EmergencyStopAttempt.addReading
  by_cases hf : r.faults = []
  · simp [hf]
  · have hmem : path ∈ (s.finalFaultTokens.set path r.faults).keys := Dict.mem_keys_set.mpr (.inl rfl)
    simp [hf, List.ne_nil_of_mem hmem]

theorem snapshotMotor_ends (number : Nat) (n : Snapshot) (path : Item) :
    Ends (snapshotMotor w number n path) s fun n' s' => n' = w.observe number n path ∧ path ∈ s'.records.keys ∧
      Stepped (w.Read number path) s s' ∧
      (s'.finalFaultTokens.keys = [] ↔ s.finalFaultTokens.keys = [] ∧ w.Faultless number path) := by
  unfold snapshotMotor
  refine Triple.modify_bind ?_
  obtain ⟨record, hrecord⟩ := recordForPath_known (s := s) path
  have hstep := recordForPath_stepped (s := s) path
  have hfaults := recordForPath_faults (s := s) path
  generalize recordForPath path s = s₁ at hrecord hstep hfaults
  have hlook : (Prog.ofExcept (lookup s₁.records path) : Att Record) s₁ = (.ok record, s₁) := by simp [lookup, hrecord]
  refine Triple.get_bind (Triple.step hlook ?_)
  cases hr : w.reading number path with
  | ok r =>
    refine Triple.modify_bind (Triple.pure ⟨by simp [World.observe, hr], ?_, ?_, ?_⟩)
    · exact Dict.mem_keys_set.mpr (.inl rfl)
    · exact (hstep.trans (addReading_stepped path record r)).imp ⟨fun _ => ⟨r, hr⟩, fun _ => ⟨trivial, trivial⟩⟩
    · rw [addReading_faults, hfaults]
      simp [World.Faultless, hr]
  | error e =>
    have herror := operationalError_stepped (s := s₁) s!"{path.text} verification: {e.text}" e
    refine Triple.modify_bind (Triple.pure ⟨by simp [World.observe, hr], ?_, ?_, ?_⟩)
    · exact herror.known path (Dict.mem_keys_iff.mpr ⟨record, hrecord⟩)
    · refine (hstep.trans herror).imp ⟨fun h => h.2.elim, ?_⟩
      rintro ⟨_, h⟩
      simp [hr] at h
    · rw [operationalError_faults, hfaults]
      simp [World.Faultless, hr]

theorem snapshotFrom_ends (number : Nat) (paths : List Item) (n : Snapshot) :
    Ends (snapshotFrom w number paths n) s fun n' s' => n' = paths.foldl (w.observe number) n ∧
      (∀ p ∈ paths, p ∈ s'.records.keys) ∧ Stepped (∀ p ∈ paths, w.Read number p) s s' ∧
      (s'.finalFaultTokens.keys = [] ↔ s.finalFaultTokens.keys = [] ∧ ∀ p ∈ paths, w.Faultless number p) := by
  induction paths generalizing s n with
  | nil => exact ⟨rfl, by simp, (Stepped.refl s).imp (by simp), by simp⟩
  | cons path paths ih =>
    refine Triple.bind (snapshotMotor_ends number n path) ?_
    rintro _ s₁ ⟨rfl, hmem, h₁, hf₁⟩
    refine (ih _).mono ?_ fun _ _ h => h
    rintro _ s₂ ⟨rfl, hall, h₂, hf₂⟩
    refine ⟨rfl, ?_, (h₁.trans h₂).imp (by simp), by rw [hf₂, hf₁]; simp [and_assoc]⟩
    rintro p (_ | ⟨_, hp⟩)
    · exact h₂.known path hmem
    · exact hall p hp

def World.seen (w : World) (number : Nat) (paths : List Item) : Snapshot := paths.foldl (w.observe number) {}

theorem snapshot_ends (number : Nat) :
    Ends (snapshot w number) s fun n s' => n = w.seen number s.paths ∧ (∀ p ∈ s.paths, p ∈ s'.records.keys) ∧
      Stepped (∀ p ∈ s.paths, w.Read number p) s s' ∧
      (s'.finalFaultTokens.keys = [] ↔ ∀ p ∈ s.paths, w.Faultless number p) := by
  unfold snapshot
  refine Triple.modify_bind (Triple.get_bind ?_)
  refine (snapshotFrom_ends number s.paths {}).mono ?_ fun _ _ h => h
  rintro _ s' ⟨rfl, hall, h, hf⟩
  have hcleared : Stepped True s { s with finalFaultTokens := .empty } := Stepped.ofRecords fun _ h => h
  exact ⟨rfl, hall, (hcleared.trans h).imp (by simp), by rw [hf]; simp [Dict.empty, Dict.keys]⟩

-- What a round sees

/-- Every motor is read, and neither active nor faulty. -/
def World.AtRest (w : World) (number : Nat) (paths : List Item) : Prop :=
  ∀ p ∈ paths, ∃ r, w.reading number p = .ok r ∧ r.inactive = true

def World.position? (w : World) (number : Nat) (path : Item) : Option Int :=
  (w.reading number path).toOption.map Reading.position

theorem foldl_observe (number : Nat) (paths : List Item) (n : Snapshot) :
    ((paths.foldl (w.observe number) n).readSucceeded = true ↔ n.readSucceeded = true ∧ ∀ p ∈ paths, w.Read number p) ∧
    ((paths.foldl (w.observe number) n).activePaths = [] ↔
      n.activePaths = [] ∧ ∀ p ∈ paths, ∀ r, w.reading number p = .ok r → r.active = false) := by
  induction paths generalizing n with
  | nil => simp
  | cons path paths ih =>
    rw [List.foldl_cons, (ih _).1, (ih _).2]
    cases hr : w.reading number path with
    | ok r => cases ha : r.active <;> simp [World.observe, World.Read, Snapshot.add, hr, ha]
    | error e => simp [World.observe, World.Read, hr]

theorem foldl_positions (number : Nat) {paths : List Item} (hread : ∀ p ∈ paths, w.Read number p) (n : Snapshot) :
    (paths.foldl (w.observe number) n).positions =
      paths.foldl (fun d p => d.set p ((w.position? number p).getD 0)) n.positions := by
  induction paths generalizing n with
  | nil => rfl
  | cons path paths ih =>
    obtain ⟨r, hr⟩ := hread path (by simp)
    rw [List.foldl_cons, ih (fun p hp => hread p (List.mem_cons_of_mem _ hp)), List.foldl_cons]
    simp [World.observe, World.position?, Snapshot.add, hr, Except.toOption]

theorem World.AtRest.read {number : Nat} {paths : List Item} (h : w.AtRest number paths) : ∀ p ∈ paths, w.Read number p :=
  fun p hp => (h p hp).imp fun _ => And.left

theorem seen_positions_iff {a b : Nat} {paths : List Item} (ha : ∀ p ∈ paths, w.Read a p) (hb : ∀ p ∈ paths, w.Read b p) :
    (w.seen a paths).positions.entries = (w.seen b paths).positions.entries ↔
      ∀ p ∈ paths, w.position? a p = w.position? b p := by
  unfold World.seen
  rw [foldl_positions a ha, foldl_positions b hb]
  constructor
  · intro h p hp
    have hget := congrArg (List.lookup p) h
    have hsome : ∀ c, (∀ p ∈ paths, w.Read c p) → w.position? c p = some ((w.position? c p).getD 0) := by
      intro c hc
      obtain ⟨r, hr⟩ := hc p hp
      simp [World.position?, hr, Except.toOption]
    rw [hsome a ha, hsome b hb]
    have hl : ∀ c, (paths.foldl (fun d p => d.set p ((w.position? c p).getD 0)) (.empty : Dict Item Int)).get? p =
        some ((w.position? c p).getD 0) := fun c => by rw [Dict.get?_foldl_set, if_pos hp]
    exact (hl a).symm.trans (Eq.trans hget (hl b))
  · intro h
    congr 1
    refine List.foldl_ext _ _ _ fun d p hp => ?_
    rw [h p hp]

/-- Between two rounds every motor rested where it was. -/
def World.Unmoved (w : World) (paths : List Item) (number : Nat) : Prop :=
  0 < number ∧ w.AtRest number paths ∧ w.AtRest (number + 1) paths ∧
    ∀ p ∈ paths, w.position? number p = w.position? (number + 1) p

open scoped Classical in
/-- For how many rounds up to this one the motors have not moved. -/
noncomputable def World.streak (w : World) (paths : List Item) : Nat → Nat
  | 0 => 0
  | number + 1 => if w.Unmoved paths number then w.streak paths number + 1 else 0

theorem streak_succ {paths : List Item} {number : Nat} (h : w.Unmoved paths number) :
    w.streak paths (number + 1) = w.streak paths number + 1 := if_pos h

theorem streak_broken {paths : List Item} {number : Nat} (h : ¬ w.Unmoved paths number) :
    w.streak paths (number + 1) = 0 := if_neg h

theorem succ_le_streak_iff {paths : List Item} {n number : Nat} :
    n + 1 ≤ w.streak paths (number + 1) ↔ w.Unmoved paths number ∧ n ≤ w.streak paths number := by
  by_cases h : w.Unmoved paths number
  · simp [streak_succ h, h]
  · simp [streak_broken h, h]

theorem le_streak_iff {paths : List Item} {n number : Nat} (hn : 0 < n) :
    n ≤ w.streak paths number ↔ n < number ∧ ∀ k, number - n ≤ k → k ≤ number →
      w.AtRest k paths ∧ ∀ p ∈ paths, w.position? k p = w.position? number p := by
  induction number generalizing n with
  | zero =>
    simp only [World.streak, Nat.le_zero_eq, Nat.not_lt_zero, false_and, iff_false]
    omega
  | succ number ih =>
    obtain ⟨m, rfl⟩ : ∃ m, n = m + 1 := ⟨n - 1, by omega⟩
    rw [succ_le_streak_iff]
    constructor
    · rintro ⟨⟨hpos, hrest, hrest', hsame⟩, hm⟩
      have hearlier : m ≤ number - 1 ∧ ∀ k, number - m ≤ k → k ≤ number →
          w.AtRest k paths ∧ ∀ p ∈ paths, w.position? k p = w.position? number p := by
        cases m with
        | zero =>
          refine ⟨Nat.zero_le _, fun k hk hk' => ?_⟩
          obtain rfl : k = number := by omega
          exact ⟨hrest, fun _ _ => rfl⟩
        | succ m =>
          obtain ⟨hlt, hall⟩ := (ih (Nat.succ_pos m)).mp hm
          exact ⟨by omega, hall⟩
      refine ⟨by omega, fun k hk hk' => ?_⟩
      by_cases hlast : k = number + 1
      · subst hlast
        exact ⟨hrest', fun _ _ => rfl⟩
      · obtain ⟨hr, hp⟩ := hearlier.2 k (by omega) (by omega)
        exact ⟨hr, fun p hmem => (hp p hmem).trans (hsame p hmem)⟩
    · rintro ⟨hlt, hall⟩
      obtain ⟨hrest, hsame⟩ := hall number (by omega) (by omega)
      refine ⟨⟨by omega, hrest, (hall (number + 1) (by omega) le_rfl).1, hsame⟩, ?_⟩
      cases m with
      | zero => exact Nat.zero_le _
      | succ m =>
        refine (ih (Nat.succ_pos m)).mpr ⟨by omega, fun k hk hk' => ?_⟩
        obtain ⟨hr, hp⟩ := hall k (by omega) (by omega)
        exact ⟨hr, fun p hmem => (hp p hmem).trans (hsame p hmem).symm⟩

theorem currentlyInactive_iff {number : Nat} {paths : List Item}
    (hf : s.finalFaultTokens.keys = [] ↔ ∀ p ∈ paths, w.Faultless number p) :
    (w.seen number paths).currentlyInactive s = true ↔ w.AtRest number paths := by
  have hentries : s.finalFaultTokens.entries = [] ↔ s.finalFaultTokens.keys = [] := by simp [Dict.keys]
  obtain ⟨hread, hactive⟩ := foldl_observe (w := w) number paths {}
  unfold Snapshot.currentlyInactive World.seen
  simp only [Bool.and_eq_true, List.isEmpty_iff, hread, hactive, hentries, hf, true_and]
  constructor
  · rintro ⟨⟨hr, ha⟩, hfault⟩ p hp
    obtain ⟨r, hr⟩ := hr p hp
    exact ⟨r, hr, by simp [Reading.inactive, ha p hp r hr, hfault p hp r hr]⟩
  · intro h
    have hone : ∀ p ∈ paths, ∀ r, w.reading number p = .ok r → r.active = false ∧ r.faults = [] := by
      intro p hp r hr
      obtain ⟨r', hr', hin⟩ := h p hp
      cases hr.symm.trans hr'
      simpa [Reading.inactive] using hin
    exact ⟨⟨h.read, fun p hp r hr => (hone p hp r hr).1⟩, fun p hp r hr => (hone p hp r hr).2⟩

-- Polling

theorem markStable_ends (stable : Bool) (n : Snapshot) (paths : List Item) (hk : ∀ p ∈ paths, p ∈ s.records.keys) :
    Ends (markStable stable n paths) s fun _ s' => Stepped True s s' := by
  induction paths generalizing s with
  | nil => exact Stepped.refl s
  | cons path paths ih =>
    obtain ⟨record, hrecord⟩ := Dict.mem_keys_iff.mp (hk path (by simp))
    have hlook : (Prog.ofExcept (lookup s.records path) : Att Record) s = (.ok record, s) := by simp [lookup, hrecord]
    refine Triple.get_bind (Triple.step hlook (Triple.modify_bind ?_))
    have hstep : Stepped True s { s with
        records := s.records.set path { record with stable := stable && path ∈ n.positions.keys } } :=
      Stepped.ofRecords fun p hp => Dict.mem_keys_set.mpr (.inr hp)
    refine (ih fun p hp => hstep.known p (hk p (List.mem_cons_of_mem _ hp))).mono ?_ fun _ _ h => h
    exact fun _ _ h => (hstep.trans h).imp (and_self_iff)

/-- Every write and every reading of the round succeeds. -/
def World.RoundOk (w : World) (number : Nat) (paths : List Item) : Prop :=
  ∀ p ∈ paths, w.Wrote number p ∧ w.Read number p

structure PollInv (w : World) (paths : List Item) (s : EmergencyStopAttempt) (number : Nat) (previous : Previous) :
    Prop where
  intervals : s.stableIntervals = w.streak paths number
  inactive : previous.inactive = true ↔ 0 < number ∧ w.AtRest number paths
  positions : previous.inactive = true → previous.positions = some (w.seen number paths).positions

theorem PollInv.unmoved {paths : List Item} {number : Nat} {previous : Previous} (hi : PollInv w paths s number previous)
    (hrest : w.AtRest (number + 1) paths) :
    (w.seen (number + 1) paths).unchanged previous = true ↔ w.Unmoved paths number := by
  unfold Snapshot.unchanged World.Unmoved
  rw [Bool.and_eq_true, hi.inactive]
  constructor
  · rintro ⟨⟨hpos, hprev⟩, hsame⟩
    rw [hi.positions (hi.inactive.mpr ⟨hpos, hprev⟩)] at hsame
    exact ⟨hpos, hprev, hrest, (seen_positions_iff hprev.read hrest.read).mp (by simpa using hsame)⟩
  · rintro ⟨hpos, hprev, -, hsame⟩
    refine ⟨⟨hpos, hprev⟩, ?_⟩
    rw [hi.positions (hi.inactive.mpr ⟨hpos, hprev⟩)]
    simpa using (seen_positions_iff hprev.read hrest.read).mpr hsame

structure RoundDone (w : World) (s s' : EmergencyStopAttempt) (number : Nat) (stable : Bool) (previous : Previous) :
    Prop extends Polled s s' where
  verdict : s'.inactiveAndStable = s.inactiveAndStable
  rounds : s'.rounds = number
  inv : PollInv w s.paths s' number previous
  stable : stable = true ↔ s.requiredStableIntervals ≤ w.streak s.paths number
  clean : w.RoundOk number s.paths → s'.operationalErrors = s.operationalErrors
  dirty : ¬ w.RoundOk number s.paths → s'.operationalErrors ≠ []
  attempted : ∀ p ∈ s.paths, Attempted p s'
  recorded : ∀ p ∈ s.paths, p ∈ s'.records.keys

theorem streak_pos {paths : List Item} {number : Nat} (h : 0 < w.streak paths number) : w.AtRest number paths :=
  ((le_streak_iff Nat.one_pos).mp h).2 number (by omega) le_rfl |>.1

theorem Polled.ofCounters : Polled s { s with stableIntervals := n, rounds := m, inactiveAndStable := b } :=
  ⟨⟨rfl, rfl, fun _ h => h, id, id, fun ha => ⟨ha.interrupt, ha.noted⟩, fun _ h => h, fun _ h => h⟩, rfl, rfl⟩

theorem PollInv.next {paths : List Item} {number : Nat} {previous : Previous} (hi : PollInv w paths s number previous)
    {inactive : Bool} (hin : inactive = true ↔ w.AtRest (number + 1) paths)
    (ht : t.stableIntervals =
      if inactive && (w.seen (number + 1) paths).unchanged previous then s.stableIntervals + 1 else 0) :
    PollInv w paths t (number + 1) (previous.next (w.seen (number + 1) paths) inactive) where
  intervals := by
    rw [ht, hi.intervals]
    by_cases hrest : w.AtRest (number + 1) paths
    · rw [hin.mpr hrest, Bool.true_and]
      by_cases hu : w.Unmoved paths number
      · rw [streak_succ hu, if_pos ((hi.unmoved hrest).mpr hu)]
      · rw [streak_broken hu, if_neg fun h => hu ((hi.unmoved hrest).mp h)]
    · have hmoved : ¬ w.Unmoved paths number := fun h => hrest h.2.2.1
      have hno : inactive = false := by simpa [hrest] using hin
      rw [streak_broken hmoved, hno]
      rfl
  inactive := by
    unfold Previous.next
    split
    · simp [hin]
    next hread =>
      have hmoved : ¬ w.AtRest (number + 1) paths := fun h => hread ((foldl_observe _ _ _).1.mpr ⟨rfl, h.read⟩)
      simp [hmoved]
  positions := by
    unfold Previous.next
    split
    · exact fun _ => rfl
    · exact nofun

theorem pollRound_ends (number : Nat) (previous : Previous) (hi : PollInv w s.paths s number previous)
    (hreq : 0 < s.requiredStableIntervals) :
    Ends (pollRound w (number + 1) previous) s fun r s' => RoundDone w s s' (number + 1) r.1 r.2 := by
  unfold pollRound
  refine Triple.modify_bind (Triple.get_bind ?_)
  refine Triple.bind (writeStopCommands_ends (number + 1) s.paths) ?_
  rintro _ s₁ ⟨h₁, hattempted⟩
  refine Triple.bind (snapshot_ends (number + 1)) ?_
  rintro n s₂ ⟨rfl, hknown, h₂, hfaults⟩
  have hpaths : s₁.paths = s.paths := h₁.paths
  rw [hpaths] at hknown h₂ hfaults ⊢
  have h₁₂ := h₁.trans h₂
  have hin := currentlyInactive_iff (s := s₂) hfaults
  refine Triple.get_bind (Triple.modify_bind ?_)
  have hpaths₂ : s₂.paths = s.paths := h₁₂.paths
  refine Triple.bind (markStable_ends _ _ _ fun p hp => hknown p (hpaths₂ ▸ hp)) ?_
  rintro _ s₃ h₃
  have hreq₂ : s₂.requiredStableIntervals = s.requiredStableIntervals := h₁₂.required
  have hint₂ : s₂.stableIntervals = s.stableIntervals := h₁₂.intervals
  have hinv := hi.next (t := s₃) hin (h₃.intervals.trans (by rw [← hint₂]))
  have hpolled : Polled s s₃ := (Polled.ofCounters.trans h₁₂.toPolled).trans (Polled.ofCounters.trans h₃.toPolled)
  refine Triple.pure {
    toPolled := hpolled, verdict := h₃.verdict.trans h₁₂.verdict, rounds := h₃.rounds.trans h₁₂.rounds, inv := hinv
    stable := ?_, clean := ?_, dirty := ?_, attempted := ?_, recorded := ?_ }
  · rw [← hinv.intervals, h₃.intervals, hreq₂, Bool.and_eq_true, decide_eq_true_iff]
    refine and_iff_right_of_imp fun hle => ?_
    by_contra hno
    rw [Bool.not_eq_true] at hno
    simp [hno] at hle
    omega
  · intro hok
    refine (h₃.clean trivial).trans (h₁₂.clean ⟨fun p hp => (hok p hp).1, fun p hp => (hok p hp).2⟩)
  · intro hbad
    refine h₃.operational (h₁₂.dirty fun hok => hbad fun p hp => ⟨hok.1 p hp, hok.2 p hp⟩)
  · exact fun p hp => ((hattempted p hp).kept h₂.toKept).kept (Polled.ofCounters.trans h₃.toPolled).toKept
  · exact fun p hp => h₃.known p (hknown p hp)

structure LoopDone (w : World) (number : Nat) (s s' : EmergencyStopAttempt) : Prop extends Polled s s' where
  later : number < s'.rounds
  verdict : s'.inactiveAndStable = true ↔ s.requiredStableIntervals ≤ w.streak s.paths s'.rounds
  clean : (∀ n, number < n → n ≤ s'.rounds → w.RoundOk n s.paths) → s'.inactiveAndStable = true →
    s'.operationalErrors = s.operationalErrors
  dirty : (∃ n, number < n ∧ n ≤ s'.rounds ∧ ¬ w.RoundOk n s.paths) → s'.operationalErrors ≠ []
  attempted : ∀ p ∈ s.paths, Attempted p s'
  recorded : ∀ p ∈ s.paths, p ∈ s'.records.keys

theorem RoundDone.dirty_of {number : Nat} {stable : Bool} {previous : Previous}
    (h : RoundDone w s s' (number + 1) stable previous)
    (hbad : ∃ n, number < n ∧ n ≤ number + 1 ∧ ¬ w.RoundOk n s.paths) : s'.operationalErrors ≠ [] := by
  obtain ⟨n, hlt, hle, hn⟩ := hbad
  obtain rfl : n = number + 1 := by omega
  exact h.dirty hn

theorem RoundDone.stop {number : Nat} {previous : Previous} (h : RoundDone w s s' (number + 1) true previous) :
    LoopDone w number s { s' with inactiveAndStable := true } where
  toPolled := h.toPolled.trans Polled.ofCounters
  later := by simp [h.rounds]
  verdict := by simpa [h.rounds] using h.stable
  clean hok _ := h.clean (hok (number + 1) (Nat.lt_succ_self _) (by simp [h.rounds]))
  dirty hbad := h.dirty_of (by simpa [h.rounds] using hbad)
  attempted p hp := (h.attempted p hp).kept Polled.ofCounters.toKept
  recorded := h.recorded

theorem RoundDone.giveUp {number : Nat} {previous : Previous} (h : RoundDone w s s' (number + 1) false previous)
    (hno : s.inactiveAndStable = false) (hq : Quiet s' t) : LoopDone w number s t where
  toPolled := h.toPolled.trans hq.toPolled
  later := by rw [hq.rounds, h.rounds]; exact Nat.lt_succ_self _
  verdict := by
    rw [hq.verdict, h.verdict, hno, hq.rounds, h.rounds]
    exact h.stable
  clean _ hstable := by
    rw [hq.verdict, h.verdict, hno] at hstable
    cases hstable
  dirty hbad := hq.operational (h.dirty_of (by simpa [hq.rounds, h.rounds] using hbad))
  attempted p hp := (h.attempted p hp).kept hq.toKept
  recorded p hp := hq.known p (h.recorded p hp)

theorem LoopDone.after {number : Nat} {stable : Bool} {previous : Previous} (h : RoundDone w s s' (number + 1) stable previous)
    (hl : LoopDone w (number + 1) s' t) : LoopDone w number s t := by
  have hpaths : s'.paths = s.paths := h.paths
  have hreq : s'.requiredStableIntervals = s.requiredStableIntervals := h.required
  obtain ⟨hpolled, hlater, hverdict, hclean, hdirty, hattempted, hrecorded⟩ := hl
  rw [hpaths] at hverdict hclean hdirty hattempted hrecorded
  rw [hreq] at hverdict
  refine ⟨h.toPolled.trans hpolled, by omega, hverdict, fun hok hstable => ?_, ?_, hattempted, hrecorded⟩
  · exact (hclean (fun n hn => hok n (by omega)) hstable).trans (h.clean (hok (number + 1) (by omega) (by omega)))
  · rintro ⟨n, hlt, hle, hbad⟩
    by_cases hn : n = number + 1
    · exact hpolled.operational (h.dirty (hn ▸ hbad))
    · exact hdirty ⟨n, by omega, hle, hbad⟩

theorem pollFrom_ends (left number : Nat) (previous : Previous) (hi : PollInv w s.paths s number previous)
    (hreq : 0 < s.requiredStableIntervals) (hno : s.inactiveAndStable = false) :
    Ends (pollFrom w (left + 1) (number + 1) previous) s fun _ s' => LoopDone w number s s' := by
  induction left generalizing s number previous with
  | zero =>
    refine Triple.bind (pollRound_ends number previous hi hreq) ?_
    rintro ⟨stable, next⟩ s₁ h₁
    cases stable with
    | true => exact Triple.modify h₁.stop
    | false => exact Triple.pure (h₁.giveUp hno (.refl s₁))
  | succ left ih =>
    refine Triple.bind (pollRound_ends number previous hi hreq) ?_
    rintro ⟨stable, next⟩ s₁ h₁
    cases stable with
    | true => exact Triple.modify h₁.stop
    | false =>
      dsimp only
      cases hsleep : w.sleep (number + 1) with
      | error e => exact Triple.modify (h₁.giveUp hno (operationalError_stepped _ e).toQuiet)
      | ok u =>
        have hpaths : s₁.paths = s.paths := h₁.paths
        have hreq₁ : s₁.requiredStableIntervals = s.requiredStableIntervals := h₁.required
        refine (ih (number + 1) next (hpaths ▸ h₁.inv) (hreq₁ ▸ hreq) (h₁.verdict.trans hno)).mono ?_ fun _ _ h => h
        exact fun _ _ hl => LoopDone.after h₁ hl

-- Identities

structure Inspected (s s' : EmergencyStopAttempt) : Prop extends Kept s s' where
  sameOperational : s'.operationalErrors = s.operationalErrors
  verdict : s'.inactiveAndStable = s.inactiveAndStable
  rounds : s'.rounds = s.rounds

/-- A step that changes the record of one motor alone. -/
structure OwnRecord (path : Item) (s s' : EmergencyStopAttempt) : Prop extends Inspected s s' where
  sameTopology : s'.topologyErrors = s.topologyErrors
  ports : s'.discoveredPorts = s.discoveredPorts
  others : ∀ q, q ≠ path → s'.records.get? q = s.records.get? q

theorem Inspected.refl (s : EmergencyStopAttempt) : Inspected s s := ⟨.refl s, rfl, rfl, rfl⟩

theorem Inspected.trans (h : Inspected s s') (h' : Inspected s' t) : Inspected s t :=
  ⟨h.toKept.trans h'.toKept, h'.sameOperational.trans h.sameOperational, h'.verdict.trans h.verdict,
    h'.rounds.trans h.rounds⟩

theorem OwnRecord.trans {path : Item} (h : OwnRecord path s s') (h' : OwnRecord path s' t) : OwnRecord path s t :=
  ⟨h.toInspected.trans h'.toInspected, h'.sameTopology.trans h.sameTopology, h'.ports.trans h.ports,
    fun q hq => (h'.others q hq).trans (h.others q hq)⟩

theorem recordForPath_own (path : Item) : OwnRecord path s (recordForPath path s) := by
  have h := recordForPath_stepped (s := s) path
  refine ⟨⟨h.toKept, h.clean trivial, h.verdict, h.rounds⟩, h.sameTopology, h.ports, fun q hq => ?_⟩
  unfold recordForPath
  split
  · rfl
  · exact Dict.get?_set_ne hq

theorem updateRecord_own (path : Item) (f : Record → Record) : OwnRecord path s (updateRecord path f s) := by
  unfold updateRecord
  split
  next record _ =>
    have h : Stepped True s { s with records := s.records.set path (f record) } :=
      Stepped.ofRecords fun p hp => Dict.mem_keys_set.mpr (.inr hp)
    exact ⟨⟨h.toKept, rfl, rfl, rfl⟩, rfl, rfl, fun q hq => Dict.get?_set_ne hq⟩
  · exact ⟨.refl s, rfl, rfl, fun _ _ => rfl⟩

theorem updateRecord_get {path : Item} {f : Record → Record} {record : Record} (h : s.records.get? path = some record) :
    (updateRecord path f s).records.get? path = some (f record) := by
  simp [updateRecord, h]

theorem topologyNote_inspected (detail : String) : Inspected s (s.topologyNote detail) :=
  ⟨topologyNote_kept detail, rfl, rfl, rfl⟩

theorem topologyError_inspected (detail : String) (e : Raised) : Inspected s (s.topologyError detail e) := by
  have hquiet := rememberInterrupt_quiet (s := s.topologyNote detail) e (.inr (topologyNote_ne_nil detail))
  exact ⟨topologyError_kept detail e, rememberInterrupt_operationalErrors e, hquiet.verdict, hquiet.rounds⟩

/-- A motor is entered under its port, with an error if another motor has it. -/
structure Entered (path : Item) (port : String) (s s' : EmergencyStopAttempt) : Prop extends Inspected s s' where
  ports : s'.discoveredPorts = s.discoveredPorts.set port path
  others : ∀ q, q ≠ path → s'.records.get? q = s.records.get? q
  free : s.discoveredPorts.get? port = none → s'.topologyErrors = s.topologyErrors
  taken : s.discoveredPorts.get? port ≠ none → s'.topologyErrors ≠ []

theorem OwnRecord.entered {path : Item} {port : String} (h : OwnRecord path s s') (h' : Entered path port s' t) :
    Entered path port s t where
  toInspected := h.toInspected.trans h'.toInspected
  ports := by rw [h'.ports, h.ports]
  others q hq := (h'.others q hq).trans (h.others q hq)
  free hfree := (h'.free (h.ports ▸ hfree)).trans h.sameTopology
  taken htaken := h'.taken (h.ports ▸ htaken)

theorem discoverPort_entered (path : Item) (port : String) : Entered path port s (discoverPort path port s) := by
  unfold discoverPort
  refine (updateRecord_own path fun record => { record with port := some port }).entered ?_
  generalize updateRecord path _ s = s₁
  have hports : ∀ t : EmergencyStopAttempt, Inspected t { t with discoveredPorts := t.discoveredPorts.set port path } :=
    fun t => ⟨⟨rfl, rfl, fun _ h => h, id, id, fun ha => ⟨ha.interrupt, ha.noted⟩, fun _ h => h, fun _ h => h⟩, rfl, rfl, rfl⟩
  dsimp only
  cases hget : s₁.discoveredPorts.get? port with
  | none => exact ⟨hports s₁, rfl, fun _ _ => rfl, fun _ => rfl, fun h => absurd hget h⟩
  | some other =>
    refine ⟨(topologyNote_inspected _).trans (hports _), rfl, fun _ _ => rfl, fun h => ?_, fun _ => topologyNote_ne_nil _⟩
    rw [hget] at h
    cases h

def World.portOf (w : World) (path : Item) : Except Raised String := w.readAddress path >>= Value.port

theorem topologyError_ports (detail : String) (e : Raised) :
    (s.topologyError detail e).discoveredPorts = s.discoveredPorts := by
  unfold EmergencyStopAttempt.topologyError EmergencyStopAttempt.rememberInterrupt
  split <;> rfl

structure Faulted (s s' : EmergencyStopAttempt) : Prop extends Inspected s s' where
  faulty : s'.topologyErrors ≠ []
  ports : s'.discoveredPorts = s.discoveredPorts

theorem topologyError_faulted (detail : String) (e : Raised) : Faulted s (s.topologyError detail e) :=
  ⟨topologyError_inspected detail e, topologyError_ne_nil detail e, topologyError_ports detail e⟩

theorem readPort_error {path : Item} {e : Raised} (h : w.portOf path = .error e) : Faulted s (readPort w path s) := by
  unfold World.portOf at h
  unfold readPort
  cases ha : w.readAddress path with
  | error e => exact topologyError_faulted _ e
  | ok address =>
    rw [ha] at h
    replace h : address.port = .error e := h
    simp only [h]
    have hown := updateRecord_own (s := s) path fun record => { record with address := some address }
    have herror := topologyError_faulted (s := updateRecord path (fun record => { record with address := some address }) s)
      s!"{path.text} address: {e.text}" e
    exact ⟨hown.toInspected.trans herror.toInspected, herror.faulty, herror.ports.trans hown.ports⟩

theorem readPort_ok {path : Item} {port : String} (h : w.portOf path = .ok port) :
    Entered path port s (readPort w path s) := by
  unfold World.portOf at h
  unfold readPort
  cases ha : w.readAddress path with
  | error e =>
    rw [ha] at h
    cases h
  | ok address =>
    rw [ha] at h
    replace h : address.port = .ok port := h
    simp only [h]
    exact (updateRecord_own path _).entered (discoverPort_entered path port)

theorem readDriver_error {path : Item} {e : Raised} (h : w.readDriver path = .error e) :
    Faulted s (readDriver w path s) := by
  unfold readDriver
  rw [h]
  exact topologyError_faulted _ e

theorem readDriver_ok {path : Item} {driver : Value} (h : w.readDriver path = .ok driver)
    (hk : path ∈ s.records.keys) : OwnRecord path s (readDriver w path s) ∧
      ∃ record, (readDriver w path s).records.get? path = some record ∧ record.driver = some driver := by
  unfold readDriver
  rw [h]
  obtain ⟨record, hrecord⟩ := Dict.mem_keys_iff.mp hk
  exact ⟨updateRecord_own path _, _, updateRecord_get hrecord, rfl⟩

theorem readDriver_inspected (path : Item) :
    Inspected s (readDriver w path s) ∧ (readDriver w path s).discoveredPorts = s.discoveredPorts := by
  cases hd : w.readDriver path with
  | error e => exact ⟨(readDriver_error hd).toInspected, (readDriver_error hd).ports⟩
  | ok driver =>
    unfold readDriver
    rw [hd]
    have hown := updateRecord_own (s := s) path fun record => { record with driver := some driver }
    exact ⟨hown.toInspected, hown.ports⟩

/-- Where a discovered port leads to, there is a record. -/
def PortsKnown (s : EmergencyStopAttempt) : Prop :=
  ∀ port path, s.discoveredPorts.get? port = some path → path ∈ s.records.keys

theorem readIdentity_known (path : Item) (hk : PortsKnown s) :
    Inspected s (readIdentity w s path) ∧ PortsKnown (readIdentity w s path) := by
  unfold readIdentity
  have hown := recordForPath_own (s := s) path
  have hmem : path ∈ (recordForPath path s).records.keys := Dict.mem_keys_iff.mpr (recordForPath_known path)
  generalize recordForPath path s = s₁ at hown hmem
  obtain ⟨hd, hports⟩ := readDriver_inspected (s := readPort w path s₁) (w := w) path
  cases hp : w.portOf path with
  | error e =>
    have h := readPort_error (s := s₁) hp
    have hall := (hown.toInspected.trans h.toInspected).trans hd
    refine ⟨hall, fun port q hq => ?_⟩
    rw [hports, h.ports, hown.ports] at hq
    exact hall.known q (hk port q hq)
  | ok port =>
    have h := readPort_ok (s := s₁) hp
    refine ⟨(hown.toInspected.trans h.toInspected).trans hd, fun port' q hq => ?_⟩
    rw [hports, h.ports, hown.ports, Dict.get?_set] at hq
    split at hq
    · cases hq
      exact (h.toInspected.trans hd).known path hmem
    · exact ((hown.toInspected.trans h.toInspected).trans hd).known q (hk port' q hq)

/-- The motor says which it is, and its port is free. -/
def World.Identified (w : World) (s : EmergencyStopAttempt) (path : Item) : Prop :=
  ∃ port driver, w.portOf path = .ok port ∧ w.readDriver path = .ok driver ∧ s.discoveredPorts.get? port = none

theorem readIdentity_ok {path : Item} {port : String} {driver : Value} (hp : w.portOf path = .ok port)
    (hd : w.readDriver path = .ok driver) : Entered path port s (readIdentity w s path) ∧
      ∃ record, (readIdentity w s path).records.get? path = some record ∧ record.driver = some driver := by
  unfold readIdentity
  have hown := recordForPath_own (s := s) path
  have hmem : path ∈ (recordForPath path s).records.keys := Dict.mem_keys_iff.mpr (recordForPath_known path)
  generalize recordForPath path s = s₁ at hown hmem
  have h := hown.entered (readPort_ok (s := s₁) hp)
  obtain ⟨hdown, hrecord⟩ := readDriver_ok hd ((readPort_ok (s := s₁) hp).known path hmem)
  refine ⟨⟨h.toInspected.trans hdown.toInspected, hdown.ports.trans h.ports, ?_, ?_, ?_⟩, hrecord⟩
  · exact fun q hq => (hdown.others q hq).trans (h.others q hq)
  · exact fun hfree => hdown.sameTopology.trans (h.free hfree)
  · exact fun htaken => hdown.sameTopology ▸ h.taken htaken

theorem readIdentity_bad {path : Item} (h : ¬ w.Identified s path) : (readIdentity w s path).topologyErrors ≠ [] := by
  cases hp : w.portOf path with
  | error e =>
    unfold readIdentity
    exact (readDriver_inspected path).1.topology (readPort_error hp).faulty
  | ok port =>
    cases hd : w.readDriver path with
    | error e =>
      unfold readIdentity
      exact (readDriver_error hd).faulty
    | ok driver => exact (readIdentity_ok hp hd).1.taken fun hfree => h ⟨port, driver, hp, hd, hfree⟩

theorem readIdentities_known (paths : List Item) (hk : PortsKnown s) :
    Inspected s (paths.foldl (readIdentity w) s) ∧ PortsKnown (paths.foldl (readIdentity w) s) := by
  induction paths generalizing s with
  | nil => exact ⟨.refl s, hk⟩
  | cons path paths ih =>
    obtain ⟨h, hk'⟩ := readIdentity_known (w := w) path hk
    obtain ⟨h', hk''⟩ := ih hk'
    exact ⟨h.trans h', hk''⟩

/-- All motors say which they are, at ports that are free and no two the same. -/
structure Flock (w : World) (s : EmergencyStopAttempt) (paths : List Item) : Prop where
  identified : ∀ p ∈ paths, w.Identified s p
  distinct : paths.Pairwise fun p q => w.portOf p ≠ w.portOf q

structure Enrolled (w : World) (s s' : EmergencyStopAttempt) (paths : List Item) : Prop where
  ports : ∀ port q, s'.discoveredPorts.get? port = some q ↔
    s.discoveredPorts.get? port = some q ∨ q ∈ paths ∧ w.portOf q = .ok port
  drivers : ∀ p ∈ paths, ∃ record driver, s'.records.get? p = some record ∧ w.readDriver p = .ok driver ∧
    record.driver = some driver
  others : ∀ q, q ∉ paths → s'.records.get? q = s.records.get? q

theorem readIdentities_clean (paths : List Item) (hk : PortsKnown s)
    (h : (paths.foldl (readIdentity w) s).topologyErrors = []) :
    s.topologyErrors = [] ∧ Flock w s paths ∧ Enrolled w s (paths.foldl (readIdentity w) s) paths := by
  induction paths generalizing s with
  | nil => exact ⟨h, ⟨by simp, .nil⟩, ⟨by simp, by simp, fun _ _ => rfl⟩⟩
  | cons path paths ih =>
    obtain ⟨hin, hk₁⟩ := readIdentity_known (w := w) path hk
    obtain ⟨htopology, hflock, henrolled⟩ := ih hk₁ h
    obtain ⟨port, driver, hp, hd, hfree⟩ : w.Identified s path :=
      not_not.mp fun hbad => readIdentity_bad hbad htopology
    obtain ⟨hentered, record, hrecord, hdriver⟩ := readIdentity_ok (s := s) hp hd
    have hget : ∀ port', (readIdentity w s path).discoveredPorts.get? port' =
        if port' = port then some path else s.discoveredPorts.get? port' := fun port' => by
      rw [hentered.ports, Dict.get?_set]
    have hrest : ∀ p ∈ paths, ∃ port' driver', w.portOf p = .ok port' ∧ w.readDriver p = .ok driver' ∧
        port' ≠ port ∧ s.discoveredPorts.get? port' = none := by
      intro p hmem
      obtain ⟨port', driver', hp', hd', hfree'⟩ := hflock.identified p hmem
      rw [hget] at hfree'
      split at hfree'
      · cases hfree'
      next hne => exact ⟨port', driver', hp', hd', hne, hfree'⟩
    refine ⟨hentered.free hfree ▸ htopology, ⟨?_, ?_⟩, ⟨?_, ?_, ?_⟩⟩
    · rintro p (_ | ⟨_, hmem⟩)
      · exact ⟨port, driver, hp, hd, hfree⟩
      · obtain ⟨port', driver', hp', hd', -, hfree'⟩ := hrest p hmem
        exact ⟨port', driver', hp', hd', hfree'⟩
    · refine List.Pairwise.cons (fun p hmem heq => ?_) hflock.distinct
      obtain ⟨port', driver', hp', -, hne, -⟩ := hrest p hmem
      rw [hp, hp'] at heq
      cases heq
      exact hne rfl
    · intro port' q
      rw [List.foldl_cons, henrolled.ports, hget]
      by_cases hport : port' = port
      · subst hport
        have hno : ∀ q ∈ paths, w.portOf q ≠ .ok port' := fun p hmem heq => by
          obtain ⟨port₁, driver', hp', -, hne, -⟩ := hrest p hmem
          rw [hp'] at heq
          cases heq
          exact hne rfl
        simp only [↓reduceIte, Option.some.injEq, hfree, reduceCtorEq, false_or, List.mem_cons]
        constructor
        · rintro (rfl | ⟨hmem, heq⟩)
          · exact ⟨.inl rfl, hp⟩
          · exact absurd heq (hno q hmem)
        · rintro ⟨rfl | hmem, heq⟩
          · exact .inl rfl
          · exact absurd heq (hno q hmem)
      · have hpath : w.portOf path ≠ .ok port' := by
          rw [hp]
          exact fun heq => hport (Except.ok.inj heq).symm
        simp only [hport, ↓reduceIte, List.mem_cons]
        refine or_congr Iff.rfl ⟨fun h => ⟨.inr h.1, h.2⟩, ?_⟩
        rintro ⟨rfl | hmem, heq⟩
        · exact absurd heq hpath
        · exact ⟨hmem, heq⟩
    · intro p hmem
      by_cases hlater : p ∈ paths
      · exact henrolled.drivers p hlater
      · obtain rfl : p = path := (List.mem_cons.mp hmem).resolve_right hlater
        exact ⟨record, driver, (henrolled.others p hlater).trans hrecord, hd, hdriver⟩
    · intro q hq
      rw [List.mem_cons, not_or] at hq
      exact (henrolled.others q hq.2).trans (hentered.others q hq.1)

theorem Flock.clean {paths : List Item} (hf : Flock w s paths) (hs : s.topologyErrors = []) :
    (paths.foldl (readIdentity w) s).topologyErrors = [] := by
  induction paths generalizing s with
  | nil => exact hs
  | cons path paths ih =>
    obtain ⟨port, driver, hp, hd, hfree⟩ := hf.identified path (by simp)
    obtain ⟨hentered, -⟩ := readIdentity_ok (s := s) hp hd
    obtain ⟨hne, hdistinct⟩ := List.pairwise_cons.mp hf.distinct
    refine ih ⟨fun p hmem => ?_, hdistinct⟩ ((hentered.free hfree).trans hs)
    obtain ⟨port', driver', hp', hd', hfree'⟩ := hf.identified p (List.mem_cons_of_mem _ hmem)
    refine ⟨port', driver', hp', hd', ?_⟩
    rw [hentered.ports, Dict.get?_set_ne, hfree']
    rintro rfl
    exact hne p hmem (hp.trans hp'.symm)

-- The topology

/-- A configured motor was discovered at its port, with its driver. -/
def Found (s : EmergencyStopAttempt) (port : String) (expected : ExpectedMotor) : Prop :=
  ∃ path record, s.discoveredPorts.get? port = some path ∧ s.records.get? path = some record ∧
    record.driver = some (.str expected.driver)

/-- A check of the topology, which notes an error or changes nothing. -/
structure Checked (ok : Prop) (s s' : EmergencyStopAttempt) : Prop extends Inspected s s' where
  ports : s'.discoveredPorts = s.discoveredPorts
  records : s'.records = s.records
  clean : ok → s'.topologyErrors = s.topologyErrors
  dirty : ¬ ok → s'.topologyErrors ≠ []

theorem Checked.refl (s : EmergencyStopAttempt) : Checked True s s :=
  ⟨.refl s, rfl, rfl, fun _ => rfl, fun h => absurd trivial h⟩

theorem Checked.trans {a b : Prop} (h : Checked a s s') (h' : Checked b s' t) : Checked (a ∧ b) s t where
  toInspected := h.toInspected.trans h'.toInspected
  ports := h'.ports.trans h.ports
  records := h'.records.trans h.records
  clean hab := (h'.clean hab.2).trans (h.clean hab.1)
  dirty hab := by
    by_cases ha : a
    · exact h'.dirty fun hb => hab ⟨ha, hb⟩
    · exact h'.topology (h.dirty ha)

theorem Checked.imp {a b : Prop} (h : Checked a s s') (hab : a ↔ b) : Checked b s s' :=
  ⟨h.toInspected, h.ports, h.records, fun hb => h.clean (hab.mpr hb), fun hb => h.dirty fun ha => hb (hab.mp ha)⟩

theorem topologyNote_checked (detail : String) : Checked False s (s.topologyNote detail) :=
  ⟨topologyNote_inspected detail, rfl, rfl, False.elim, fun _ => topologyNote_ne_nil detail⟩

theorem checkExpected_ends (port : String) (expected : ExpectedMotor) (hk : PortsKnown s) :
    Ends (checkExpected port expected) s fun _ s' => Checked (Found s port expected) s s' := by
  unfold checkExpected
  refine Triple.get_bind ?_
  cases hget : s.discoveredPorts.get? port with
  | none =>
    refine Triple.modify ((topologyNote_checked _).imp ⟨False.elim, ?_⟩)
    rintro ⟨path, record, hpath, -⟩
    simp [hget] at hpath
  | some path =>
    obtain ⟨record, hrecord⟩ := Dict.mem_keys_iff.mp (hk port path hget)
    have hlook : (Prog.ofExcept (lookup s.records path) : Att Record) s = (.ok record, s) := by simp [lookup, hrecord]
    refine Triple.step hlook ?_
    split
    next hdriver => exact Triple.pure ((Checked.refl s).imp ⟨fun _ => ⟨path, record, hget, hrecord, hdriver⟩, fun _ => trivial⟩)
    next hdriver =>
      refine Triple.modify ((topologyNote_checked _).imp ⟨False.elim, ?_⟩)
      rintro ⟨path', record', hpath, hrec, hdriver'⟩
      cases hget.symm.trans hpath
      cases hrecord.symm.trans hrec
      exact hdriver hdriver'

theorem checkAllExpected_ends (motors : List (String × ExpectedMotor)) (hk : PortsKnown s) :
    Ends (checkAllExpected motors) s fun _ s' => Checked (∀ m ∈ motors, Found s m.1 m.2) s s' := by
  induction motors generalizing s with
  | nil => exact (Checked.refl s).imp (by simp)
  | cons m motors ih =>
    refine Triple.bind (checkExpected_ends m.1 m.2 hk) ?_
    rintro _ s₁ h₁
    have hk₁ : PortsKnown s₁ := fun port path hget => h₁.records ▸ hk port path (h₁.ports ▸ hget)
    refine (ih hk₁).mono ?_ fun _ _ h => h
    rintro _ s₂ h₂
    refine (h₁.trans h₂).imp ?_
    simp only [Found, h₁.records, h₁.ports, List.mem_cons, forall_eq_or_imp]

theorem noteUnconfigured_checked (ports : List String) : Checked (ports = []) s (ports.foldl noteUnconfigured s) := by
  induction ports generalizing s with
  | nil => exact (Checked.refl s).imp (by simp)
  | cons port ports ih =>
    exact ((topologyNote_checked _).trans ih).imp (by simp)

/-- The discovered ports are the expected ones, each once, with the expected
drivers. -/
structure World.TopologyMatches (w : World) (paths : List Item) (expected : Dict String ExpectedMotor) : Prop where
  distinct : paths.Pairwise fun p q => w.portOf p ≠ w.portOf q
  configured : ∀ p ∈ paths, ∃ port motor, w.portOf p = .ok port ∧ expected.get? port = some motor ∧
    w.readDriver p = .ok (.str motor.driver)
  complete : ∀ port ∈ expected.keys, ∃ p ∈ paths, w.portOf p = .ok port

section
variable {paths : List Item} {expected : Dict String ExpectedMotor}

theorem Enrolled.matches (he : Enrolled w s s' paths) (hf : Flock w s paths) (hs : s.discoveredPorts = .empty)
    (hfound : ∀ m ∈ expected.entries, Found s' m.1 m.2) (hknown : ∀ port ∈ s'.discoveredPorts.keys, port ∈ expected.keys) :
    w.TopologyMatches paths expected := by
  have hports : ∀ port q, s'.discoveredPorts.get? port = some q ↔ q ∈ paths ∧ w.portOf q = .ok port := by
    intro port q
    simp [he.ports, hs]
  refine ⟨hf.distinct, fun p hp => ?_, fun port hport => ?_⟩
  · obtain ⟨port, driver, hport, hdriver, -⟩ := hf.identified p hp
    have hget := (hports port p).mpr ⟨hp, hport⟩
    obtain ⟨motor, hmotor⟩ := Dict.mem_keys_iff.mp (hknown port (Dict.mem_keys_iff.mpr ⟨p, hget⟩))
    obtain ⟨path, record, hpath, hrecord, hmatch⟩ := hfound _ (Dict.get?_eq_some_iff.mp hmotor)
    cases hget.symm.trans hpath
    obtain ⟨record', driver', hrecord', hdriver', hmatch'⟩ := he.drivers p hp
    cases hrecord.symm.trans hrecord'
    cases hmatch.symm.trans hmatch'
    exact ⟨port, motor, hport, hmotor, hdriver'⟩
  · obtain ⟨motor, hmotor⟩ := Dict.mem_keys_iff.mp hport
    obtain ⟨path, -, hpath, -⟩ := hfound _ (Dict.get?_eq_some_iff.mp hmotor)
    exact ⟨path, (hports port path).mp hpath⟩

theorem World.TopologyMatches.flock (h : w.TopologyMatches paths expected) (hs : s.discoveredPorts = .empty) :
    Flock w s paths where
  identified p hp := by
    obtain ⟨port, motor, hport, -, hdriver⟩ := h.configured p hp
    exact ⟨port, _, hport, hdriver, by simp [hs]⟩
  distinct := h.distinct

theorem World.TopologyMatches.found (h : w.TopologyMatches paths expected) (he : Enrolled w s s' paths)
    (hs : s.discoveredPorts = .empty) : (∀ m ∈ expected.entries, Found s' m.1 m.2) ∧
      ∀ port ∈ s'.discoveredPorts.keys, port ∈ expected.keys := by
  have hports : ∀ port q, s'.discoveredPorts.get? port = some q ↔ q ∈ paths ∧ w.portOf q = .ok port := by
    intro port q
    simp [he.ports, hs]
  constructor
  · rintro ⟨port, motor⟩ hm
    have hmotor : expected.get? port = some motor := Dict.get?_eq_some_iff.mpr hm
    obtain ⟨p, hp, hport⟩ := h.complete port (Dict.mem_keys_iff.mpr ⟨motor, hmotor⟩)
    obtain ⟨port', motor', hport', hmotor', hdriver⟩ := h.configured p hp
    cases hport.symm.trans hport'
    cases hmotor.symm.trans hmotor'
    obtain ⟨record, driver, hrecord, hdriver', hmatch⟩ := he.drivers p hp
    cases hdriver.symm.trans hdriver'
    exact ⟨p, record, (hports port p).mpr ⟨hp, hport⟩, hrecord, hmatch⟩
  · intro port hport
    obtain ⟨q, hq⟩ := Dict.mem_keys_iff.mp hport
    obtain ⟨hmem, hportq⟩ := (hports port q).mp hq
    obtain ⟨port', motor, hport', hmotor, -⟩ := h.configured q hmem
    cases hportq.symm.trans hport'
    exact Dict.mem_keys_iff.mpr ⟨motor, hmotor⟩

end

theorem mem_sortedMotors {motors : List (String × ExpectedMotor)} {m : String × ExpectedMotor} :
    m ∈ sortedMotors motors ↔ m ∈ motors := (List.perm_insertionSort _ motors).mem_iff

theorem sortedPorts_eq_nil {ports : List String} : sortedPorts ports = [] ↔ ports = [] := by
  unfold sortedPorts
  rw [← List.length_eq_zero_iff, ← List.length_eq_zero_iff, (List.perm_insertionSort (· ≤ ·) ports).length_eq]

theorem inspectTopology_ends (r : StopRequest) (hs : s.discoveredPorts = .empty) :
    Ends (inspectTopology w r) s fun _ s' => Inspected s s' ∧ ∀ expected, r.expectedMotors = some expected →
      (s'.topologyErrors = [] ↔ s.topologyErrors = [] ∧ w.TopologyMatches s.paths expected) := by
  have hk : PortsKnown s := fun port path h => by simp [hs] at h
  unfold inspectTopology
  refine Triple.modify_bind ?_
  obtain ⟨h₁, hk₁⟩ := readIdentities_known (w := w) s.paths hk
  cases hr : r.expectedMotors with
  | none =>
    refine Triple.pure ⟨h₁, fun expected h => ?_⟩
    cases h
  | some expected =>
    refine Triple.bind (checkAllExpected_ends _ hk₁) ?_
    rintro _ s₂ h₂
    have h₃ := noteUnconfigured_checked (s := s₂) (sortedPorts (s₂.discoveredPorts.keys.filter (· ∉ expected.keys)))
    refine Triple.modify ⟨(h₁.trans h₂.toInspected).trans h₃.toInspected, ?_⟩
    rintro _ ⟨⟩
    have hall := h₂.trans h₃
    have hiff : (∀ m ∈ sortedMotors expected.entries, Found (s.paths.foldl (readIdentity w) s) m.1 m.2) ∧
        sortedPorts (s₂.discoveredPorts.keys.filter (· ∉ expected.keys)) = [] ↔
        (∀ m ∈ expected.entries, Found (s.paths.foldl (readIdentity w) s) m.1 m.2) ∧
        ∀ port ∈ (s.paths.foldl (readIdentity w) s).discoveredPorts.keys, port ∈ expected.keys := by
      simp [mem_sortedMotors, sortedPorts_eq_nil, h₂.ports]
    constructor
    · intro hclean
      have hok := hiff.mp (not_not.mp fun hbad => hall.dirty hbad hclean)
      have hmid : (s.paths.foldl (readIdentity w) s).topologyErrors = [] := (hall.clean (hiff.mpr hok)).symm.trans hclean
      obtain ⟨htopology, hflock, henrolled⟩ := readIdentities_clean s.paths hk hmid
      exact ⟨htopology, henrolled.matches hflock hs hok.1 hok.2⟩
    · rintro ⟨htopology, hmatches⟩
      have hmid := (hmatches.flock hs).clean htopology
      obtain ⟨-, -, henrolled⟩ := readIdentities_clean s.paths hk hmid
      exact (hall.clean (hiff.mpr (hmatches.found henrolled hs))).trans hmid

-- Before the first round, and the verdict

/-- Both settings are positive integers, and a poll fits into the timeout. -/
def StopRequest.Timed (r : StopRequest) (timeout poll : Nat) : Prop :=
  r.timeoutMs = .int timeout ∧ r.pollMs = .int poll ∧ 0 < poll ∧ poll ≤ timeout

theorem positive?_eq_some {setting : Setting} {n : Nat} : setting.positive? = some n ↔ setting = .int n ∧ 0 < n := by
  cases setting with
  | other => simp [Setting.positive?]
  | int value =>
    simp only [Setting.positive?, Option.ite_none_right_eq_some, Option.some.injEq, Setting.int.injEq]
    omega

theorem stableIntervalsFor_window {poll : Nat} (h : 0 < poll) : minStopStableWindowMs ≤ stableIntervalsFor poll * poll := by
  have hle : (minStopStableWindowMs + poll - 1) / poll ≤ stableIntervalsFor poll := Nat.le_max_right _ _
  refine Nat.le_trans ?_ (Nat.mul_le_mul_right poll hle)
  have hdiv := Nat.div_add_mod (minStopStableWindowMs + poll - 1) poll
  have hmod := Nat.mod_lt (minStopStableWindowMs + poll - 1) h
  rw [Nat.mul_comm] at hdiv
  omega

structure Ready (w : World) (r : StopRequest) (s : EmergencyStopAttempt) : Prop where
  accounted : Accounted s
  unconfirmed : s.inactiveAndStable = false
  uncounted : s.stableIntervals = 0
  ports : s.discoveredPorts = .empty
  attempts : 2 ≤ s.maximumAttempts
  required : 0 < s.requiredStableIntervals
  operational : s.operationalErrors = [] ↔ (∃ timeout poll, r.Timed timeout poll) ∧ w.discovered = .ok s.paths
  timing : ∀ timeout poll, r.Timed timeout poll → s.requiredStableIntervals = stableIntervalsFor poll
  topology : s.topologyErrors = [] ↔ r.configurationError = none ∧ r.expectedMotors.isSome = true
  discovered : ∀ paths, w.discovered = .ok paths → s.paths = paths

theorem timed_iff {r : StopRequest} {timeout poll : Nat} : r.Timed timeout poll ↔
    r.timeoutMs.positive? = some timeout ∧ r.pollMs.positive? = some poll ∧ poll ≤ timeout := by
  simp only [StopRequest.Timed, positive?_eq_some]
  constructor
  · rintro ⟨ht, hp, hpos, hle⟩
    exact ⟨⟨ht, by omega⟩, ⟨hp, hpos⟩, hle⟩
  · rintro ⟨⟨ht, -⟩, ⟨hp, hpos⟩, hle⟩
    exact ⟨ht, hp, hpos, hle⟩

structure Validated (r : StopRequest) (s : EmergencyStopAttempt) : Prop where
  fresh : s.deferredInterrupt = none ∧ s.inactiveAndStable = false ∧ s.stableIntervals = 0 ∧ s.discoveredPorts = .empty
  attempts : 2 ≤ s.maximumAttempts
  required : 0 < s.requiredStableIntervals
  operational : s.operationalErrors = [] ↔ ∃ timeout poll, r.Timed timeout poll
  timing : ∀ timeout poll, r.Timed timeout poll → s.requiredStableIntervals = stableIntervalsFor poll

theorem setTiming_validated (r : StopRequest) :
    Validated r (setTiming r (checkPoll r (checkTimeout r {}))) ∧
      (setTiming r (checkPoll r (checkTimeout r {}))).topologyErrors = [] := by
  unfold setTiming checkPoll checkTimeout
  cases ht : r.timeoutMs.positive? with
  | none =>
    have hno : ∀ timeout poll, ¬ r.Timed timeout poll := fun _ _ h => by simp [timed_iff, ht] at h
    cases r.pollMs.positive? with
    | none =>
      refine ⟨⟨?_, ?_, ?_, ?_, fun t p h => absurd h (hno t p)⟩, ?_⟩
      all_goals simp [EmergencyStopAttempt.operationalNote, appendOnce, minStopStableIntervals, hno]
    | some poll =>
      refine ⟨⟨?_, ?_, ?_, ?_, fun t p h => absurd h (hno t p)⟩, ?_⟩
      all_goals simp [EmergencyStopAttempt.operationalNote, appendOnce, minStopStableIntervals, hno]
  | some timeout =>
    cases hp : r.pollMs.positive? with
    | none =>
      have hno : ∀ timeout poll, ¬ r.Timed timeout poll := fun _ _ h => by simp [timed_iff, hp] at h
      refine ⟨⟨?_, ?_, ?_, ?_, fun t p h => absurd h (hno t p)⟩, ?_⟩
      all_goals simp [EmergencyStopAttempt.operationalNote, appendOnce, minStopStableIntervals, hno]
    | some poll =>
      by_cases hle : poll ≤ timeout
      · have htimed : r.Timed timeout poll := timed_iff.mpr ⟨ht, hp, hle⟩
        have hnot : ¬ poll > timeout := by omega
        simp only [reduceCtorEq, ↓reduceIte, hnot]
        refine ⟨⟨by simp, Nat.le_max_left _ _, ?_, by simpa using ⟨timeout, poll, htimed⟩, fun t p h => ?_⟩, trivial⟩
        · exact Nat.lt_of_lt_of_le (by decide) (Nat.le_max_left minStopStableIntervals _)
        · obtain ⟨-, hp', -⟩ := timed_iff.mp h
          cases hp.symm.trans hp'
          rfl
      · have hno : ∀ timeout poll, ¬ r.Timed timeout poll := fun _ _ h => by
          obtain ⟨ht', hp', hle'⟩ := timed_iff.mp h
          cases ht.symm.trans ht'
          cases hp.symm.trans hp'
          exact hle hle'
        have hgt : poll > timeout := by omega
        refine ⟨⟨?_, ?_, ?_, ?_, fun t p h => absurd h (hno t p)⟩, ?_⟩
        all_goals simp [EmergencyStopAttempt.operationalNote, appendOnce, minStopStableIntervals, hno, hgt]

theorem operationalError_maximumAttempts (detail : String) (e : Raised) :
    (s.operationalError detail e).maximumAttempts = s.maximumAttempts := by
  unfold EmergencyStopAttempt.operationalError EmergencyStopAttempt.rememberInterrupt
  split <;> rfl

theorem checkConfiguration_validated (r : StopRequest) (h : Validated r s) (hs : s.topologyErrors = []) :
    Validated r (checkConfiguration r s) ∧ ((checkConfiguration r s).topologyErrors = [] ↔
      r.configurationError = none ∧ r.expectedMotors.isSome = true) := by
  have hnote : ∀ detail, Validated r (s.topologyNote detail) := fun detail =>
    ⟨h.fresh, h.attempts, h.required, h.operational, h.timing⟩
  unfold checkConfiguration
  cases r.configurationError with
  | some error => exact ⟨hnote _, by simp [topologyNote_ne_nil]⟩
  | none =>
    cases he : r.expectedMotors with
    | none => exact ⟨hnote _, by simp [topologyNote_ne_nil]⟩
    | some expected => exact ⟨h, by simp [hs]⟩

theorem ready (w : World) (r : StopRequest) : Ready w r (discover w (validatePollSettings r {})) := by
  obtain ⟨hv, htopology⟩ := setTiming_validated r
  obtain ⟨hv', htopology'⟩ := checkConfiguration_validated r hv htopology
  unfold validatePollSettings
  generalize checkConfiguration r _ = s at hv' htopology'
  obtain ⟨⟨hdeferred, hverdict, hcount, hports⟩, hattempts, hreq, hop, htiming⟩ := hv'
  have hacc : Accounted s := ⟨by simp [hdeferred], fun h => absurd hdeferred h⟩
  unfold discover
  cases hd : w.discovered with
  | ok paths =>
    exact ⟨⟨hacc.interrupt, hacc.noted⟩, hverdict, hcount, hports, hattempts, hreq, by simpa [hd] using hop, htiming,
      htopology', fun _ h => Except.ok.inj (hd.symm.trans h) ▸ rfl⟩
  | error e =>
    have hstep := operationalError_stepped (s := { s with paths := [] }) ("discover: " ++ e.text) e
    refine ⟨hstep.accounted ⟨hacc.interrupt, hacc.noted⟩, hstep.verdict.trans hverdict, hstep.intervals.trans hcount,
      hstep.ports.trans hports, ?_, ?_, ?_, ?_, ?_, ?_⟩
    · rw [operationalError_maximumAttempts]
      exact hattempts
    · exact lt_of_lt_of_eq hreq hstep.required.symm
    · simp [hstep.dirty id, hd]
    · exact fun timeout poll h => hstep.required.trans (htiming timeout poll h)
    · rw [hstep.sameTopology]
      exact htopology'
    · intro paths h
      rw [hd] at h
      cases h

theorem mapM_lookup (records : Dict Item Record) {paths : List Item} (h : ∀ p ∈ paths, p ∈ records.keys) :
    ∃ motors, paths.mapM (lookup records) = .ok motors := by
  induction paths with
  | nil => exact ⟨[], rfl⟩
  | cons path paths ih =>
    obtain ⟨record, hrecord⟩ := Dict.mem_keys_iff.mp (h path (by simp))
    obtain ⟨motors, hmotors⟩ := ih fun p hp => h p (List.mem_cons_of_mem _ hp)
    refine ⟨record :: motors, ?_⟩
    rw [List.mapM_cons, hmotors]
    simp [lookup, hrecord, bind, Except.bind, pure, Except.pure]

theorem noteUnverified_kept : Kept s (noteUnverified s) := by
  unfold noteUnverified
  split
  · exact (operationalNote_quiet _).toKept
  · split
    · exact (operationalNote_quiet _).toKept
    · exact .refl s

theorem result_ends (r : StopRequest) (hk : ∀ p ∈ s.paths, p ∈ s.records.keys) :
    Ends (result r) s fun v s' => Kept s s' ∧ s'.rounds = s.rounds ∧
      (v.stopConfirmed = true → s'.operationalErrors = [] ∧ s'.topologyErrors = []) ∧
      (v.stopConfirmed = true ↔ r.expectedMotors.isSome = true ∧ s.paths ≠ [] ∧ s.inactiveAndStable = true ∧
        s.operationalErrors = [] ∧ s.topologyErrors = []) := by
  unfold result
  have hkept := noteUnverified_kept (s := s)
  have hnoted : (noteUnverified s).inactiveAndStable = s.inactiveAndStable ∧
      (noteUnverified s).topologyErrors = s.topologyErrors ∧ (noteUnverified s).rounds = s.rounds ∧
      ((noteUnverified s).operationalErrors = [] ↔
        s.paths ≠ [] ∧ s.inactiveAndStable = true ∧ s.operationalErrors = []) := by
    unfold noteUnverified
    split
    next hp => exact ⟨rfl, rfl, rfl, by simp [operationalNote_ne_nil, hp]⟩
    next hp =>
      split
      next hi => exact ⟨rfl, rfl, rfl, by simp [operationalNote_ne_nil, hi]⟩
      next hi =>
        have hstable : s.inactiveAndStable = true := by simpa using hi
        exact ⟨rfl, rfl, rfl, by simp [hp, hstable]⟩
  obtain ⟨hverdict, htopology, hrounds, hop⟩ := hnoted
  refine Triple.modify_bind (Triple.get_bind ?_)
  obtain ⟨motors, hmotors⟩ := mapM_lookup (noteUnverified s).records
    fun p (hp : p ∈ (noteUnverified s).paths) => hkept.known p (hk p (hkept.paths ▸ hp))
  have hlook : (Prog.ofExcept ((noteUnverified s).paths.mapM (lookup (noteUnverified s).records)) : Att (List Record))
      (noteUnverified s) = (.ok motors, noteUnverified s) := by simp [hmotors]
  refine Triple.step hlook (Triple.pure ⟨hkept, hrounds, ?_, ?_⟩)
  · intro hc
    simp only [EmergencyStopAttempt.stopConfirmed, EmergencyStopAttempt.hardwareStopVerified, Bool.and_eq_true,
      List.isEmpty_iff] at hc
    exact ⟨hc.1.2.2, hc.2⟩
  · simp only [EmergencyStopAttempt.stopConfirmed, EmergencyStopAttempt.hardwareStopVerified, Bool.and_eq_true,
      List.isEmpty_iff, hverdict, htopology, hop]
    tauto

-- The whole stop

/-- The last `n + 1` rounds found every motor at rest at one position. -/
def World.Settled (w : World) (paths : List Item) (rounds n : Nat) : Prop :=
  n < rounds ∧ ∀ k, rounds - n ≤ k → k ≤ rounds →
    w.AtRest k paths ∧ ∀ p ∈ paths, w.position? k p = w.position? rounds p

/-- Everything a confirmed stop promises, after so many rounds. -/
def StopVerified (w : World) (r : StopRequest) (rounds : Nat) : Prop :=
  ∃ timeout poll paths expected, r.Timed timeout poll ∧ r.configurationError = none ∧
    r.expectedMotors = some expected ∧ w.discovered = .ok paths ∧ paths ≠ [] ∧
    (∀ n, 0 < n → n ≤ rounds → w.RoundOk n paths) ∧
    w.Settled paths rounds (stableIntervalsFor poll) ∧ minStopStableWindowMs ≤ stableIntervalsFor poll * poll ∧
    w.TopologyMatches paths expected

theorem stop_ends (hs : Ready w r s) :
    Ends (do
      pollUntilStable w
      inspectTopology w r
      result r) s fun v s' => (v.stopConfirmed = true ↔ StopVerified w r s'.rounds) ∧
        (v.stopConfirmed = true → s'.deferredInterrupt = none) ∧
        (∀ e, s'.deferredInterrupt = some e → e.isInterrupt = true) ∧ ∀ p ∈ s.paths, Attempted p s' := by
  obtain ⟨left, hleft⟩ : ∃ left, s.maximumAttempts = left + 1 := ⟨s.maximumAttempts - 1, by have := hs.attempts; omega⟩
  have hinv : PollInv w s.paths s 0 {} := ⟨hs.uncounted, by simp, nofun⟩
  refine Triple.bind (Q := fun _ s₁ => LoopDone w 0 s s₁) ?_ ?_
  · unfold pollUntilStable
    refine Triple.get_bind ?_
    rw [hleft]
    exact pollFrom_ends left 0 {} hinv hs.required hs.unconfirmed
  rintro _ s₁ h₁
  have hpaths₁ : s₁.paths = s.paths := h₁.paths
  refine Triple.bind (inspectTopology_ends r (h₁.ports.trans hs.ports)) ?_
  rintro _ s₂ ⟨h₂, htopology⟩
  have hpaths₂ : s₂.paths = s.paths := h₂.paths.trans hpaths₁
  refine (result_ends r fun p hp => h₂.known p (h₁.recorded p (hpaths₂ ▸ hp))).mono ?_ fun _ _ h => h
  rintro v s₃ ⟨h₃, hrounds, hclean, hconfirmed⟩
  have haccounted : Accounted s₃ := h₃.accounted (h₂.accounted (h₁.accounted hs.accounted))
  refine ⟨?_, fun hv => ?_, haccounted.interrupt, fun p hp => ((h₁.attempted p hp).kept h₂.toKept).kept h₃⟩
  · rw [hconfirmed, hpaths₂, h₂.verdict, h₂.sameOperational, hrounds, h₂.rounds]
    constructor
    · rintro ⟨hsome, hne, hstable, hop, htop⟩
      obtain ⟨expected, hexpected⟩ := Option.isSome_iff_exists.mp hsome
      obtain ⟨htop₁, hmatches⟩ := (htopology expected hexpected).mp htop
      obtain ⟨⟨timeout, poll, htimed⟩, hdiscovered⟩ := hs.operational.mp (not_not.mp fun h => h₁.operational h hop)
      rw [h₁.sameTopology] at htop₁
      have hle := h₁.verdict.mp hstable
      rw [hs.timing timeout poll htimed] at hle
      refine ⟨timeout, poll, s.paths, expected, htimed, (hs.topology.mp htop₁).1, hexpected, hdiscovered, hne, ?_,
        (le_streak_iff (hs.timing timeout poll htimed ▸ hs.required)).mp hle, stableIntervalsFor_window htimed.2.2.1,
        hpaths₁ ▸ hmatches⟩
      intro n hn hle
      by_contra hbad
      exact h₁.dirty ⟨n, hn, hle, hbad⟩ hop
    · rintro ⟨timeout, poll, paths, expected, htimed, hconfig, hexpected, hdiscovered, hne, hok, hsettled, -, hmatches⟩
      obtain rfl := hs.discovered paths hdiscovered
      have hop : s.operationalErrors = [] := hs.operational.mpr ⟨⟨timeout, poll, htimed⟩, hdiscovered⟩
      have hsome : r.expectedMotors.isSome = true := by simp [hexpected]
      have htop₁ : s₁.topologyErrors = [] := h₁.sameTopology.trans (hs.topology.mpr ⟨hconfig, hsome⟩)
      have hstable : s₁.inactiveAndStable = true := by
        rw [h₁.verdict, hs.timing timeout poll htimed]
        exact (le_streak_iff (hs.timing timeout poll htimed ▸ hs.required)).mpr hsettled
      exact ⟨hsome, hne, hstable, (h₁.clean hok hstable).trans hop,
        (htopology expected hexpected).mpr ⟨htop₁, hpaths₁.symm ▸ hmatches⟩⟩
  · obtain ⟨hop, htop⟩ := hclean hv
    by_contra hdeferred
    exact (haccounted.noted hdeferred).elim (fun h => h hop) fun h => h htop

def resting : World where
  glob := .ok (.items [.path "motor0"])
  write _ _ _ := .ok ()
  state _ _ := .ok (.str "")
  position _ _ := .ok 7
  sleep _ := .ok ()
  address _ := .ok (.str "ev3-ports:outA")
  driver _ := .ok (.str "lego-ev3-l-motor")

def restingRequest : StopRequest where
  expectedMotors := some (Dict.empty.set "outA" ⟨"left", "lego-ev3-l-motor"⟩)
  timeoutMs := .int 100
  pollMs := .int 10
  configurationError := none

example : ((verifiedEmergencyStop resting restingRequest).1.toOption.map fun v => (v.stopConfirmed, v.observedStableIntervals)) =
    some (true, 5) := by
  decide +kernel

end RobotLlm.Ev3.EmergencyStop
