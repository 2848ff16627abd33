import RobotLlm.Ev3.Hal

/-!
# How the log grows

A step that only looks at the robot leaves in the log what other threads asked
for meanwhile. Any step of the supervisor only adds to the log, and the flags
stay what the log says.
-/

namespace RobotLlm.Ev3

open RobotLlm.Lib

namespace Happening

def isRequest : Happening → Bool
  | .requested _ => true
  | _ => false

def isBoundRequest : Happening → Bool
  | .requested bound => bound
  | _ => false

def Own : Happening → Prop
  | .wrote _ _ _ | .stopBegun | .stopEnded _ | .released | .requested _ => True
  | .loopCreated | .taken | .dispatched | .completing | .completed _ | .closing => False

theorem own_of_isRequest (h : isRequest e = true) : e.Own := by
  cases e <;> simp_all [isRequest, Own]

def isStart : Happening → Bool
  | .wrote _ file value => file = "command" && value = "run-timed"
  | _ => false

/-- The supervisor's own, and no motor was started. -/
def Calm (e : Happening) : Prop := e.Own ∧ e.isStart = false

theorem calm_of_isRequest (h : isRequest e = true) : e.Calm :=
  ⟨own_of_isRequest h, by cases e <;> simp_all [isRequest, isStart]⟩

/-- All that a step may do that starts no motor. -/
class Admits (P : Happening → Prop) : Prop where
  calm : ∀ e, Calm e → P e

instance : Admits Own := ⟨fun _ h => h.1⟩

instance : Admits Calm := ⟨fun _ h => h⟩

end Happening

namespace Hardware

/-- `h'` came after `h`, and only such things happened meanwhile: the flags
are up if they were or if somebody asked. -/
structure Grew (P : Happening → Prop) (h h' : Hardware) : Prop where
  tape : h'.tape = h.tape
  thread : h'.thread = h.thread
  log : ∃ newer, h'.log = newer ++ h.log ∧ (∀ e ∈ newer, P e) ∧
    h'.emergencyStopRequested = (newer.any Happening.isRequest || h.emergencyStopRequested) ∧
    h'.requestBoundEmergencyStop = (newer.any Happening.isBoundRequest || h.requestBoundEmergencyStop)

variable {P Q : Happening → Prop} {h h' h'' : Hardware}

theorem Grew.refl (P : Happening → Prop) (h : Hardware) : h.Grew P h := ⟨rfl, rfl, [], by simp⟩

theorem Grew.trans (hg : h.Grew P h') (hg' : h'.Grew P h'') : h.Grew P h'' := by
  obtain ⟨newer, hl, hp, hs, hb⟩ := hg.log
  obtain ⟨newer', hl', hp', hs', hb'⟩ := hg'.log
  refine ⟨hg'.tape.trans hg.tape, hg'.thread.trans hg.thread, newer' ++ newer, by rw [hl', hl, List.append_assoc], ?_, ?_, ?_⟩
  · intro e he
    rcases List.mem_append.mp he with he | he
    · exact hp' e he
    · exact hp e he
  · simp [hs', hs, Bool.or_assoc]
  · simp [hb', hb, Bool.or_assoc]

instance (P : Happening → Prop) : IsPreorder Hardware (Grew P) where
  refl := Grew.refl P
  trans _ _ _ := Grew.trans

theorem Grew.mono (hg : h.Grew P h') (hpq : ∀ e, P e → Q e) : h.Grew Q h' := by
  obtain ⟨newer, hl, hp, hs⟩ := hg.log
  exact ⟨hg.tape, hg.thread, newer, hl, fun e he => hpq e (hp e he), hs⟩

abbrev Read (h h' : Hardware) : Prop := h.Grew (fun e => e.isRequest = true) h'

abbrev Later (h h' : Hardware) : Prop := h.Grew Happening.Own h'

theorem Grew.later (hg : Read h h') : Later h h' := hg.mono fun _ => Happening.own_of_isRequest

theorem answered_read (h : Hardware) : Read h h.answered := by
  unfold answered
  split
  · exact ⟨rfl, rfl, [], by simp⟩
  · rename_i bound _
    exact ⟨rfl, rfl, [.requested bound], by simp [Happening.isRequest, Happening.isBoundRequest, Bool.or_comm]⟩

theorem ask_read (f : Answer → Except PyError α) : Prog.Keeps Read (ask f) := answered_read

theorem nowMs_read : Prog.Keeps Read nowMs := ask_read _

section
variable [Happening.Admits P]

theorem Grew.of_read (hg : Read h h') : h.Grew P h' := hg.mono fun _ he => Happening.Admits.calm _ (Happening.calm_of_isRequest he)

theorem Grew.keeps_grew {x : Io α} (hx : Prog.Keeps Read x) : Prog.Keeps (Grew P) x := hx.mono fun _ _ => Grew.of_read

theorem ask_grew (f : Answer → Except PyError α) : Prog.Keeps (Grew P) (ask f) := Grew.keeps_grew (ask_read f)

theorem discoveredMotorPaths_grew : Prog.Keeps (Grew P) discoveredMotorPaths := .bind (ask_grew _) fun _ => .pure _

end

theorem note_grew (hp : P happening) (hr : happening.isRequest = false) : Prog.Keeps (Grew P) (note happening) := by
  intro h
  have hb : happening.isBoundRequest = false := by
    cases happening <;> simp_all [Happening.isRequest, Happening.isBoundRequest]
  exact ⟨rfl, rfl, [happening], by simp [note, hr, hb, hp]⟩

theorem write_grew [Happening.Admits P] (path file value : String) (hp : P (.wrote path file value)) :
    Prog.Keeps (Grew P) (write path file value) := .bind (ask_grew _) fun _ => note_grew hp rfl

theorem Grew.keeps_later {x : Io α} (hx : Prog.Keeps Read x) : Prog.Keeps Later x := Grew.keeps_grew hx

theorem ask_later (f : Answer → Except PyError α) : Prog.Keeps Later (ask f) := ask_grew f

theorem note_later (hn : happening.Own) (hr : happening.isRequest = false) : Prog.Keeps Later (note happening) := note_grew hn hr

theorem write_later (path file value : String) : Prog.Keeps Later (write path file value) := write_grew _ _ _ trivial

end Hardware

end RobotLlm.Ev3
