import Mathlib.Data.List.Forall2

/-!
# Checks in sequence

A decoder is a chain of checks, each of which raises or hands its value on.
These rules take a chain that answered apart, link by link.
-/

namespace RobotLlm.Lib

/-- A check of each character walks the text, not the alphabet. -/
scoped instance decidableForallChar (p : Char → Prop) [DecidablePred p] (text : List Char) : Decidable (∀ c ∈ text, p c) :=
  List.decidableBAll p text

/-- `if not c: raise e`. -/
def require (c : Prop) [Decidable c] (e : ε) : Except ε Unit := if c then .ok () else .error e

variable {ε α β : Type} {e : ε} {c : Prop} [Decidable c]

theorem require_pos (h : c) : require c e = .ok () := if_pos h

theorem require_neg (h : ¬ c) : require c e = .error e := if_neg h

theorem require_ok_iff {u : Unit} : require c e = .ok u ↔ c := by
  by_cases h : c
  · rw [require_pos h]
    exact ⟨fun _ => h, fun _ => rfl⟩
  · rw [require_neg h]
    simp [h]

theorem bind_ok_iff {x : Except ε α} {f : α → Except ε β} {b : β} :
    (x >>= f) = .ok b ↔ ∃ a, x = .ok a ∧ f a = .ok b := by
  cases x with
  | error e => simp [bind, Except.bind]
  | ok a => simp [bind, Except.bind]

theorem require_bind_ok_iff {f : Unit → Except ε β} {b : β} :
    (require c e >>= f) = .ok b ↔ c ∧ f () = .ok b := by
  by_cases h : c
  · rw [require_pos h]; simp [h, bind, Except.bind]
  · rw [require_neg h]; simp [h, bind, Except.bind]

theorem require_bind {f : Unit → Except ε β} (h : c) : (require c e >>= f) = f () := by
  rw [require_pos h]; rfl

@[simp] theorem ok_bind (a : α) (f : α → Except ε β) : (Except.ok a >>= f) = f a := rfl

@[simp] theorem error_bind (f : α → Except ε β) : (Except.error e >>= f) = .error e := rfl

theorem mapM_ok {f : α → Except ε β} {g : α → β} {values : List α} (h : ∀ v ∈ values, f v = .ok (g v)) :
    values.mapM f = .ok (values.map g) := by
  induction values with
  | nil => rfl
  | cons v values ih =>
    rw [List.mapM_cons, h v List.mem_cons_self, ih fun w hw => h w (List.mem_cons_of_mem _ hw)]
    rfl

/-- Where a traversal succeeds, each of its calls gave the answer in its place. -/
theorem mapM_ok_forall₂ {f : α → Except ε β} {values : List α} {answers : List β} (h : values.mapM f = .ok answers) :
    List.Forall₂ (fun v answer => f v = .ok answer) values answers := by
  induction values generalizing answers with
  | nil =>
    cases h
    exact .nil
  | cons v values ih =>
    rw [List.mapM_cons, bind_ok_iff] at h
    obtain ⟨answer, hv, h⟩ := h
    obtain ⟨rest, hrest, h⟩ := bind_ok_iff.mp h
    cases h
    exact .cons hv (ih hrest)

theorem mapM_ok_mem {f : α → Except ε β} {values : List α} {answers : List β} (h : values.mapM f = .ok answers) :
    ∀ v ∈ values, ∃ answer, f v = .ok answer := by
  have hall := mapM_ok_forall₂ h
  clear h
  induction hall with
  | nil => simp
  | cons hv _ ih => exact List.forall_mem_cons.mpr ⟨⟨_, hv⟩, ih⟩

theorem forM_ok {f : α → Except ε Unit} {values : List α} (h : values.forM f = .ok ()) : ∀ v ∈ values, f v = .ok () := by
  induction values with
  | nil => simp
  | cons v values ih =>
    obtain ⟨_, hv, hrest⟩ := bind_ok_iff.mp (show (f v >>= fun _ => values.forM f) = .ok () from h)
    exact List.forall_mem_cons.mpr ⟨hv, ih hrest⟩

end RobotLlm.Lib
