import Mathlib.Algebra.Order.Ring.Int
import Mathlib.Algebra.BigOperators.Group.List.Basic
import Mathlib.Data.List.Dedup
import Mathlib.Data.List.Induction
import RobotLlm.Lib.Dict

/-!
# Counting in a dictionary

A dictionary that is bumped once for every item holds how often each occurred: its
counts add up to the number of items, and its keys are the distinct ones.
-/

namespace RobotLlm.Lib.Dict

variable {κ : Type} [DecidableEq κ] {d : Dict κ Nat} {k : κ} {xs : List κ}

/-- One more of `k`. -/
def bump (d : Dict κ Nat) (k : κ) : Dict κ Nat := d.set k ((d.get? k).getD 0 + 1)

def tally (xs : List κ) : Dict κ Nat := xs.foldl bump empty

def total (d : Dict κ Nat) : Nat := (d.entries.map Prod.snd).sum

@[simp] theorem tally_nil : tally ([] : List κ) = empty := rfl

theorem tally_snoc (xs : List κ) (k : κ) : tally (xs ++ [k]) = (tally xs).bump k := by
  simp [tally]

theorem mem_keys_tally : k ∈ (tally xs).keys ↔ k ∈ xs := by
  induction xs using List.reverseRecOn with
  | nil => simp [keys, empty]
  | append_singleton xs x ih => rw [tally_snoc, bump, mem_keys_set, ih, List.mem_append, List.mem_singleton, or_comm]

theorem size_tally : (tally xs).size = xs.dedup.length := by
  have hperm : (tally xs).keys.Perm xs.dedup :=
    (List.perm_ext_iff_of_nodup keys_nodup (List.nodup_dedup xs)).mpr fun k => by rw [mem_keys_tally, List.mem_dedup]
  rw [size_eq_length_keys, hperm.length_eq]

theorem sum_setEntries (k : κ) (v : Nat) (es : List (κ × Nat)) :
    ((setEntries k v es).map Prod.snd).sum + (es.lookup k).getD 0 = (es.map Prod.snd).sum + v := by
  induction es with
  | nil => simp [setEntries]
  | cons e es ih =>
    obtain ⟨key, value⟩ := e
    unfold setEntries
    by_cases h : key = k
    · subst h
      simp only [if_true, List.map_cons, List.sum_cons, List.lookup_cons, beq_self_eq_true, Option.getD_some]
      omega
    · have hne : (k == key) = false := by simpa using fun heq => h heq.symm
      simp only [h, if_false, List.map_cons, List.sum_cons, List.lookup_cons, hne]
      omega

theorem total_bump : (d.bump k).total = d.total + 1 := by
  have h := sum_setEntries k ((d.get? k).getD 0 + 1) d.entries
  simp only [total, bump, set, get?] at h ⊢
  omega

theorem total_tally : (tally xs).total = xs.length := by
  induction xs using List.reverseRecOn with
  | nil => rfl
  | append_singleton xs x ih => rw [tally_snoc, total_bump, ih, List.length_append, List.length_singleton]

/-- What is kept of the counts and what is not make up the whole. -/
theorem sum_filter_add {α : Type} (count : α → Nat) (p : α → Bool) (xs : List α) :
    ((xs.filter p).map count).sum + ((xs.filter fun x => !p x).map count).sum = (xs.map count).sum := by
  induction xs with
  | nil => rfl
  | cons x xs ih => cases h : p x <;> simp [h] <;> omega

end RobotLlm.Lib.Dict
