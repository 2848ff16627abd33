import Mathlib.Algebra.Order.Ring.Int
import RobotLlm.Lib.JsonText

/-!
# The length of encoded JSON

What a list or an object takes is the sum of what its entries take, whatever
their order, and the brackets and commas around them.
-/

namespace RobotLlm.Lib.Json

-- Text

@[simp] theorem utf8Length_nil : utf8Length [] = 0 := rfl

@[simp] theorem utf8Length_cons (c : Char) (text : List Char) : utf8Length (c :: text) = c.utf8Size + utf8Length text := by
  simp [utf8Length]

@[simp] theorem utf8Length_append (first second : List Char) :
    utf8Length (first ++ second) = utf8Length first + utf8Length second := by
  simp [utf8Length]

theorem utf8Length_of_ascii {text : List Char} (h : ∀ c ∈ text, c.utf8Size = 1) : utf8Length text = text.length := by
  induction text with
  | nil => rfl
  | cons c text ih =>
    obtain ⟨hc, htext⟩ := List.forall_mem_cons.mp h
    rw [utf8Length_cons, ih htext, hc, List.length_cons, Nat.add_comm]

theorem utf8Length_intercalate (items : List (List Char)) :
    utf8Length ([','].intercalate items) = (items.map utf8Length).sum + (items.length - 1) := by
  induction items with
  | nil => rfl
  | cons item items ih =>
    cases items with
    | nil => simp
    | cons next items =>
      have hcomma : utf8Length [','] = 1 := rfl
      rw [List.intercalate_cons_cons, utf8Length_append, utf8Length_append, ih, hcomma]
      simp only [List.map_cons, List.sum_cons, List.length_cons]
      omega

theorem utf8Length_enclosed {start stop : Char} (hstart : start.utf8Size = 1) (hstop : stop.utf8Size = 1)
    (items : List (List Char)) :
    utf8Length (enclosed start stop items) = 2 + (items.map utf8Length).sum + (items.length - 1) := by
  rw [enclosed, utf8Length_cons, utf8Length_append, utf8Length_intercalate, utf8Length_cons, utf8Length_nil, hstart, hstop]
  omega

-- Values

theorem dumpsItems_eq (items : List Json) : dumpsItems items = items.map dumps := by
  induction items with
  | nil => rfl
  | cons item items ih => rw [dumpsItems, ih, List.map_cons]

theorem dumpsFields_eq (fields : List (String × Json)) :
    dumpsFields fields = fields.map fun field => (field.1, dumps field.2) := by
  induction fields with
  | nil => rfl
  | cons field fields ih => rw [dumpsFields, ih, List.map_cons]

theorem byteLength_arr (items : List Json) :
    byteLength (.arr items) = 2 + (items.map byteLength).sum + (items.length - 1) := by
  rw [byteLength, dumps, utf8Length_enclosed rfl rfl, dumpsItems_eq, List.map_map, List.length_map]
  rfl

def fieldLength (field : String × Json) : Nat := utf8Length (quoted field.1) + 1 + byteLength field.2

theorem byteLength_obj (fields : List (String × Json)) :
    byteLength (.obj fields) = 2 + (fields.map fieldLength).sum + (fields.length - 1) := by
  have hcolon : (':' : Char).utf8Size = 1 := rfl
  have hperm := (List.perm_insertionSort (fun a b : String × List Char => a.1 ≤ b.1) (dumpsFields fields)).map
    fun field => utf8Length (quoted field.1 ++ ':' :: field.2)
  rw [byteLength, dumps, utf8Length_enclosed rfl rfl, List.map_map, List.length_map, List.length_insertionSort]
  simp only [Function.comp_def]
  rw [hperm.sum_nat, dumpsFields_eq, List.map_map, List.length_map]
  congr 4
  funext field
  simp only [Function.comp_apply, utf8Length_append, utf8Length_cons, hcolon, fieldLength, byteLength]
  omega

theorem utf8Size_of_isDigit {c : Char} (h : c.isDigit = true) : c.utf8Size = 1 := by
  have hle : c.val ≤ 57 := by
    simp only [Char.isDigit, Bool.and_eq_true, decide_eq_true_eq] at h
    exact h.2
  have hascii : c.val ≤ 127 := by
    rw [UInt32.le_iff_toNat_le] at hle ⊢
    exact hle.trans (by decide)
  unfold Char.utf8Size
  exact if_pos hascii

theorem byteLength_natCast (n : Nat) : byteLength (.int n) = (Nat.toDigits 10 n).length := by
  have hdigits : dumps (.int n) = Nat.toDigits 10 n := by
    rw [dumps, Int.toString_eq_repr, Int.repr_eq_if, if_pos (Int.natCast_nonneg n), Int.toNat_natCast, Nat.toList_repr]
  rw [byteLength, hdigits]
  exact utf8Length_of_ascii fun c hc => utf8Size_of_isDigit (Nat.isDigit_of_mem_toDigits (by decide) (by decide) hc)

theorem byteLength_int_mono {n m : Int} (hn : 0 ≤ n) (h : n ≤ m) : byteLength (.int n) ≤ byteLength (.int m) := by
  obtain ⟨n, rfl⟩ := Int.eq_ofNat_of_zero_le hn
  obtain ⟨m, rfl⟩ := Int.eq_ofNat_of_zero_le (hn.trans h)
  have hle : n ≤ m := Int.ofNat_le.mp h
  rw [byteLength_natCast, byteLength_natCast]
  refine (Nat.length_toDigits_le_iff (by decide) Nat.length_toDigits_pos).mpr (Nat.lt_of_le_of_lt hle ?_)
  exact (Nat.length_toDigits_le_iff (by decide) Nat.length_toDigits_pos).mp (Nat.le_refl _)

end RobotLlm.Lib.Json
