import Mathlib.Algebra.BigOperators.Group.List.Basic
import Mathlib.Data.List.Forall2
import Mathlib.Data.List.Induction
import Mathlib.Data.List.Sort
import Mathlib.Data.List.Nodup
import Mathlib.Data.Prod.Lex
import Mathlib.Tactic.Abel

/-!
# Sorting by a key and keeping the last

Bounded memories sort what they have by age, keep the end of it, and keep one
entry for each key. What such a selection may lose is never the newest.
-/

namespace RobotLlm.Lib

-- Sorting

section
variable {α κ : Type} [LinearOrder κ] (key : α → κ) {l : List α}

def Ordered (l : List α) : Prop := l.Pairwise fun a b => key a ≤ key b

def sortBy (l : List α) : List α := l.insertionSort fun a b => key a ≤ key b

@[simp] theorem mem_sortBy {x : α} : x ∈ sortBy key l ↔ x ∈ l := List.mem_insertionSort _

theorem sortBy_perm (l : List α) : (sortBy key l).Perm l := List.perm_insertionSort _ l

@[simp] theorem length_sortBy (l : List α) : (sortBy key l).length = l.length := List.length_insertionSort _ l

theorem sortBy_ordered (l : List α) : Ordered key (sortBy key l) := by
  have : Std.Total fun a b : α => key a ≤ key b := ⟨fun a b => le_total (key a) (key b)⟩
  have : IsTrans α fun a b => key a ≤ key b := ⟨fun _ _ _ => le_trans⟩
  exact List.pairwise_insertionSort _ l

theorem sortBy_eq_self : sortBy key l = l ↔ Ordered key l :=
  ⟨fun h => h ▸ sortBy_ordered key l, fun h => List.Pairwise.insertionSort_eq h⟩

end

-- The end of a list

section
variable {α κ : Type} [LinearOrder κ] {key : α → κ} {l : List α} {n : Nat}

/-- The last `n` entries. -/
def lastN (n : Nat) (l : List α) : List α := l.drop (l.length - n)

theorem lastN_sublist (n : Nat) (l : List α) : (lastN n l).Sublist l := List.drop_sublist _ _

theorem length_lastN (n : Nat) (l : List α) : (lastN n l).length = min n l.length := by
  simp only [lastN, List.length_drop]
  omega

theorem lastN_of_length_le (h : l.length ≤ n) : lastN n l = l := by
  rw [lastN, Nat.sub_eq_zero_of_le h, List.drop_zero]

theorem Ordered.exists_lastN (ho : Ordered key l) (hn : 0 < n) {x : α} (hx : x ∈ l) : ∃ y ∈ lastN n l, key x ≤ key y := by
  rw [← List.take_append_drop (l.length - n) l] at hx ho
  obtain hx | hx := List.mem_append.mp hx
  · have hne : lastN n l ≠ [] := by
      intro h
      have := length_lastN n l
      rw [h, List.length_nil] at this
      have hlen : l.length = 0 := by omega
      rw [List.length_eq_zero_iff.mp hlen] at hx
      simp at hx
    obtain ⟨y, hy⟩ := List.exists_mem_of_ne_nil _ hne
    exact ⟨y, hy, (List.pairwise_append.mp ho).2.2 x hx y hy⟩
  · exact ⟨x, hx, le_refl _⟩

end

-- One entry for each key

section
variable {α κ : Type} [DecidableEq κ] (key : α → κ) (newer : α → α → Prop) [DecidableRel newer]

/-- Replaces the entry of the same key if the new one is newer, in its place; a
new key goes to the end. -/
def upsert : List α → α → List α
  | [], x => [x]
  | current :: rest, x =>
    if key current = key x then (if newer x current then x else current) :: rest
    else current :: upsert rest x

/-- The values of a dictionary that `upsert` fills from left to right. -/
def latestBy (l : List α) : List α := l.foldl (upsert key newer) []

variable {key newer}

theorem mem_upsert {l : List α} {x y : α} (h : y ∈ upsert key newer l x) : y ∈ l ∨ y = x := by
  induction l with
  | nil => simp_all [upsert]
  | cons current rest ih =>
    unfold upsert at h
    split at h
    · obtain h | h := List.mem_cons.mp h
      · split at h
        · exact .inr h
        · exact .inl (h ▸ List.mem_cons_self)
      · exact .inl (List.mem_cons_of_mem _ h)
    · obtain h | h := List.mem_cons.mp h
      · exact .inl (h ▸ List.mem_cons_self)
      · exact (ih h).imp_left (List.mem_cons_of_mem _)

theorem map_upsert {l : List α} {x : α} :
    (upsert key newer l x).map key = if key x ∈ l.map key then l.map key else l.map key ++ [key x] := by
  induction l with
  | nil => rfl
  | cons current rest ih =>
    unfold upsert
    by_cases hk : key current = key x
    · rw [if_pos hk]
      have : key (if newer x current then x else current) = key current := by
        split
        · exact hk.symm
        · rfl
      simp [this, hk]
    · rw [if_neg hk]
      have hk' : ¬ key x = key current := fun h => hk h.symm
      simp only [List.map_cons, ih, List.mem_cons, hk', false_or]
      split <;> rfl

theorem nodup_upsert {l : List α} {x : α} (h : (l.map key).Nodup) : ((upsert key newer l x).map key).Nodup := by
  rw [map_upsert]
  split
  · exact h
  · rename_i hx
    exact List.nodup_append.mpr ⟨h, List.nodup_singleton _, fun a ha b hb hab => hx (by
      rw [← List.mem_singleton.mp hb, ← hab]
      exact ha)⟩

theorem exists_upsert {R : α → α → Prop} (hr : ∀ a, R a a) (hnewer : ∀ a b, newer b a → R a b)
    (holder : ∀ a b, key a = key b → ¬ newer b a → R b a) {l : List α} {x : α} :
    (∃ y ∈ upsert key newer l x, key y = key x ∧ R x y) ∧
      ∀ z ∈ l, ∃ y ∈ upsert key newer l x, key y = key z ∧ R z y := by
  induction l with
  | nil => exact ⟨⟨x, List.mem_singleton.mpr rfl, rfl, hr x⟩, nofun⟩
  | cons current rest ih =>
    unfold upsert
    by_cases hk : key current = key x
    · rw [if_pos hk]
      by_cases hnew : newer x current
      · rw [if_pos hnew]
        refine ⟨⟨x, List.mem_cons_self, rfl, hr x⟩, fun z hz => ?_⟩
        obtain rfl | hz := List.mem_cons.mp hz
        · exact ⟨x, List.mem_cons_self, hk.symm, hnewer _ _ hnew⟩
        · exact ⟨z, List.mem_cons_of_mem _ hz, rfl, hr z⟩
      · rw [if_neg hnew]
        exact ⟨⟨current, List.mem_cons_self, hk, holder _ _ hk hnew⟩, fun z hz => ⟨z, hz, rfl, hr z⟩⟩
    · rw [if_neg hk]
      obtain ⟨⟨y, hy, hkey, hxy⟩, hrest⟩ := ih
      refine ⟨⟨y, List.mem_cons_of_mem _ hy, hkey, hxy⟩, fun z hz => ?_⟩
      obtain rfl | hz := List.mem_cons.mp hz
      · exact ⟨z, List.mem_cons_self, rfl, hr z⟩
      · obtain ⟨y, hy, h⟩ := hrest z hz
        exact ⟨y, List.mem_cons_of_mem _ hy, h⟩

theorem latestBy_append (l : List α) (x : α) : latestBy key newer (l ++ [x]) = upsert key newer (latestBy key newer l) x := by
  simp [latestBy, List.foldl_append]

theorem upsert_of_new {l : List α} {x : α} (h : key x ∉ l.map key) : upsert key newer l x = l ++ [x] := by
  induction l with
  | nil => rfl
  | cons current rest ih =>
    rw [List.map_cons, List.mem_cons, not_or] at h
    rw [upsert, if_neg (Ne.symm h.1), ih h.2, List.cons_append]

theorem latestBy_of_nodup {l : List α} (h : (l.map key).Nodup) : latestBy key newer l = l := by
  induction l using List.reverseRecOn with
  | nil => rfl
  | append_singleton l x ih =>
    rw [List.map_append, List.map_singleton] at h
    obtain ⟨hl, -, hx⟩ := List.nodup_append.mp h
    rw [latestBy_append, ih hl]
    exact upsert_of_new fun hmem => hx _ hmem _ (List.mem_singleton_self _) rfl

theorem mem_latestBy {l : List α} {y : α} (h : y ∈ latestBy key newer l) : y ∈ l := by
  induction l using List.reverseRecOn with
  | nil => exact h
  | append_singleton l x ih =>
    rw [latestBy_append] at h
    obtain h | rfl := mem_upsert h
    · exact List.mem_append_left _ (ih h)
    · exact List.mem_append_right _ (List.mem_singleton.mpr rfl)

theorem nodup_latestBy (l : List α) : ((latestBy key newer l).map key).Nodup := by
  induction l using List.reverseRecOn with
  | nil => exact List.nodup_nil
  | append_singleton l x ih =>
    rw [latestBy_append]
    exact nodup_upsert ih

variable (key newer) in
/-- Each entry has a successor of its own key that is at least as new. -/
theorem exists_latestBy {R : α → α → Prop} (hr : ∀ a, R a a) (ht : ∀ a b c, R a b → R b c → R a c)
    (hnewer : ∀ a b, newer b a → R a b) (holder : ∀ a b, key a = key b → ¬ newer b a → R b a) {l : List α} {z : α}
    (hz : z ∈ l) : ∃ y ∈ latestBy key newer l, key y = key z ∧ R z y := by
  induction l using List.reverseRecOn with
  | nil => cases hz
  | append_singleton l x ih =>
    rw [latestBy_append]
    obtain ⟨hx, hold⟩ := exists_upsert hr hnewer holder (l := latestBy key newer l) (x := x)
    obtain hz | hz := List.mem_append.mp hz
    · obtain ⟨y, hy, hkey, hzy⟩ := ih hz
      obtain ⟨y', hy', hkey', hyy'⟩ := hold y hy
      exact ⟨y', hy', hkey'.trans hkey, ht _ _ _ hzy hyy'⟩
    · obtain rfl := List.mem_singleton.mp hz
      exact hx

theorem upsert_subperm (l : List α) (x : α) : (upsert key newer l x).Subperm (l ++ [x]) := by
  induction l with
  | nil => exact List.Subperm.refl _
  | cons current rest ih =>
    unfold upsert
    split
    · split
      · refine (List.Sublist.subperm (List.sublist_cons_self current _)).trans (List.Perm.subperm ?_)
        exact (List.perm_append_singleton x rest).symm.cons current
      · exact (List.sublist_append_left (current :: rest) [x]).subperm
    · exact (List.subperm_cons current).mpr ih

theorem latestBy_subperm (l : List α) : (latestBy key newer l).Subperm l := by
  induction l using List.reverseRecOn with
  | nil => exact List.Subperm.refl _
  | append_singleton l x ih =>
    rw [latestBy_append]
    exact (upsert_subperm _ x).trans ((List.subperm_append_right [x]).mpr ih)

end

-- Entries that are related one by one

section
variable {α β γ κ : Type} {R : α → β → Prop} {l : List α} {l' : List β}

theorem forall₂_trans {S : β → γ → Prop} {T : α → γ → Prop} {l'' : List γ} (ht : ∀ a b c, R a b → S b c → T a c)
    (h : List.Forall₂ R l l') (h' : List.Forall₂ S l' l'') : List.Forall₂ T l l'' := by
  induction h generalizing l'' with
  | nil =>
    cases h'
    exact .nil
  | cons hab _ ih =>
    cases h' with
    | cons hbc hrest => exact .cons (ht _ _ _ hab hbc) (ih hrest)

theorem forall₂_left (h : List.Forall₂ R l l') {a : α} (ha : a ∈ l) : ∃ b ∈ l', R a b := by
  induction h with
  | nil => cases ha
  | cons hab _ ih =>
    obtain rfl | ha := List.mem_cons.mp ha
    · exact ⟨_, List.mem_cons_self, hab⟩
    · obtain ⟨b, hb, hr⟩ := ih ha
      exact ⟨b, List.mem_cons_of_mem _ hb, hr⟩

theorem forall₂_right (h : List.Forall₂ R l l') {b : β} (hb : b ∈ l') : ∃ a ∈ l, R a b := by
  induction h with
  | nil => cases hb
  | cons hab _ ih =>
    obtain rfl | hb := List.mem_cons.mp hb
    · exact ⟨_, List.mem_cons_self, hab⟩
    · obtain ⟨a, ha, hr⟩ := ih hb
      exact ⟨a, List.mem_cons_of_mem _ ha, hr⟩

theorem forall₂_map_eq {f : α → κ} {g : β → κ} (hr : ∀ a b, R a b → f a = g b) (h : List.Forall₂ R l l') :
    l.map f = l'.map g := by
  induction h with
  | nil => rfl
  | cons hab _ ih => rw [List.map_cons, List.map_cons, hr _ _ hab, ih]

end

-- Replacing the entry of a key

section
variable {α κ : Type} [DecidableEq κ] (key : α → κ)

/-- The list with `u` in the place of the entries of that key. -/
def replaceAt (l : List α) (k : κ) (u : α) : List α := l.map fun item => if key item = k then u else item

variable {key} {l : List α} {k : κ} {u x : α}

theorem map_replaceAt (hu : key u = k) : (replaceAt key l k u).map key = l.map key := by
  simp only [replaceAt, List.map_map]
  refine List.map_congr_left fun item _ => ?_
  by_cases h : key item = k
  · simp [h, hu]
  · simp [h]

theorem mem_replaceAt {y : α} (hy : y ∈ replaceAt key l k u) : y = u ∨ y ∈ l ∧ key y ≠ k := by
  obtain ⟨x, hx, rfl⟩ := List.mem_map.mp hy
  by_cases hxk : key x = k
  · rw [if_pos hxk]
    exact .inl rfl
  · rw [if_neg hxk]
    exact .inr ⟨hx, hxk⟩

/-- The entry of the key is related to the new one, the others are the same. -/
theorem forall₂_replaceAt {R : α → α → Prop} (hn : (l.map key).Nodup) (hx : x ∈ l) (hxk : key x = k) (hxu : R x u)
    (hr : ∀ y ∈ l, key y ≠ k → R y y) : List.Forall₂ R l (replaceAt key l k u) := by
  rw [replaceAt, List.forall₂_map_right_iff, List.forall₂_same]
  intro y hy
  by_cases hyk : key y = k
  · rw [if_pos hyk, List.inj_on_of_nodup_map hn hy hx (hyk.trans hxk.symm)]
    exact hxu
  · rw [if_neg hyk]
    exact hr y hy hyk

theorem sum_replaceAt {M : Type} [AddCommMonoid M] {w : α → M} (hn : (l.map key).Nodup) (hx : x ∈ l) (hxk : key x = k) :
    ((replaceAt key l k u).map w).sum + w x = (l.map w).sum + w u := by
  induction l with
  | nil => cases hx
  | cons y rest ih =>
    obtain ⟨hy, hrest⟩ := List.nodup_cons.mp hn
    by_cases hyk : key y = k
    · have hsame : replaceAt key rest k u = rest := by
        refine (List.map_congr_left fun z hz => ?_).trans (List.map_id rest)
        have hz' : key z ∈ rest.map key := List.mem_map_of_mem hz
        rw [if_neg fun hzk => hy (by rw [hyk, ← hzk]; exact hz'), id]
      have hxy : x = y := by
        obtain rfl | hx := List.mem_cons.mp hx
        · rfl
        · have hx' : key x ∈ rest.map key := List.mem_map_of_mem hx
          exact absurd hx' (by rw [hxk, ← hyk]; exact hy)
      have hcons : replaceAt key (y :: rest) k u = u :: replaceAt key rest k u := by simp [replaceAt, hyk]
      rw [hcons, hsame, hxy, List.map_cons, List.sum_cons, List.map_cons, List.sum_cons]
      abel
    · have hx : x ∈ rest := (List.mem_cons.mp hx).resolve_left fun h => hyk (h ▸ hxk)
      have hcons : replaceAt key (y :: rest) k u = y :: replaceAt key rest k u := by simp [replaceAt, hyk]
      rw [hcons, List.map_cons, List.sum_cons, List.map_cons, List.sum_cons, add_assoc, ih hrest hx, add_assoc]

end

end RobotLlm.Lib
