import Mathlib.Data.List.Basic

/-!
# Brackets that are looked for backwards

A search through a list of marks for an opening bracket that no closing bracket
has taken yet, with a counter of the closing ones it passed. Searches that start
at different closing brackets find different openings, and the pairs are nested.
-/

namespace RobotLlm.Lib

inductive Mark where
  | skip
  | opens
  | closes
  | stop
deriving DecidableEq

namespace Mark

/-- The place of the opening bracket that is found, from the nearest mark on,
when `unmatched` closing ones were passed before. -/
def find (unmatched : Nat) : List Mark → Option Nat
  | [] => none
  | .skip :: marks => (find unmatched marks).map (· + 1)
  | .opens :: marks =>
    match unmatched with
    | 0 => some 0
    | unmatched + 1 => (find unmatched marks).map (· + 1)
  | .closes :: marks => (find (unmatched + 1) marks).map (· + 1)
  | .stop :: _ => none

variable {unmatched k : Nat} {marks : List Mark}

@[simp] theorem find_skip : find unmatched (.skip :: marks) = (find unmatched marks).map (· + 1) := rfl
@[simp] theorem find_opens_zero : find 0 (.opens :: marks) = some 0 := rfl
@[simp] theorem find_opens_succ : find (unmatched + 1) (.opens :: marks) = (find unmatched marks).map (· + 1) := rfl
@[simp] theorem find_closes : find unmatched (.closes :: marks) = (find (unmatched + 1) marks).map (· + 1) := rfl
@[simp] theorem find_stop : find unmatched (.stop :: marks) = none := rfl

/-- The nearest mark is what is found, or the search goes on behind it. -/
theorem find_cons {mark : Mark} (h : find unmatched (mark :: marks) = some k) :
    mark = .opens ∧ k = 0 ∨ mark ≠ .stop ∧ ∃ unmatched' k', find unmatched' marks = some k' ∧ k = k' + 1 := by
  cases mark with
  | skip =>
    obtain ⟨k', hk, rfl⟩ := Option.map_eq_some_iff.mp h
    exact .inr ⟨nofun, _, _, hk, rfl⟩
  | opens =>
    cases unmatched with
    | zero => exact .inl ⟨rfl, (Option.some.inj h).symm⟩
    | succ unmatched =>
      obtain ⟨k', hk, rfl⟩ := Option.map_eq_some_iff.mp h
      exact .inr ⟨nofun, _, _, hk, rfl⟩
  | closes =>
    obtain ⟨k', hk, rfl⟩ := Option.map_eq_some_iff.mp h
    exact .inr ⟨nofun, _, _, hk, rfl⟩
  | stop => cases h

theorem find_opens (h : find unmatched marks = some k) : marks[k]? = some .opens := by
  induction marks generalizing unmatched k with
  | nil => cases h
  | cons mark marks ih =>
    rcases find_cons h with ⟨rfl, rfl⟩ | ⟨_, _, k', hk, rfl⟩
    · rfl
    · exact ih hk

theorem find_passes (h : find unmatched marks = some k) {m : Nat} (hm : m < k) : marks[m]? ≠ some .stop := by
  induction marks generalizing unmatched k m with
  | nil => cases h
  | cons mark marks ih =>
    rcases find_cons h with ⟨_, rfl⟩ | ⟨hgoes, _, k', hk, rfl⟩
    · cases hm
    · cases m with
      | zero => simpa using hgoes
      | succ m => exact ih hk (Nat.lt_of_succ_lt_succ hm)

theorem find_append {passed : List Mark} (h : find unmatched (passed ++ marks) = some k) (hk : passed.length ≤ k) :
    ∃ unmatched', find unmatched' marks = some (k - passed.length) := by
  induction passed generalizing unmatched k with
  | nil => exact ⟨unmatched, h⟩
  | cons mark passed ih =>
    rcases find_cons h with ⟨_, rfl⟩ | ⟨_, _, k', hk', rfl⟩
    · cases hk
    · rw [List.length_cons, Nat.add_sub_add_right]
      exact ih hk' (Nat.le_of_succ_le_succ hk)

/-- With one closing bracket less to make up for, something nearer is found. -/
theorem find_nearer (h : find (unmatched + 1) marks = some k) : ∃ k' < k, find unmatched marks = some k' := by
  induction marks generalizing unmatched k with
  | nil => cases h
  | cons mark marks ih =>
    have hnext : ∀ {u u' k₀}, find (u + 1) marks = some k₀ → find u' (mark :: marks) = (find u marks).map (· + 1) →
        ∃ k' < k₀ + 1, find u' (mark :: marks) = some k' := by
      intro u u' k₀ hfind hstep
      obtain ⟨k', hless, hk'⟩ := ih hfind
      exact ⟨k' + 1, Nat.succ_lt_succ hless, by rw [hstep, hk']; rfl⟩
    cases mark with
    | skip =>
      obtain ⟨k₀, hfind, rfl⟩ := Option.map_eq_some_iff.mp h
      exact hnext hfind rfl
    | opens =>
      obtain ⟨k₀, hfind, rfl⟩ := Option.map_eq_some_iff.mp h
      cases unmatched with
      | zero => exact ⟨0, Nat.succ_pos _, rfl⟩
      | succ unmatched => exact hnext hfind rfl
    | closes =>
      obtain ⟨k₀, hfind, rfl⟩ := Option.map_eq_some_iff.mp h
      exact hnext hfind rfl
    | stop => cases h

theorem find_nearest (h : find (unmatched + 1) marks = some k) : ∃ k' < k, find 0 marks = some k' := by
  induction unmatched generalizing k with
  | zero => exact find_nearer h
  | succ unmatched ih =>
    obtain ⟨k', hless, hk'⟩ := find_nearer h
    obtain ⟨k'', hless', hk''⟩ := ih hk'
    exact ⟨k'', Nat.lt_trans hless' hless, hk''⟩

-- Partners

/-- The opening bracket that a search from `i` back finds, by its place. -/
def partner (marks : List Mark) (i : Nat) : Option Nat := (find 0 (marks.take i).reverse).map fun k => i - 1 - k

variable {i i' j j' : Nat}

theorem partner_eq_some (h : partner marks i = some j) (hi : i ≤ marks.length) :
    j < i ∧ find 0 (marks.take i).reverse = some (i - 1 - j) := by
  obtain ⟨k, hk, rfl⟩ := Option.map_eq_some_iff.mp h
  have hlength : k < i := by
    have hmark := find_opens hk
    obtain ⟨hbound, _⟩ := List.getElem?_eq_some_iff.mp hmark
    simpa [Nat.min_eq_left hi] using hbound
  refine ⟨by omega, ?_⟩
  rw [hk]
  congr 1
  omega

theorem getElem?_take_reverse (hj : j < i) (hi : i ≤ marks.length) : (marks.take i).reverse[i - 1 - j]? = marks[j]? := by
  have hlength : (marks.take i).length = i := by simp [Nat.min_eq_left hi]
  rw [List.getElem?_reverse (by omega), hlength, List.getElem?_take_of_lt (by omega)]
  congr 1
  omega

theorem partner_opens (h : partner marks i = some j) (hi : i ≤ marks.length) : marks[j]? = some .opens := by
  obtain ⟨hlt, hfind⟩ := partner_eq_some h hi
  rw [← getElem?_take_reverse hlt hi]
  exact find_opens hfind

theorem partner_passes (h : partner marks i = some j) (hi : i ≤ marks.length) {m : Nat} (hjm : j < m) (hmi : m < i) :
    marks[m]? ≠ some .stop := by
  obtain ⟨hlt, hfind⟩ := partner_eq_some h hi
  rw [← getElem?_take_reverse hmi hi]
  exact find_passes hfind (by omega)

/-- Of two closing brackets, the earlier one has its partner after that of the
later one, if the later one reaches back that far. -/
theorem partner_nested (h : partner marks i = some j) (h' : partner marks i' = some j') (hi' : i' ≤ marks.length)
    (hlt : i < i') (hclose : marks[i]? = some .closes) : i < j' ∨ j' < j := by
  obtain ⟨hj, hfind⟩ := partner_eq_some h (by omega)
  obtain ⟨hj', hfind'⟩ := partner_eq_some h' hi'
  by_cases hapart : i < j'
  · exact .inl hapart
  · right
    have hne : j' ≠ i := by
      rintro rfl
      have hopens := partner_opens h' hi'
      rw [hclose] at hopens
      cases hopens
    have hbound : i < (marks.take i').length := by simp; omega
    have hmark : (marks.take i')[i] = .closes := by
      rw [List.getElem_take]
      exact (List.getElem?_eq_some_iff.mp hclose).2
    have hsplit : (marks.take i').reverse = ((marks.take i').drop (i + 1)).reverse ++ .closes :: (marks.take i).reverse := by
      conv_lhs => rw [← List.take_append_drop i (marks.take i'), List.drop_eq_getElem_cons hbound, hmark]
      rw [List.take_take, Nat.min_eq_left (Nat.le_of_lt hlt), List.reverse_append, List.reverse_cons, List.append_assoc]
      rfl
    have hpassed : ((marks.take i').drop (i + 1)).reverse.length = i' - (i + 1) := by simp; omega
    rw [hsplit] at hfind'
    obtain ⟨unmatched, hrest⟩ := find_append hfind' (by omega)
    obtain ⟨k, hk, hlast⟩ := Option.map_eq_some_iff.mp hrest
    obtain ⟨k', hless, hk'⟩ := find_nearest hk
    have hsame : k' = i - 1 - j := Option.some.inj (hk'.symm.trans hfind)
    omega

end Mark

end RobotLlm.Lib
