import RobotLlm.Speech.SpeechMoves

/-!
# The windows that tell repeated texts

A window holds a bounded number of fingerprints, the oldest first. A text that
was queued is remembered until as many others were queued after it.
-/

namespace RobotLlm.Speech

open RobotLlm.Lib

namespace SpeechRuntime

variable {fold : TextFold} {s s' : SpeechRuntime} {i : SpeechStep} {event : SpeechEvent}

-- Windows

/-- No window repeats a fingerprint or outgrows its bound. -/
def WindowsOk (s : SpeechRuntime) : Prop :=
  ∀ e window, s.windows.get? e = some window →
    window.fingerprints.Nodup ∧ window.fingerprints.length ≤ maxDeduplicationUtterances

inductive WindowFrom (o : Offer) (s : SpeechRuntime) : Window → Prop
  | fresh (hnone : s.windows.get? o.episodeId = none) : WindowFrom o s ⟨o.progressRevision, []⟩
  | forward (hsome : s.windows.get? o.episodeId = some old) (hlt : old.progressRevision < o.progressRevision) :
    WindowFrom o s ⟨o.progressRevision, []⟩
  | same (hsome : s.windows.get? o.episodeId = some window) (heq : window.progressRevision = o.progressRevision) :
    WindowFrom o s window

theorem windowFor_from {o : Offer} {window : Window} (h : windowFor o s = some window) : WindowFrom o s window := by
  unfold windowFor at h
  split at h
  next hnone =>
    cases h
    exact .fresh hnone
  next old hsome =>
    split at h
    next hlt =>
      cases h
      exact .forward hsome hlt
    next hle =>
      split at h
      · cases h
      next hge =>
        cases h
        exact .same hsome (by omega)

theorem Moves.window (hm : Moves fold s i event s') (e : String) :
    s'.windows.get? e = s.windows.get? e ∨ (event.Cancels e ∧ s'.windows.get? e = none) ∨
      ∃ o window, o.episodeId = e ∧ windowFor o s = some window ∧
        (s'.windows.get? e = some window ∨
          fingerprintOf fold o ∉ window.fingerprints ∧ event.Queues e o.progressRevision (fingerprintOf fold o) ∧
            s'.windows.get? e = some (Window.add window (fingerprintOf fold o))) := by
  cases hm with
  | @queued thread o window probe hfree hwindow hnew =>
    by_cases he : o.episodeId = e
    · refine .inr (.inr ⟨o, window, he, hwindow, .inr ⟨hnew, ⟨he, rfl, rfl⟩, ?_⟩⟩)
      simp [afterQueued, holding, he]
    · exact .inl (Dict.get?_set_ne (Ne.symm he))
  | @duplicate thread o window probe hfree hwindow hold =>
    by_cases he : o.episodeId = e
    · exact .inr (.inr ⟨o, window, he, hwindow, .inl (by simp [holding, he])⟩)
    · exact .inl (Dict.get?_set_ne (Ne.symm he))
  | @episodeCancelled thread e' =>
    by_cases he : e' = e
    · exact .inr (.inl ⟨he, by simp [holding, dropPending, Dict.get?_erase, he]⟩)
    · exact .inl (by simp [holding, dropPending, Dict.get?_erase, Ne.symm he])
  | closed => exact .inl (by simp [holding, dropPending])
  | _ => exact .inl rfl

theorem Window.add_ok {window : Window} {fingerprint : Fingerprint} (hnodup : window.fingerprints.Nodup)
    (hlen : window.fingerprints.length ≤ maxDeduplicationUtterances) (hnew : fingerprint ∉ window.fingerprints) :
    (Window.add window fingerprint).fingerprints.Nodup ∧
      (Window.add window fingerprint).fingerprints.length ≤ maxDeduplicationUtterances := by
  have hsnoc : ∀ kept : List Fingerprint, kept.Nodup → fingerprint ∉ kept → (kept ++ [fingerprint]).Nodup := by
    intro kept hkept hnot
    rw [List.nodup_append]
    refine ⟨hkept, List.nodup_singleton _, fun a ha b hb => ?_⟩
    rw [List.mem_singleton.mp hb]
    rintro rfl
    exact hnot ha
  unfold Window.add
  dsimp only
  split
  next hfull =>
    refine ⟨hsnoc _ (hnodup.sublist (List.tail_sublist _)) fun h => hnew (List.mem_of_mem_tail h), ?_⟩
    simp only [List.length_append, List.length_tail, List.length_singleton]
    have : maxDeduplicationUtterances = 64 := rfl
    omega
  next hroom =>
    refine ⟨hsnoc _ hnodup hnew, ?_⟩
    simp only [List.length_append, List.length_singleton]
    omega

theorem WindowFrom.ok {o : Offer} {window : Window} (hf : WindowFrom o s window) (hw : WindowsOk s) :
    window.fingerprints.Nodup ∧ window.fingerprints.length ≤ maxDeduplicationUtterances := by
  cases hf with
  | fresh => exact ⟨List.nodup_nil, Nat.zero_le _⟩
  | forward => exact ⟨List.nodup_nil, Nat.zero_le _⟩
  | same hsome => exact hw _ _ hsome

theorem WindowsOk.moves (hw : WindowsOk s) (hm : Moves fold s i event s') : WindowsOk s' := by
  intro e after hafter
  obtain hsame | ⟨-, hnone⟩ | ⟨o, window, -, hfor, hkept | ⟨hnew, -, hadd⟩⟩ := hm.window e
  · exact hw e after (hsame ▸ hafter)
  · rw [hnone] at hafter
    cases hafter
  · rw [hkept] at hafter
    cases hafter
    exact (windowFor_from hfor).ok hw
  · rw [hadd] at hafter
    cases hafter
    obtain ⟨hnodup, hlen⟩ := (windowFor_from hfor).ok hw
    exact Window.add_ok hnodup hlen hnew

-- How far apart equal texts are

/-- As many fingerprints as a window holds were queued, none of them this one. -/
def Crowded (e : String) (revision : Int) (fingerprint : Fingerprint) (newer : List SpeechEntry) : Prop :=
  ∃ others : List Fingerprint, others.Nodup ∧ others.length = maxDeduplicationUtterances ∧ fingerprint ∉ others ∧
    ∀ other ∈ others, ∃ x ∈ newer, x.2.Queues e revision other

/-- The window still holds the fingerprint, and after it only what was queued
since; or its revision has moved on. -/
def Remembered (e : String) (revision : Int) (fingerprint : Fingerprint) (newer : List SpeechEntry)
    (s : SpeechRuntime) : Prop :=
  ∃ window, s.windows.get? e = some window ∧ (revision < window.progressRevision ∨ window.progressRevision = revision ∧
    ∃ before after, window.fingerprints = before ++ fingerprint :: after ∧
      ∀ other ∈ after, ∃ x ∈ newer, x.2.Queues e revision other)

variable {e : String} {revision : Int} {fingerprint : Fingerprint} {newer : List SpeechEntry}

theorem Remembered.grow {x : SpeechEntry} (hr : Remembered e revision fingerprint newer s)
    (hsame : s'.windows.get? e = s.windows.get? e) : Remembered e revision fingerprint (x :: newer) s' := by
  obtain ⟨window, hget, hrest⟩ := hr
  refine ⟨window, hsame.trans hget, hrest.imp_right ?_⟩
  rintro ⟨hrev, before, after, hsplit, hafter⟩
  refine ⟨hrev, before, after, hsplit, fun other ho => ?_⟩
  obtain ⟨y, hy, hq⟩ := hafter other ho
  exact ⟨y, List.mem_cons_of_mem _ hy, hq⟩

theorem Window.add_splits {window : Window} {before after : List Fingerprint} (next : Fingerprint)
    (hsplit : window.fingerprints = before ++ fingerprint :: after)
    (hlen : window.fingerprints.length ≤ maxDeduplicationUtterances) :
    (∃ before', (Window.add window next).fingerprints = before' ++ fingerprint :: (after ++ [next])) ∨
      before = [] ∧ (after ++ [next]).length = maxDeduplicationUtterances := by
  unfold Window.add
  dsimp only
  rw [hsplit] at hlen ⊢
  split
  next hfull =>
    cases before with
    | nil =>
      refine .inr ⟨rfl, ?_⟩
      simp only [List.nil_append, List.length_cons, List.length_append, List.length_nil] at hlen hfull ⊢
      omega
    | cons first before => exact .inl ⟨before, by simp⟩
  next => exact .inl ⟨before, by simp⟩

theorem remembered_moves (hw : WindowsOk s) (hm : Moves fold s i event s') (hc : ¬ event.Cancels e)
    (hr : Remembered e revision fingerprint newer s) :
    Remembered e revision fingerprint ((i, event) :: newer) s' ∨ Crowded e revision fingerprint ((i, event) :: newer) := by
  obtain hsame | ⟨hcancel, -⟩ | ⟨o, window, he, hfor, hnext⟩ := hm.window e
  · exact .inl (hr.grow hsame)
  · exact absurd hcancel hc
  obtain ⟨old, hget, hrest⟩ := hr
  have hlater : ∀ after, s'.windows.get? e = some after → revision < after.progressRevision →
      Remembered e revision fingerprint ((i, event) :: newer) s' := fun after hafter hlt => ⟨after, hafter, .inl hlt⟩
  cases windowFor_from hfor with
  | fresh hnone =>
    rw [he, hget] at hnone
    cases hnone
  | @forward old' hsome hlt =>
    rw [he, hget] at hsome
    cases hsome
    have hrev : revision < o.progressRevision := by
      obtain h | ⟨h, -⟩ := hrest <;> omega
    obtain hkept | ⟨-, -, hadd⟩ := hnext
    · exact .inl (hlater _ hkept hrev)
    · exact .inl (hlater _ hadd hrev)
  | same hsome heq =>
    rw [he, hget] at hsome
    cases hsome
    obtain hkept | ⟨hnew, hqueues, hadd⟩ := hnext
    · exact .inl (Remembered.grow ⟨_, hget, hrest⟩ (hkept.trans hget.symm))
    obtain hlt | ⟨hrev, before, after, hsplit, hafter⟩ := hrest
    · exact .inl (hlater _ hadd hlt)
    -- what stands after the fingerprint now was queued since, the newest by this step
    have hsince : ∀ other ∈ after ++ [fingerprintOf fold o], ∃ x ∈ (i, event) :: newer, x.2.Queues e revision other := by
      intro other ho
      rw [List.mem_append, List.mem_singleton] at ho
      obtain ho | rfl := ho
      · obtain ⟨x, hx, hq⟩ := hafter other ho
        exact ⟨x, List.mem_cons_of_mem _ hx, hq⟩
      · refine ⟨_, List.mem_cons_self, ?_⟩
        rw [← hrev, heq]
        exact hqueues
    obtain ⟨hnodup, hlen⟩ := hw e _ hget
    obtain ⟨before', hsplit'⟩ | ⟨rfl, hcount⟩ := Window.add_splits (fingerprintOf fold o) hsplit hlen
    · exact .inl ⟨_, hadd, .inr ⟨hrev, before', _, hsplit', hsince⟩⟩
    · rw [hsplit] at hnodup hnew
      simp only [List.nil_append, List.nodup_cons, List.mem_cons, not_or] at hnodup hnew
      refine .inr ⟨_, ?_, hcount, ?_, hsince⟩
      · rw [List.nodup_append]
        refine ⟨hnodup.2, List.nodup_singleton _, fun a ha b hb => ?_⟩
        rw [List.mem_singleton.mp hb]
        rintro rfl
        exact hnew.2 ha
      · rw [List.mem_append, List.mem_singleton, not_or]
        exact ⟨hnodup.1, fun h => hnew.1 h.symm⟩

theorem Crowded.grow {x : SpeechEntry} (hc : Crowded e revision fingerprint newer) :
    Crowded e revision fingerprint (x :: newer) := by
  obtain ⟨others, hnodup, hlen, hnot, hqueued⟩ := hc
  refine ⟨others, hnodup, hlen, hnot, fun other ho => ?_⟩
  obtain ⟨y, hy, hq⟩ := hqueued other ho
  exact ⟨y, List.mem_cons_of_mem _ hy, hq⟩

theorem Moves.remembers (hm : Moves fold s i event s') (hq : event.Queues e revision fingerprint) :
    Remembered e revision fingerprint [] s' := by
  cases hm with
  | quiet _ hquiet => cases event <;> first | exact False.elim hquiet | exact False.elim hq
  | @queued thread o window probe hfree hwindow hnew =>
    obtain ⟨rfl, rfl, rfl⟩ := hq
    have hrev : window.progressRevision = o.progressRevision := by
      cases windowFor_from hwindow with
      | fresh => rfl
      | forward => rfl
      | same _ heq => exact heq
    exact ⟨_, Dict.get?_set_self, .inr ⟨hrev, _, [], rfl, nofun⟩⟩
  | _ => exact False.elim hq

theorem Moves.not_queued (hm : Moves fold s i event s') (hr : Remembered e revision fingerprint newer s) :
    ¬ event.Queues e revision fingerprint := by
  intro hq
  cases hm with
  | quiet _ hquiet => cases event <;> first | exact False.elim hquiet | exact False.elim hq
  | @queued thread o window probe hfree hwindow hnew =>
    obtain ⟨rfl, rfl, rfl⟩ := hq
    obtain ⟨old, hget, hrest⟩ := hr
    cases windowFor_from hwindow with
    | fresh hnone =>
      rw [show s.windows.get? o.episodeId = some old from hget] at hnone
      cases hnone
    | @forward old' hsome hlt =>
      cases Option.some.inj (hget.symm.trans hsome)
      obtain h | ⟨h, -⟩ := hrest <;> omega
    | same hsome heq =>
      cases Option.some.inj (hget.symm.trans hsome)
      obtain h | ⟨-, before, after, hsplit, -⟩ := hrest
      · omega
      · exact hnew (by simp [hsplit])
  | _ => exact False.elim hq

end SpeechRuntime

end RobotLlm.Speech
