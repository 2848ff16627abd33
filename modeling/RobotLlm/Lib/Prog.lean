import Mathlib.Order.Defs.Unbundled

/-!
# Programs that may fail and keep their state

A program over a state answers or raises, and leaves a state either way. A
triple speaks of one run: what holds of an answer and the state after it, and
what holds of an error and the state after it. `Keeps` speaks of the states
alone, for relations that every step of a program respects.
-/

namespace RobotLlm.Lib

def Prog (σ ε α : Type) : Type := σ → Except ε α × σ

namespace Prog

variable {σ τ ε α β : Type} {s : σ}

def bind (x : Prog σ ε α) (f : α → Prog σ ε β) : Prog σ ε β := fun s =>
  match x s with
  | (.ok a, s') => f a s'
  | (.error e, s') => (.error e, s')

/-- The handler starts in the state the failure left. -/
def handle (x : Prog σ ε α) (handler : ε → Prog σ ε α) : Prog σ ε α := fun s =>
  match x s with
  | (.ok a, s') => (.ok a, s')
  | (.error e, s') => handler e s'

instance : Monad (Prog σ ε) where
  pure a := fun s => (.ok a, s)
  bind := bind

instance : MonadExceptOf ε (Prog σ ε) where
  throw e := fun s => (.error e, s)
  tryCatch := handle

instance : MonadStateOf σ (Prog σ ε) where
  get := fun s => (.ok s, s)
  set s' := fun _ => (.ok (), s')
  modifyGet f := fun s => (.ok (f s).1, (f s).2)

def ofExcept (x : Except ε α) : Prog σ ε α := fun s => (x, s)

/-- `if c: raise e`. -/
def failIf (c : Prop) [Decidable c] (e : ε) : Prog σ ε Unit := if c then throw e else pure ()

def attempt (x : Prog σ ε α) : Prog σ δ (Except ε α) := fun s => (.ok (x s).1, (x s).2)

/-- What holds of an answer, or of the error that took its place. -/
def Ended (P : α → Prop) (E : ε → Prop) : Except ε α → Prop
  | .ok a => P a
  | .error e => E e

def mapError (f : ε → δ) (x : Prog σ ε α) : Prog σ δ α := fun s => ((x s).1.mapError f, (x s).2)

def onPart (part : τ → σ) (put : σ → τ → τ) (x : Prog σ ε α) : Prog τ ε α := fun t =>
  ((x (part t)).1, put (x (part t)).2 t)

-- Running

@[simp] theorem pure_run (a : α) : (pure a : Prog σ ε α) s = (.ok a, s) := rfl
@[simp] theorem throw_run (e : ε) : (throw e : Prog σ ε α) s = (.error e, s) := rfl
@[simp] theorem get_run : (get : Prog σ ε σ) s = (.ok s, s) := rfl
@[simp] theorem set_run (s' : σ) : (set s' : Prog σ ε Unit) s = (.ok (), s') := rfl
@[simp] theorem modify_run (f : σ → σ) : (modify f : Prog σ ε Unit) s = (.ok (), f s) := rfl
@[simp] theorem ofExcept_run (x : Except ε α) : (ofExcept x : Prog σ ε α) s = (x, s) := rfl

theorem bind_run (x : Prog σ ε α) (f : α → Prog σ ε β) : (x >>= f) s =
    match x s with
    | (.ok a, s') => f a s'
    | (.error e, s') => (.error e, s') := rfl

theorem map_run (g : α → β) (x : Prog σ ε α) : (g <$> x) s =
    match x s with
    | (.ok a, s') => (.ok (g a), s')
    | (.error e, s') => (.error e, s') := rfl

theorem tryCatch_run (x : Prog σ ε α) (f : ε → Prog σ ε α) : (tryCatch x f) s =
    match x s with
    | (.ok a, s') => (.ok a, s')
    | (.error e, s') => f e s' := rfl

@[simp] theorem onPart_run {part : τ → σ} {put : σ → τ → τ} {t : τ} (x : Prog σ ε α) :
    (onPart part put x) t = ((x (part t)).1, put (x (part t)).2 t) := rfl

theorem bind_bind {γ : Type} (x : Prog σ ε α) (f : α → Prog σ ε β) (g : β → Prog σ ε γ) :
    (x >>= f) >>= g = x >>= fun a => f a >>= g := by
  funext s
  rw [bind_run, bind_run, bind_run]
  rcases x s with ⟨_ | _, _⟩ <;> rfl

theorem bind_ok {x : Prog σ ε α} {f : α → Prog σ ε β} {b : β} {s' : σ} :
    (x >>= f) s = (.ok b, s') ↔ ∃ a s₁, x s = (.ok a, s₁) ∧ f a s₁ = (.ok b, s') := by
  rw [bind_run]
  rcases x s with ⟨_ | a, s₁⟩
  · simp
  · exact ⟨fun h => ⟨a, s₁, rfl, h⟩, fun ⟨_, _, h, hf⟩ => by cases h; exact hf⟩

-- Triples

/-- From `s`, an answer of `x` and the state after it satisfy `Q`, an error
and the state after it satisfy `E`. -/
def Triple (x : Prog σ ε α) (s : σ) (Q : α → σ → Prop) (E : ε → σ → Prop) : Prop :=
  match x s with
  | (.ok a, s') => Q a s'
  | (.error e, s') => E e s'

variable {x : Prog σ ε α} {f : α → Prog σ ε β} {Q Q' : α → σ → Prop} {R : β → σ → Prop} {E E' : ε → σ → Prop}

theorem Triple.of_run {r : Except ε α} {s' : σ} (h : x s = (r, s'))
    (hq : match r with | .ok a => Q a s' | .error e => E e s') : Triple x s Q E := by
  unfold Triple
  rw [h]
  cases r <;> exact hq

theorem Triple.ok (h : Triple x s Q E) (hx : x s = (.ok a, s')) : Q a s' := by
  unfold Triple at h
  rw [hx] at h
  exact h

theorem Triple.error (h : Triple x s Q E) (hx : x s = (.error e, s')) : E e s' := by
  unfold Triple at h
  rw [hx] at h
  exact h

/-- Either way out, the state after `x` satisfies `P`. -/
abbrev Settles (x : Prog σ ε α) (s : σ) (P : σ → Prop) : Prop := Triple x s (fun _ => P) (fun _ => P)

theorem Triple.after {P : σ → Prop} (h : Triple x s (fun _ => P) (fun _ => P)) : P (x s).2 := by
  unfold Triple at h
  rcases hr : x s with ⟨e | a, s'⟩ <;> rw [hr] at h <;> exact h

theorem Triple.run (x : Prog σ ε α) (s : σ) :
    Triple x s (fun a s' => x s = (.ok a, s')) (fun e s' => x s = (.error e, s')) := by
  unfold Triple
  rcases x s with ⟨_ | _, _⟩ <;> rfl

theorem Triple.unknown (x : Prog σ ε α) (s : σ) : Triple x s (fun _ _ => True) (fun _ _ => True) := by
  unfold Triple
  split <;> trivial

theorem Triple.pure {a : α} (h : Q a s) : Triple (Pure.pure a : Prog σ ε α) s Q E := h

theorem Triple.throw {e : ε} (h : E e s) : Triple (MonadExcept.throw e : Prog σ ε α) s Q E := h

theorem Triple.ofExcept {r : Except ε α} (h : match r with | .ok a => Q a s | .error e => E e s) :
    Triple (Prog.ofExcept r) s Q E := by
  cases r <;> exact h

theorem Triple.get {Q : σ → σ → Prop} (h : Q s s) : Triple (MonadState.get : Prog σ ε σ) s Q E := h

theorem Triple.modify {g : σ → σ} {Q : Unit → σ → Prop} (h : Q () (g s)) :
    Triple (modify g : Prog σ ε Unit) s Q E := h

theorem Triple.bind (hx : Triple x s Q E) (hf : ∀ a s', Q a s' → Triple (f a) s' R E) :
    Triple (x >>= f) s R E := by
  unfold Triple at hx ⊢
  rw [bind_run]
  rcases hr : x s with ⟨e | a, s'⟩
  · rw [hr] at hx
    exact hx
  · rw [hr] at hx
    exact hf a s' hx

/-- The first program is known to answer, so the run goes on from there. -/
theorem Triple.step {a : α} {t : σ} (hx : x s = (.ok a, t)) (hf : Triple (f a) t R E) :
    Triple (x >>= f) s R E := by
  unfold Triple at hf ⊢
  rw [bind_run, hx]
  exact hf

theorem Triple.ofExcept_bind {r : Except ε α} (he : ∀ e, r = .error e → E e s)
    (hf : ∀ a, r = .ok a → Triple (f a) s R E) : Triple (Prog.ofExcept r >>= f) s R E := by
  cases r with
  | ok a => exact Triple.step rfl (hf a rfl)
  | error e => exact Triple.of_run (show _ = (Except.error e, s) from rfl) (he e rfl)

theorem Triple.get_bind {f : σ → Prog σ ε β} (hf : Triple (f s) s R E) :
    Triple (MonadState.get >>= f) s R E := hf

theorem Triple.modify_bind {g : σ → σ} {f : Unit → Prog σ ε β} (hf : Triple (f ()) (g s) R E) :
    Triple (Bind.bind (MonadState.modifyGet fun s => ((), g s)) f) s R E := hf

/-- The handler answers for the errors; its own errors are those of the whole. -/
theorem Triple.tryCatch {handler : ε → Prog σ ε α} {F : ε → σ → Prop} (hx : Triple x s Q F)
    (hh : ∀ e s', F e s' → Triple (handler e) s' Q E) : Triple (tryCatch x handler) s Q E := by
  unfold Triple at hx ⊢
  rw [tryCatch_run]
  rcases hr : x s with ⟨e | a, s'⟩
  · rw [hr] at hx
    exact hh e s' hx
  · rw [hr] at hx
    exact hx

theorem Triple.failIf [Decidable c] {e : ε} {g : Unit → Prog σ ε β} (he : c → E e s)
    (hf : ¬ c → Triple (g ()) s R E) : Triple (Prog.failIf c e >>= g) s R E := by
  by_cases hc : c
  · have hrun : (Prog.failIf c e >>= g) s = (.error e, s) := by simp [bind_run, Prog.failIf, hc]
    exact Triple.of_run hrun (he hc)
  · have hrun : (Prog.failIf c e : Prog σ ε Unit) s = (.ok (), s) := by simp [Prog.failIf, hc]
    exact Triple.step hrun (hf hc)

theorem Triple.check [Decidable c] {e : ε} {Q : Unit → σ → Prop} (he : c → E e s) (hq : ¬ c → Q () s) :
    Triple (Prog.failIf c e) s Q E := by
  unfold Prog.failIf
  split
  next hc => exact he hc
  next hc => exact hq hc

theorem Triple.attempt {P : Except ε α → σ → Prop} {F : δ → σ → Prop}
    (h : Triple x s (fun a => P (.ok a)) (fun e => P (.error e))) : Triple (Prog.attempt x) s P F := by
  unfold Triple at h
  unfold Triple Prog.attempt
  rcases hr : x s with ⟨e | a, s'⟩ <;> rw [hr] at h <;> exact h

theorem Triple.mapError {g : ε → δ} {F : δ → σ → Prop} (h : Triple x s Q (fun e => F (g e))) :
    Triple (Prog.mapError g x) s Q F := by
  unfold Triple at h
  unfold Triple Prog.mapError
  rcases hr : x s with ⟨e | a, s'⟩ <;> rw [hr] at h <;> exact h

theorem Triple.mono (h : Triple x s Q E) (hq : ∀ a s', Q a s' → Q' a s')
    (he : ∀ e s', E e s' → E' e s') : Triple x s Q' E' := by
  unfold Triple at h ⊢
  rcases hr : x s with ⟨e | a, s'⟩ <;> rw [hr] at h
  · exact he e s' h
  · exact hq a s' h

theorem Triple.and (h : Triple x s Q E) (h' : Triple x s Q' E') :
    Triple x s (fun a s => Q a s ∧ Q' a s) (fun e s => E e s ∧ E' e s) := by
  unfold Triple at h h' ⊢
  rcases hr : x s with ⟨e | a, s'⟩ <;> rw [hr] at h h' <;> exact ⟨h, h'⟩

theorem Triple.ite [Decidable c] {y : Prog σ ε α} (ht : c → Triple x s Q E) (hf : ¬ c → Triple y s Q E) :
    Triple (if c then x else y) s Q E := by
  split
  next h => exact ht h
  next h => exact hf h

theorem Triple.map {g : α → β} (h : Triple x s (fun a => R (g a)) E) : Triple (g <$> x) s R E := by
  unfold Triple at h ⊢
  rw [map_run]
  rcases hr : x s with ⟨e | a, s'⟩ <;> rw [hr] at h <;> exact h

theorem Triple.onPart {part : τ → σ} {put : σ → τ → τ} {t : τ} {Q : α → τ → Prop} {E : ε → τ → Prop}
    (h : Triple x (part t) (fun a s => Q a (put s t)) (fun e s => E e (put s t))) :
    Triple (Prog.onPart part put x) t Q E := by
  unfold Triple at h ⊢
  rw [onPart_run]
  rcases hr : x (part t) with ⟨e | a, s'⟩ <;> rw [hr] at h <;> exact h

-- Relations every step respects

/-- Whatever `x` answers, the state after it is related to the one before. -/
def Keeps (K : σ → σ → Prop) (x : Prog σ ε α) : Prop := ∀ s, K s (x s).2

section
variable {K : σ → σ → Prop}

theorem Keeps.of_get {g : σ → Prog σ ε α} (h : ∀ s, K s (g s s).2) : Keeps K (MonadState.get >>= g) := h

theorem Keeps.modify {g : σ → σ} (h : ∀ s, K s (g s)) : Keeps K (modify g : Prog σ ε Unit) := h

theorem Keeps.triple (h : Keeps K x) (s : σ) : Triple x s (fun _ s' => K s s') (fun _ s' => K s s') := by
  have hs := h s
  unfold Triple
  rcases hr : x s with ⟨e | a, s'⟩ <;> rw [hr] at hs <;> exact hs

theorem Triple.frame (hx : Keeps K x) (hq : ∀ a s', K s s' → Q a s') (he : ∀ e s', K s s' → E e s') :
    Triple x s Q E :=
  (hx.triple s).mono hq he

theorem Triple.frame_bind (hx : Keeps K x) (he : ∀ e s', K s s' → E e s')
    (hf : ∀ a s', K s s' → Triple (f a) s' R E) : Triple (x >>= f) s R E :=
  Triple.bind (Triple.frame hx (fun _ _ h => h) he) hf

theorem Keeps.mapError (h : Keeps K x) (g : ε → δ) : Keeps K (Prog.mapError g x) := h

theorem Keeps.attempt (h : Keeps K x) : Keeps K (Prog.attempt x : Prog σ δ (Except ε α)) := h

theorem Keeps.attempted {F : δ → σ → Prop} (h : Keeps K x) (s : σ) :
    Triple (Prog.attempt x) s (fun _ s' => K s s') F :=
  Triple.attempt (P := fun _ s' => K s s') (h.triple s)

theorem Keeps.ite [Decidable c] {y : Prog σ ε α} (hx : Keeps K x) (hy : Keeps K y) :
    Keeps K (if c then x else y) := by
  split <;> assumption

theorem Keeps.mono {K' : σ → σ → Prop} (hx : Keeps K x) (h : ∀ s s', K s s' → K' s s') : Keeps K' x :=
  fun s => h _ _ (hx s)

theorem Keeps.onPart {ρ : Type} {part : ρ → σ} {put : σ → ρ → ρ} {L : ρ → ρ → Prop}
    (h : ∀ t s, K (part t) s → L t (put s t)) (hx : Keeps K x) : Keeps L (Prog.onPart part put x) :=
  fun t => h t _ (hx (part t))

variable [IsPreorder σ K]

theorem Keeps.triple_from {s₀ : σ} (hs : K s₀ s) (hx : Keeps K x) : Settles x s (K s₀) :=
  (hx.triple s).mono (fun _ _ h => trans_of K hs h) fun _ _ h => trans_of K hs h

theorem Keeps.pure (a : α) : Keeps K (Pure.pure a : Prog σ ε α) := fun s => refl_of K s

theorem Keeps.throw (e : ε) : Keeps K (MonadExcept.throw e : Prog σ ε α) := fun s => refl_of K s

theorem Keeps.get : Keeps K (MonadState.get : Prog σ ε σ) := fun s => refl_of K s

theorem Keeps.ofExcept (r : Except ε α) : Keeps K (Prog.ofExcept r) := fun s => refl_of K s

theorem Keeps.failIf (c : Prop) [Decidable c] (e : ε) : Keeps K (Prog.failIf c e) := by
  unfold Prog.failIf
  split
  · exact .throw e
  · exact .pure ()

theorem Keeps.bind (hx : Keeps K x) (hf : ∀ a, Keeps K (f a)) : Keeps K (x >>= f) := by
  intro s
  have h := hx s
  rw [bind_run]
  rcases hr : x s with ⟨e | a, s'⟩ <;> rw [hr] at h
  · exact h
  · exact trans_of K h (hf a s')

theorem Keeps.tryCatch {handler : ε → Prog σ ε α} (hx : Keeps K x) (hh : ∀ e, Keeps K (handler e)) :
    Keeps K (tryCatch x handler) := by
  intro s
  have h := hx s
  rw [tryCatch_run]
  rcases hr : x s with ⟨e | a, s'⟩ <;> rw [hr] at h
  · exact trans_of K h (hh e s')
  · exact h

end

-- What a program answers, from any state

/-- Every answer of `x` satisfies `P`. -/
def Returns (P : α → Prop) (x : Prog σ ε α) : Prop := ∀ s, Triple x s (fun a _ => P a) (fun _ _ => True)

section
variable {P : α → Prop} {R : β → Prop}

theorem Returns.pure {a : α} (h : P a) : Returns P (Pure.pure a : Prog σ ε α) := fun _ => h

theorem Returns.ofExcept {r : Except ε α} (h : ∀ a, r = .ok a → P a) :
    Returns P (Prog.ofExcept r : Prog σ ε α) := fun s => by
  cases r with
  | ok a => exact Triple.of_run (show _ = (Except.ok a, s) from rfl) (h a rfl)
  | error e => exact Triple.of_run (show _ = (Except.error e, s) from rfl) trivial

theorem Returns.bind (hx : Returns P x) (hf : ∀ a, P a → Returns R (f a)) : Returns R (x >>= f) := fun s =>
  Triple.bind (hx s) fun a s' h => hf a h s'

theorem Returns.next (hf : ∀ a, Returns R (f a)) : Returns R (x >>= f) := fun s =>
  Triple.bind (Triple.unknown x s) fun a s' _ => hf a s'

theorem Returns.ite [Decidable c] {y : Prog σ ε α} (hx : Returns P x) (hy : Returns P y) :
    Returns P (if c then x else y) := by
  split <;> assumption

theorem Returns.modify {g : σ → σ} {P : Unit → Prop} (h : P ()) : Returns P (modify g : Prog σ ε Unit) := fun _ => h

theorem Returns.attempt (h : Returns P x) : Returns (fun r => ∀ a, r = .ok a → P a) (Prog.attempt x : Prog σ δ (Except ε α)) :=
  fun s => Triple.attempt ((h s).mono (fun _ _ ha _ hr => by cases hr; exact ha) fun _ _ _ _ hr => by cases hr)

theorem Returns.mono {P' : α → Prop} (h : Returns P x) (hp : ∀ a, P a → P' a) : Returns P' x :=
  fun s => (h s).mono (fun a _ => hp a) fun _ _ h => h

theorem Returns.mapError (h : Returns P x) (g : ε → δ) : Returns P (Prog.mapError g x) :=
  fun s => Triple.mapError (h s)

theorem Returns.onPart {part : τ → σ} {put : σ → τ → τ} (h : Returns P x) :
    Returns P (Prog.onPart part put x) :=
  fun t => Triple.onPart (h (part t))

end

-- What never raises

def Total (x : Prog σ ε α) : Prop := ∀ s, Triple x s (fun _ _ => True) (fun _ _ => False)

theorem Total.pure (a : α) : Total (Pure.pure a : Prog σ ε α) := fun _ => trivial

theorem Total.modify (g : σ → σ) : Total (modify g : Prog σ ε Unit) := fun _ => trivial

theorem Total.attempt (x : Prog σ ε α) : Total (Prog.attempt x : Prog σ δ (Except ε α)) := fun _ => trivial

theorem Total.bind (hx : Total x) (hf : ∀ a, Total (f a)) : Total (x >>= f) := fun s =>
  Triple.bind (hx s) fun a s' _ => hf a s'

theorem Total.ite [Decidable c] {y : Prog σ ε α} (hx : Total x) (hy : Total y) : Total (if c then x else y) := by
  split <;> assumption

-- What never answers

def Throws (x : Prog σ ε α) : Prop := ∀ s, Triple x s (fun _ _ => False) (fun _ _ => True)

theorem Throws.throw (e : ε) : Throws (MonadExcept.throw e : Prog σ ε α) := fun _ => trivial

theorem Throws.next (hf : ∀ a, Throws (f a)) : Throws (x >>= f) := fun s =>
  Triple.bind (Triple.unknown x s) fun a s' _ => hf a s'

theorem Throws.ite [Decidable c] {y : Prog σ ε α} (hx : Throws x) (hy : Throws y) : Throws (if c then x else y) := by
  split <;> assumption

theorem Throws.caught {handler : ε → Prog σ ε α} {F : ε → σ → Prop} (ht : ∀ e, Throws (handler e)) (hx : Triple x s Q F)
    (hh : ∀ e s', F e s' → Triple (handler e) s' (fun _ _ => True) E) : Triple (tryCatch x handler) s Q E :=
  Triple.tryCatch hx fun e s' he => ((ht e s').and (hh e s' he)).mono (fun _ _ h => h.1.elim) fun _ _ h => h.2

end Prog

end RobotLlm.Lib
