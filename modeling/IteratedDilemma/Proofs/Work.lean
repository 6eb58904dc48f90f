import Mathlib.Order.Defs.Unbundled
import IteratedDilemma.Host.Basic

/-! Work on a state, step by step: what a piece of work gives on a state (`bind_apply` and its
kin), how a run of two pieces comes apart (`bind_eq_ok`), and what all runs of a piece keep
(`Within`). -/
namespace IteratedDilemma
set_option autoImplicit false

theorem ok_bind {ε α β : Type} (a : α) (f : α → Except ε β) : (Except.ok a >>= f) = f a := rfl

namespace Work

variable {σ α β : Type}

/-! ## What a piece of work gives -/

theorem bind_apply (x : Work σ α) (f : α → Work σ β) (s : σ) :
    (x >>= f) s = match x s with
      | (.ok a, t) => f a t
      | (.error fault, t) => (.error fault, t) := by
  change (match x s with | (r, t) => ExceptT.bindCont f r t) = _
  rcases h : x s with ⟨r, t⟩
  cases r <;> rfl

theorem bind_of_ok {x : Work σ α} {f : α → Work σ β} {s t : σ} {a : α} (h : x s = (.ok a, t)) :
    (x >>= f) s = f a t := by
  rw [bind_apply, h]

theorem bind_of_error {x : Work σ α} {f : α → Work σ β} {s t : σ} {fault : Fault}
    (h : x s = (.error fault, t)) : (x >>= f) s = (.error fault, t) := by
  rw [bind_apply, h]

theorem bind_congr {x y : Work σ α} {s t : σ} (h : x s = y t) (f : α → Work σ β) :
    (x >>= f) s = (y >>= f) t := by
  rw [bind_apply, bind_apply, h]

theorem bind_congr_right {x : Work σ α} {f g : α → Work σ β} {s : σ}
    (h : ∀ a t, x s = (.ok a, t) → f a t = g a t) : (x >>= f) s = (x >>= g) s := by
  rw [bind_apply, bind_apply]
  rcases e : x s with ⟨_ | a, t⟩
  · rfl
  · exact h a t e

theorem tryCatch_apply (x : Work σ α) (handle : Fault → Work σ α) (s : σ) :
    (tryCatch x handle) s = match x s with
      | (.ok a, t) => (.ok a, t)
      | (.error fault, t) => handle fault t := by
  change ExceptT.tryCatch x handle s = _
  unfold ExceptT.tryCatch ExceptT.mk
  dsimp only [bind, StateT.bind]
  rcases x s with ⟨_ | _, t⟩ <;> rfl

theorem get_apply (s : σ) : (get : Work σ σ) s = (.ok s, s) := rfl

theorem lift_apply (r : Except Fault α) (s : σ) : (liftM r : Work σ α) s = (r, s) := rfl

theorem lift_bind_ok (a : α) (f : α → Work σ β) (s : σ) :
    ((liftM (Except.ok a : Except Fault α) : Work σ α) >>= f) s = f a s := bind_of_ok rfl

theorem mapM_lift_apply {γ : Type} (f : γ → Except Fault α) (items : List γ) (s : σ) :
    (items.mapM fun c => (liftM (f c) : Work σ α)) s = (items.mapM f, s) := by
  induction items with
  | nil => rfl
  | cons c rest ih =>
    rw [List.mapM_cons, List.mapM_cons]
    rcases f c with fault | a
    · rfl
    · rw [lift_bind_ok, ok_bind, bind_apply, ih]
      rcases rest.mapM f with fault | others <;> rfl

/-! ## How a run comes apart -/

theorem bind_eq_ok {x : Work σ α} {f : α → Work σ β} {s u : σ} {b : β}
    (h : (x >>= f) s = (.ok b, u)) : ∃ a t, x s = (.ok a, t) ∧ f a t = (.ok b, u) := by
  rw [bind_apply] at h
  rcases hx : x s with ⟨_ | a, t⟩
  · rw [hx] at h; cases h
  · rw [hx] at h; exact ⟨a, t, rfl, h⟩

theorem exists_of_toOption {x : Except Fault α × σ} {a : α} (h : x.1.toOption = some a) :
    ∃ t, x = (.ok a, t) := by
  obtain ⟨fault | b, t⟩ := x
  · cases h
  · cases h
    exact ⟨t, rfl⟩

/-- A run of two pieces either gets past the first or ends with its fault. -/
theorem bind_cases {x : Work σ α} {f : α → Work σ β} {s u : σ} {r : Except Fault β}
    (h : (x >>= f) s = (r, u)) :
    (∃ a t, x s = (.ok a, t) ∧ f a t = (r, u)) ∨
      ∃ fault, x s = (.error fault, u) ∧ r = .error fault := by
  rw [bind_apply] at h
  rcases hx : x s with ⟨fault | a, t⟩
  · rw [hx] at h
    cases h
    exact .inr ⟨fault, rfl, rfl⟩
  · rw [hx] at h
    exact .inl ⟨a, t, rfl, h⟩

theorem lift_eq_ok {r : Except Fault α} {s t : σ} {a : α}
    (h : (liftM r : Work σ α) s = (.ok a, t)) : r = .ok a ∧ t = s := by
  rw [lift_apply] at h
  cases h
  exact ⟨rfl, rfl⟩

theorem lift_state {r r' : Except Fault α} {s t : σ}
    (h : (liftM r : Work σ α) s = (r', t)) : t = s := by
  rw [lift_apply] at h
  cases h
  rfl

/-! ## What all runs keep -/

/-- Every run of a piece of work, failed or not, leads from a state to a related one. -/
def Within (R : σ → σ → Prop) (x : Work σ α) : Prop := ∀ s, R s (x s).2

variable {R : σ → σ → Prop}

theorem within_ite {c : Prop} [Decidable c] {x y : Work σ α} (hx : Within R x)
    (hy : Within R y) : Within R (if c then x else y) := by
  split <;> assumption

variable [IsPreorder σ R]

theorem within_pure (a : α) : Within R (pure a : Work σ α) := fun s => refl_of R s

theorem within_lift (r : Except Fault α) : Within R (liftM r : Work σ α) := fun s => refl_of R s

theorem within_get : Within R (get : Work σ σ) := fun s => refl_of R s

theorem within_throw (fault : Fault) : Within R (throw fault : Work σ α) := fun s => refl_of R s

theorem within_bind {x : Work σ α} {f : α → Work σ β} (hx : Within R x)
    (hf : ∀ a, Within R (f a)) : Within R (x >>= f) := by
  intro s
  have h := hx s
  rw [bind_apply]
  rcases e : x s with ⟨_ | a, t⟩ <;> rw [e] at h
  · exact h
  · exact trans_of R h (hf a t)

theorem within_tryCatch {x : Work σ α} {handle : Fault → Work σ α} (hx : Within R x)
    (hf : ∀ fault, Within R (handle fault)) : Within R (tryCatch x handle) := by
  intro s
  have h := hx s
  rw [tryCatch_apply]
  rcases e : x s with ⟨fault | _, t⟩ <;> rw [e] at h
  · exact trans_of R h (hf fault t)
  · exact h

theorem within_mapM {γ : Type} {f : γ → Work σ α} (h : ∀ c, Within R (f c)) (items : List γ) :
    Within R (items.mapM f) := by
  induction items with
  | nil => exact within_pure _
  | cons c rest ih =>
    rw [List.mapM_cons]
    exact within_bind (h c) fun _ => within_bind ih fun _ => within_pure _

end Work
end IteratedDilemma
