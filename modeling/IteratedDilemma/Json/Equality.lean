import IteratedDilemma.Json.Basic

/-! When two values are one and the same, and when they only count as the same. Main statement:
texts count as the same only if they are (`key_text`). -/
namespace IteratedDilemma.Json
set_option autoImplicit false

mutual

/-- Whether two values are built in the same way from the same parts. -/
def beq : Json → Json → Bool
  | null, null => true
  | bool a, bool b => a == b
  | int m, int n => m == n
  | float x, float y => x == y
  | text s, text t => s == t
  | list xs, list ys => beqItems xs ys
  | object fs, object gs => beqFields fs gs
  | _, _ => false

def beqItems : List Json → List Json → Bool
  | [], [] => true
  | x :: xs, y :: ys => beq x y && beqItems xs ys
  | _, _ => false

def beqFields : List (Text × Json) → List (Text × Json) → Bool
  | [], [] => true
  | (m, x) :: fs, (n, y) :: gs => m == n && beq x y && beqFields fs gs
  | _, _ => false

end

mutual

theorem beq_self : ∀ value : Json, beq value value = true
  | null => rfl
  | bool _ | int _ | float _ | text _ => by simp [beq]
  | list items => beqItems_self items
  | object fields => beqFields_self fields

theorem beqItems_self : ∀ items : List Json, beqItems items items = true
  | [] => rfl
  | x :: xs => by simp [beqItems, beq_self x, beqItems_self xs]

theorem beqFields_self : ∀ fields : List (Text × Json), beqFields fields fields = true
  | [] => rfl
  | (_, x) :: fs => by simp [beqFields, beq_self x, beqFields_self fs]

end

mutual

theorem eq_of_beq : ∀ {a b : Json}, beq a b = true → a = b
  | null, b, h => by cases b <;> simp_all [beq]
  | bool _, b, h => by cases b <;> simp_all [beq]
  | int _, b, h => by cases b <;> simp_all [beq]
  | float _, b, h => by cases b <;> simp_all [beq]
  | text _, b, h => by cases b <;> simp_all [beq]
  | list xs, b, h => by
    cases b <;> simp only [beq, Bool.false_eq_true] at h
    rw [eq_of_beqItems h]
  | object fs, b, h => by
    cases b <;> simp only [beq, Bool.false_eq_true] at h
    rw [eq_of_beqFields h]

theorem eq_of_beqItems : ∀ {xs ys : List Json}, beqItems xs ys = true → xs = ys
  | [], ys, h => by cases ys <;> simp_all [beqItems]
  | x :: xs, y :: ys, h => by
    simp only [beqItems, Bool.and_eq_true] at h
    rw [eq_of_beq h.1, eq_of_beqItems h.2]

theorem eq_of_beqFields : ∀ {fs gs : List (Text × Json)}, beqFields fs gs = true → fs = gs
  | [], gs, h => by cases gs <;> simp_all [beqFields]
  | (m, x) :: fs, (n, y) :: gs, h => by
    simp only [beqFields, Bool.and_eq_true, beq_iff_eq] at h
    rw [h.1.1, eq_of_beq h.1.2, eq_of_beqFields h.2]

end

instance : DecidableEq Json := fun a b =>
  if h : beq a b = true then .isTrue (eq_of_beq h)
  else .isFalse fun e => h (e ▸ beq_self a)

/-! ## Values that count as the same -/

mutual

/-- The plainest of all values that count as the same: a number that is whole is written as one, and
fields are sorted by their names. -/
def key : Json → Json
  | list items => list (keyItems items)
  | object fields => object ((keyFields fields).mergeSort fun a b => Text.noLater a.1 b.1)
  | null => null
  | text t => text t
  | bool b => int (if b then 1 else 0)
  | int n => int n
  | float x => match x.whole? with
    | some n => int n
    | none => float x

def keyItems : List Json → List Json
  | [] => []
  | item :: rest => key item :: keyItems rest

def keyFields : List (Text × Json) → List (Text × Json)
  | [] => []
  | (name, value) :: rest => (name, key value) :: keyFields rest

end

@[simp] theorem key_text (t : Text) : key (text t) = text t := by simp [key]

/-- Whether two values count as the same. -/
def same (a b : Json) : Bool := key a = key b

@[simp] theorem same_text (s t : Text) : same (text s) (text t) = decide (s = t) := by
  simp [same]

example : same (int 5) (float (.ofInt 5)) = true ∧ same (bool true) (int 1) = true ∧
    same (int 5) (text "5") = false := by decide +kernel

end IteratedDilemma.Json
