/-! Ends of lines: a line may end in a line feed, a carriage return, or both. -/
namespace IteratedDilemma.Text
set_option autoImplicit false

/-- Every end of a line as one line feed. -/
def lineFeeds : List Char → List Char
  | [] => []
  | '\r' :: '\n' :: rest => '\n' :: lineFeeds rest
  | c :: rest => (if c = '\r' then '\n' else c) :: lineFeeds rest

/-- A text without carriage returns stays as it is. -/
theorem lineFeeds_eq_self {cs : List Char} (h : '\r' ∉ cs) : lineFeeds cs = cs := by
  fun_induction lineFeeds cs with
  | case1 => rfl
  | case2 => simp at h
  | case3 c rest _ ih =>
    simp only [List.mem_cons, not_or] at h
    have hc : c ≠ '\r' := fun e => h.1 e.symm
    simp [hc, ih h.2]

end IteratedDilemma.Text
