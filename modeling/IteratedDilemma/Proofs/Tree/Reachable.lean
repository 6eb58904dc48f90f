import IteratedDilemma.Proofs.Tree.RoundTrip

/-! Clauses that cannot be reached. A document that is not read strictly loses the clauses after its
first fallback, and nobody can tell: the first fallback decides whenever no clause before it does
(`Chain.find?_reachable`), and the rules are checked for what is left. Main statement: the tree that
is read decides like all clauses of the document, and it is the tree that is read strictly from the
document without its clauses after the first fallback (`LogicTree.lenient_agrees`). -/
namespace IteratedDilemma
set_option autoImplicit false

namespace Chain

variable (own opponent : History)

theorem isMet_of_fallback {c : Clause} (fallback : c.role = .fallback) :
    c.isMet own opponent = true := by
  rw [Clause.isMet, fallback]

/-! ## The first clause that is met -/

theorem find?_reachable (cs : List Clause) :
    (reachable cs).find? (fun c => c.isMet own opponent) =
      cs.find? fun c => c.isMet own opponent := by
  induction cs with
  | nil => rfl
  | cons c rest ih =>
    rw [reachable]
    split
    · next fallback =>
      have met := isMet_of_fallback own opponent fallback
      rw [List.find?_cons, List.find?_cons, met]
    · rw [List.find?_cons, List.find?_cons, ih]

theorem firstMet?_reachable (cs : List Clause) :
    firstMet? (reachable cs) own opponent = firstMet? cs own opponent := by
  unfold firstMet?
  induction cs with
  | nil => rfl
  | cons c rest ih =>
    rw [reachable]
    split
    · next fallback =>
      have met := isMet_of_fallback own opponent fallback
      rw [List.findIdx?_cons, List.findIdx?_cons, if_pos met, if_pos met]
    · rw [List.findIdx?_cons, List.findIdx?_cons, ih]

theorem action_reachable (cs : List Clause) :
    action (reachable cs) own opponent = action cs own opponent := by
  rw [action, action, find?_reachable]

/-! ## How many clauses are left -/

/-- The number of clauses up to the first fallback, it included. -/
def reach (cs : List Clause) : Nat :=
  match firstFallback? cs with
  | some i => i + 1
  | none => cs.length

theorem reach_of_fallback {c : Clause} (rest : List Clause) (fallback : c.role = .fallback) :
    reach (c :: rest) = 1 := by
  rw [reach, firstFallback?_of_fallback rest fallback]

theorem reach_of_other {c : Clause} (rest : List Clause) (other : c.role ≠ .fallback) :
    reach (c :: rest) = reach rest + 1 := by
  rw [reach, firstFallback?_of_other rest other, reach]
  cases firstFallback? rest <;> rfl

theorem take_reach (cs : List Clause) : cs.take (reach cs) = reachable cs := by
  induction cs with
  | nil => rfl
  | cons c rest ih =>
    by_cases fallback : c.role = .fallback
    · rw [reach_of_fallback rest fallback, reachable, if_pos fallback]
      rfl
    · rw [reach_of_other rest fallback, reachable, if_neg fallback, List.take_succ_cons, ih]

end Chain

theorem mapM_take {α β : Type} {f : α → Except Fault β} {items : List α} {bs : List β}
    (h : items.mapM f = .ok bs) (n : Nat) : (items.take n).mapM f = .ok (bs.take n) := by
  induction items generalizing bs n with
  | nil =>
    cases h
    rw [List.take_nil]
    exact (congrArg Except.ok List.take_nil).symm
  | cons item rest ih =>
    rw [List.mapM_cons] at h
    rcases first : f item with fault | b
    · rw [first] at h
      cases h
    rcases others : rest.mapM f with fault | later
    · rw [first, others] at h
      cases h
    rw [first, others] at h
    cases h
    cases n with
    | zero => rfl
    | succ n =>
      rw [List.take_succ_cons, List.take_succ_cons, List.mapM_cons, first, ih others n]
      rfl

namespace LogicTree

/-! ## Trees of documents -/

theorem ofClauses_ok {cs : List Clause} {t : LogicTree} (h : ofClauses cs = .ok t) :
    t.clauses = cs := by
  unfold ofClauses at h
  split at h
  · cases h
    rfl
  · cases h

theorem ofJson_ok {strict : Bool} {data : Json} {t : LogicTree} (h : ofJson strict data = .ok t) :
    ∃ cs, Chain.ofJson data = .ok cs ∧
      t.clauses = if strict then cs else Chain.reachable cs := by
  unfold ofJson at h
  rcases read : Chain.ofJson data with fault | cs
  · rw [read] at h
    cases h
  · rw [read, ok_bind] at h
    exact ⟨cs, rfl, ofClauses_ok h⟩

theorem ofJson_list {items : List Json} {cs : List Clause} (h : items.mapM Clause.ofJson = .ok cs)
    (strict : Bool) :
    ofJson strict (.list items) = ofClauses (if strict then cs else Chain.reachable cs) := by
  have read : Chain.ofJson (.list items) = .ok cs := h
  rw [ofJson, read, ok_bind]

/-- A tree that is read strictly keeps all of its clauses when it is read leniently. -/
theorem ofJson_of_strict {data : Json} {t : LogicTree} (h : ofJson true data = .ok t) :
    ofJson false data = .ok t := by
  obtain ⟨cs, read, clauses⟩ := ofJson_ok h
  have all : t.clauses = cs := clauses
  have reached : Chain.reachable cs = t.clauses := by
    rw [← all]
    exact Chain.reachable_of_sound t.sound
  rw [ofJson, read, ok_bind, if_neg Bool.false_ne_true, reached]
  exact t.ofClauses_clauses

/-- What reading leniently comes to. The tree that is read from a document has the same deciding
clause as all clauses of the document, makes the same move and draws the same numbers. A document
that can be read strictly gives the same tree both ways. If all clauses of a list can be read, then
reading it leniently has the result of reading strictly what comes up to the first fallback. -/
theorem lenient_agrees :
    (∀ data t, ofJson false data = .ok t → ∃ cs, Chain.ofJson data = .ok cs ∧
      ∀ own opponent source, t.deciding? own opponent = Chain.firstMet? cs own opponent ∧
        t.decide own opponent source = (Chain.action cs own opponent).resolve source) ∧
    (∀ data t, ofJson true data = .ok t → ofJson false data = .ok t) ∧
    ∀ items cs, items.mapM Clause.ofJson = .ok cs →
      ofJson false (.list items) = ofJson true (.list (items.take (Chain.reach cs))) := by
  refine ⟨fun data t lenient => ?_, fun data t => ofJson_of_strict, fun items cs each => ?_⟩
  · obtain ⟨cs, read, clauses⟩ := ofJson_ok lenient
    have reached : t.clauses = Chain.reachable cs := clauses
    refine ⟨cs, read, fun own opponent source => ⟨?_, ?_⟩⟩
    · rw [deciding?, reached, Chain.firstMet?_reachable]
    · rw [decide, reached, Chain.action_reachable]
  · have before := mapM_take each (Chain.reach cs)
    rw [ofJson_list each, ofJson_list before, Chain.take_reach, if_pos rfl,
      if_neg Bool.false_ne_true]

/-- Clauses of which the last is a second opening one that looks back no round, behind a
fallback. -/
def overlongClauses : List Clause :=
  [⟨.opening, [⟨.known ⟨.opponent, .last⟩, 1, .betray⟩], .all, .play .betray⟩,
    ⟨.fallback, [], .all, .random⟩,
    ⟨.opening, [⟨.known ⟨.own, .nth⟩, 0, .betray⟩], .all, .play .cooperate⟩]

/-- Documents of these clauses, in both dialects. -/
def overlong : List Json :=
  [.object [("type", .text "IF"), ("conditions", .list [.object
      [("type", .text "opponent_last_move"), ("value", .text "Betray")]]),
      ("action", .text "Betray")],
    .object [("role", .text "ELSE"), ("action", .text "Random")],
    .object [("role", .text "IF"), ("conditions", .list [.object
      [("kind", .text "your_nth_last_move"), ("n", .int 0)]])]]

/-- They are no tree when they are read strictly; leniently they are that of the first two. -/
theorem lenient_agrees_overlong :
    overlong.mapM Clause.ofJson = .ok overlongClauses ∧
      (ofJson true (.list overlong)).isOk = false ∧
      ∃ t, ofJson false (.list overlong) = .ok t ∧
        (∀ own opponent source,
          t.deciding? own opponent = Chain.firstMet? overlongClauses own opponent ∧
            t.decide own opponent source =
              (Chain.action overlongClauses own opponent).resolve source) ∧
        ofJson true (.list (overlong.take 2)) = .ok t ∧
        ofJson false (.list (overlong.take 2)) = .ok t := by
  have each : overlong.mapM Clause.ofJson = .ok overlongClauses := by rfl
  have rejected : (ofJson true (.list overlong)).isOk = false := by
    rw [ofJson_list each]
    rfl
  obtain ⟨t, ht⟩ : ∃ t, ofClauses (Chain.reachable overlongClauses) = .ok t := ⟨_, rfl⟩
  have lenient : ofJson false (.list overlong) = .ok t := (ofJson_list each false).trans ht
  obtain ⟨decides, back, cut⟩ := lenient_agrees
  obtain ⟨cs, read, same⟩ := decides _ t lenient
  have all : cs = overlongClauses := Except.ok.inj (read.symm.trans each)
  have strict : ofJson true (.list (overlong.take 2)) = .ok t :=
    (cut overlong overlongClauses each).symm.trans lenient
  exact ⟨each, rejected, t, lenient, all ▸ same, strict, back _ t strict⟩

end LogicTree
end IteratedDilemma
