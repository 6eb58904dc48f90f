import IteratedDilemma.Proofs.Match.Mirror
import IteratedDilemma.Proofs.Match.Transcript
import IteratedDilemma.Proofs.Tree.RoundTrip
import IteratedDilemma.Proofs.Work

/-! Matches as simultaneous play. A player answers any value, which is read as a move. Main
statement: the match of two players is the one list of rounds in which both answer from the moves
before the round alone, the first side drawing first; it fails exactly where an answer is no move,
and a shorter match is a prefix of a longer one (`simulate_is_simultaneous`). -/
namespace IteratedDilemma
set_option autoImplicit false

/-! ## Players -/

/-- A player who answers any value to both histories, perhaps after drawing random numbers. -/
abbrev Answering := History → History → Drawing Json

namespace Answering

/-- The decision of a player: the answer, read as a move. -/
def decision (p : Answering) : Decision Attempt := fun own opponent => do
  let value ← ExceptT.lift (p own opponent)
  (Move.ofJson value : Except Fault Move)

/-- Every answer is a move. -/
def IsSound (p : Answering) : Prop :=
  ∀ own opponent source, ∃ move, Move.ofJson (p own opponent source).1 = .ok move

/-- The answer to the moves of both sides, the oldest first, is a move. -/
def Plays (p : Answering) (own opponent : List Move) (source : RandomSource) (move : Move)
    (after : RandomSource) : Prop :=
  ∃ value, p own.reverse opponent.reverse source = (value, after) ∧ Move.ofJson value = .ok move

/-- The answer to the moves of both sides, the oldest first, is no move. -/
def Refuses (p : Answering) (own opponent : List Move) (source : RandomSource) (fault : Fault)
    (after : RandomSource) : Prop :=
  ∃ value, p own.reverse opponent.reverse source = (value, after) ∧
    Move.ofJson value = .error fault

variable {p : Answering} {own opponent : History} {source after : RandomSource}

theorem decision_apply (p : Answering) (own opponent : History) (source : RandomSource) :
    p.decision own opponent source =
      (Move.ofJson (p own opponent source).1, (p own opponent source).2) := rfl

theorem decision_eq_ok {move : Move} :
    p.decision own opponent source = (.ok move, after) ↔
      p.Plays own.reverse opponent.reverse source move after := by
  rw [decision_apply, Plays, List.reverse_reverse, List.reverse_reverse]
  constructor
  · intro h
    obtain ⟨read, rfl⟩ := Prod.mk.inj h
    exact ⟨_, rfl, read⟩
  · rintro ⟨value, e, read⟩
    rw [e, read]

theorem decision_eq_error {fault : Fault} :
    p.decision own opponent source = (.error fault, after) ↔
      p.Refuses own.reverse opponent.reverse source fault after := by
  rw [decision_apply, Refuses, List.reverse_reverse, List.reverse_reverse]
  constructor
  · intro h
    obtain ⟨read, rfl⟩ := Prod.mk.inj h
    exact ⟨_, rfl, read⟩
  · rintro ⟨value, e, read⟩
    rw [e, read]

theorem IsSound.plays (h : p.IsSound) (own opponent : List Move) (source : RandomSource) :
    ∃ move after, p.Plays own opponent source move after := by
  obtain ⟨move, read⟩ := h own.reverse opponent.reverse source
  exact ⟨move, _, _, rfl, read⟩

/-- The player who answers the words of the moves that a decision gives. -/
def ofDecision (d : Decision Drawing) : Answering := fun own opponent source =>
  ((d own opponent source).1.toJson, (d own opponent source).2)

theorem ofDecision_isSound (d : Decision Drawing) : (ofDecision d).IsSound :=
  fun own opponent source => ⟨_, Move.ofJson_toJson (d own opponent source).1⟩

theorem decision_ofDecision (d : Decision Drawing) : (ofDecision d).decision = d.lifted := by
  funext own opponent source
  rw [decision_apply, ofDecision, Move.ofJson_toJson]
  rfl

theorem family_of_refuses {moves1 moves2 : List Move} {fault : Fault}
    (h : p.Refuses moves1 moves2 source fault after) : fault.family = .value := by
  obtain ⟨value, -, refused⟩ := h
  have unknown : fault = .unknownMove value.plain := by
    unfold Move.ofJson Json.word at refused
    split at refused
    · split at refused
      · cases refused
      · cases refused
        rfl
    · cases refused
      rfl
  rw [unknown]
  rfl

end Answering

/-! ## Rounds one after another -/

/-- Moves of both sides, the oldest first, as two players answer them: in every round each side
answers to the rounds before, and the random numbers go to the first side, then to the second, round
by round. -/
def Threads (first second : Answering) (moves1 moves2 : List Move) (source last : RandomSource) :
    Prop :=
  ∃ sources : Nat → RandomSource, sources 0 = source ∧ sources moves1.length = last ∧
    ∀ (i : Nat) (h1 : i < moves1.length) (h2 : i < moves2.length), ∃ between,
      first.Plays (moves1.take i) (moves2.take i) (sources i) moves1[i] between ∧
      second.Plays (moves2.take i) (moves1.take i) between moves2[i] (sources (i + 1))

section
variable {first second : Answering} {source last : RandomSource}

theorem threads_nil : Threads first second [] [] source last ↔ last = source := by
  constructor
  · rintro ⟨sources, start, finish, -⟩
    exact finish.symm.trans start
  · rintro rfl
    exact ⟨fun _ => last, rfl, rfl, fun i h => absurd h (Nat.not_lt_zero i)⟩

/-- Moves and one round more. -/
theorem threads_concat {moves1 moves2 : List Move} (lengths : moves1.length = moves2.length)
    {a b : Move} : Threads first second (moves1 ++ [a]) (moves2 ++ [b]) source last ↔
      ∃ middle between, Threads first second moves1 moves2 source middle ∧
        first.Plays moves1 moves2 middle a between ∧
        second.Plays moves2 moves1 between b last := by
  have old {i : Nat} (h : i < moves1.length) :
      (moves1 ++ [a]).take i = moves1.take i ∧ (moves2 ++ [b]).take i = moves2.take i :=
    ⟨List.take_append_of_le_length (Nat.le_of_lt h),
      List.take_append_of_le_length (by omega)⟩
  have new : (moves1 ++ [a]).take moves1.length = moves1 ∧
      (moves2 ++ [b]).take moves1.length = moves2 :=
    ⟨List.take_left' rfl, List.take_left' lengths.symm⟩
  have last2 {h : moves1.length < (moves2 ++ [b]).length} : (moves2 ++ [b])[moves1.length] = b :=
    List.getElem_concat_length lengths _
  constructor
  · rintro ⟨sources, start, finish, rounds⟩
    obtain ⟨between, plays1, plays2⟩ := rounds moves1.length (by simp) (by simp [lengths])
    rw [new.1, new.2, List.getElem_concat_length rfl] at plays1
    rw [new.1, new.2, last2] at plays2
    rw [List.length_append, List.length_singleton] at finish
    refine ⟨sources moves1.length, between, ⟨sources, start, rfl, fun i h1 h2 => ?_⟩, plays1,
      finish ▸ plays2⟩
    obtain ⟨between, plays1, plays2⟩ := rounds i (by simp; omega) (by simp; omega)
    rw [(old h1).1, (old h1).2, List.getElem_append_left h1] at plays1
    rw [(old h1).1, (old h1).2, List.getElem_append_left h2] at plays2
    exact ⟨between, plays1, plays2⟩
  · rintro ⟨middle, between, ⟨sources, start, rfl, rounds⟩, plays1, plays2⟩
    -- the sources before the rounds so far, and the one that the new round leaves
    let extended (i : Nat) : RandomSource := if i ≤ moves1.length then sources i else last
    have before {i : Nat} (h : i ≤ moves1.length) : extended i = sources i := if_pos h
    have after : extended (moves1.length + 1) = last := if_neg (Nat.not_succ_le_self _)
    refine ⟨extended, start, ?_, fun i h1 h2 => ?_⟩
    · rw [List.length_append, List.length_singleton]
      exact after
    rw [List.length_append, List.length_singleton] at h1
    rcases Nat.lt_or_eq_of_le (Nat.le_of_lt_succ h1) with hlt | rfl
    · obtain ⟨between, plays1, plays2⟩ := rounds i hlt (by omega)
      refine ⟨between, ?_, ?_⟩
      · rw [before (Nat.le_of_lt hlt), (old hlt).1, (old hlt).2, List.getElem_append_left hlt]
        exact plays1
      · rw [before hlt, (old hlt).1, (old hlt).2, List.getElem_append_left]
        exact plays2
    · refine ⟨between, ?_, ?_⟩
      · rw [before (Nat.le_refl _), new.1, new.2, List.getElem_concat_length rfl]
        exact plays1
      · rw [after, new.1, new.2, last2]
        exact plays2

end

namespace Match

variable {first second : Answering} {source last : RandomSource} {count : Nat}

/-! ## Simultaneous play -/

/-- A match of so many rounds that two players answer simultaneously: what both have played, and
what it pays. -/
structure IsSimultaneous (first second : Answering) (count : Nat) (source last : RandomSource)
    (m : Match) : Prop where
  length1 : m.moves1.length = count
  length2 : m.moves2.length = count
  threads : Threads first second m.moves1.reverse m.moves2.reverse source last
  score1 : m.score1 = pointsOver Payoff.first m.moves1.reverse m.moves2.reverse
  score2 : m.score2 = pointsOver Payoff.second m.moves1.reverse m.moves2.reverse

/-- The next round after a match, answered by both sides. -/
def Goes (first second : Answering) (past : Match) (source : RandomSource) (m : Match)
    (last : RandomSource) : Prop :=
  ∃ a between b, first.Plays past.moves1.reverse past.moves2.reverse source a between ∧
    second.Plays past.moves2.reverse past.moves1.reverse between b last ∧ m = past.extend a b

/-- The next round after a match breaks off: an answer of the first side is no move, or one of the
second. -/
def Breaks (first second : Answering) (past : Match) (source : RandomSource) (fault : Fault)
    (last : RandomSource) : Prop :=
  first.Refuses past.moves1.reverse past.moves2.reverse source fault last ∨
    ∃ a between, first.Plays past.moves1.reverse past.moves2.reverse source a between ∧
      second.Refuses past.moves2.reverse past.moves1.reverse between fault last

theorem isSimultaneous_zero {m : Match} :
    m.IsSimultaneous first second 0 source last ↔ m = empty ∧ last = source := by
  constructor
  · rintro ⟨length1, length2, threads, score1, score2⟩
    obtain ⟨moves1, moves2, points1, points2⟩ := m
    cases List.eq_nil_of_length_eq_zero length1
    cases List.eq_nil_of_length_eq_zero length2
    cases score1
    cases score2
    exact ⟨rfl, threads_nil.1 threads⟩
  · rintro ⟨rfl, rfl⟩
    exact ⟨rfl, rfl, threads_nil.2 rfl, rfl, rfl⟩

theorem isSimultaneous_succ {m : Match} :
    m.IsSimultaneous first second (count + 1) source last ↔
      ∃ (past : Match) (middle : RandomSource),
        past.IsSimultaneous first second count source middle ∧
        past.Goes first second middle m last := by
  constructor
  · rintro ⟨length1, length2, threads, score1, score2⟩
    obtain ⟨moves1, moves2, points1, points2⟩ := m
    obtain ⟨a, moves1, rfl⟩ := List.exists_cons_of_length_eq_add_one length1
    obtain ⟨b, moves2, rfl⟩ := List.exists_cons_of_length_eq_add_one length2
    have length1 : moves1.length = count := Nat.succ.inj length1
    have length2 : moves2.length = count := Nat.succ.inj length2
    have lengths : moves1.reverse.length = moves2.reverse.length := by simp [length1, length2]
    rw [List.reverse_cons, List.reverse_cons, threads_concat lengths] at threads
    obtain ⟨middle, between, threads, plays1, plays2⟩ := threads
    rw [List.reverse_cons, List.reverse_cons, pointsOver_concat _ a b lengths] at score1 score2
    refine ⟨⟨moves1, moves2, pointsOver Payoff.first moves1.reverse moves2.reverse,
      pointsOver Payoff.second moves1.reverse moves2.reverse⟩, middle,
      ⟨length1, length2, threads, rfl, rfl⟩, a, between, b, plays1, plays2, ?_⟩
    cases score1
    cases score2
    rfl
  · rintro ⟨past, middle, h, a, between, b, plays1, plays2, rfl⟩
    have lengths : past.moves1.reverse.length = past.moves2.reverse.length := by
      simp [h.length1, h.length2]
    unfold extend
    refine ⟨congrArg Nat.succ h.length1, congrArg Nat.succ h.length2, ?_, ?_, ?_⟩
    · rw [List.reverse_cons, List.reverse_cons, threads_concat lengths]
      exact ⟨middle, between, h.threads, plays1, plays2⟩
    · rw [List.reverse_cons, List.reverse_cons, pointsOver_concat _ a b lengths, h.score1]
    · rw [List.reverse_cons, List.reverse_cons, pointsOver_concat _ a b lengths, h.score2]

/-- The first rounds of simultaneous play are simultaneous play. -/
theorem IsSimultaneous.exists_past {m : Match}
    (h : m.IsSimultaneous first second count source last) {r : Nat} (hr : r ≤ count) :
    ∃ (past : Match) (middle : RandomSource), past.IsSimultaneous first second r source middle ∧
      past.moves1.reverse = m.moves1.reverse.take r ∧
      past.moves2.reverse = m.moves2.reverse.take r := by
  induction count generalizing m last with
  | zero =>
    obtain rfl := Nat.le_zero.1 hr
    obtain ⟨rfl, -⟩ := isSimultaneous_zero.1 h
    exact ⟨empty, last, h, rfl, rfl⟩
  | succ count ih =>
    rcases Nat.lt_or_eq_of_le hr with hlt | rfl
    · obtain ⟨before, middle, h', a, between, b, -, -, rfl⟩ := isSimultaneous_succ.1 h
      obtain ⟨past, source', h'', moves1, moves2⟩ := ih h' (Nat.le_of_lt_succ hlt)
      refine ⟨past, source', h'', ?_, ?_⟩
      · rw [moves1, extend, List.reverse_cons, List.take_append_of_le_length]
        rw [List.length_reverse, h'.length1]
        exact Nat.le_of_lt_succ hlt
      · rw [moves2, extend, List.reverse_cons, List.take_append_of_le_length]
        rw [List.length_reverse, h'.length2]
        exact Nat.le_of_lt_succ hlt
    · exact ⟨m, last, h, by simp [h.length1], by simp [h.length2]⟩

theorem IsSimultaneous.scores_le {m : Match} (h : m.IsSimultaneous first second count source last) :
    m.score1 ≤ 2 * count ∧ m.score2 ≤ 2 * count := by
  have length : m.moves1.reverse.length = count := by rw [List.length_reverse, h.length1]
  rw [h.score1, h.score2, ← length]
  exact ⟨pointsOver_le (fun a b => by cases a <;> cases b <;> decide) _ _,
    pointsOver_le (fun a b => by cases a <;> cases b <;> decide) _ _⟩

/-! ## Matches are simultaneous play -/

theorem round_eq_ok {past m : Match} :
    round first.decision second.decision past source = (.ok m, last) ↔
      past.Goes first second source m last := by
  constructor
  · intro h
    obtain ⟨a, between, plays1, h⟩ := Work.bind_eq_ok h
    obtain ⟨b, after, plays2, h⟩ := Work.bind_eq_ok h
    cases h
    exact ⟨a, between, b, Answering.decision_eq_ok.1 plays1, Answering.decision_eq_ok.1 plays2, rfl⟩
  · rintro ⟨a, between, b, plays1, plays2, rfl⟩
    exact (Work.bind_of_ok (Answering.decision_eq_ok.2 plays1)).trans
      (Work.bind_of_ok (Answering.decision_eq_ok.2 plays2))

theorem round_eq_error {past : Match} {fault : Fault} :
    round first.decision second.decision past source = (.error fault, last) ↔
      past.Breaks first second source fault last := by
  constructor
  · intro h
    rcases Work.bind_cases h with ⟨a, between, plays1, h⟩ | ⟨_, refuses, e⟩
    · rcases Work.bind_cases h with ⟨b, after, -, h⟩ | ⟨_, refuses, e⟩
      · cases h
      · cases e
        exact .inr ⟨a, between, Answering.decision_eq_ok.1 plays1,
          Answering.decision_eq_error.1 refuses⟩
    · cases e
      exact .inl (Answering.decision_eq_error.1 refuses)
  · rintro (refuses | ⟨a, between, plays1, refuses⟩)
    · exact Work.bind_of_error (Answering.decision_eq_error.2 refuses)
    · exact (Work.bind_of_ok (Answering.decision_eq_ok.2 plays1)).trans
        (Work.bind_of_error (Answering.decision_eq_error.2 refuses))

theorem play_eq_ok {m : Match} :
    play first.decision second.decision count source = (.ok m, last) ↔
      m.IsSimultaneous first second count source last := by
  induction count generalizing m last with
  | zero =>
    rw [isSimultaneous_zero]
    constructor
    · intro h
      cases h
      exact ⟨rfl, rfl⟩
    · rintro ⟨rfl, rfl⟩
      rfl
  | succ count ih =>
    rw [isSimultaneous_succ, play_succ]
    constructor
    · intro h
      obtain ⟨past, middle, before, h⟩ := Work.bind_eq_ok h
      exact ⟨past, middle, ih.1 before, round_eq_ok.1 h⟩
    · rintro ⟨past, middle, before, h⟩
      exact (Work.bind_of_ok (ih.2 before)).trans (round_eq_ok.2 h)

/-- A match fails where its next round breaks off. -/
theorem play_eq_error {fault : Fault} :
    play first.decision second.decision count source = (.error fault, last) ↔
      ∃ i < count, ∃ (past : Match) (middle : RandomSource),
        past.IsSimultaneous first second i source middle ∧
        past.Breaks first second middle fault last := by
  induction count generalizing last with
  | zero =>
    constructor
    · intro h
      cases h
    · rintro ⟨i, h, -⟩
      exact absurd h (Nat.not_lt_zero i)
  | succ count ih =>
    rw [play_succ]
    constructor
    · intro h
      rcases Work.bind_cases h with ⟨past, middle, before, h⟩ | ⟨_, before, e⟩
      · exact ⟨count, Nat.lt_succ_self count, past, middle, play_eq_ok.1 before,
          round_eq_error.1 h⟩
      · cases e
        obtain ⟨i, hi, rest⟩ := ih.1 before
        exact ⟨i, Nat.lt_succ_of_lt hi, rest⟩
    · rintro ⟨i, hi, past, middle, before, breaks⟩
      rcases Nat.lt_or_eq_of_le (Nat.le_of_lt_succ hi) with hlt | rfl
      · exact Work.bind_of_error (ih.2 ⟨i, hlt, past, middle, before, breaks⟩)
      · exact (Work.bind_of_ok (play_eq_ok.2 before)).trans (round_eq_error.2 breaks)

theorem Breaks.family {past : Match} {fault : Fault}
    (h : past.Breaks first second source fault last) : fault.family = .value := by
  rcases h with refuses | ⟨_, _, -, refuses⟩ <;> exact Answering.family_of_refuses refuses

theorem not_breaks {past : Match} {fault : Fault} (sound1 : first.IsSound)
    (sound2 : second.IsSound) : ¬past.Breaks first second source fault last := by
  have never {p : Answering} (sound : p.IsSound) {own opponent : List Move}
      {source after : RandomSource} : ¬p.Refuses own opponent source fault after := by
    rintro ⟨value, e, refused⟩
    obtain ⟨move, read⟩ := sound own.reverse opponent.reverse source
    rw [e, refused] at read
    cases read
  rintro (refuses | ⟨_, _, -, refuses⟩)
  · exact never sound1 refuses
  · exact never sound2 refuses

theorem exists_of_isSound (sound1 : first.IsSound) (sound2 : second.IsSound) (count : Nat)
    (source : RandomSource) :
    ∃ m last, play first.decision second.decision count source = (.ok m, last) := by
  rcases e : play first.decision second.decision count source with ⟨fault | m, last⟩
  · obtain ⟨i, -, past, middle, -, breaks⟩ := play_eq_error.1 e
    exact absurd breaks (not_breaks sound1 sound2)
  · exact ⟨m, last, rfl⟩

/-- Players who answer moves always come to a match of as many rounds as asked for, and it is the one
match that they answer simultaneously. The match of fewer rounds is its beginning. A match comes to
nothing exactly if an answer is no move or the number of rounds is negative, and the fault is one of
a value then. -/
theorem simulate_is_simultaneous (first second : Answering) (source : RandomSource) :
    (∀ rounds < 0, simulate first.decision second.decision (.int rounds) source =
      (.error (.negativeRounds (Json.int rounds).plain), source)) ∧
    (∀ rounds fault last, simulate first.decision second.decision (.int rounds) source =
      (.error fault, last) → fault.family = .value) ∧
    ∀ count : Nat,
      (first.IsSound → second.IsSound → ∃ m last,
        simulate first.decision second.decision (.int count) source = (.ok m, last)) ∧
      (∀ m last, simulate first.decision second.decision (.int count) source = (.ok m, last) ↔
        m.IsSimultaneous first second count source last) ∧
      (∀ m last, simulate first.decision second.decision (.int count) source = (.ok m, last) →
        ∀ r ≤ count, ∃ past middle,
          simulate first.decision second.decision (.int (r : Nat)) source = (.ok past, middle) ∧
          past.moves1.reverse = m.moves1.reverse.take r ∧
          past.moves2.reverse = m.moves2.reverse.take r) ∧
      ∀ fault last, simulate first.decision second.decision (.int count) source =
          (.error fault, last) ↔
        ∃ i < count, ∃ (past : Match) (middle : RandomSource),
          past.IsSimultaneous first second i source middle ∧
          past.Breaks first second middle fault last := by
  have negative (rounds : Int) (h : rounds < 0) :
      simulate first.decision second.decision (.int rounds) source =
        (.error (.negativeRounds (Json.int rounds).plain), source) := by
    rw [simulate_negative _ _ h]
    rfl
  refine ⟨negative, fun rounds fault last h => ?_, fun count => ?_⟩
  · by_cases below : rounds < 0
    · rw [negative rounds below] at h
      cases h
      rfl
    · obtain ⟨count, rfl⟩ := Int.eq_ofNat_of_zero_le (Int.not_lt.1 below)
      rw [simulate_count, play_eq_error] at h
      obtain ⟨_, -, _, _, -, breaks⟩ := h
      exact breaks.family
  · simp only [simulate_count]
    refine ⟨fun sound1 sound2 => exists_of_isSound sound1 sound2 count source,
      fun m last => play_eq_ok, fun m last h r hr => ?_, fun fault last => play_eq_error⟩
    obtain ⟨past, middle, before, moves1, moves2⟩ := (play_eq_ok.1 h).exists_past hr
    exact ⟨past, middle, play_eq_ok.2 before, moves1, moves2⟩

/-- A match of decisions that give moves is simultaneous play. -/
theorem exists_isSimultaneous (first second : Decision Drawing) (count : Nat)
    (source : RandomSource) :
    ∃ m last, simulate first.lifted second.lifted (.int count) source = (.ok m, last) ∧
      m.IsSimultaneous (.ofDecision first) (.ofDecision second) count source last := by
  obtain ⟨m, last, played⟩ := exists_of_isSound (Answering.ofDecision_isSound first)
    (Answering.ofDecision_isSound second) count source
  refine ⟨m, last, ?_, play_eq_ok.1 played⟩
  rw [simulate_count, ← Answering.decision_ofDecision, ← Answering.decision_ofDecision, played]

/-- Neither side of a match wins more than two points a round. -/
theorem scores_le_play (first second : Decision Drawing) (rounds : Nat) (source : RandomSource) :
    ((play first second rounds).run source).1.score1 ≤ 2 * rounds ∧
      ((play first second rounds).run source).1.score2 ≤ 2 * rounds := by
  obtain ⟨m, last, played, simultaneous⟩ := exists_isSimultaneous first second rounds source
  rw [simulate_lifted] at played
  cases played
  exact simultaneous.scores_le

end Match
end IteratedDilemma
