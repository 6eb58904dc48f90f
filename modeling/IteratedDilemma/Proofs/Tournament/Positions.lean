import Mathlib.Data.Set.Card
import Mathlib.Tactic.Ring
import IteratedDilemma.Proofs.Tournament.Entrants

/-! Schedules as enumerations. The match between two places of a list stands at a position of a
round robin that is known in closed form (`position`), every position is that of two places and of
no others, and so each place takes part in one match less than there are places. A challenge has
one match for each entry of another identifier, and entries that are left out leave no gap in the
numbering. Main statement: `schedules_enumerate`. -/
namespace IteratedDilemma.Schedule
set_option autoImplicit false

/-! ## Numbers -/

theorem index_numbered {pairs : List (Strategy × Strategy)} {k : Nat} {f : Fixture}
    (h : (numbered pairs)[k]? = some f) : f.index = k := by
  rw [numbered, List.getElem?_mapIdx] at h
  obtain ⟨pair, -, rfl⟩ := Option.map_eq_some_iff.1 h
  rfl

theorem getElem?_numbered {pairs : List (Strategy × Strategy)} {k : Nat} {s t : Strategy}
    (h : pairs[k]? = some (s, t)) : (numbered pairs)[k]? = some ⟨k, s, t⟩ := by
  rw [numbered, List.getElem?_mapIdx, h]
  rfl

theorem length_numbered (pairs : List (Strategy × Strategy)) :
    (numbered pairs).length = pairs.length := List.length_mapIdx

/-! ## Positions in a round robin -/

/-- The position of the match between the earlier place `i` and the later place `j` of so many. -/
def position (count i j : Nat) : Nat := i * (2 * count - i - 1) / 2 + (j - i - 1)

theorem position_zero (count j : Nat) : position count 0 (j + 1) = j := by
  rw [position, Nat.zero_mul, Nat.zero_div, Nat.zero_add, Nat.sub_zero, Nat.add_sub_cancel]

/-- With one more place in front, all matches of that place come first. -/
theorem position_succ {count i : Nat} (h : i < count) (j : Nat) :
    position (count + 1) (i + 1) (j + 1) = count + position count i j := by
  obtain ⟨m, hm⟩ : ∃ m, 2 * count = m + i + 1 := ⟨2 * count - i - 1, by omega⟩
  have more : 2 * (count + 1) - (i + 1) - 1 = m + 1 := by omega
  have less : 2 * count - i - 1 = m := by omega
  have product : (i + 1) * (m + 1) = i * m + 2 * count := by
    rw [hm]
    ring
  rw [position, position, more, less, product, Nat.add_mul_div_left _ _ (by omega)]
  omega

variable {α : Type}

theorem length_pairs_cons (x : α) (rest : List α) :
    (pairs (x :: rest)).length = rest.length + (pairs rest).length := by
  rw [pairs, List.length_append, List.length_map]

theorem getElem?_position {l : List α} {count i j : Nat} (size : l.length = count) (order : i < j)
    (bound : j < l.length) : (pairs l)[position count i j]? = some (l[i], l[j]) := by
  induction l generalizing count i j with
  | nil => cases bound
  | cons x rest ih =>
    obtain ⟨j, rfl⟩ : ∃ n, j = n + 1 := Nat.exists_eq_add_one.2 (by omega)
    have later : j < rest.length := Nat.lt_of_succ_lt_succ bound
    rw [List.length_cons] at size
    subst size
    cases i with
    | zero =>
      rw [position_zero, pairs, List.getElem?_append_left (by rwa [List.length_map]),
        List.getElem?_map, List.getElem?_eq_getElem later]
      rfl
    | succ i =>
      have earlier : i < j := Nat.lt_of_succ_lt_succ order
      rw [position_succ (Nat.lt_trans earlier later), pairs,
        List.getElem?_append_right (by rw [List.length_map]; omega), List.length_map,
        Nat.add_sub_cancel_left, ih rfl earlier later]
      rfl

example : pairs [10, 11, 12, 13] = [(10, 11), (10, 12), (10, 13), (11, 12), (11, 13), (12, 13)] ∧
    position 4 1 3 = 4 := by decide

theorem exists_position (l : List α) {k : Nat} (h : k < (pairs l).length) :
    ∃ i j, i < j ∧ j < l.length ∧ position l.length i j = k := by
  induction l generalizing k with
  | nil => cases h
  | cons x rest ih =>
    rw [length_pairs_cons] at h
    by_cases first : k < rest.length
    · exact ⟨0, k + 1, Nat.succ_pos k, Nat.succ_lt_succ first, position_zero _ k⟩
    · obtain ⟨i, j, order, bound, e⟩ := ih (k := k - rest.length) (by omega)
      refine ⟨i + 1, j + 1, Nat.succ_lt_succ order, Nat.succ_lt_succ bound, ?_⟩
      rw [List.length_cons, position_succ (Nat.lt_trans order bound), e]
      omega

/-- No two matches stand at one position: what stands there says which places meet. -/
theorem position_inj {count i j i' j' : Nat} (order : i < j) (bound : j < count)
    (order' : i' < j') (bound' : j' < count) (same : position count i j = position count i' j') :
    i = i' ∧ j = j' := by
  have places (i j : Nat) (order : i < j) (bound : j < count) :
      (pairs (List.range count))[position count i j]? = some (i, j) := by
    have size : (List.range count).length = count := List.length_range
    have there := getElem?_position size order (by rwa [size])
    rwa [List.getElem_range, List.getElem_range] at there
  have e := places i j order bound
  rw [same, places i' j' order' bound'] at e
  cases e
  exact ⟨rfl, rfl⟩

/-- A place of so many takes part in the match at a position. -/
def TakesPart (count place k : Nat) : Prop :=
  ∃ i j, i < j ∧ j < count ∧ position count i j = k ∧ (place = i ∨ place = j)

/-- The position of the match between a place and another one, whichever is the earlier. -/
def meetingPosition (count place other : Nat) : Nat :=
  position count (min place other) (max place other)

theorem takesPart_iff {count place k : Nat} (bound : place < count) :
    TakesPart count place k ↔
      ∃ other ∈ (Finset.range count).erase place, meetingPosition count place other = k := by
  constructor
  · rintro ⟨i, j, order, bound, rfl, rfl | rfl⟩
    · refine ⟨j, Finset.mem_erase.2 ⟨by omega, Finset.mem_range.2 bound⟩, ?_⟩
      rw [meetingPosition, Nat.min_eq_left order.le, Nat.max_eq_right order.le]
    · refine ⟨i, Finset.mem_erase.2 ⟨by omega, Finset.mem_range.2 (by omega)⟩, ?_⟩
      rw [meetingPosition, Nat.min_eq_right order.le, Nat.max_eq_left order.le]
  · rintro ⟨other, there, rfl⟩
    obtain ⟨apart, among⟩ := Finset.mem_erase.1 there
    have small := Finset.mem_range.1 among
    exact ⟨min place other, max place other, by omega, by omega, rfl, by omega⟩

theorem meetingPosition_injOn {count place : Nat} (bound : place < count) :
    Set.InjOn (meetingPosition count place) ((Finset.range count).erase place) := by
  intro other there another there' same
  obtain ⟨apart, among⟩ := Finset.mem_erase.1 (Finset.mem_coe.1 there)
  obtain ⟨apart', among'⟩ := Finset.mem_erase.1 (Finset.mem_coe.1 there')
  have small := Finset.mem_range.1 among
  have small' := Finset.mem_range.1 among'
  obtain ⟨least, greatest⟩ := position_inj (by omega) (by omega) (by omega) (by omega) same
  omega

theorem ncard_takesPart {count place : Nat} (bound : place < count) :
    {k | TakesPart count place k}.ncard = count - 1 := by
  have meetings : {k | TakesPart count place k} =
      meetingPosition count place '' ((Finset.range count).erase place) := by
    ext k
    exact takesPart_iff bound
  rw [meetings, (meetingPosition_injOn bound).ncard_image, Set.ncard_coe_finset,
    Finset.card_erase_of_mem (Finset.mem_range.2 bound), Finset.card_range]

/-! ## Entries that are left out -/

theorem getElem?_filter {p : α → Bool} {l : List α} {place : Nat} (bound : place < l.length)
    (kept : p l[place] = true) : (l.filter p)[(l.take place).countP p]? = some l[place] := by
  induction l generalizing place with
  | nil => cases bound
  | cons x rest ih =>
    cases place with
    | zero =>
      have first : p x = true := kept
      rw [List.filter_cons_of_pos first]
      rfl
    | succ place =>
      have later := ih (Nat.lt_of_succ_lt_succ bound) kept
      rw [List.take_succ_cons, List.countP_cons]
      by_cases first : p x = true
      · rw [List.filter_cons_of_pos first, if_pos first, List.getElem?_cons_succ]
        exact later
      · rw [List.filter_cons_of_neg first, if_neg first]
        exact later

theorem exists_place (p : α → Bool) {l : List α} {k : Nat} (h : k < l.countP p) :
    ∃ place, ∃ bound : place < l.length, p l[place] = true ∧ (l.take place).countP p = k := by
  induction l generalizing k with
  | nil => cases h
  | cons x rest ih =>
    rw [List.countP_cons] at h
    by_cases first : p x = true
    · rw [if_pos first] at h
      cases k with
      | zero => exact ⟨0, Nat.succ_pos _, first, rfl⟩
      | succ k =>
        obtain ⟨place, bound, kept, e⟩ := ih (Nat.lt_of_succ_lt_succ h)
        refine ⟨place + 1, Nat.succ_lt_succ bound, kept, ?_⟩
        rw [List.take_succ_cons, List.countP_cons, if_pos first, e]
    · rw [if_neg first] at h
      obtain ⟨place, bound, kept, e⟩ := ih h
      refine ⟨place + 1, Nat.succ_lt_succ bound, kept, ?_⟩
      rw [List.take_succ_cons, List.countP_cons, if_neg first, e, Nat.add_zero]

/-- More entries are kept before a later place if the earlier one is kept. -/
theorem countP_take_lt {p : α → Bool} {l : List α} {place later : Nat} (order : place < later)
    (bound : place < l.length) (kept : p l[place] = true) :
    (l.take place).countP p < (l.take later).countP p := by
  have upTo : (l.take (place + 1)).countP p = (l.take place).countP p + 1 := by
    rw [List.take_succ_eq_append_getElem bound, List.countP_append, List.countP_singleton,
      if_pos kept]
  have sublist : (l.take (place + 1)).Sublist (l.take later) :=
    (List.take_prefix_take_left order).sublist
  have := sublist.countP_le (p := p)
  omega

/-! ## Main statement -/

/-- Fixtures that enumerate the pairs of a list: there are as many as pairs, numbered by position;
two places meet at their position, the earlier on the first side; every position is that of two
places and of no others; and each place takes part in as many matches as there are other places. -/
structure EnumeratesPairs (strategies : List Strategy) (fixtures : List Fixture) : Prop where
  total : (fixtures.length : Int) = totalMatches strategies.length
  numbered : ∀ k, ∀ f : Fixture, fixtures[k]? = some f → f.index = k
  pair : ∀ i j, (order : i < j) → (bound : j < strategies.length) →
    fixtures[position strategies.length i j]? =
      some ⟨position strategies.length i j, strategies[i], strategies[j]⟩
  once : ∀ k < fixtures.length, ∃! places : Nat × Nat, places.1 < places.2 ∧
    places.2 < strategies.length ∧ position strategies.length places.1 places.2 = k
  each : ∀ place < strategies.length,
    {k | TakesPart strategies.length place k}.ncard = strategies.length - 1

/-- Whether an entry has not the identifier of the new strategy. -/
def isOpponent (new s : Strategy) : Bool := s.key ≠ new.key

/-- Fixtures that enumerate the entries of a list that have not the identifier of a new strategy:
in their order, the new strategy on the first side, numbered by position. Before the match of an
entry come those of the earlier entries that are not left out, and every match is that of one
entry. -/
structure EnumeratesOpponents (new : Strategy) (existing : List Strategy)
    (fixtures : List Fixture) : Prop where
  total : fixtures.length = existing.countP (isOpponent new)
  numbered : ∀ k, ∀ f : Fixture, fixtures[k]? = some f → f.index = k ∧ f.first = new
  order : fixtures.map Fixture.second = existing.filter (isOpponent new)
  entry : ∀ place, (bound : place < existing.length) → isOpponent new existing[place] = true →
    fixtures[(existing.take place).countP (isOpponent new)]? =
      some ⟨(existing.take place).countP (isOpponent new), new, existing[place]⟩
  once : ∀ k < fixtures.length, ∃! place, ∃ bound : place < existing.length,
    isOpponent new existing[place] = true ∧ (existing.take place).countP (isOpponent new) = k

theorem roundRobin_enumeratesPairs (strategies : List Strategy) :
    EnumeratesPairs strategies (roundRobin strategies) where
  total := by rw [roundRobin, length_numbered, length_pairs]
  numbered _ _ h := index_numbered h
  pair _ _ order bound := getElem?_numbered (getElem?_position rfl order bound)
  once k h := by
    rw [roundRobin, length_numbered] at h
    obtain ⟨i, j, order, bound, rfl⟩ := exists_position strategies h
    refine ⟨(i, j), ⟨order, bound, rfl⟩, fun places there => ?_⟩
    obtain ⟨order', bound', same⟩ := there
    obtain ⟨e, e'⟩ := position_inj order' bound' order bound same
    exact Prod.ext e e'
  each _ bound := ncard_takesPart bound

theorem challenge_enumeratesOpponents (new : Strategy) (existing : List Strategy) :
    EnumeratesOpponents new existing (challenge new existing) := by
  have total : (challenge new existing).length = existing.countP (isOpponent new) := by
    rw [challenge, length_numbered, List.length_map, List.countP_eq_length_filter]
    rfl
  refine ⟨total, fun k f h => ⟨index_numbered h, ?_⟩, ?_, fun place bound other => ?_,
    fun k h => ?_⟩
  · rw [challenge, numbered, List.getElem?_mapIdx, List.getElem?_map] at h
    obtain ⟨pair, there, rfl⟩ := Option.map_eq_some_iff.1 h
    obtain ⟨s, -, rfl⟩ := Option.map_eq_some_iff.1 there
    rfl
  · have sides := congrArg (List.map Prod.snd)
      (sides_numbered ((existing.filter (isOpponent new)).map fun s => (new, s)))
    rw [List.map_map, List.map_map] at sides
    exact sides.trans (List.map_id _)
  · refine getElem?_numbered ?_
    have there := getElem?_filter (p := isOpponent new) bound other
    rw [List.getElem?_map]
    exact congrArg (Option.map fun s => (new, s)) there
  · rw [total] at h
    obtain ⟨place, bound, other, rfl⟩ := exists_place (isOpponent new) h
    refine ⟨place, ⟨bound, other, rfl⟩, fun place' there => ?_⟩
    obtain ⟨bound', other', same⟩ := there
    rcases Nat.lt_trichotomy place' place with before | e | behind
    · exact absurd same (countP_take_lt before bound' other').ne
    · exact e
    · exact absurd same (countP_take_lt behind bound other).ne'

/-- A round robin enumerates the pairs of its list, and a challenge the entries of other
identifiers. -/
theorem schedules_enumerate :
    (∀ strategies, EnumeratesPairs strategies (roundRobin strategies)) ∧
      ∀ new existing, EnumeratesOpponents new existing (challenge new existing) :=
  ⟨roundRobin_enumeratesPairs, challenge_enumeratesOpponents⟩

end IteratedDilemma.Schedule
