import IteratedDilemma.Proofs.Arena.Failure
import IteratedDilemma.Proofs.Arena.Repetition

/-! Outcomes that a store is asked to take over. One is taken over if the store has everybody whom
it gives points, all of it or nothing (`Site.applyOutcome_takesOver`). Main statement: the store
after many of them is the store before with the points and the records of those that were taken
over, so their order matters to nothing but the log (`Site.outcomes_commute`). -/
namespace IteratedDilemma
set_option autoImplicit false

namespace Outcome

/-- An outcome of the declared types: identifiers are texts, and points are whole numbers. -/
structure IsTyped (o : Outcome) : Prop where
  names : ∃ names : List Text, o.deltas.ids = names.map .text
  whole : o.deltas.IsWhole

theorem isTyped_of_pairs {o : Outcome} (pairs : List (Text × Int))
    (deltas : o.deltas = pairs.map fun pair => (.text pair.1, .int pair.2)) : o.IsTyped where
  names := by
    refine ⟨pairs.map Prod.fst, ?_⟩
    rw [deltas, Tally.ids, List.map_map, List.map_map]
    rfl
  whole points there := by
    rw [deltas, Tally.points, List.map_map] at there
    obtain ⟨pair, -, rfl⟩ := List.mem_map.1 there
    exact ⟨_, rfl⟩

/-- What outcomes give to an identifier, all together. -/
def gain (outcomes : List Outcome) (id : Json) : Int :=
  (outcomes.map fun o => o.deltas.worth id).sum

theorem gain_singleton (o : Outcome) (id : Json) : gain [o] id = o.deltas.worth id :=
  Int.add_zero _

theorem gain_cons (o : Outcome) (outcomes : List Outcome) (id : Json) :
    gain (o :: outcomes) id = o.deltas.worth id + gain outcomes id := rfl

theorem gain_perm {outcomes others : List Outcome} (perm : outcomes.Perm others) (id : Json) :
    gain outcomes id = gain others id :=
  (perm.map _).sum_eq

end Outcome

namespace Store

variable {s : Store} {o : Outcome}

/-! ## Scores -/

/-- The store after it has taken over outcomes: every score has grown by all points of its strategy,
and the records are at the end of the log. -/
def gained (s : Store) (outcomes : List Outcome) : Store :=
  (s.rescore fun t => .int (t.score.toInt?.getD 0 + Outcome.gain outcomes t.id)).append
    (outcomes.flatMap Outcome.records)

theorem strategies_gained (s : Store) (outcomes : List Outcome) :
    (s.gained outcomes).strategies = s.strategies.map fun t =>
      t.withScore (.int (t.score.toInt?.getD 0 + Outcome.gain outcomes t.id)) := rfl

theorem records_gained (s : Store) (outcomes : List Outcome) :
    (s.gained outcomes).records = s.records ++ outcomes.flatMap Outcome.records := rfl

theorem hasWholeScores_gained (s : Store) (outcomes : List Outcome) :
    (s.gained outcomes).HasWholeScores := by
  intro t ht
  obtain ⟨before, -, rfl⟩ := List.mem_map.1 ht
  exact ⟨_, rfl⟩

theorem unknown_gained (s : Store) (o : Outcome) (outcomes : List Outcome) :
    (s.gained outcomes).unknown o = s.unknown o := by
  rw [unknown, gained, keys_append, keys_rescore, unknown]

theorem gained_nil (whole : s.HasWholeScores) : s.gained [] = s := by
  refine ext ?_ (List.append_nil _)
  have same : ∀ t ∈ s.strategies, t.withScore (.int (t.score.toInt?.getD 0 + 0)) = t := by
    intro t ht
    obtain ⟨n, score⟩ := whole t ht
    rw [score, Int.add_zero]
    change t.withScore (.int n) = t
    rw [← score]
    rfl
  exact (List.map_congr_left same).trans (List.map_id _)

theorem gained_cons (s : Store) (o : Outcome) (outcomes : List Outcome) :
    (s.gained [o]).gained outcomes = s.gained (o :: outcomes) := by
  refine ext ?_ ?_
  · rw [strategies_gained, strategies_gained, strategies_gained, List.map_map]
    refine List.map_congr_left fun t _ => congrArg (fun n => t.withScore (.int n)) ?_
    change t.score.toInt?.getD 0 + Outcome.gain [o] t.id + Outcome.gain outcomes t.id = _
    rw [Outcome.gain_singleton, Outcome.gain_cons, Int.add_assoc]
  · rw [records_gained, records_gained, records_gained, List.flatMap_singleton, List.flatMap_cons,
      List.append_assoc]

/-- The order of outcomes does not matter to the strategies. -/
theorem strategies_gained_perm {outcomes others : List Outcome} (perm : outcomes.Perm others) :
    (s.gained outcomes).strategies = (s.gained others).strategies := by
  rw [strategies_gained, strategies_gained]
  exact List.map_congr_left fun t _ => by rw [Outcome.gain_perm perm]

/-! ## One outcome -/

theorem gained_singleton (s : Store) (o : Outcome) : s.gained [o] =
    (s.rescore fun t => .int (t.score.toInt?.getD 0 + o.deltas.worth t.id)).append o.records := by
  rw [gained, List.flatMap_singleton]
  simp only [Outcome.gain_singleton]

theorem apply_known (whole : s.HasWholeScores) (typed : o.IsTyped) (known : s.Knows o) :
    s.apply o = .ok (s.gained [o]) := by
  rw [apply_whole whole typed.whole, if_pos (unknown_eq_nil_iff.2 known), gained_singleton]

/-- What a store says to an outcome that it could write. -/
def verdict (s : Store) (o : Outcome) : Except Fault Unit :=
  if s.unknown o = [] then .ok () else .error (unknownFault o.kind (s.unknown o))

theorem verdict_gained (s : Store) (outcomes : List Outcome) :
    (s.gained outcomes).verdict = s.verdict := by
  funext o
  rw [verdict, unknown_gained, verdict]

theorem apply_unknown (unknown : ¬s.Knows o) :
    s.apply o = .error (unknownFault o.kind (s.unknown o)) := by
  rw [apply, if_neg (unknown_eq_nil_iff.not.2 unknown)]

/-- The fault of an outcome that gives points to others names all of these. -/
theorem unknownFault_typed {names : List Text} (named : o.deltas.ids = names.map .text) :
    unknownFault o.kind (s.unknown o) = .unknownStrategies o.kind.name
      ((names.filter fun name => .text name ∉ s.keys).mergeSort Text.noLater) := by
  have missing : s.unknown o = (names.filter fun name => .text name ∉ s.keys).map .text := by
    rw [unknown, named, List.filter_map]
    refine congrArg (List.map Json.text) (List.filter_congr fun name _ => ?_)
    rw [Function.comp_apply, Json.key_text]
  rw [unknownFault, missing, Json.texts?_map]

end Store

namespace Site

variable {site site' last : Site} {o : Outcome} {result : Except Fault Unit}

/-- The file of an arena, if it has one, could be written with a store in it. -/
def CanWrite (site : Site) (store : Store) : Prop :=
  ∀ p ∈ site.arena.file, ∃ host, Host.saveDocument store.toJson p site.host = (.ok (), host)

theorem commit_ok_iff {store : Store} : (commit store site).1 = .ok () ↔ site.CanWrite store := by
  rw [commit_eq, CanWrite]
  rcases site.arena.file with _ | p
  · exact iff_of_true rfl fun p held => nomatch held
  · unfold writeStore
    simp only [Option.mem_some_iff, forall_eq']
    rcases Host.saveDocument store.toJson p site.host with ⟨fault | _, host⟩
    · exact iff_of_false (nomatch ·) fun ⟨host, wrote⟩ => nomatch wrote
    · exact iff_of_true rfl ⟨host, rfl⟩

theorem applyOutcome_eq_commit {store : Store} (taken : site.arena.store.apply o = .ok store) :
    (applyOutcome o site).1 = (commit store site).1 := by
  unfold applyOutcome
  rw [Work.bind_of_ok (Work.get_apply site), taken, Work.lift_bind_ok, Work.bind_apply]
  rcases commit store site with ⟨_ | _, _⟩ <;> rfl

/-- What comes of an outcome that a site is asked to take over. -/
inductive TakesOver (site : Site) (o : Outcome) : Except Fault Unit → Site → Prop where
  | taken {site' : Site} : site.arena.store.Knows o → site.CanWrite (site.arena.store.gained [o]) →
      site'.arena.store = site.arena.store.gained [o] → TakesOver site o (.ok ()) site'
  | unwritten {site' : Site} {path : Text} {cause : Fault} : site.arena.store.Knows o →
      ¬site.CanWrite (site.arena.store.gained [o]) → site'.arena.store = site.arena.store →
      TakesOver site o (.error (.unwritableArena path cause)) site'
  | unknown : ¬site.arena.store.Knows o →
      TakesOver site o (.error (Store.unknownFault o.kind (site.arena.store.unknown o))) site

theorem applyOutcome_takesOver (whole : site.arena.store.HasWholeScores) (typed : o.IsTyped)
    (h : applyOutcome o site = (result, site')) : site.TakesOver o result site' := by
  by_cases known : site.arena.store.Knows o
  · have taken := Store.apply_known whole typed known
    have written : result = .ok () ↔ site.CanWrite (site.arena.store.gained [o]) := by
      rw [← commit_ok_iff, ← applyOutcome_eq_commit taken, h]
    obtain ⟨host, -, -, e⟩ | ⟨fault, host, -, -, ⟨p, cause, -, rfl⟩, e⟩ :=
      applyOutcome_settles taken <;> rw [h] at e <;> cases e
    · exact .taken known (written.1 rfl) rfl
    · exact .unwritten known (written.not.1 (nomatch ·)) rfl
  · have refused := applyOutcome_error (Store.apply_unknown known)
    rw [h] at refused
    cases refused
    exact .unknown known

/-! ## One outcome after another -/

/-- Outcomes that a site is asked to take over, with what comes of each, the first one first.
Between two of them anything may happen but to the arena. -/
inductive Offers : Site → List (Outcome × Except Fault Unit) → Site → Prop where
  | stop (site : Site) : Offers site [] site
  | next {site site1 site2 last : Site} {o : Outcome} {result : Except Fault Unit}
      {calls : List (Outcome × Except Fault Unit)} : site1.arena = site.arena →
      applyOutcome o site1 = (result, site2) → Offers site2 calls last →
      Offers site ((o, result) :: calls) last

variable {calls others : List (Outcome × Except Fault Unit)}

/-- The outcomes that have been taken over. -/
def accepted (calls : List (Outcome × Except Fault Unit)) : List Outcome :=
  (calls.filter fun call => call.2.isOk).map Prod.fst

/-- No call has failed because a file could not be written. -/
def AreWritten (calls : List (Outcome × Except Fault Unit)) : Prop :=
  ∀ o path cause, (o, .error (.unwritableArena path cause)) ∉ calls

theorem Offers.store (offers : site.Offers calls last) (whole : site.arena.store.HasWholeScores)
    (typed : ∀ o ∈ calls.map Prod.fst, o.IsTyped) (written : AreWritten calls) :
    (∀ call ∈ calls, call.2 = site.arena.store.verdict call.1) ∧
      last.arena.store = site.arena.store.gained (accepted calls) := by
  induction offers with
  | stop site => exact ⟨nofun, (Store.gained_nil whole).symm⟩
  | @next site site1 site2 last o result calls between asked later ih =>
    rw [← between] at whole ⊢
    have first := applyOutcome_takesOver whole (typed o List.mem_cons_self) asked
    have typed' := fun o ho => typed o (List.mem_cons_of_mem _ ho)
    have written' : AreWritten calls :=
      fun o path cause there => written o path cause (List.mem_cons_of_mem _ there)
    cases first with
    | taken known _ after =>
      obtain ⟨results, store⟩ := ih (after ▸ Store.hasWholeScores_gained _ _) typed' written'
      rw [after, Store.verdict_gained] at results
      rw [after, Store.gained_cons] at store
      refine ⟨List.forall_mem_cons.2 ⟨?_, results⟩, store⟩
      exact (if_pos (Store.unknown_eq_nil_iff.2 known)).symm
    | unwritten => exact absurd List.mem_cons_self (written _ _ _)
    | unknown unknown =>
      obtain ⟨results, store⟩ := ih whole typed' written'
      refine ⟨List.forall_mem_cons.2 ⟨?_, results⟩, store⟩
      exact (if_neg (Store.unknown_eq_nil_iff.not.2 unknown)).symm

theorem Offers.eq_map (offers : site.Offers calls last) (whole : site.arena.store.HasWholeScores)
    (typed : ∀ o ∈ calls.map Prod.fst, o.IsTyped) (written : AreWritten calls) :
    calls = (calls.map Prod.fst).map fun o => (o, site.arena.store.verdict o) := by
  have results := (offers.store whole typed written).1
  rw [List.map_map]
  refine (List.map_id calls).symm.trans (List.map_congr_left fun call there => ?_)
  exact Prod.ext rfl (results call there)

/-- What outcomes do to an arena. One goes through exactly if the store has everybody whom it gives
points and the file can be written; then each score grows by the points of its strategy, the records
come to the end of the log, and nothing else changes. One that does not go through is a fault of the
storage, which names those that the store does not have, and the store stays as it was. So if many
are handed over and all that are to be written can be, the store is in the end the one that has
gained those that went through; and in another order the same ones go through, and all strategies
have the same scores. -/
theorem outcomes_commute {site : Site} (whole : site.arena.store.HasWholeScores) :
    (∀ o : Outcome, o.IsTyped → ∀ result site', applyOutcome o site = (result, site') →
      (result = .ok () ↔
        site.arena.store.Knows o ∧ site.CanWrite (site.arena.store.gained [o])) ∧
      (result = .ok () →
        (site'.arena.store.strategies = site.arena.store.strategies.map fun t =>
          t.withScore (.int (t.score.toInt?.getD 0 + o.deltas.worth t.id))) ∧
        site'.arena.store.records = site.arena.store.records ++ o.records) ∧
      (∀ fault, result = .error fault →
        fault.family = .storage ∧ site'.arena.store = site.arena.store) ∧
      ∀ names : List Text, o.deltas.ids = names.map .text → ¬site.arena.store.Knows o →
        result = .error (.unknownStrategies o.kind.name
          ((names.filter fun name => .text name ∉ site.arena.store.keys).mergeSort
            Text.noLater)) ∧ site' = site) ∧
    ∀ calls others last last', site.Offers calls last → site.Offers others last' →
      (∀ o ∈ calls.map Prod.fst, o.IsTyped) → AreWritten calls → AreWritten others →
      (calls.map Prod.fst).Perm (others.map Prod.fst) →
      calls.Perm others ∧ last.arena.store = site.arena.store.gained (accepted calls) ∧
        last'.arena.store = site.arena.store.gained (accepted others) ∧
        last.arena.store.strategies = last'.arena.store.strategies := by
  refine ⟨fun o typed result site' asked => ?_,
    fun calls others last last' offers offers' typed written written' perm => ?_⟩
  · cases applyOutcome_takesOver whole typed asked with
    | taken known writes after =>
      refine ⟨iff_of_true rfl ⟨known, writes⟩, fun _ => ?_, nofun,
        fun _ _ unknown => absurd known unknown⟩
      rw [after, Store.gained_singleton]
      exact ⟨rfl, rfl⟩
    | unwritten known unwritten after =>
      refine ⟨iff_of_false nofun fun both => unwritten both.2, nofun, fun fault e => ?_,
        fun _ _ unknown => absurd known unknown⟩
      cases e
      exact ⟨rfl, after⟩
    | unknown unknown =>
      obtain ⟨names, named⟩ := typed.names
      refine ⟨iff_of_false nofun fun both => unknown both.1, nofun, fun fault e => ?_,
        fun names named _ => ⟨congrArg Except.error (Store.unknownFault_typed named), rfl⟩⟩
      cases e
      rw [Store.unknownFault_typed named]
      exact ⟨rfl, rfl⟩
  · have typed' : ∀ o ∈ others.map Prod.fst, o.IsTyped := fun o ho => typed o (perm.mem_iff.2 ho)
    have same : calls.Perm others := by
      rw [offers.eq_map whole typed written, offers'.eq_map whole typed' written']
      exact perm.map _
    have store := (offers.store whole typed written).2
    have store' := (offers'.store whole typed' written').2
    refine ⟨same, store, store', ?_⟩
    rw [store, store']
    exact Store.strategies_gained_perm ((same.filter _).map Prod.fst)

/-- The outcome of a match of one round between two built-in strategies. -/
def duel (id : Text) (first second : Builtin) (a b : Move) : Outcome where
  kind := .onSave
  deltas := [(.text first.name, .int (payoff a b).first),
    (.text second.name, .int (payoff a b).second)]
  records := [.ofMatch id .start2024 (unplayed first) (unplayed second) (Match.empty.extend a b)]
  newStrategyId := .text first.name
  startedAt := none
  finishedAt := none

/-- Two outcomes in both orders, and one whose last points go to somebody unknown. -/
theorem outcomes_commute_trio :
    let raid := duel "1" .titForTat .alwaysBetray .cooperate .betray
    let truce := duel "2" .titForTat .grudger .cooperate .cooperate
    let haunted := { truce with deltas := truce.deltas ++ [(.text "ghost", .int 3)] }
    trio.arena.store.HasWholeScores ∧ raid.IsTyped ∧ truce.IsTyped ∧ haunted.IsTyped ∧
    applyOutcome haunted trio = (.error (.unknownStrategies "on_save" ["ghost"]), trio) ∧
    ∃ last last', trio.Offers [(raid, .ok ()), (truce, .ok ())] last ∧
      trio.Offers [(truce, .ok ()), (raid, .ok ())] last' ∧
      last.arena.store.strategies.map Strategy.score = [.int 1, .int 2, .int 1] ∧
      last.arena.store.strategies = last'.arena.store.strategies ∧
      last.arena.store.records = raid.records ++ truce.records ∧
      last'.arena.store.records = truce.records ++ raid.records := by
  intro raid truce haunted
  have whole : trio.arena.store.HasWholeScores := by
    intro t ht
    obtain ⟨b, -, rfl⟩ := List.mem_map.1 ht
    exact ⟨_, rfl⟩
  have typed1 : raid.IsTyped :=
    Outcome.isTyped_of_pairs [("titForTat", 0), ("alwaysBetray", 2)] rfl
  have typed2 : truce.IsTyped :=
    Outcome.isTyped_of_pairs [("titForTat", 1), ("grudger", 1)] rfl
  have typed3 : haunted.IsTyped :=
    Outcome.isTyped_of_pairs [("titForTat", 1), ("grudger", 1), ("ghost", 3)] rfl
  obtain ⟨one, many⟩ := outcomes_commute whole
  have ghost : ¬trio.arena.store.Knows haunted := fun known =>
    absurd (Store.unknown_eq_nil_iff.2 known) (by decide +kernel)
  obtain ⟨-, -, -, refused⟩ := one haunted typed3 _ _ rfl
  obtain ⟨fault, same⟩ := refused ["titForTat", "grudger", "ghost"] rfl ghost
  have sorted : (List.filter (fun name => Json.text name ∉ trio.arena.store.keys)
      ["titForTat", "grudger", "ghost"]).mergeSort Text.noLater = ["ghost"] := by decide +kernel
  rw [sorted] at fault
  have forth : trio.Offers [(raid, .ok ()), (truce, .ok ())]
      (applyOutcome truce (applyOutcome raid trio).2).2 :=
    .next rfl rfl (.next rfl rfl (.stop _))
  have back : trio.Offers [(truce, .ok ()), (raid, .ok ())]
      (applyOutcome raid (applyOutcome truce trio).2).2 :=
    .next rfl rfl (.next rfl rfl (.stop _))
  have written {o o' : Outcome} : AreWritten [(o, .ok ()), (o', .ok ())] := by
    rintro _ _ _ there
    rcases List.mem_pair.1 there with e | e <;> cases e
  obtain ⟨-, store, store', strategies⟩ := many _ _ _ _ forth back
    (List.forall_mem_cons.2 ⟨typed1, List.forall_mem_cons.2 ⟨typed2, nofun⟩⟩) written written
    (.swap truce raid [])
  refine ⟨whole, typed1, typed2, typed3, Prod.ext fault same, _, _, forth, back, ?_, strategies,
    ?_, ?_⟩
  · rw [store]
    decide +kernel
  · rw [store]
    rfl
  · rw [store']
    rfl

end Site
end IteratedDilemma
