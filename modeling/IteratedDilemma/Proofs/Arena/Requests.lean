import IteratedDilemma.Proofs.Arena.Names
import IteratedDilemma.Proofs.Store.Durable

/-! Requests to the store of an arena. A request that asks for a change plans one new store
(`Site.planned`) and commits it (`ask_planned`), so what becomes of it is what becomes of a commit
(`ask_settles`); every other request leaves the arena alone (`ask_unplanned`). -/
namespace IteratedDilemma
set_option autoImplicit false

namespace Store

/-- What may be asked of a store. -/
inductive Request where
  | add (name : Text) (tree : LogicTree) (authorId : Option Text) (author : Text)
  | apply (o : Outcome)
  | reset
  | clear
  | get (id : Json)
  | list
  | records (limit : Json)

inductive Answer where
  | done
  | added (new : Strategy)
  | found (s : Option Strategy)
  | listed (strategies : List Strategy)
  | logged (records : List MatchRecord)

/-- Whether the store is asked to change. -/
def Request.isChange : Request → Bool
  | add .. | apply _ | reset | clear => true
  | get _ | list | records _ => false

/-- Nothing is asked to be kept that a document does not hold unchanged: all texts are joined, the
points are no floating-point numbers, and the records are durable. -/
def Request.IsDurable : Request → Prop
  | add name tree authorId author =>
    name.IsJoined ∧ tree.IsJoined ∧ (∀ t ∈ authorId, t.IsJoined) ∧ author.IsJoined
  | apply o => (∀ points ∈ o.deltas.points, ∀ x, points ≠ .float x) ∧ ∀ r ∈ o.records, r.IsDurable
  | reset | clear | get _ | list | records _ => True

end Store

namespace Site

open Store (Answer Request)

def ask : Request → Work Site Answer
  | .add name tree authorId author =>
    return .added (← addStrategy (.text name) tree (.ofOption authorId) (.text author))
  | .apply o => do
    applyOutcome o
    return .done
  | .reset => do
    resetStore
    return .done
  | .clear => do
    clearStore
    return .done
  | .get id => do
    return .found (← ((← get).arena.store.find id : Except Fault (Option Strategy)))
  | .list => return .listed (← ranked)
  | .records limit => do
    let limit ← (Store.limitOf limit : Except Fault (Option Int))
    return .logged ((← get).arena.store.log limit)

/-! ## Plans -/

/-- What a request asks to be written, the host that is to write it, and the answer after that. -/
structure Plan where
  host : Host
  store : Store
  answer : Answer

def planned (site : Site) : Request → Option Plan
  | .add name tree authorId author =>
    let new := site.newcomer (.text name) tree (.ofOption authorId) (.text author)
    some ⟨site.host.nameStrategy.2, site.arena.store.add new, .added new⟩
  | .apply o => (site.arena.store.apply o).toOption.map fun store => ⟨site.host, store, .done⟩
  | .reset => some ⟨site.host, site.arena.store.reset, .done⟩
  | .clear => some ⟨site.host, .empty, .done⟩
  | .get _ | .list | .records _ => none

variable {site : Site} {request : Request} {plan : Plan}

theorem planned_apply {o : Outcome} (h : site.planned (.apply o) = some plan) :
    site.arena.store.apply o = .ok plan.store ∧ plan = ⟨site.host, plan.store, .done⟩ := by
  rcases applied : site.arena.store.apply o with fault | store <;>
    rw [planned, applied] at h <;> cases h
  exact ⟨rfl, rfl⟩

theorem refused_of_unplanned {o : Outcome} (h : site.planned (.apply o) = none) :
    ∃ fault, site.arena.store.apply o = .error fault := by
  rcases applied : site.arena.store.apply o with fault | store <;> rw [planned, applied] at h
  · exact ⟨fault, rfl⟩
  · cases h

/-- A request that plans a store commits it. -/
theorem ask_planned (h : site.planned request = some plan) : ∃ level text,
    ask request site = (do commit plan.store; log level text; return plan.answer : Work Site Answer)
      (site.after plan.host site.arena.store) := by
  cases request with
  | add name tree authorId author =>
    cases h
    have e := Work.bind_congr (addStrategy_apply site (.text name) tree (.ofOption authorId)
      (.text author)) fun new => pure (Answer.added new)
    simp only [bind_assoc, pure_bind] at e
    exact ⟨_, _, e⟩
  | apply o =>
    obtain ⟨applied, e⟩ := planned_apply h
    have committed : applyOutcome o site = (do
        commit plan.store
        log .info ("Committed " ++ o.kind.name ++
          s!" outcome: {o.records.length} records, {o.deltas.length} score updates") :
        Work Site Unit) site := by
      unfold applyOutcome
      rw [Work.bind_of_ok (Work.get_apply site), applied]
      rfl
    have e' := Work.bind_congr committed fun _ => pure Answer.done
    simp only [bind_assoc] at e'
    rw [e]
    exact ⟨_, _, e'⟩
  | reset =>
    cases h
    have committed : resetStore site = (do
        commit site.arena.store.reset
        log .info "All strategy scores reset to 0" : Work Site Unit) site := rfl
    have e := Work.bind_congr committed fun _ => pure Answer.done
    simp only [bind_assoc] at e
    exact ⟨_, _, e⟩
  | clear =>
    cases h
    have committed : clearStore site = (do
        commit .empty
        log .info "Arena cleared" : Work Site Unit) site := rfl
    have e := Work.bind_congr committed fun _ => pure Answer.done
    simp only [bind_assoc] at e
    exact ⟨_, _, e⟩
  | get _ | list | records _ => cases h

theorem ask_settles (h : site.planned request = some plan) :
    Settles site plan.host plan.store plan.answer (ask request site) := by
  obtain ⟨level, text, e⟩ := ask_planned h
  rw [e]
  exact commit_log_settles _ _ _ _ (site.after plan.host site.arena.store)

theorem disk_planned (h : site.planned request = some plan) : plan.host.disk = site.host.disk := by
  cases request with
  | add _ _ _ _ | reset | clear =>
    cases h
    rfl
  | apply o => rw [(planned_apply h).2]
  | get _ | list | records _ => cases h

theorem newcomer_congr {other : Site} (names : site.host.SameNames other.host) (name : Json)
    (tree : LogicTree) (authorId author : Json) :
    other.newcomer name tree authorId author = site.newcomer name tree authorId author := by
  simp only [newcomer, Host.nameStrategy, Host.universalNow, names.now, names.strategies]

/-- Two arenas with one store, clock and counts of names plan the same. -/
theorem planned_congr {other : Site} (names : site.host.SameNames other.host)
    (store : other.arena.store = site.arena.store) (h : site.planned request = some plan) :
    ∃ host, other.planned request = some { plan with host } ∧ plan.host.SameNames host := by
  cases request with
  | add name tree authorId author =>
    cases h
    refine ⟨other.host.nameStrategy.2, ?_, ?_⟩
    · rw [planned, newcomer_congr names, store]
    · exact ⟨names.now, congrArg Nat.succ names.strategies, names.records⟩
  | apply o =>
    obtain ⟨applied, e⟩ := planned_apply h
    rw [e]
    refine ⟨other.host, ?_, names⟩
    rw [planned, store, applied]
    rfl
  | reset =>
    cases h
    exact ⟨other.host, by rw [planned, store], names⟩
  | clear =>
    cases h
    exact ⟨other.host, rfl, names⟩
  | get _ | list | records _ => cases h

theorem isDurable_newcomer (site : Site) {name : Text} {tree : LogicTree} {authorId : Option Text}
    {author : Text} (joined : (Request.add name tree authorId author).IsDurable) :
    (site.newcomer (.text name) tree (.ofOption authorId) (.text author)).IsDurable where
  storable := site.isStorable_newcomer name tree authorId author
  joined := by
    obtain ⟨hname, htree, hauthorId, hauthor⟩ := joined
    have id : (Json.ofOption authorId).rejoined = .ofOption authorId := by
      cases authorId with
      | none => rfl
      | some t => exact Json.isJoined_text (hauthorId t rfl)
    rw [newcomer, Strategy.rejoined, id, LogicTree.rejoined_of_isJoined htree]
    simp only [Json.rejoined, Host.nameStrategy, Text.rejoined_ofString,
      Text.rejoined_of_isJoined hname, Text.rejoined_of_isJoined hauthor]

theorem isDurable_planned (durable : site.arena.store.IsDurable) (kept : request.IsDurable)
    (h : site.planned request = some plan) : plan.store.IsDurable := by
  cases request with
  | add _ _ _ _ =>
    cases h
    exact Store.isDurable_add durable (isDurable_newcomer site kept)
  | apply o => exact Store.isDurable_apply durable kept.1 kept.2 (planned_apply h).1
  | reset =>
    cases h
    exact Store.isDurable_rescore durable fun _ _ => ⟨0, rfl⟩
  | clear =>
    cases h
    exact Store.isDurable_empty
  | get _ | list | records _ => cases h

/-! ## Requests without a plan -/

theorem ask_get (id : Json) (site : Site) :
    ask (.get id) site = ((site.arena.store.find id).map .found, site) := by
  rw [ask, Work.bind_of_ok (Work.get_apply site)]
  cases site.arena.store.find id <;> rfl

theorem ask_list (site : Site) : ask .list site = (site.arena.store.ranked.map .listed, site) := by
  rw [ask, Work.bind_apply, ranked_apply]
  cases site.arena.store.ranked <;> rfl

theorem ask_records (limit : Json) (site : Site) :
    ask (.records limit) site =
      ((Store.limitOf limit).map fun n => .logged (site.arena.store.log n), site) := by
  rw [ask]
  cases Store.limitOf limit <;> rfl

theorem ask_refused_apply {o : Outcome} {fault : Fault}
    (h : site.arena.store.apply o = .error fault) :
    ask (.apply o) site = (.error fault, site) := Work.bind_of_error (applyOutcome_error h)

/-- What is answered without a plan depends on the store only. -/
theorem ask_unplanned (h : site.planned request = none) : ∃ result, ∀ other : Site,
    other.arena.store = site.arena.store → ask request other = (result, other) := by
  cases request with
  | add _ _ _ _ | reset | clear => cases h
  | apply o =>
    obtain ⟨fault, refused⟩ := refused_of_unplanned h
    exact ⟨_, fun other same => ask_refused_apply (same ▸ refused)⟩
  | get id => exact ⟨_, fun other same => by rw [ask_get, same]⟩
  | list => exact ⟨_, fun other same => by rw [ask_list, same]⟩
  | records limit => exact ⟨_, fun other same => by rw [ask_records, same]⟩

theorem ask_congr {other : Site} (look : request.isChange = false)
    (same : site.arena.store = other.arena.store) :
    (ask request site).1 = (ask request other).1 := by
  have unplanned : other.planned request = none := by
    cases request with
    | add _ _ _ _ | apply _ | reset | clear => cases look
    | get _ | list | records _ => rfl
  obtain ⟨result, asked⟩ := ask_unplanned unplanned
  rw [asked site same, asked other rfl]

theorem ask_refused (change : request.isChange = true) (h : site.planned request = none) :
    ∃ fault, ask request site = (.error fault, site) := by
  cases request with
  | add _ _ _ _ | reset | clear => cases h
  | apply o =>
    obtain ⟨fault, refused⟩ := refused_of_unplanned h
    exact ⟨fault, ask_refused_apply refused⟩
  | get _ | list | records _ => cases change

end Site
end IteratedDilemma
