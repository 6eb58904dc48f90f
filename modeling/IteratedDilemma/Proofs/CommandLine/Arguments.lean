import Mathlib.Data.List.Infix
import IteratedDilemma.CommandLine.Options
import IteratedDilemma.Proofs.Json.Texts
import IteratedDilemma.Proofs.Number.Numerals

/-! What the options of a command line hold. Their texts are ends of arguments and their numbers are
read from them, so no text has two halves of a pair side by side if no argument has, and every
number is short enough to be written (`isLegible_of_run`). -/
namespace IteratedDilemma
set_option autoImplicit false

theorem Text.IsJoined.of_suffix {s t : Text} (joined : t.IsJoined) (h : s <:+ t) : s.IsJoined := by
  induction t with
  | nil =>
    rw [List.suffix_nil.1 h]
    trivial
  | cons c t ih =>
    rcases List.suffix_cons_iff.1 h with rfl | later
    · exact joined
    · refine ih ?_ later
      cases t with
      | nil => trivial
      | cons d t => exact joined.2

namespace CommandLine

/-- Options whose texts have no two halves of a pair side by side and whose numbers are short enough
to be written. -/
structure Options.IsLegible (o : Options) : Prop where
  arena : ∀ t ∈ o.arena, t.IsJoined
  outputDir : ∀ t ∈ o.outputDir, t.IsJoined
  seed : ∀ n ∈ o.seed, IntegerText.isWritable n = true
  rounds : ∀ n ∈ o.rounds, IntegerText.isWritable n = true

theorem Options.isLegible_default : Options.default.IsLegible where
  arena _ h := by cases h
  outputDir _ h := by cases h
  seed _ h := by cases h
  rounds _ h := by cases h

theorem isWritable_of_toOption {t : Text} {n : Int} (h : (IntegerText.read t).toOption = some n) :
    IntegerText.isWritable n = true := by
  rcases e : IntegerText.read t with fault | m <;> rw [e] at h <;> cases h
  exact IntegerText.isWritable_of_read e

/-- The value of one option changes that option alone. -/
theorem Options.IsLegible.set {flag : Flag} {o o' : Options} {value : Text} (legible : o.IsLegible)
    (joined : value.IsJoined) (h : flag.set o value = some o') : o'.IsLegible := by
  cases flag with
  | help | yes => cases h
  | mode | logLevel | limit =>
    obtain ⟨_, -, rfl⟩ := Option.map_eq_some_iff.1 h
    exact { legible with }
  | config | name | logicFile | author | authorId =>
    cases h
    exact { legible with }
  | arena =>
    cases h
    exact { legible with arena := fun t ht => Option.mem_some.1 ht ▸ joined }
  | outputDir =>
    cases h
    exact { legible with outputDir := fun t ht => Option.mem_some.1 ht ▸ joined }
  | seed =>
    obtain ⟨n, read, rfl⟩ := Option.map_eq_some_iff.1 h
    exact { legible with seed := fun m hm => Option.mem_some.1 hm ▸ isWritable_of_toOption read }
  | rounds =>
    obtain ⟨n, read, rfl⟩ := Option.map_eq_some_iff.1 h
    exact { legible with rounds := fun m hm => Option.mem_some.1 hm ▸ isWritable_of_toOption read }

/-- No text of a token has two halves of a pair side by side. -/
def Token.IsJoined : Token → Prop
  | .flag _ (some value) => value.IsJoined
  | .plain t => t.IsJoined
  | _ => True

theorem isJoined_cutAtEquals {argument value : Text} (joined : argument.IsJoined)
    (h : (cutAtEquals argument).2 = some value) : value.IsJoined := by
  unfold cutAtEquals at h
  dsimp only at h
  split at h
  · cases h
  · next c behind e =>
    cases h
    refine joined.of_suffix ((List.suffix_cons c value).trans ?_)
    rw [← e]
    exact List.dropWhile_suffix _

theorem isJoined_tokenOfFlag {rest argument : Text} {token : Token} (joined : argument.IsJoined)
    (h : tokenOfFlag rest argument = some token) : token.IsJoined := by
  unfold tokenOfFlag at h
  split at h
  · cases h
    split <;> trivial
  · dsimp only at h
    split at h
    · cases h
      rcases e : (cutAtEquals argument).2 with _ | value
      · trivial
      · exact isJoined_cutAtEquals joined e
    · cases h
    · cases h
      split
      · exact joined
      · trivial

theorem isJoined_tokenOf {argument : Text} {token : Token} (joined : argument.IsJoined)
    (h : tokenOf argument = some token) : token.IsJoined := by
  unfold tokenOf at h
  split at h
  · cases h
    trivial
  · split at h
    · cases h
      exact joined
    · exact isJoined_tokenOfFlag joined h

theorem isJoined_of_mem_tokens {arguments : List Text} {read : List Token}
    (joined : ∀ a ∈ arguments, a.IsJoined) (h : tokens arguments = some read) :
    ∀ token ∈ read, token.IsJoined := by
  induction arguments generalizing read with
  | nil =>
    cases h
    exact fun _ ht => absurd ht List.not_mem_nil
  | cons argument rest ih =>
    have first := joined argument List.mem_cons_self
    have others : ∀ a ∈ rest, a.IsJoined := fun a ha => joined a (List.mem_cons_of_mem _ ha)
    rw [tokens] at h
    split at h
    · cases h
      intro token ht
      rcases List.mem_cons.1 ht with rfl | ht
      · trivial
      · obtain ⟨t, there, rfl⟩ := List.mem_map.1 ht
        exact others t there
    · obtain ⟨token, one, h⟩ := Option.bind_eq_some_iff.1 h
      obtain ⟨more, later, h⟩ := Option.bind_eq_some_iff.1 h
      cases h
      intro other ht
      rcases List.mem_cons.1 ht with rfl | ht
      · exact isJoined_tokenOf first one
      · exact ih others later other ht

theorem isLegible_of_requestOf {tokens : List Token} {o o' : Options} {isStray : Bool}
    (legible : o.IsLegible) (joined : ∀ token ∈ tokens, token.IsJoined)
    (h : requestOf o isStray tokens = .run o') : o'.IsLegible := by
  fun_induction requestOf o isStray tokens with
  | case1 | case3 | case6 | case8 | case9 => cases h
  | case2 =>
    cases h
    exact legible
  | case4 o isStray rest ih =>
    exact ih { legible with } (fun t ht => joined t (List.mem_cons_of_mem _ ht)) h
  | case5 o isStray flag value rest o₁ set ih =>
    have value := joined _ List.mem_cons_self
    exact ih (legible.set value set) (fun t ht => joined t (List.mem_cons_of_mem _ ht)) h
  | case7 o isStray flag value rest _ _ o₁ set ih =>
    have value := joined _ (List.mem_cons_of_mem _ List.mem_cons_self)
    exact ih (legible.set value set)
      (fun t ht => joined t (List.mem_cons_of_mem _ (List.mem_cons_of_mem _ ht))) h
  | case10 o isStray head rest _ _ _ _ _ ih =>
    exact ih legible (fun t ht => joined t (List.mem_cons_of_mem _ ht)) h

/-- The options of arguments whose halves stand apart are legible. -/
theorem isLegible_of_run {arguments : List Text} {o : Options}
    (joined : ∀ a ∈ arguments, a.IsJoined) (h : Request.ofArguments arguments = .run o) :
    o.IsLegible := by
  unfold Request.ofArguments at h
  split at h
  · next tokens read =>
    exact isLegible_of_requestOf Options.isLegible_default (isJoined_of_mem_tokens joined read) h
  · cases h

end CommandLine
end IteratedDilemma
