import IteratedDilemma.Proofs.Arena.Commits
import IteratedDilemma.Proofs.Store.RoundTrip

/-! The identifiers that a host gives to strategies and to records. They are texts, one for each
number, so the next one is none of those before it (`not_hasNamed_next`), and no record has that of
a strategy (`recordId_ne_strategyId`). -/
namespace IteratedDilemma
set_option autoImplicit false

theorem Text.ofString_injective {s t : String} (h : Text.ofString s = Text.ofString t) : s = t := by
  have e := congrArg Text.toString? h
  rw [Text.toString?_ofString, Text.toString?_ofString] at e
  exact Option.some.inj e

namespace Host

/-- The identifier of a strategy by its number, 0 for the first. -/
def strategyId (n : Nat) : Json := .text (Text.ofString s!"s{n + 1}")

/-- The identifier of a record by its number, 0 for the first. -/
def recordId (n : Nat) : Text := Text.ofString s!"r{n + 1}"

theorem numbered_injective {kind : String} {m n : Nat}
    (h : Text.ofString (toString kind ++ toString (m + 1)) =
      Text.ofString (toString kind ++ toString (n + 1))) : m = n := by
  have texts := Text.ofString_injective h
  have digits : Nat.toDigits 10 (m + 1) = Nat.toDigits 10 (n + 1) := by
    simpa using congrArg String.toList texts
  have values := congrArg (fun cs => Nat.ofDigitChars 10 cs 0) digits
  simp only [Nat.ofDigitChars_ten_toDigits] at values
  omega

theorem strategyId_injective {m n : Nat} (h : strategyId m = strategyId n) : m = n :=
  numbered_injective (Json.text.inj h)

theorem recordId_injective {m n : Nat} (h : recordId m = recordId n) : m = n :=
  numbered_injective h

theorem recordId_ne_strategyId (m n : Nat) : Json.text (recordId m) ≠ strategyId n := by
  intro h
  have texts := Text.ofString_injective (Json.text.inj h)
  have letters := congrArg String.toList texts
  rw [String.toList_append, String.toList_append] at letters
  exact absurd (List.cons.inj letters).1 (by decide)

/-- The host has given an identifier to a strategy. -/
def HasNamed (h : Host) (id : Json) : Prop := ∃ n < h.strategiesNamed, id = strategyId n

theorem HasNamed.mono {h h' : Host} {id : Json} (named : h.HasNamed id)
    (le : h.strategiesNamed ≤ h'.strategiesNamed) : h'.HasNamed id := by
  obtain ⟨n, hn, e⟩ := named
  exact ⟨n, Nat.lt_of_lt_of_le hn le, e⟩

theorem not_hasNamed_next (h : Host) : ¬h.HasNamed (strategyId h.strategiesNamed) := by
  rintro ⟨n, hn, e⟩
  exact absurd (strategyId_injective e) (Nat.ne_of_gt hn)

theorem HasNamed.key {h : Host} {id : Json} (named : h.HasNamed id) : id.key = id := by
  obtain ⟨n, -, rfl⟩ := named
  exact Json.key_text _

theorem HasNamed.asName {h : Host} {id : Json} (named : h.HasNamed id) : id.asName = .ok id := by
  obtain ⟨n, -, rfl⟩ := named
  rfl

theorem HasNamed.rejoined {h : Host} {id : Json} (named : h.HasNamed id) : id.rejoined = id := by
  obtain ⟨n, -, rfl⟩ := named
  rw [strategyId, Json.rejoined, Text.rejoined_ofString]

theorem HasNamed.key_ne_next {h : Host} {t new : Strategy} (named : h.HasNamed t.id)
    (next : new.id = strategyId h.strategiesNamed) : t.key ≠ new.key := by
  intro same
  have key : new.id.key = new.id := by rw [next]; exact Json.key_text _
  have e : t.id = new.id := by rw [← named.key, ← key]; exact same
  rw [e, next] at named
  exact h.not_hasNamed_next named

theorem universalNow_offset (h : Host) : h.universalNow.offset = some 0 := by
  unfold universalNow Timestamp.inUniversalTime
  split
  · assumption
  · unfold Timestamp.ofMoment
    split <;> rfl

end Host

theorem Site.isRankable_newcomer (site : Site) (name : Json) (tree : LogicTree)
    (authorId author : Json) :
    Standings.isRankable (site.newcomer name tree authorId author) = true := by
  change Timestamp.hasInstant site.host.universalNow = true
  rw [Timestamp.hasInstant, site.host.universalNow_offset]
  rfl

theorem Site.isStorable_newcomer (site : Site) (name : Text) (tree : LogicTree)
    (authorId : Option Text) (author : Text) :
    (site.newcomer (.text name) tree (.ofOption authorId) (.text author)).IsStorable where
  id := ⟨_, rfl⟩
  name _ := .text _ name
  author _ := .text _ author
  authorId _ := by
    cases authorId with
    | none => exact .null _
    | some t => exact .text _ t
  score := ⟨0, rfl⟩
  createdAt t ht := by
    cases ht
    exact Timestamp.survives_of_offset_zero site.host.universalNow_offset

/-- An arena without a file on a host that has just started, with nothing in it. -/
def Site.started : Site where
  host := .start .start2024
  arena := {
    store := .empty
    file := none
    settings := .default
    rounds := 20
    source := .ofSeed 0
    isHeld := false }
  noted := []

/-- An arena with a file on a host that has just started, with nothing in it. -/
def Site.startedOnFile : Site :=
  { Site.started with arena := { Site.started.arena with file := some (.ofText "arena.json") } }

end IteratedDilemma
