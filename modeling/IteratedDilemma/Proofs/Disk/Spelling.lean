import Mathlib.Data.List.TakeWhile
import IteratedDilemma.Proofs.Disk.Files

/-! The spellings of a path. Many texts name one path: they have more slashes or single dots between
its parts. A text that ends in a part of the path leads where the path leads
(`Path.IsSpelling.readAt`), and the text of the path itself is such a text
(`Path.isSpelling_text`). A text without slashes is one name (`Path.ofText_name`). -/
namespace IteratedDilemma
set_option autoImplicit false

namespace Text

theorem encodingFault?_eq_none {isAllowed : CodePoint → Bool} {t : Text} :
    encodingFault? isAllowed t = none ↔ ∀ c ∈ t, (!c.isHalf || isAllowed c) = true := by
  rw [← List.dropWhile_eq_nil_iff]
  unfold encodingFault?
  dsimp only
  split
  · next e => exact ⟨fun _ => e, fun _ => rfl⟩
  · next e =>
    constructor
    · intro h
      cases h
    · intro h
      rw [h] at e
      cases e

theorem mem_intercalate {between : Text} {parts : List Text} {part : Text} {c : CodePoint}
    (hpart : part ∈ parts) (hc : c ∈ part) : c ∈ between.intercalate parts := by
  induction parts with
  | nil => cases hpart
  | cons first rest ih =>
    cases rest with
    | nil =>
      rw [List.mem_singleton.1 hpart] at hc
      rw [List.intercalate_singleton]
      exact hc
    | cons next rest =>
      rw [List.intercalate_cons_cons, List.mem_append, List.mem_append]
      rcases List.mem_cons.1 hpart with rfl | later
      · exact .inl (.inl hc)
      · exact .inr (ih later)

theorem of_mem_intercalate {between : Text} {parts : List Text} {c : CodePoint}
    (h : c ∈ between.intercalate parts) : c ∈ between ∨ ∃ part ∈ parts, c ∈ part := by
  induction parts with
  | nil => cases h
  | cons first rest ih =>
    cases rest with
    | nil =>
      rw [List.intercalate_singleton] at h
      exact .inr ⟨first, List.mem_cons_self, h⟩
    | cons next rest =>
      rw [List.intercalate_cons_cons, List.mem_append, List.mem_append] at h
      rcases h with (inFirst | inBetween) | later
      · exact .inr ⟨first, List.mem_cons_self, inFirst⟩
      · exact .inl inBetween
      · exact (ih later).imp_right fun ⟨part, hpart, hc⟩ =>
          ⟨part, List.mem_cons_of_mem _ hpart, hc⟩

end Text

namespace Path

/-! ## Segments -/

theorem segments_eq (t : Text) : segments t = t.splitOn (CodePoint.ofChar '/') := by
  induction t with
  | nil => rfl
  | cons c rest ih =>
    rw [List.splitOn_cons_eq_if_modifyHead, ← ih, segments]
    by_cases slash : c = '/'
    · rw [if_pos slash, if_pos (beq_iff_eq.2 slash)]
    · rw [if_neg slash, if_neg (by rw [beq_iff_eq]; exact slash)]
      rcases e : segments rest with _ | ⟨first, more⟩
      · rw [ih] at e
        exact absurd e (List.splitOn_ne_nil _ _)
      · rfl

theorem intercalate_segments (t : Text) : Text.joined "/" (segments t) = t := by
  rw [segments_eq]
  exact List.intercalate_splitOn _

theorem slash_notMem_segments {t part : Text} (h : part ∈ segments t) :
    CodePoint.ofChar '/' ∉ part := by
  induction t generalizing part with
  | nil =>
    rw [List.mem_singleton.1 h]
    exact List.not_mem_nil
  | cons c rest ih =>
    rw [segments] at h
    split at h
    · rcases List.mem_cons.1 h with rfl | later
      · exact List.not_mem_nil
      · exact ih later
    · next other =>
      split at h
      · rw [List.mem_singleton.1 h, List.mem_singleton]
        exact fun e => other e.symm
      · next first more e =>
        rw [e] at ih
        rcases List.mem_cons.1 h with rfl | later
        · intro slash
          rcases List.mem_cons.1 slash with e | earlier
          · exact other e.symm
          · exact ih List.mem_cons_self earlier
        · exact ih (List.mem_cons_of_mem _ later)

theorem mem_parts {t part : Text} :
    part ∈ (ofText t).parts ↔ part ∈ segments t ∧ part ≠ [] ∧ part ≠ "." := by
  rw [ofText, List.mem_filter, decide_eq_true_eq]

theorem mem_of_mem_text {t : Text} {c : CodePoint} (h : c ∈ t) :
    c = '/' ∨ c = '.' ∨ ∃ part ∈ (ofText t).parts, c ∈ part := by
  rw [← intercalate_segments t] at h
  rcases Text.of_mem_intercalate h with slash | ⟨part, hpart, hc⟩
  · exact .inl (List.mem_singleton.1 slash)
  · refine .inr ?_
    by_cases dot : part = "."
    · rw [dot] at hc
      exact .inl (List.mem_singleton.1 hc)
    · refine .inr ⟨part, mem_parts.2 ⟨hpart, ?_, dot⟩, hc⟩
      rintro rfl
      cases hc

theorem mem_text {p : Path} {part : Text} {c : CodePoint} (hpart : part ∈ p.parts) (hc : c ∈ part) :
    c ∈ p.text := by
  rw [text, if_neg]
  · exact List.mem_append_right _ (Text.mem_intercalate hpart hc)
  · rintro ⟨-, none⟩
    rw [List.isEmpty_iff.1 none] at hpart
    cases hpart

end Path

namespace Disk

theorem folder_of_walk {d : Disk} {part : Text} {rest : List Text} {here there : Place}
    (h : d.walk here (part :: rest) = .ok there) : d.node? here = some .folder := by
  rw [walk] at h
  split at h
  · cases h
  · cases h
  · next folder => exact folder

/-- Single dots before the last part of a way lead nowhere. -/
theorem walk_dots {d : Disk} {segments : List Text} {here there : Place}
    (ends : ∀ part ∈ segments.getLast?, part ≠ [] ∧ part ≠ ".")
    (h : d.walk here (segments.filter fun part => part ≠ [] ∧ part ≠ ".") = .ok there) :
    d.walk here (segments.map fun part => if part.isEmpty then "." else part) = .ok there := by
  induction segments generalizing here with
  | nil => exact h
  | cons first rest ih =>
    have later : ∀ part ∈ rest.getLast?, part ≠ [] ∧ part ≠ "." := by
      intro part hpart
      refine ends part ?_
      rw [List.getLast?_cons, hpart]
      rfl
    by_cases named : first ≠ [] ∧ first ≠ "."
    · rw [List.filter_cons, if_pos (decide_eq_true named)] at h
      rw [List.map_cons, if_neg (fun none => named.1 (List.isEmpty_iff.1 none))]
      have folder := folder_of_walk h
      rw [walk, folder] at h ⊢
      dsimp only at h ⊢
      split at h
      · cases h
      · next fits =>
        rw [if_neg fits]
        exact ih later h
    · rw [List.filter_cons, if_neg (by rw [decide_eq_true_eq]; exact named)] at h
      have dot : (if first.isEmpty then (Text.ofString ".") else first) = Text.ofString "." := by
        by_cases none : first = []
        · rw [none]
          rfl
        · rw [if_neg (fun e => none (List.isEmpty_iff.1 e))]
          by_contra other
          exact named ⟨none, other⟩
      have folder : d.node? here = some .folder := by
        rcases e : rest.getLast? with _ | last
        · refine absurd (ends first ?_) named
          rw [List.getLast?_cons, e]
          rfl
        · have kept : last ∈ rest.filter fun part => part ≠ [] ∧ part ≠ "." :=
            List.mem_filter.2 ⟨List.mem_of_getLast? e, decide_eq_true (later last e)⟩
          rcases some : rest.filter fun part => part ≠ [] ∧ part ≠ "." with _ | ⟨part, parts⟩
          · rw [some] at kept
            cases kept
          · rw [some] at h
            exact folder_of_walk h
      have short : ¬nameLimit < (Text.ofString ".").nameSize := by decide
      have still : here.step (Text.ofString ".") = here := if_pos rfl
      rw [List.map_cons, dot, walk, folder]
      dsimp only
      rw [if_neg short, still]
      exact ih later h

end Disk

namespace Path

/-- A text that names a path, ends in a part of it, and is no longer than the name of a file can
be. -/
structure IsSpelling (p : Path) (t : Text) : Prop where
  names : ofText t = p
  ends : ∀ part ∈ (segments t).getLast?, part ≠ [] ∧ part ≠ "."
  fits : t.nameSize ≤ Disk.pathLimit

theorem IsSpelling.find {p : Path} {t : Text} (spelling : p.IsSpelling t) {d : Disk} {here : Place}
    (h : d.find p p.text = .ok here) : d.find (.verbatim t) t = .ok here := by
  have walk : d.walk (.start (verbatim t)) (verbatim t).parts = .ok here := by
    refine Disk.walk_dots spelling.ends ?_
    have found := Disk.find_ok h
    rw [← spelling.names] at found
    exact found
  have inText {c : CodePoint} (hc : c ∈ t) : c = '/' ∨ c = '.' ∨ c ∈ p.text := by
    rcases mem_of_mem_text hc with slash | dot | ⟨part, hpart, hc⟩
    · exact .inl slash
    · exact .inr (.inl dot)
    · rw [spelling.names] at hpart
      exact .inr (.inr (mem_text hpart hc))
  unfold Disk.find at h ⊢
  split at h
  · cases h
  · next fine =>
    have alsoFine : t.nameFault? = none := by
      rw [Text.nameFault?, Text.encodingFault?_eq_none] at fine ⊢
      intro c hc
      rcases inText hc with rfl | rfl | hc
      · rfl
      · rfl
      · exact fine c hc
    rw [alsoFine]
    dsimp only
    split at h
    · cases h
    · next noNull =>
      have alsoNoNull : ¬t.contains (.ofNat 0) = true := by
        intro null
        rcases inText (List.contains_iff_mem.1 null) with e | e | hc
        · cases e
        · cases e
        · exact noNull (List.contains_iff_mem.2 hc)
      rw [if_neg alsoNoNull, if_neg (Nat.not_lt.2 spelling.fits), walk]

theorem IsSpelling.readAt {p : Path} {t : Text} (spelling : p.IsSpelling t) {d : Disk}
    {text : String} (holds : d.HoldsFile p text) : d.readAt t = .ok text := by
  have some : t.isEmpty = false := by
    cases t with
    | nil => exact absurd rfl (spelling.ends [] rfl).1
    | cons c rest => rfl
  rw [Disk.readAt, some, if_neg Bool.false_ne_true, Disk.read, spelling.find holds.1, ok_bind,
    holds.2]
  rfl

/-! ## The text of a path -/

theorem segments_slashes (count : Nat) (t : Text) :
    segments (Text.repeated count '/' ++ t) = List.replicate count [] ++ segments t := by
  induction count with
  | zero => rfl
  | succ count ih =>
    rw [Text.repeated, List.replicate_succ, List.cons_append, segments, if_pos rfl,
      List.replicate_succ, List.cons_append, ← ih]
    rfl

theorem leadingSlashes_le (t : Text) : leadingSlashes t ≤ 2 := by
  unfold leadingSlashes
  dsimp only
  split <;> omega

theorem leadingSlashes_append {count : Nat} (small : count ≤ 2) {t : Text}
    (other : ∀ c ∈ t.head?, c ≠ '/') :
    leadingSlashes (Text.repeated count '/' ++ t) = count := by
  have here : t.takeWhile (fun c => c == CodePoint.ofChar '/') = [] := by
    cases t with
    | nil => rfl
    | cons c rest => rw [List.takeWhile_cons_of_neg (by rw [beq_iff_eq]; exact other c rfl)]
  have slashes : (Text.repeated count '/' ++ t).takeWhile (fun c => c == CodePoint.ofChar '/') =
      Text.repeated count '/' := by
    rw [List.takeWhile_append_of_pos fun c hc => beq_iff_eq.2 (List.eq_of_mem_replicate hc), here,
      List.append_nil]
  rw [leadingSlashes, slashes, Text.repeated, List.length_replicate]
  exact if_pos small

theorem segments_joined {parts : List Text} (some : parts ≠ [])
    (apart : ∀ part ∈ parts, CodePoint.ofChar '/' ∉ part) :
    segments (Text.joined "/" parts) = parts := by
  rw [segments_eq]
  exact List.splitOn_intercalate _ apart some

/-- The text of a path that is named by a text is a spelling of it. -/
theorem isSpelling_text {name : Text} (some : (ofText name).parts ≠ [])
    (fits : (ofText name).text.nameSize ≤ Disk.pathLimit) :
    (ofText name).IsSpelling (ofText name).text := by
  have apart : ∀ part ∈ (ofText name).parts, CodePoint.ofChar '/' ∉ part :=
    fun part hpart => slash_notMem_segments (mem_parts.1 hpart).1
  have named : ∀ part ∈ (ofText name).parts, part ≠ [] ∧ part ≠ "." :=
    fun part hpart => (mem_parts.1 hpart).2
  have whole : (ofText name).text =
      Text.repeated (ofText name).slashes '/' ++ Text.joined "/" (ofText name).parts :=
    if_neg fun none => some (List.isEmpty_iff.1 none.2)
  have cut : segments (ofText name).text =
      List.replicate (ofText name).slashes [] ++ (ofText name).parts := by
    rw [whole, segments_slashes, segments_joined some apart]
  have start : leadingSlashes (ofText name).text = (ofText name).slashes := by
    rw [whole]
    refine leadingSlashes_append (leadingSlashes_le name) fun c hc => ?_
    rcases e : (ofText name).parts with _ | ⟨first, rest⟩
    · exact absurd e some
    · rw [e] at hc apart named
      rcases first with _ | ⟨c', first⟩
      · exact absurd rfl (named [] List.mem_cons_self).1
      · have same : c' = c := by
          cases rest <;> exact Option.some.inj hc
        rintro rfl
        exact apart _ List.mem_cons_self (same ▸ List.mem_cons_self)
  refine ⟨?_, ?_, fits⟩
  · have parts : (ofText (ofText name).text).parts = (ofText name).parts := by
      rw [ofText, cut, List.filter_append, List.filter_eq_self.2 fun part hpart =>
        decide_eq_true (named part hpart), List.filter_eq_nil_iff.2, List.nil_append]
      intro part hpart
      rw [List.eq_of_mem_replicate hpart, decide_eq_true_eq]
      exact fun h => h.1 rfl
    rcases h : ofText (ofText name).text with ⟨slashes, parts'⟩
    rw [h] at parts
    have slashes : (ofText (ofText name).text).slashes = (ofText name).slashes := start
    rw [h] at slashes
    dsimp only at parts slashes
    rw [parts, slashes]
  · intro part hpart
    rw [cut] at hpart
    rw [List.getLast?_append_of_ne_nil _ some] at hpart
    exact named part (List.mem_of_getLast? hpart)

/-! ## One name behind a folder -/

/-- A name without slashes is a path of one part. -/
theorem ofText_name {name : Text} (some : name ≠ []) (other : name ≠ ".")
    (apart : CodePoint.ofChar '/' ∉ name) : ofText name = ⟨0, [name]⟩ := by
  have single : segments name = [name] := by
    have joined := @segments_joined [name] (List.cons_ne_nil _ _) fun part hpart => by
      rw [List.mem_singleton.1 hpart]
      exact apart
    rwa [Text.joined, List.intercalate_singleton] at joined
  have start : leadingSlashes name = 0 :=
    leadingSlashes_append (Nat.zero_le 2) fun c hc => by
      rintro rfl
      exact apart (List.mem_of_mem_head? hc)
  rw [ofText, single, start, List.filter_cons_of_pos (by simp [some, other]), List.filter_nil]

theorem parent_append (folder : Path) (name : Text) :
    (folder.append ⟨0, [name]⟩).parent = folder := by
  rw [append, if_pos rfl, parent, List.dropLast_concat]

theorem expanded_cons (first : Text) (rest : List Text) (home : Homes) :
    (⟨0, first :: rest⟩ : Path).expanded home =
      ((user? first).bind home).elim ⟨0, first :: rest⟩ fun folder => folder.append ⟨0, rest⟩ := rfl

/-- A name behind a folder makes no difference to what a `~` at its head stands for. -/
theorem expanded_append (folder : Path) {name : Text} (plain : user? name = none) (home : Homes) :
    (folder.append ⟨0, [name]⟩).expanded home = (folder.expanded home).append ⟨0, [name]⟩ := by
  rcases folder with ⟨_ | slashes, _ | ⟨first, rest⟩⟩
  · have alone : (⟨0, [name]⟩ : Path).expanded home = ⟨0, [name]⟩ := by
      rw [expanded_cons, plain]
      rfl
    exact alone
  · change (⟨0, first :: (rest ++ [name])⟩ : Path).expanded home = _
    rw [expanded_cons, expanded_cons]
    rcases (user? first).bind home with _ | found
    · rfl
    · exact congrArg (Path.mk _) (List.append_assoc _ _ _).symm
  · rfl
  · rfl

end Path
end IteratedDilemma
