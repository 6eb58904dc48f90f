import IteratedDilemma.Proofs.Arena.Commits
import IteratedDilemma.Proofs.Disk.Spelling
import IteratedDilemma.Proofs.Time.RoundTrip

/-! Exports of a grand tournament. They write files and name nothing (`Export.all_within`), so what
they change of a site is its host (`Site.exportOutcome_within`). The document of the outcome and two
tables are written (`Site.exportOutcome_holds`), and every other file is left alone
(`Site.exportOutcome_spares`). They are in the folder for results, or in the one that it stands for
if a `~` is at its head (`Export.parent_of_grandPaths`). -/
namespace IteratedDilemma
set_option autoImplicit false

namespace Export

theorem fetch_within {R : Host → Host → Prop} [IsPreorder Host R] (t : Text) :
    Work.Within R (Address.fetch t) := by
  unfold Address.fetch
  split
  · exact Work.within_pure _
  · refine Work.within_ite (Work.within_throw _) (Work.within_ite (Work.within_throw _)
      (Work.within_ite ?_ (Work.within_throw _)))
    refine Work.within_bind Work.within_get fun host => ?_
    split
    · exact Work.within_pure _
    · exact Work.within_throw _
    · exact Work.within_throw _
    · exact Work.within_throw _

section Keeps

variable {R : Host → Host → Prop} [IsPreorder Host R]

theorem writeTable_keeps {rows : List (List Text)} (written : ∀ p : Path,
      Work.Within R (Host.onDisk (Disk.writeLines p p.text (Csv.table rows)))) (p : Path) :
    Work.Within R (writeTable p rows) := by
  refine Work.within_ite (fetch_within _) (Work.within_bind Work.within_get fun host => ?_)
  have looked : Work.Within R (Host.inspect fun d => d.isFolder (p.expanded host.home).parent) :=
    fun host => refl_of R host
  refine Work.within_bind looked fun isFolder => ?_
  exact Work.within_ite (written _) (Work.within_throw _)

/-- An export keeps what writing a document and writing the two tables keep. -/
theorem all_keeps
    (outcomes : ∀ p o settings at_ stamp, Work.Within R
      (Host.changeDisk fun d => d.write p p.text (document o settings at_ stamp).write))
    (tables : ∀ (p : Path) (rows : List (List Text)),
      (∃ strategies, rows = standingRows strategies) ∨ (∃ played, rows = recordRows played) →
        Work.Within R (Host.onDisk (Disk.writeLines p p.text (Csv.table rows))))
    (said : ∀ level text, Work.Within R (Host.log level text)) (folder : Path) (o : Outcome)
    (strategies : List Strategy) (settings stamp : Json) :
    Work.Within R (all folder o strategies settings stamp) := by
  have first : Work.Within R (outcome folder o settings stamp) :=
    Work.within_bind Work.within_get fun _ => Work.within_bind (outcomes _ _ _ _ _) fun _ =>
      Work.within_bind (said _ _) fun _ => Work.within_pure _
  have second : Work.Within R (standings folder strategies stamp) :=
    Work.within_bind (Work.within_lift _) fun ranked =>
      Work.within_bind (writeTable_keeps (fun p => tables p _ (.inl ⟨ranked, rfl⟩)) _) fun _ =>
        Work.within_bind (said _ _) fun _ => Work.within_pure _
  have third : Work.Within R (records folder o.records stamp) :=
    Work.within_bind (writeTable_keeps (fun p => tables p _ (.inr ⟨_, rfl⟩)) _) fun _ =>
      Work.within_bind (said _ _) fun _ => Work.within_pure _
  exact Work.within_bind first fun _ => Work.within_bind second fun _ =>
    Work.within_bind third fun _ => Work.within_pure _

end Keeps

theorem all_within (folder : Path) (o : Outcome) (strategies : List Strategy)
    (settings stamp : Json) :
    Work.Within Host.SameNames (all folder o strategies settings stamp) :=
  all_keeps (fun _ _ _ _ _ => Host.onDisk_within _) (fun _ _ _ => Host.onDisk_within _)
    Host.log_within folder o strategies settings stamp

theorem openFolder_within (dir : Json) : Work.Within Host.SameNames (openFolder dir) :=
  Work.within_bind (Work.within_lift _) fun _ =>
    Work.within_bind (Host.onDisk_within _) fun _ => Work.within_pure _

end Export

namespace Site

variable {R : Site → Site → Prop} [IsPreorder Site R]

/-- An export keeps what its work on the host keeps. -/
theorem exportOutcome_keeps {Q : Host → Host → Prop} [IsPreorder Host Q]
    (opened : ∀ dir, Work.Within Q (Export.openFolder dir))
    (exported : ∀ folder o strategies settings stamp,
      Work.Within Q (Export.all folder o strategies settings stamp))
    (host : ∀ (site : Site) (host : Host), Q site.host host → R site { site with host })
    (o : Outcome) : Work.Within R (exportOutcome o) := by
  have onHost {α : Type} {work : Work Host α} (h : Work.Within Q work) :
      Work.Within R (onHost work) := fun site => host site _ (h site.host)
  refine Work.within_bind Work.within_get fun site => ?_
  refine Work.within_ite ?_ (Work.within_pure _)
  refine Work.within_bind (onHost (opened _)) fun folder => ?_
  refine Work.within_bind (fun s => ?_) fun strategies => ?_
  · rw [ranked_apply]
    exact refl_of _ _
  refine Work.within_bind (onHost ?_) fun stamp => ?_
  · exact Work.within_bind Work.within_get fun _ => Work.within_pure _
  · exact Work.within_bind (onHost (exported _ _ _ _ _)) fun _ => Work.within_pure _

/-- An export stays within all that is kept while the host keeps its clock and its names. -/
theorem exportOutcome_within
    (host : ∀ (site : Site) (host : Host), site.host.SameNames host → R site { site with host })
    (o : Outcome) : Work.Within R (exportOutcome o) :=
  exportOutcome_keeps Export.openFolder_within Export.all_within host o

end Site

/-! ## What an export writes and what it leaves alone -/

namespace Host

/-- A host on which all folders are still there, and at a place the same file or none as before. Its
home, if it is the one that is meant, has stayed the same. -/
def Spares (here : Place) (home : Path.Homes) (h h' : Host) : Prop :=
  h.home = home → h'.home = home ∧ h.disk.Spares here h'.disk

instance (here : Place) (home : Path.Homes) : IsPreorder Host (Spares here home) where
  refl _ at_home := ⟨at_home, refl_of _ _⟩
  trans _ _ _ ab bc := fun at_home =>
    ⟨(bc (ab at_home).1).1, trans_of _ (ab at_home).2 (bc (ab at_home).1).2⟩

variable {here : Place} {home : Path.Homes}

theorem log_spares (level : Level) (text : Text) :
    Work.Within (Spares here home) (log level text) :=
  fun _ at_home => ⟨at_home, refl_of (Disk.Spares here) _⟩

theorem onDisk_spares {α : Type} {work : Disk.Work α}
    (spares : ∀ d : Disk, d.Spares here (work d).2) : Work.Within (Spares here home) (onDisk work) :=
  fun host at_home => ⟨at_home, spares host.disk⟩

end Host

namespace Export

variable {here : Place} {folder p q : Path} {home : Path.Homes} {o : Outcome}
  {settings stamp : Json}

theorem writeTable_spares (apart : (p.expanded home).place ≠ here) (rows : List (List Text)) :
    Work.Within (Host.Spares here home) (writeTable p rows) := by
  refine Work.within_ite (fetch_within _) fun host at_home => ?_
  have written : Work.Within (Host.Spares here home) (writeTableAt (p.expanded home) rows) := by
    refine Work.within_bind (fun host => refl_of _ host) fun isFolder => ?_
    refine Work.within_ite (Host.onDisk_spares fun d => ?_) (Work.within_throw _)
    exact Disk.writeLines_keeps (fun _ _ => Disk.write_spares apart) d
  rw [Work.bind_of_ok (Work.get_apply host), at_home]
  exact written host at_home

/-- Where the table of the standings and that of the records are written. -/
def tables (folder : Path) (home : Path.Homes) (stamp : Json) : List Path :=
  [(folder.append (.ofText ("tournament_standings_" ++ stamp.plain ++ ".csv"))).expanded home,
    (folder.append (.ofText ("tournament_matches_" ++ stamp.plain ++ ".csv"))).expanded home]

theorem standings_spares (apart : ∀ q ∈ tables folder home stamp, q.place ≠ here)
    (strategies : List Strategy) :
    Work.Within (Host.Spares here home) (standings folder strategies stamp) :=
  Work.within_bind (Work.within_lift _) fun _ =>
    Work.within_bind (writeTable_spares (apart _ (.head _)) _) fun _ =>
      Work.within_bind (Host.log_spares _ _) fun _ => Work.within_pure _

theorem records_spares (apart : ∀ q ∈ tables folder home stamp, q.place ≠ here)
    (played : List MatchRecord) :
    Work.Within (Host.Spares here home) (records folder played stamp) :=
  Work.within_bind (writeTable_spares (apart _ (.tail _ (.head _))) _) fun _ =>
    Work.within_bind (Host.log_spares _ _) fun _ => Work.within_pure _

/-- Where the document of an outcome is written. -/
def documentPath (folder : Path) (o : Outcome) (stamp : Json) : Path :=
  folder.append (.ofText ("tournament_" ++ o.kind.name ++ "_" ++ stamp.plain ++ ".json"))

theorem outcome_spares (apart : (documentPath folder o stamp).place ≠ here) :
    Work.Within (Host.Spares here home) (outcome folder o settings stamp) := by
  refine Work.within_bind Work.within_get fun host => Work.within_bind ?_ fun _ =>
    Work.within_bind (Host.log_spares _ _) fun _ => Work.within_pure _
  refine Host.onDisk_spares fun d => ?_
  unfold Disk.changing
  split
  · next d' written => exact Disk.write_spares apart written
  · exact refl_of _ _

theorem outcome_ok {host host' : Host} (h : outcome folder o settings stamp host = (.ok p, host')) :
    p = documentPath folder o stamp ∧ host'.home = host.home ∧
      host'.disk.HoldsFile p (document o settings host.localNow stamp).write := by
  unfold outcome at h
  rw [Work.bind_of_ok (Work.get_apply host)] at h
  obtain ⟨_, host1, written, h⟩ := Work.bind_eq_ok h
  rw [Host.changeDisk_apply] at written
  split at written
  · next disk changed =>
    cases written
    cases h
    exact ⟨rfl, rfl, Disk.write_ok changed⟩
  · cases written

/-- What has been written of an outcome is still there after the tables, written or not, unless one
of them goes to the same place. -/
theorem all_holds {host host' : Host}
    (written : outcome folder o settings stamp host = (.ok p, host'))
    (apart : ∀ q ∈ tables folder host.home stamp, q.place ≠ (documentPath folder o stamp).place)
    (strategies : List Strategy) :
    (all folder o strategies settings stamp host).2.disk.HoldsFile (documentPath folder o stamp)
      (document o settings host.localNow stamp).write := by
  obtain ⟨rfl, home, holds⟩ := outcome_ok written
  unfold all
  rw [Work.bind_of_ok written]
  refine holds.spared (Work.within_bind (standings_spares apart strategies) (fun _ =>
    Work.within_bind (records_spares apart o.records) fun _ => Work.within_pure _) host' home).2

/-- The time of a host as exports put it into the names of files. -/
def stampOf (host : Host) : Json := .text (Text.ofString host.localNow.compactText)

theorem stampOf_congr {host host' : Host} (now : host'.now = host.now) :
    stampOf host' = stampOf host := by
  rw [stampOf, stampOf, Host.localNow, Host.localNow, Host.universalNow, Host.universalNow, now]

theorem stamp_ok {host host' : Host} {t : Text} (h : Export.stamp host = (.ok t, host')) :
    Json.text t = stampOf host ∧ host' = host := by
  have stamped : Export.stamp host = (.ok (Text.ofString host.localNow.compactText), host) := rfl
  obtain ⟨value, state⟩ := Prod.mk.inj (stamped.symm.trans h)
  exact ⟨congrArg Json.text (Except.ok.inj value).symm, state.symm⟩

/-- Where an export writes the document of an outcome and its tables. -/
def paths (folder : Path) (home : Path.Homes) (o : Outcome) (stamp : Json) : List Path :=
  documentPath folder o stamp :: tables folder home stamp

/-- Where the exports of a grand tournament are written. -/
def grandPaths (folder : Path) (home : Path.Homes) (stamp : Json) : List Path :=
  folder.append (.ofText ("tournament_grand_" ++ stamp.plain ++ ".json")) ::
    tables folder home stamp

theorem paths_of_grand (kind : o.kind = .grand) :
    paths folder home o stamp = grandPaths folder home stamp := by
  rw [paths, documentPath, kind]
  rfl

/-- An export leaves alone what is at a place to which none of its files goes. -/
theorem all_spares (apart : ∀ q ∈ paths folder home o stamp, q.place ≠ here)
    (strategies : List Strategy) :
    Work.Within (Host.Spares here home) (all folder o strategies settings stamp) := by
  have tables (q : Path) (hq : q ∈ tables folder home stamp) : q.place ≠ here :=
    apart q (List.mem_cons_of_mem _ hq)
  exact Work.within_bind (outcome_spares (apart _ List.mem_cons_self)) fun _ =>
    Work.within_bind (standings_spares tables strategies) fun _ =>
      Work.within_bind (records_spares tables o.records) fun _ => Work.within_pure _

theorem openFolder_spares (dir : Json) : Work.Within (Host.Spares here home) (openFolder dir) :=
  Work.within_bind (Work.within_lift _) fun folder =>
    Work.within_bind (Host.onDisk_spares fun d => (Disk.makeFolders_grows folder d).spares here)
      fun _ => Work.within_pure _

theorem openFolder_ok {dir : Json} {host host' : Host}
    (h : openFolder dir host = (.ok folder, host')) : Path.ofJson dir = .ok folder := by
  unfold openFolder at h
  rcases opened : Path.ofJson dir with fault | found
  · rw [opened] at h
    cases h
  · rw [opened, Work.lift_bind_ok] at h
    obtain ⟨_, _, _, h⟩ := Work.bind_eq_ok h
    cases h
    rfl

/-! ## In which folder exports are -/

/-- The time in the name of a file has no slash. -/
theorem slash_notMem_stampOf (host : Host) : CodePoint.ofChar '/' ∉ (stampOf host).plain := by
  have digits (width n : Nat) : '/' ∉ (Timestamp.padded width n).toList := fun slash =>
    absurd (Timestamp.isDigit_padded _ slash) (by decide)
  have year (n : Nat) : '/' ∉ (toString n).toList := by
    have shown : (toString n).toList = Nat.toDigits 10 n := String.toList_ofList
    rw [shown]
    exact fun slash => absurd (Json.isDigit_of_mem_toDigits slash) (by decide)
  have text : '/' ∉ host.localNow.compactText.toList := by
    simp only [Timestamp.compactText, String.toList_append, List.mem_append, digits, year, or_false,
      false_or]
    decide
  intro slash
  obtain ⟨c, hc, e⟩ := List.mem_map.1 slash
  have same : c = '/' := Option.some.inj (by
    rw [← CodePoint.char?_ofChar, e, CodePoint.char?_ofChar])
  exact text (same ▸ hc)

/-- The name of an export is a path of one part, at whose head is no `~`. -/
theorem ofText_export {beginning ending : Text}
    (letter : beginning.head? = some (CodePoint.ofChar 't'))
    (before : CodePoint.ofChar '/' ∉ beginning) (behind : CodePoint.ofChar '/' ∉ ending)
    (apart : CodePoint.ofChar '/' ∉ stamp.plain) :
    Path.ofText (beginning ++ stamp.plain ++ ending) =
        ⟨0, [beginning ++ stamp.plain ++ ending]⟩ ∧
      Path.user? (beginning ++ stamp.plain ++ ending) = none := by
  rcases beginning with _ | ⟨c, rest⟩
  · cases letter
  · obtain rfl : c = CodePoint.ofChar 't' := Option.some.inj letter
    refine ⟨Path.ofText_name (List.cons_ne_nil _ _) (fun e => ?_) ?_, rfl⟩
    · exact absurd (List.head_eq_of_cons_eq e) (by decide)
    · simp only [List.mem_append, before, apart, behind, or_self, not_false_eq_true]

/-- Tables go to the folder for results, or to what it stands for if a `~` is at its head. -/
theorem parent_of_tables (apart : CodePoint.ofChar '/' ∉ stamp.plain)
    (h : q ∈ tables folder home stamp) : q.parent = folder.expanded home := by
  simp only [tables, List.mem_cons, List.not_mem_nil, or_false] at h
  rcases h with rfl | rfl
  · obtain ⟨path, plain⟩ :=
      @ofText_export stamp "tournament_standings_" ".csv" rfl (by decide) (by decide) apart
    rw [path, Path.expanded_append _ plain, Path.parent_append]
  · obtain ⟨path, plain⟩ :=
      @ofText_export stamp "tournament_matches_" ".csv" rfl (by decide) (by decide) apart
    rw [path, Path.expanded_append _ plain, Path.parent_append]

/-- The document of a grand tournament goes to the folder for results itself. -/
theorem parent_of_grandPaths (apart : CodePoint.ofChar '/' ∉ stamp.plain)
    (h : q ∈ grandPaths folder home stamp) :
    q.parent = folder ∨ q.parent = folder.expanded home := by
  rcases List.mem_cons.1 h with rfl | table
  · obtain ⟨path, -⟩ :=
      @ofText_export stamp "tournament_grand_" ".json" rfl (by decide) (by decide) apart
    rw [path]
    exact .inl (Path.parent_append _ _)
  · exact .inr (parent_of_tables apart table)

end Export

namespace Site

theorem onHost_eq {α : Type} {work : Work Host α} {site site' : Site} {r : Except Fault α}
    (h : onHost work site = (r, site')) : work site.host = (r, site'.host) := by
  cases h
  rfl

/-- The relation of `Host.Spares` between the hosts of two sites. -/
def Spares (here : Place) (home : Path.Homes) (s s' : Site) : Prop :=
  Host.Spares here home s.host s'.host

instance (here : Place) (home : Path.Homes) : IsPreorder Site (Spares here home) where
  refl s := refl_of (Host.Spares here home) s.host
  trans _ _ _ ab bc := trans_of (Host.Spares here home) ab bc

theorem onHost_spares {here : Place} {home : Path.Homes} {α : Type} {work : Work Host α}
    (h : Work.Within (Host.Spares here home) work) : Work.Within (Spares here home) (onHost work) :=
  fun s => h s.host

/-- An export leaves alone what is at a place to which none of its files goes. -/
theorem exportOutcome_spares {site : Site} {here : Place} {o : Outcome}
    (apart : site.arena.settings.exportResults.isTruthy = true →
      ∀ folder, Path.ofJson site.arena.settings.outputDir = .ok folder →
      ∀ q ∈ Export.paths folder site.host.home o (Export.stampOf site.host), q.place ≠ here) :
    Spares here site.host.home site (exportOutcome o site).2 := by
  unfold exportOutcome
  rw [Work.bind_of_ok (Work.get_apply site)]
  split
  · next asked =>
    have first : Spares here site.host.home site
        (onHost (Export.openFolder site.arena.settings.outputDir) site).2 :=
      onHost_spares (Export.openFolder_spares _) site
    have clock : site.host.SameNames
        (onHost (Export.openFolder site.arena.settings.outputDir) site).2.host :=
      Export.openFolder_within _ site.host
    rcases e : onHost (Export.openFolder site.arena.settings.outputDir) site with
      ⟨fault | folder, made⟩ <;> rw [e] at first clock
    · rw [Work.bind_of_error e]
      exact first
    rw [Work.bind_of_ok e]
    refine trans_of (Spares here site.host.home) first ?_
    rcases listed : ranked made with ⟨fault | strategies, site1⟩
    · rw [Work.bind_of_error listed, (ranked_eq listed).2]
      exact refl_of (Spares here site.host.home) made
    rw [Work.bind_of_ok listed, (ranked_eq listed).2]
    have stamped : onHost Export.stamp made =
        (.ok (Text.ofString made.host.localNow.compactText), made) := rfl
    have same : Json.text (Text.ofString made.host.localNow.compactText) =
        Export.stampOf site.host := Export.stampOf_congr clock.now
    rw [Work.bind_of_ok stamped, same]
    have opened := Export.openFolder_ok (onHost_eq e)
    exact Work.within_bind (onHost_spares (Export.all_spares (apart asked folder opened) strategies))
      (fun _ => Work.within_pure _) made
  · exact refl_of (Spares here site.host.home) site

/-- What an export has written of an outcome is there after it, whether its tables could be written
or not, unless one of them goes to the same place. -/
theorem exportOutcome_holds {site : Site} {o : Outcome} {folder p : Path} {host host' : Host}
    {strategies : List Strategy} (asked : site.arena.settings.exportResults.isTruthy = true)
    (opened : Export.openFolder site.arena.settings.outputDir site.host = (.ok folder, host))
    (ranked : site.arena.store.ranked = .ok strategies)
    (written : Export.outcome folder o site.arena.settings.toJson
      (.text (Text.ofString host.localNow.compactText)) host = (.ok p, host'))
    (apart : ∀ q ∈ Export.tables folder host.home (.text (Text.ofString host.localNow.compactText)),
      q.place ≠ p.place) :
    (exportOutcome o site).2.host.disk.HoldsFile p (Export.document o site.arena.settings.toJson
      host.localNow (.text (Text.ofString host.localNow.compactText))).write := by
  obtain ⟨rfl, -, -⟩ := Export.outcome_ok written
  have made : onHost (Export.openFolder site.arena.settings.outputDir) site =
      (.ok folder, { site with host }) := by
    unfold onHost
    rw [opened]
  have listed : Site.ranked { site with host } = (.ok strategies, { site with host }) := by
    rw [ranked_apply]
    exact congrArg (·, _) ranked
  have stamped : onHost Export.stamp { site with host } =
      (.ok (Text.ofString host.localNow.compactText), { site with host }) := rfl
  unfold exportOutcome
  rw [Work.bind_of_ok (Work.get_apply site), if_pos asked, Work.bind_of_ok made,
    Work.bind_of_ok listed, Work.bind_of_ok stamped]
  have all := Export.all_holds written apart strategies
  rw [Work.bind_apply]
  split
  · next e =>
    rw [onHost_eq e] at all
    exact all
  · next e =>
    rw [onHost_eq e] at all
    exact all

end Site
end IteratedDilemma
