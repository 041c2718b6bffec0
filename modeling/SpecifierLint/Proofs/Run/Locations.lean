/-
Locations of violations.

A violation is reported under the path of its file and the line and the column of its literal.  Literals of
one source have different places, and a place can be read back from the text of a location, so no two
violations of a source are reported under the same location.  Main statements:

* **`Target.place_of_location`** — targets of one file with one location have one place;
* **`locations_faithful`** — places lead back to offsets, and no two violations share a location.
-/
import Mathlib.Data.List.Basic
import SpecifierLint.Proofs.Run.Mending
import SpecifierLint.Proofs.Source.Positions
import SpecifierLint.Proofs.Text.Decimal

namespace SpecifierLint

/-! ### Texts of locations -/

/-- The line and the column of two literals are written alike only if they are the same. -/
theorem place_of_position {x y : Source.Specifier}
    (h : Text.ofNat x.line ++ ":" ++ Text.ofInt x.column
      = Text.ofNat y.line ++ ":" ++ Text.ofInt y.column) :
    x.line = y.line ∧ x.column = y.column := by
  have hcolon : Text.ofNat x.line ++ ':' :: Text.ofInt x.column
      = Text.ofNat y.line ++ ':' :: Text.ofInt y.column := by
    rw [List.append_assoc, List.append_assoc] at h
    exact h
  rw [List.append_cons_inj_of_notMem (Text.colon_not_mem_ofNat x.line)
    (Text.colon_not_mem_ofInt x.column)] at hcolon
  exact ⟨Text.ofNat_injective hcolon.1, Text.ofInt_injective hcolon.2.2⟩

/-- Targets of one file with one location have one place. -/
theorem Target.place_of_location {t u : Target} (hpath : t.sourcePath = u.sourcePath)
    (h : t.location = u.location) :
    t.place.line = u.place.line ∧ t.place.column = u.place.column := by
  rw [Target.location, Target.location, hpath] at h
  cases hsource : u.sourcePath with
  | none =>
    rw [hsource] at h
    exact place_of_position h
  | some path =>
    rw [hsource] at h
    dsimp only at h
    by_cases hnil : path.isEmpty = true
    · rw [if_pos hnil, if_pos hnil] at h
      exact place_of_position h
    · -- the path and the colon behind it are the same in both locations
      rw [if_neg hnil, if_neg hnil] at h
      exact place_of_position (List.append_cancel_left h)

namespace Rule

theorem location_of_violationOf {t : Target} {kind : ViolationKind} {extension : Text}
    {fix : Option Edit} {withheld : Option Text} {v : Violation}
    (h : violationOf t kind extension fix withheld = .violates v) : v.location = t.location := by
  rw [violationOf] at h
  rw [← Decision.violates.inj h]

theorem location_of_violates {p : Policy} {listing : Sibling.Listing} {t : Target} {v : Violation}
    (h : decision p listing t = .violates v) : v.location = t.location := by
  obtain ⟨found, hfound, _⟩ := (decision_eq_violates h).found
  rw [decision_of_found hfound] at h
  -- both ways to violate a policy, the missing and the forbidden extension, make one kind of record
  split at h
  · exact absurd h (by simp)
  · split at h
    · split at h
      · exact absurd h (by simp)
      · rw [requireExtension_eq] at h
        exact location_of_violationOf h
    · split at h
      · rw [forbidExtension_eq] at h
        exact location_of_violationOf h
      · exact absurd h (by simp)

end Rule

/-! ### Targets of a source -/

namespace Resolution

theorem sourcePath_of_resolveAll {d : Disk} {extensions : List Text} {directory path : Text}
    {found : List (Source.ImportKind × Source.Specifier)} {ts : List Target}
    (h : resolveAll d extensions directory path found = .ok ts) :
    ∀ t ∈ ts, t.sourcePath = some path := by
  induction found generalizing ts with
  | nil =>
    cases h
    simp
  | cons x rest ih =>
    obtain ⟨kind, place⟩ := x
    rw [resolveAll] at h
    split at h
    · exact absurd h (by simp)
    · obtain ⟨us, hrest, rfl⟩ := Outcome.map_eq_ok.1 h
      intro t ht
      rcases List.mem_cons.1 ht with rfl | ht
      · rfl
      · exact ih hrest t ht

theorem sourcePath_of_targets {d : Disk} {extensions : List Text} {source path : Text}
    {ts : List Target} (h : targets d extensions source path = .ok ts) :
    ∀ t ∈ ts, t.sourcePath = some path := by
  rw [targets] at h
  split at h
  · cases h
    simp
  · exact sourcePath_of_resolveAll h

end Resolution

namespace Run

open Source

/-- No two violations of a checked source are reported under one location. -/
theorem locations_ne_of_checkSource {d : Disk} {p : Policy} {source path : Text} {report : FileReport}
    (h : checkSource d p source path = .ok report) :
    report.violations.Pairwise fun v w => v.location ≠ w.location := by
  obtain ⟨ts, hts, hviolations⟩ := checkSource_eq_ok h
  have hplaced : ts.Pairwise fun t u => t.place.PlacedBefore u.place := by
    have hplaces := (specifiers_placed source).sublist (Resolution.targets_eq_ok hts).1
    rwa [List.pairwise_map] at hplaces
  have hpath := Resolution.sourcePath_of_targets hts
  -- the violations are those of some targets, in the order of the targets
  rw [hviolations, List.pairwise_filterMap]
  refine hplaced.imp_of_mem fun {t u} ht hu htu v hv w hw hsame => ?_
  rw [Rule.location_of_violates (Rule.eq_violates_of_violation? hv),
    Rule.location_of_violates (Rule.eq_violates_of_violation? hw)] at hsame
  obtain ⟨hline, hcolumn⟩ := Target.place_of_location ((hpath t ht).trans (hpath u hu).symm) hsame
  rcases htu with hlt | ⟨_, hlt⟩
  · omega
  · omega

/-- The line and the column that are found for an offset lead back to it, so they belong to no other one.
The specifiers of a source come in the order of their lines and columns, and no two violations of it are
reported under one location. -/
theorem locations_faithful (source : Text) :
    (∀ (start : Nat) (stop : Int), start < source.length →
        ∃ x, Specifier.ofOffsets? source start stop = some x ∧ LeadsTo source x.line x.column start)
      ∧ (∀ (start start' : Nat) (stop stop' : Int) (x y : Specifier),
          Specifier.ofOffsets? source start stop = some x →
          Specifier.ofOffsets? source start' stop' = some y →
          x.line = y.line → x.column = y.column → start = start')
      ∧ (specifiers source).Pairwise (fun x y => x.2.PlacedBefore y.2)
      ∧ ∀ (d : Disk) (p : Policy) (path : Text) (report : FileReport),
        checkSource d p source path = .ok report →
          report.violations.Pairwise fun v w => v.location ≠ w.location := by
  refine ⟨fun start stop hstart => ?_, ?_, specifiers_placed source, fun _ _ _ _ => ?_⟩
  · obtain ⟨x, hx⟩ := exists_ofOffsets? stop hstart
    obtain ⟨_, hline, hcolumn⟩ := place_of_ofOffsets? hx
    refine ⟨x, hx, ?_⟩
    rw [hline, hcolumn]
    exact leadsTo_of_le (Nat.le_of_lt hstart)
  · intro start start' stop stop' x y hx hy hsameLine hsameColumn
    obtain ⟨hstart, hline, hcolumn⟩ := place_of_ofOffsets? hx
    obtain ⟨hstart', hline', hcolumn'⟩ := place_of_ofOffsets? hy
    have hfirst := leadsTo_of_le (Nat.le_of_lt hstart)
    rw [← hline, ← hcolumn, hsameLine, hsameColumn, hline', hcolumn'] at hfirst
    exact hfirst.unique (leadsTo_of_le (Nat.le_of_lt hstart'))
  · exact locations_ne_of_checkSource

/-- A directory with two scripts. -/
def scriptsDisk : Disk where
  entries := [([("p" : Text)], .directory), ([("p" : Text), "a.js"], .file (.text [])),
    ([("p" : Text), "b.js"], .file (.text []))]
  cwd := [("p" : Text)]

/-- Two imports on lines of their own, with an empty line between them. -/
def linedSource : Text := "import './a'\n\nimport './b'"

/-- The break behind the first line has the last column of it, which no other offset has, and the two
violations of the source are reported on different lines. -/
theorem locations_faithful_lines :
    (∃ x, Specifier.ofOffsets? linedSource 12 14 = some x ∧ LeadsTo linedSource 1 13 12
        ∧ ∀ (start : Nat) (stop : Int) (y : Specifier),
          Specifier.ofOffsets? linedSource start stop = some y → y.line = 1 → y.column = 13 →
            start = 12)
      ∧ ∃ report, checkSource scriptsDisk {} linedSource "/p/x.js" = .ok report
        ∧ report.violations.map (·.location) = [("/p/x.js:1:8" : Text), "/p/x.js:3:8"]
        ∧ report.violations.Pairwise fun v w => v.location ≠ w.location := by
  obtain ⟨hleads, hunique, _, hlocations⟩ := locations_faithful linedSource
  constructor
  · obtain ⟨x, hx, hplace⟩ := hleads 12 14 (by decide)
    have hplaces : (Specifier.ofOffsets? linedSource 12 14).map (fun x => (x.line, x.column))
        = some (1, 13) := by
      decide +kernel
    obtain ⟨_, hx', hpair⟩ := Option.map_eq_some_iff.1 hplaces
    cases hx.symm.trans hx'
    obtain ⟨hline, hcolumn⟩ := Prod.mk.inj hpair
    rw [hline, hcolumn] at hplace
    exact ⟨x, hx, hplace, fun start stop y hy hyline hycolumn =>
      hunique start 12 stop 14 y x hy hx (hyline.trans hline.symm) (hycolumn.trans hcolumn.symm)⟩
  · have hreported : (checkSource scriptsDisk {} linedSource "/p/x.js").map
        (·.violations.map (·.location)) = .ok [("/p/x.js:1:8" : Text), "/p/x.js:3:8"] := by
      decide +kernel
    obtain ⟨report, hreport, hwhere⟩ := Outcome.map_eq_ok.1 hreported
    exact ⟨report, hreport, hwhere, hlocations _ _ _ report hreport⟩

end Run

end SpecifierLint
