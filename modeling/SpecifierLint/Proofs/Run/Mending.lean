/-
The edits of a checked source.

A check of a source text offers edits for its violations.  Each edit stays inside the quotes of its
literal, so no two of them overlap and none is dropped, and making all of them replaces the specifiers
of the fixable violations at once and nothing else.  Main statement:

* **`edits_mend_source`** — the edits of a checked source mend exactly the fixable specifiers.
-/
import SpecifierLint.Run.Fix
import SpecifierLint.Proofs.Outcome
import SpecifierLint.Proofs.Edit.Splice
import SpecifierLint.Proofs.Rule.Fix
import SpecifierLint.Proofs.Source.Spans

namespace SpecifierLint

/-- The second text is the first one with the specifier of each violation mended in its place, and
every other character kept.  The first text is that of a source from `offset` on. -/
inductive Mended : Nat → List Violation → Text → Text → Prop
  | done (offset : Nat) (t : Text) : Mended offset [] t t
  | next {offset : Nat} {v : Violation} {rest : List Violation} {gap mended behind after : Text}
      (place : v.place.start + 1 = offset + gap.length) (mends : v.Mends mended)
      (more : Mended (offset + gap.length + v.place.value.length) rest behind after) :
      Mended offset (v :: rest) (gap ++ v.place.value ++ behind) (gap ++ mended ++ after)

/-! ### Targets and violations of a source -/

namespace Resolution

/-- The targets of a list of literals are these literals, each with the file that its value
resolves to. -/
theorem resolveAll_eq_ok {d : Disk} {extensions : List Text} {directory path : Text}
    {found : List (Source.ImportKind × Source.Specifier)} {ts : List Target}
    (h : resolveAll d extensions directory path found = .ok ts) :
    ts.map (fun t => (t.kind, t.place)) = found ∧ ∀ t ∈ ts, t.specifier = t.place.value
      ∧ resolve d extensions directory t.specifier = .ok t.resolved := by
  induction found generalizing ts with
  | nil =>
    cases h
    simp
  | cons x rest ih =>
    obtain ⟨kind, place⟩ := x
    rw [resolveAll] at h
    split at h
    · exact absurd h (by simp)
    · next resolved hresolved =>
      obtain ⟨us, hrest, rfl⟩ := Outcome.map_eq_ok.1 h
      obtain ⟨hplaces, hall⟩ := ih hrest
      refine ⟨by simp [hplaces], fun t ht => ?_⟩
      rcases List.mem_cons.1 ht with rfl | ht
      · exact ⟨rfl, hresolved⟩
      · exact hall t ht

theorem targets_eq_ok {d : Disk} {extensions : List Text} {source path : Text} {ts : List Target}
    (h : targets d extensions source path = .ok ts) :
    (ts.map fun t => (t.kind, t.place)).Sublist (Source.specifiers source)
      ∧ ∀ t ∈ ts, t.specifier = t.place.value := by
  rw [targets] at h
  split at h
  · cases h
    simp
  · obtain ⟨hplaces, hall⟩ := resolveAll_eq_ok h
    exact ⟨hplaces ▸ List.Sublist.refl _, fun t ht => (hall t ht).1⟩

end Resolution

namespace Run

/-- The fix of a violation replaces an end of its literal, up to the closing quote, and what comes out
mends the violation. -/
def MendsLiteral (v : Violation) (e : Edit) : Prop :=
  ∃ kept cut, v.place.value = kept ++ cut ∧ e.start = v.place.start + 1 + kept.length
    ∧ e.stop = v.place.start + 1 + v.place.value.length ∧ v.Mends (kept ++ e.text)

theorem checkSource_eq_ok {d : Disk} {p : Policy} {source path : Text} {report : FileReport}
    (h : checkSource d p source path = .ok report) :
    ∃ ts, Resolution.targets d p.tryExtensions source path = .ok ts
      ∧ report.violations = ts.filterMap fun t => (Rule.decision p (listing d) t).violation? := by
  rw [checkSource] at h
  split at h
  · exact absurd h (by simp)
  · next ts hts =>
    cases h
    exact ⟨ts, hts, rfl⟩

/-- What is known about each violation of a checked source. -/
theorem violation_of_checkSource {d : Disk} {p : Policy} {source path : Text} {report : FileReport}
    (h : checkSource d p source path = .ok report) {v : Violation} (hv : v ∈ report.violations) :
    v.code = ruleCode ∧ v.place.Spans source ∧ ∀ e, v.fix = some e → MendsLiteral v e := by
  obtain ⟨ts, hts, hviolations⟩ := checkSource_eq_ok h
  rw [hviolations, List.mem_filterMap] at hv
  obtain ⟨t, ht, hdecision⟩ := hv
  have hbreaks := Rule.eq_violates_of_violation? hdecision
  have hb := Rule.decision_eq_violates hbreaks
  obtain ⟨hplaces, hvalues⟩ := Resolution.targets_eq_ok hts
  have hspans : t.place.Spans source :=
    Source.spans_of_mem_specifiers (hplaces.subset (List.mem_map_of_mem ht))
  have hstop : t.place.stop - 1 = t.place.start + 1 + t.place.value.length := by
    obtain ⟨before, _, _, _, hstart, hstop⟩ := hspans
    omega
  refine ⟨hb.code, hb.place ▸ hspans, fun e he => ?_⟩
  exact Rule.exists_kept_of_fix hbreaks he (hvalues t ht) hstop

theorem exists_cons_extension {d : Disk} {p : Policy} {source path : Text} {report : FileReport}
    (h : checkSource d p source path = .ok report) {v : Violation} (hv : v ∈ report.violations) :
    ∃ rest, v.extension = '.' :: rest := by
  obtain ⟨ts, _, hviolations⟩ := checkSource_eq_ok h
  rw [hviolations, List.mem_filterMap] at hv
  obtain ⟨t, _, hdecision⟩ := hv
  exact (Rule.decision_eq_violates (Rule.eq_violates_of_violation? hdecision)).exists_cons_extension

theorem map_place_filterMap {ts : List Target} {decide : Target → Option Violation}
    (h : ∀ t v, decide t = some v → v.place = t.place) :
    ((ts.filterMap decide).map (·.place)).Sublist (ts.map (·.place)) := by
  induction ts with
  | nil => exact .slnil
  | cons t ts ih =>
    cases hdecide : decide t with
    | none =>
      rw [List.filterMap_cons_none hdecide]
      exact ih.cons _
    | some v =>
      rw [List.filterMap_cons_some hdecide, List.map_cons, List.map_cons, h t v hdecide]
      exact ih.cons_cons _

/-- The violations of a checked source stand for specifiers of it, in their order. -/
theorem places_sublist {d : Disk} {p : Policy} {source path : Text} {report : FileReport}
    (h : checkSource d p source path = .ok report) :
    (report.violations.map (·.place)).Sublist ((Source.specifiers source).map (·.2)) := by
  obtain ⟨ts, hts, hviolations⟩ := checkSource_eq_ok h
  have htargets := (Resolution.targets_eq_ok hts).1.map (·.2)
  rw [List.map_map] at htargets
  rw [hviolations]
  refine (map_place_filterMap fun t v hv => ?_).trans htargets
  exact (Rule.decision_eq_violates (Rule.eq_violates_of_violation? hv)).place

theorem violations_ordered {d : Disk} {p : Policy} {source path : Text} {report : FileReport}
    (h : checkSource d p source path = .ok report) :
    report.violations.Pairwise fun a b => a.place.stop ≤ b.place.start := by
  obtain ⟨ts, hts, hviolations⟩ := checkSource_eq_ok h
  have hplaces := (Resolution.targets_eq_ok hts).1
  have hordered : ts.Pairwise fun a b => a.place.stop ≤ b.place.start :=
    List.pairwise_map.1 ((Source.stop_le_start_of_specifiers source).sublist hplaces)
  rw [hviolations]
  refine List.Pairwise.filterMap _ (fun a b hab v hv w hw => ?_) hordered
  rw [(Rule.decision_eq_violates (Rule.eq_violates_of_violation? hv)).place]
  rw [(Rule.decision_eq_violates (Rule.eq_violates_of_violation? hw)).place]
  exact hab

/-! ### Edits of ordered violations -/

section

variable {source : Text} {vs : List Violation}

theorem MendsLiteral.inside {v : Violation} {e : Edit} (h : MendsLiteral v e)
    (hspans : v.place.Spans source) :
    v.place.start + 1 ≤ e.start ∧ e.start ≤ e.stop ∧ e.stop ≤ v.place.stop - 1 := by
  obtain ⟨kept, cut, hvalue, hstart, hstop, _⟩ := h
  obtain ⟨before, _, _, _, hfirst, hlast⟩ := hspans
  have hlength : v.place.value.length = kept.length + cut.length := by
    rw [hvalue, List.length_append]
  omega

theorem MendsLiteral.inRange {v : Violation} {e : Edit} (h : MendsLiteral v e)
    (hspans : v.place.Spans source) : e.InRange source.length := by
  obtain ⟨hstart, hle, hstop⟩ := h.inside hspans
  obtain ⟨before, closing, after, rfl, hfirst, hlast⟩ := hspans
  refine ⟨by omega, hle, ?_⟩
  simp only [List.length_append, List.length_cons]
  omega

theorem chained_of_ordered (hspans : ∀ v ∈ vs, v.place.Spans source)
    (hmends : ∀ v ∈ vs, ∀ e, v.fix = some e → MendsLiteral v e)
    (hordered : vs.Pairwise fun a b => a.place.stop ≤ b.place.start) :
    Edit.Chained (vs.filterMap (·.fix)) := by
  rw [Edit.Chained, List.pairwise_filterMap]
  refine hordered.imp_of_mem fun {v w} hv hw hvw a ha b hb => ?_
  obtain ⟨_, _, hstop⟩ := (hmends v hv a ha).inside (hspans v hv)
  obtain ⟨hstart, _, _⟩ := (hmends w hw b hb).inside (hspans w hw)
  omega

/-- Splicing the edits of ordered violations mends the fixable ones. -/
theorem mended_spliceFrom (offset : Nat) (hspans : ∀ v ∈ vs, v.place.Spans source)
    (hmends : ∀ v ∈ vs, ∀ e, v.fix = some e → MendsLiteral v e)
    (hordered : vs.Pairwise fun a b => a.place.stop ≤ b.place.start)
    (hoffset : ∀ v ∈ vs, (offset : Int) ≤ v.place.start) :
    Mended offset (vs.filter (·.fixable)) (source.drop offset)
      (Edit.spliceFrom offset (vs.filterMap (·.fix)) (source.drop offset)) := by
  induction vs generalizing offset with
  | nil => exact .done offset _
  | cons v rest ih =>
    obtain ⟨hfirst, hrest⟩ := List.pairwise_cons.1 hordered
    have hspans' : ∀ w ∈ rest, w.place.Spans source := fun w hw => hspans w (by simp [hw])
    have hmends' : ∀ w ∈ rest, ∀ e, w.fix = some e → MendsLiteral w e :=
      fun w hw => hmends w (by simp [hw])
    cases hfix : v.fix with
    | none =>
      have hskip : v.fixable = false := by simp [Violation.fixable, hfix]
      rw [List.filter_cons_of_neg (by simp [hskip]), List.filterMap_cons_none hfix]
      exact ih offset hspans' hmends' hrest fun w hw => hoffset w (by simp [hw])
    | some e =>
      have htake : v.fixable = true := by simp [Violation.fixable, hfix]
      rw [List.filter_cons_of_pos htake, List.filterMap_cons_some hfix, Edit.spliceFrom]
      obtain ⟨kept, cut, hvalue, hstart, hstop, hmended⟩ := hmends v (by simp) e hfix
      obtain ⟨gap, hopen, hgap⟩ := (hspans v (by simp)).exists_gap (hoffset v (by simp))
      have hend : e.stop.toNat = offset + gap.length + v.place.value.length := by omega
      -- the edit keeps the gap and the front of the specifier, and goes on behind the specifier
      have hkept : (source.drop offset).take (e.start.toNat - offset) = gap ++ kept := by
        rw [hgap, hvalue, ← List.append_assoc, List.append_assoc (gap ++ kept), List.take_left']
        rw [List.length_append]
        omega
      have hmore := ih e.stop.toNat hspans' hmends' hrest fun w hw => by
        have := hfirst w hw
        obtain ⟨_, _, hlast⟩ := MendsLiteral.inside ⟨kept, cut, hvalue, hstart, hstop, hmended⟩
          (hspans v (by simp))
        omega
      rw [List.drop_drop, show offset + (e.stop.toNat - offset) = e.stop.toNat by omega, hkept,
        List.append_assoc gap kept, hgap, ← hend]
      exact .next hopen hmended (hend ▸ hmore)

end

/-! ### The edits of a report -/

theorem editsFor_eq {report : FileReport} (h : ∀ v ∈ report.violations, v.code = ruleCode) :
    editsFor report = report.violations.filterMap (·.fix) := by
  rw [editsFor]
  refine List.filterMap_congr fun v hv => ?_
  rw [Violation.offeredFix, if_pos (h v hv)]

/-- The edits of a checked source are made from left to right. -/
theorem applyAll_editsFor {d : Disk} {p : Policy} {source path : Text} {report : FileReport}
    (h : checkSource d p source path = .ok report) :
    Edit.applyAll (editsFor report) source
      = Edit.spliceFrom 0 (report.violations.filterMap (·.fix)) source := by
  have hspans : ∀ v ∈ report.violations, v.place.Spans source :=
    fun v hv => (violation_of_checkSource h hv).2.1
  have hmends : ∀ v ∈ report.violations, ∀ e, v.fix = some e → MendsLiteral v e :=
    fun v hv => (violation_of_checkSource h hv).2.2
  rw [editsFor_eq fun v hv => (violation_of_checkSource h hv).1]
  refine Edit.applyAll_of_chained (fun e he => ?_) (chained_of_ordered hspans hmends (violations_ordered h))
  obtain ⟨v, hv, hfix⟩ := List.mem_filterMap.1 he
  exact (hmends v hv e hfix).inRange (hspans v hv)

/-- The edits of a checked source stay inside the quotes of their literals, do not overlap and are all
selected, and making them mends the specifiers of the fixable violations at once and keeps every other
character. -/
theorem edits_mend_source {d : Disk} {p : Policy} {source path : Text} {report : FileReport}
    (h : checkSource d p source path = .ok report) :
    (∀ v ∈ report.violations, ∀ e, v.offeredFix = some e →
        v.place.start + 1 ≤ e.start ∧ e.start ≤ e.stop ∧ e.stop ≤ v.place.stop - 1)
      ∧ (editsFor report).Pairwise (fun a b => a.overlaps b = false ∧ b.overlaps a = false)
      ∧ Edit.select (editsFor report) = editsFor report
      ∧ Mended 0 (report.violations.filter (·.fixable)) source
          (Edit.applyAll (editsFor report) source) := by
  have hspans : ∀ v ∈ report.violations, v.place.Spans source :=
    fun v hv => (violation_of_checkSource h hv).2.1
  have hmends : ∀ v ∈ report.violations, ∀ e, v.fix = some e → MendsLiteral v e :=
    fun v hv => (violation_of_checkSource h hv).2.2
  have hordered := violations_ordered h
  rw [editsFor_eq fun v hv => (violation_of_checkSource h hv).1]
  -- edits inside of literals that follow one another follow one another
  have hchain := chained_of_ordered hspans hmends hordered
  have hrange : ∀ e ∈ report.violations.filterMap (·.fix), e.InRange source.length := by
    intro e he
    obtain ⟨v, hv, hfix⟩ := List.mem_filterMap.1 he
    exact (hmends v hv e hfix).inRange (hspans v hv)
  refine ⟨fun v hv e he => ?_, ?_, ?_, ?_⟩
  · rw [Violation.offeredFix, if_pos (violation_of_checkSource h hv).1] at he
    exact (hmends v hv e he).inside (hspans v hv)
  · refine hchain.imp_of_mem fun {a b} ha hb hab => ?_
    exact Edit.overlaps_eq_false_of_le (hrange a ha).start_le (hrange b hb).start_le hab
  · exact Edit.select_of_chained (fun e he => (hrange e he).start_le) hchain
  · have hnonneg : ∀ v ∈ report.violations, ((0 : Nat) : Int) ≤ v.place.start := by
      intro v hv
      obtain ⟨before, _, _, _, hstart, _⟩ := hspans v hv
      omega
    rw [Edit.applyAll_of_chained hrange hchain]
    exact mended_spliceFrom 0 hspans hmends hordered hnonneg

/-- A directory with a script and a data file. -/
def mixedDisk : Disk where
  entries := [([("p" : Text)], .directory), ([("p" : Text), "a.js"], .file (.text [])),
    ([("p" : Text), "b.json"], .file (.text []))]
  cwd := [("p" : Text)]

/-- Extensions are written, except that of data files. -/
def mixedPolicy : Policy := { overrides := [(".json", .never)] }

/-- A source with a missing extension, and with one that is not wanted. -/
def mixedSource : Text := "import \"./a\";import './b.json';"

/-- An insertion and a removal meet in one source. -/
theorem edits_mend_source_mixed :
    ∃ report,
      checkSource mixedDisk mixedPolicy mixedSource "/p/x.js" = .ok report
      ∧ report.violations.map (·.kind) = [.requireExtension, .forbidExtension]
      ∧ Edit.select (editsFor report) = editsFor report
      ∧ Mended 0 (report.violations.filter (·.fixable)) mixedSource
          (Edit.applyAll (editsFor report) mixedSource) := by
  have hkinds : (checkSource mixedDisk mixedPolicy mixedSource "/p/x.js").map
      (·.violations.map (·.kind)) = .ok [.requireExtension, .forbidExtension] := by
    decide +kernel
  obtain ⟨report, h, hreport⟩ := Outcome.map_eq_ok.1 hkinds
  obtain ⟨_, _, hselect, hmended⟩ := edits_mend_source h
  exact ⟨report, h, hreport, hselect, hmended⟩

end Run

end SpecifierLint
