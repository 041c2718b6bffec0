/-
What a dry run predicts.

A dry run counts the edits that a check offers, and a real run makes them.  Where no file has several names
each file is rewritten once, from the text that was checked, and no edits of one file cancel each other
out.  So both count the same, and the real run modifies exactly the files for which the dry run counted.
With hard links edits can be made in a text that they are not for, and leave it as it is.  Main statements:

* **`applyAll_editsFor_ne`** — the edits of a checked source change it;
* **`applied_of_fixFiles`** — what a loop over reports counts, and which files it rewrites;
* **`dry_run_predicts`** — a dry run tells what the real run does;
* **`dry_run_counts_linked_file`** — unless a file has several names.
-/
import SpecifierLint.Proofs.Run.Mending
import SpecifierLint.Proofs.Run.Remaining
import SpecifierLint.Proofs.Source.Steps

namespace SpecifierLint

theorem Disk.readText_of_writeText {d e : Disk} {path source t : Text}
    (hread : d.readText path = .ok source) (hwrite : d.writeText path t = .ok e) :
    e.readText path = .ok t := by
  have hoff := Disk.agreeOff_of_writeText hwrite
  obtain ⟨l, old, hwalk, hentry, _, rfl⟩ := Disk.writeText_eq_ok.1 hwrite
  have hreach := Disk.reach_eq_ok.2 ⟨hwalk, hentry⟩
  -- the file could be read before, so it is not denied
  have hallowed : ¬ d.denied.contains l = true := by
    intro hdenied
    rw [Disk.readText, Disk.content, hreach] at hread
    dsimp only at hread
    rw [if_pos hdenied] at hread
    exact absurd hread (by simp)
  have hreach' := Disk.reach_eq_ok.2 ⟨(hoff.walk_eq path).trans hwalk,
    Disk.entryAt?_replace_self (.file (.text t)) (Disk.ne_nil_of_file hentry) hentry⟩
  rw [Disk.readText, Disk.content, hreach', hoff.denied]
  dsimp only
  rw [if_neg hallowed]

theorem Mended.exists_cons {offset : Nat} {vs : List Violation} {c : Char} {t u : Text}
    (h : Mended offset vs (c :: t) u) (hstart : ∀ v ∈ vs, (offset : Int) ≤ v.place.start) :
    ∃ u', u = c :: u' := by
  generalize hsource : c :: t = source at h
  cases h with
  | done _ _ => exact ⟨t, hsource.symm⟩
  | @next _ v rest gap mended behind after place _ _ =>
    have hfirst := hstart v (by simp)
    -- the gap before the first specifier holds at least its quote
    obtain ⟨q, gap, rfl⟩ := List.exists_cons_of_length_pos (l := gap) (by omega)
    obtain ⟨rfl, _⟩ := List.cons.inj hsource
    exact ⟨gap ++ mended ++ after, rfl⟩

/-- Mending a specifier between its quotes gives another text, whatever is mended further on. -/
theorem Mended.ne {v : Violation} {vs : List Violation} {q : Char} {point front behind u : Text}
    (h : Mended 0 (v :: vs) (front ++ (v.place.value ++ q :: behind)) u)
    (hfront : v.place.start + 1 = front.length) (hpoint : v.extension = '.' :: point) (hq : q ≠ '.')
    (hordered : ∀ w ∈ vs, v.place.start + 1 + v.place.value.length ≤ w.place.start) :
    u ≠ front ++ (v.place.value ++ q :: behind) := by
  intro hsame
  generalize hsource : front ++ (v.place.value ++ q :: behind) = source at h
  cases h with
  | @next _ _ _ gap mended behind' after place mends more =>
    rw [List.append_assoc] at hsource
    obtain ⟨rfl, hrest⟩ := List.append_inj hsource (by omega)
    obtain rfl := List.append_cancel_left hrest
    obtain ⟨after, rfl⟩ := more.exists_cons fun w hw => by
      have := hordered w hw
      omega
    rw [List.append_assoc] at hsame
    have hends := List.append_cancel_left hsame
    -- in one of the texts the point of the extension stands where the other has the quote
    rw [Violation.Mends] at mends
    split at mends
    · rw [mends, hpoint, List.append_assoc] at hends
      exact hq (List.cons.inj (List.append_cancel_left hends)).1.symm
    · rw [mends, hpoint, List.append_assoc] at hends
      exact hq (List.cons.inj (List.append_cancel_left hends)).1

namespace Run

open Source

/-! ### Edits that change a source -/

section

variable {d : Disk} {p : Policy} {source path : Text} {report : FileReport}

theorem mended_applyAll (h : checkSource d p source path = .ok report) :
    Mended 0 (report.violations.filter (·.fixable)) source
      (Edit.applyAll (editsFor report) source) := by
  rw [applyAll_editsFor h]
  refine mended_spliceFrom 0 (fun v hv => (violation_of_checkSource h hv).2.1)
    (fun v hv => (violation_of_checkSource h hv).2.2) (violations_ordered h) fun v hv => ?_
  obtain ⟨before, _, _, _, hstart, _⟩ := (violation_of_checkSource h hv).2.1
  omega

theorem length_editsFor (h : checkSource d p source path = .ok report) :
    (editsFor report).length = (report.violations.filter (·.fixable)).length := by
  rw [editsFor_eq fun v hv => (violation_of_checkSource h hv).1, List.length_filterMap_eq_countP,
    List.countP_eq_length_filter]
  rfl

/-- The edits of a checked source change it. -/
theorem applyAll_editsFor_ne (h : checkSource d p source path = .ok report)
    (hedits : editsFor report ≠ []) : Edit.applyAll (editsFor report) source ≠ source := by
  have hfixable : report.violations.filter (·.fixable) ≠ [] := by
    rw [← List.length_pos_iff, ← length_editsFor h]
    exact List.length_pos_iff.2 hedits
  obtain ⟨v, vs, hvs⟩ := List.exists_cons_of_ne_nil hfixable
  have hsub : (v :: vs).Sublist report.violations := hvs ▸ List.filter_sublist
  have hv : v ∈ report.violations := hsub.subset (by simp)
  obtain ⟨hordered, _⟩ := List.pairwise_cons.1 ((violations_ordered h).sublist hsub)
  obtain ⟨point, hpoint⟩ := exists_cons_extension h hv
  -- the literal of the first fixable violation, between its quotes
  obtain ⟨a, ha, hplace⟩ := List.mem_map.1 ((places_sublist h).subset (List.mem_map_of_mem hv))
  obtain ⟨before, l, behind, hsource, hl⟩ := exists_literal_of_mem_specifiers ha
  rw [hplace] at hl
  have hsplit : source = (before ++ [l.quote]) ++ (v.place.value ++ l.quote :: behind) := by
    rw [hsource, hl]
    simp [StringLiteral.text, StringLiteral.behind]
  have hmended := mended_applyAll h
  rw [hvs] at hmended
  intro hsame
  rw [hsplit] at hmended hsame
  refine hmended.ne ?_ hpoint (ne_of_isQuote l.quotes (by decide)) (fun w hw => ?_) hsame
  · rw [hl]
    simp [StringLiteral.behind]
  · have hafter := hordered w hw
    rw [hl] at hafter ⊢
    simp only [StringLiteral.behind] at hafter ⊢
    omega

theorem exists_source_of_checkFile (h : checkFile d p path = .ok report) (hedits : editsFor report ≠ []) :
    ∃ source, d.readText path = .ok source ∧ checkSource d p source path = .ok report := by
  rw [checkFile] at h
  split at h
  · next source hread => exact ⟨source, hread, h⟩
  · split at h
    · cases h
      exact absurd rfl hedits
    · exact absurd h (by simp)

theorem length_editsFor_of_checkFile (h : checkFile d p path = .ok report) :
    (editsFor report).length = (report.violations.filter (·.fixable)).length := by
  rw [checkFile] at h
  split at h
  · exact length_editsFor h
  · split at h
    · cases h
      rfl
    · exact absurd h (by simp)

end

/-- The number of edits that reports offer. -/
def editCount (rs : List FileReport) : Nat := (rs.map fun r => (editsFor r).length).foldr (· + ·) 0

theorem editCount_cons (r : FileReport) (rest : List FileReport) :
    editCount (r :: rest) = (editsFor r).length + editCount rest := rfl

theorem editCount_eq {d : Disk} {p : Policy} {rs : List FileReport}
    (h : ∀ r ∈ rs, checkFile d p r.path = .ok r) :
    editCount rs = CheckResult.fixableCount ⟨rs⟩ := by
  rw [CheckResult.fixableCount, CheckResult.violations]
  induction rs with
  | nil => rfl
  | cons r rest ih =>
    obtain ⟨hfirst, hrest⟩ := List.forall_mem_cons.1 h
    rw [editCount_cons, List.flatMap_cons, List.filter_append, List.length_append, ih hrest,
      length_editsFor_of_checkFile hfirst]

/-! ### The dry run -/

theorem remains_of_editsFor_ne {r : FileReport} (h : editsFor r ≠ []) : remains r = [r] := by
  rw [remains, if_neg]
  intro hnone
  rw [editsFor, List.isEmpty_iff.1 hnone] at h
  exact h rfl

/-- A dry run counts the edits of all reports, and leaves everything as it is. -/
theorem fixFiles_dry (d : Disk) (p : Policy) (rs : List FileReport) :
    (fixFiles p true d rs).disk = d
      ∧ (fixFiles p true d rs).outcome
        = .ok { modified := [], applied := editCount rs, remaining := rs.flatMap remains } := by
  induction rs with
  | nil => exact ⟨rfl, rfl⟩
  | cons r rest ih =>
    obtain ⟨hdisk, houtcome⟩ := ih
    rw [fixFiles]
    split
    · next hnone =>
      refine ⟨hdisk, ?_⟩
      rw [FixRun.prepend, houtcome, editCount_cons, List.isEmpty_iff.1 hnone]
      rfl
    · next hsome =>
      -- a report that offers edits has violations, so it remains
      rw [if_pos rfl]
      refine ⟨hdisk, ?_⟩
      rw [FixRun.prepend, houtcome, List.flatMap_cons, remains_of_editsFor_ne (by simpa using hsome)]
      rfl

/-! ### The real run -/

/-- What is known about reports before their files are rewritten: the files are at different places and
have one name each, and the edits of each change its text. -/
structure Pending (d : Disk) (rs : List FileReport) : Prop where
  free : d.IsLinkFree
  separate : rs.Pairwise fun a b => ∀ l, d.walk a.path = .ok l → d.walk b.path ≠ .ok l
  changes : ∀ r ∈ rs, editsFor r ≠ [] →
    ∃ source, d.readText r.path = .ok source ∧ Edit.applyAll (editsFor r) source ≠ source

theorem Pending.tail {d next : Disk} {r : FileReport} {rest : List FileReport}
    (h : Pending d (r :: rest)) (hnext : d.AgreeOff (fun l => d.walk r.path = .ok l) next) :
    Pending next rest := by
  obtain ⟨hfirst, hrest⟩ := List.pairwise_cons.1 h.separate
  refine ⟨hnext.isLinkFree h.free, by simpa only [hnext.walk_eq] using hrest, fun s hs hedits => ?_⟩
  obtain ⟨source, hread, hchange⟩ := h.changes s (by simp [hs]) hedits
  refine ⟨source, ?_, hchange⟩
  rw [hnext.readText_eq fun l hl ht => hfirst s hs l ht hl]
  exact hread

/-- The file at a path has another text than before. -/
def Rewritten (d last : Disk) (path : Text) : Prop :=
  ∃ before after, d.readText path = .ok before ∧ last.readText path = .ok after ∧ after ≠ before

/-- What a loop over reports does: it makes all their edits, and rewrites the files that have any. -/
structure Applied (rs : List FileReport) (d last : Disk) (summary : FixSummary) : Prop where
  off : d.AgreeOff (fun l => ∃ r ∈ rs, d.walk r.path = .ok l) last
  applied : summary.applied = editCount rs
  modified : summary.modified = (rs.filter fun r => !(editsFor r).isEmpty).map (·.path)
  rewritten : ∀ r ∈ rs, editsFor r ≠ [] → Rewritten d last r.path

theorem applyEdits_of_change {d next : Disk} {path source : Text} {edits : List Edit} {changed : Bool}
    (hsome : edits ≠ []) (hread : d.readText path = .ok source)
    (hchange : Edit.applyAll edits source ≠ source)
    (h : applyEdits d path edits = .ok (next, changed)) :
    changed = true ∧ next.readText path = .ok (Edit.applyAll edits source) := by
  rw [applyEdits, if_neg (by simpa using hsome), hread] at h
  dsimp only at h
  rw [if_neg hchange] at h
  obtain ⟨e, hwrite, heq⟩ := Outcome.map_eq_ok.1 h
  obtain ⟨rfl, rfl⟩ := Prod.mk.inj heq
  exact ⟨rfl, Disk.readText_of_writeText hread hwrite⟩

/-- Working on one file and then on the others: what the first one has been rewritten to is still there
after the others were. -/
theorem Applied.cons {r : FileReport} {rest : List FileReport} {d next last : Disk}
    {first others : FixSummary} (h : Pending d (r :: rest))
    (hnext : d.AgreeOff (fun l => d.walk r.path = .ok l) next)
    (happlied : first.applied = (editsFor r).length)
    (hmodified : first.modified = if (editsFor r).isEmpty then [] else [r.path])
    (hrewritten : editsFor r ≠ [] → Rewritten d next r.path) (hrest : Applied rest next last others) :
    Applied (r :: rest) d last
      { modified := first.modified ++ others.modified, applied := first.applied + others.applied,
        remaining := first.remaining ++ others.remaining } := by
  obtain ⟨hfirst, _⟩ := List.pairwise_cons.1 h.separate
  refine ⟨agreeOff_cons hnext hrest.off, ?_, ?_, fun s hs hedits => ?_⟩
  · rw [editCount_cons, happlied, hrest.applied]
  · rw [hmodified, hrest.modified]
    split
    · next hnone => rw [List.filter_cons_of_neg (by simp [hnone])]; rfl
    · next hsome => rw [List.filter_cons_of_pos (by simpa using hsome)]; rfl
  · rcases List.mem_cons.1 hs with rfl | hs
    · obtain ⟨before, after, hbefore, hafter, hne⟩ := hrewritten hedits
      refine ⟨before, after, hbefore, ?_, hne⟩
      rw [hrest.off.readText_eq (not_touched_of_separate hnext hfirst)]
      exact hafter
    · -- the text before is that on the first disk, since the first write went elsewhere
      obtain ⟨before, after, hbefore, hafter, hne⟩ := hrest.rewritten s hs hedits
      refine ⟨before, after, ?_, hafter, hne⟩
      rw [← hnext.readText_eq fun l hl ht => hfirst s hs l ht hl]
      exact hbefore

/-- A loop that does not fail makes all edits of the reports. -/
theorem applied_of_fixFiles {d : Disk} {p : Policy} {rs : List FileReport} {summary : FixSummary}
    (h : Pending d rs) (hrun : (fixFiles p false d rs).outcome = .ok summary) :
    Applied rs d (fixFiles p false d rs).disk summary := by
  -- along the reports; a first write leaves the other reports pending, since it went elsewhere
  induction rs generalizing d summary with
  | nil =>
    cases hrun
    exact ⟨.refl _ d, rfl, rfl, by simp⟩
  | cons r rest ih =>
    have hstep := fixStep p d r rest
    generalize fixFiles p false d (r :: rest) = run at hstep hrun
    cases hstep with
    | quiet none =>
      obtain ⟨others, hothers, rfl⟩ := Outcome.map_eq_ok.1 hrun
      have hsame := Disk.AgreeOff.refl (fun l => d.walk r.path = .ok l) d
      exact Applied.cons h hsame (by rw [none]; rfl) (by rw [none]; rfl) (absurd none)
        (ih (h.tail hsame) hothers)
    -- a step that spoils its file, is refused or ends in a failed check ends the loop with a fault
    | strays _ _ =>
      obtain ⟨fault, hfault, _⟩ := spoil_cases d r.path
      exact absurd (hfault.symm.trans hrun) (by simp)
    | refused _ _ => exact absurd hrun (by simp)
    | unchecked _ _ _ => exact absurd hrun (by simp)
    | fixed hedits applied _ =>
      obtain ⟨others, hothers, rfl⟩ := Outcome.map_eq_ok.1 hrun
      have hnext := (agreeOff_of_applyEdits applied).of_isLinkFree h.free
      obtain ⟨source, hread, hchange⟩ := h.changes r (by simp) hedits
      obtain ⟨rfl, hagain⟩ := applyEdits_of_change hedits hread hchange applied
      have hsome : ¬ (editsFor r).isEmpty = true := by simpa using hedits
      exact Applied.cons h hnext rfl (by rw [if_neg hsome]; rfl)
        (fun _ => ⟨source, _, hread, hagain, hchange⟩) (ih (h.tail hnext) hothers)

/-! ### Whole runs -/

theorem pending_of_check {d : Disk} {c : Configuration} {path : Text} {result : CheckResult}
    (hfree : d.IsLinkFree) (h : (check d c path).2 = .ok result) : Pending d result.reports := by
  refine ⟨hfree, separate_of_check h, fun r hr hedits => ?_⟩
  obtain ⟨source, hread, hsource⟩ := exists_source_of_checkFile ((reports_of_check h).2 r hr) hedits
  exact ⟨source, hread, applyAll_editsFor_ne hsource hedits⟩

theorem isEmpty_editsFor {d : Disk} {p : Policy} {path : Text} {r : FileReport}
    (h : checkFile d p path = .ok r) : (!(editsFor r).isEmpty) = r.violations.any (·.fixable) := by
  have hlength := length_editsFor_of_checkFile h
  cases hedits : editsFor r with
  | nil =>
    rw [hedits] at hlength
    have hnone := List.eq_nil_of_length_eq_zero hlength.symm
    rw [List.filter_eq_nil_iff] at hnone
    simpa using hnone
  | cons e es =>
    rw [hedits] at hlength
    obtain ⟨v, hv⟩ := List.exists_mem_of_length_pos
      (l := r.violations.filter (·.fixable)) (by rw [← hlength]; simp)
    obtain ⟨hv, hfixable⟩ := List.mem_filter.1 hv
    simpa using ⟨v, hv, hfixable⟩

/-- If no file has several names and a fix run does not fail, the dry run of the same path leaves the disk
and reports what the check found; both runs count the fixable violations of the check, and the fix run modifies exactly the files
that have one, each of which has another text afterwards. -/
theorem dry_run_predicts {d : Disk} {c : Configuration} {path : Text} {real : FixSummary}
    (hfree : d.IsLinkFree) (h : (fix d c false path).outcome = .ok real) :
    ∃ result dry, (check d c path).2 = .ok result
      ∧ (fix d c true path).outcome = .ok dry ∧ (fix d c true path).disk = d
      ∧ dry.modified = []
      ∧ dry.remaining = result.reports.filter (fun r => !r.violations.isEmpty)
      ∧ dry.applied = result.fixableCount ∧ real.applied = result.fixableCount
      ∧ real.modified
        = (result.reports.filter fun r => r.violations.any (·.fixable)).map (·.path)
      ∧ ∀ file ∈ real.modified, ∃ before after, d.readText file = .ok before
        ∧ (fix d c false path).disk.readText file = .ok after ∧ after ≠ before := by
  obtain ⟨result, hresult⟩ := exists_check_of_fix h
  obtain ⟨hdisk, houtcome⟩ := fix_eq_of_check hresult false
  obtain ⟨hdryDisk, hdryOutcome⟩ := fix_eq_of_check hresult true
  obtain ⟨hkept, hdry⟩ := fixFiles_dry d c.policy result.reports
  have hall := (reports_of_check hresult).2
  have happlied := applied_of_fixFiles (pending_of_check hfree hresult) (houtcome ▸ h)
  -- a report has edits exactly if one of its violations is fixable
  have hfiles : (result.reports.filter fun r => !(editsFor r).isEmpty)
      = result.reports.filter fun r => r.violations.any (·.fixable) :=
    List.filter_congr fun r hr => isEmpty_editsFor (hall r hr)
  refine ⟨result, _, hresult, hdryOutcome.trans hdry, hdryDisk.trans hkept, rfl, flatMap_remains _,
    editCount_eq hall, happlied.applied.trans (editCount_eq hall), ?_, fun file hfile => ?_⟩
  · rw [happlied.modified, hfiles]
  · rw [happlied.modified] at hfile
    obtain ⟨r, hr, rfl⟩ := List.mem_map.1 hfile
    obtain ⟨hr, hedits⟩ := List.mem_filter.1 hr
    rw [hdisk]
    exact happlied.rewritten r hr (by simpa using hedits)

/-- Of two violations one is fixable: both runs count it, and its file is modified. -/
theorem dry_run_predicts_leftover :
    ∃ real result dry,
      (fix leftoverDisk leftoverConfiguration false "/p").outcome = .ok real
      ∧ (check leftoverDisk leftoverConfiguration "/p").2 = .ok result
      ∧ (fix leftoverDisk leftoverConfiguration true "/p").outcome = .ok dry
      ∧ real.modified = [("/p/x.js" : Text)] ∧ real.applied = 1
      ∧ dry.applied = real.applied ∧ result.fixableCount = 1 ∧ dry.modified = []
      ∧ (fix leftoverDisk leftoverConfiguration true "/p").disk = leftoverDisk := by
  have hrun : (fix leftoverDisk leftoverConfiguration false "/p").outcome.map
      (fun s => (s.modified, s.applied)) = .ok ([("/p/x.js" : Text)], 1) := by
    rw [fix, check, files_leftoverDisk]
    decide +kernel
  obtain ⟨real, h, hreal⟩ := Outcome.map_eq_ok.1 hrun
  obtain ⟨hmodified, happlied⟩ := Prod.mk.inj hreal
  obtain ⟨result, dry, hresult, hdry, hdisk, hnone, _, hcount, hcount', _⟩ :=
    dry_run_predicts (Disk.isLinkFree_of_links rfl) h
  exact ⟨real, result, dry, h, hresult, hdry, hmodified, happlied, hcount.trans hcount'.symm,
    hcount'.symm.trans happlied, hnone, hdisk⟩

/-- A source with three names, which ends in an extension that can be cut off. -/
def tripleDisk : Disk where
  entries := [([("p" : Text)], .directory), ([("p" : Text), "a.js"], .file (.text "import './foo.js'")),
    ([("p" : Text), "b.js"], .file (.text "import './foo.js'")),
    ([("p" : Text), "c.js"], .file (.text "import './foo.js'")),
    ([("p" : Text), "foo.js"], .file (.text []))]
  links := [([("p" : Text), "a.js"], 0), ([("p" : Text), "b.js"], 0), ([("p" : Text), "c.js"], 0)]
  cwd := [("p" : Text)]

theorem files_tripleDisk :
    sourceFiles tripleDisk bareConfiguration "/p" = .ok ["/p/a.js", "/p/b.js", "/p/c.js", "/p/foo.js"] :=
  sourceFiles_eq_ok.2 ⟨_, _, rfl, rfl, SourceTree.files_of_directory (by decide) (by decide +kernel)
    (by decide +kernel) (by decide +kernel) (List.mergeSort_of_pairwise (by decide))⟩

/-- The dry run counts an edit for each name.  The first edit cuts the extension off, the second one the
quote, and the third one nothing. -/
theorem dry_run_counts_linked_file :
    (fix tripleDisk bareConfiguration true "/p").outcome.map (·.applied) = .ok 3
      ∧ (fix tripleDisk bareConfiguration false "/p").outcome.map (fun s => (s.applied, s.modified))
        = .ok (2, [("/p/a.js" : Text), "/p/b.js"])
      ∧ (fix tripleDisk bareConfiguration false "/p").disk.readText "/p/a.js"
        = .ok "import './foo" := by
  rw [fix, fix, check, files_tripleDisk]
  decide +kernel

end Run

end SpecifierLint
