/-
Targets that are read back.

After a fix the literal of a target is read back from the changed source, where it stands between the
same two quotes, and the rule is asked about it again, with the same resolved file and the same
siblings.  A fix settles its violation if the extension that was added is read as the extension of the
specifier, and if the extension that was taken off does not end the specifier a second time.  Main
statements:

* **`Frame.exists_mended`** — a fix puts a text that mends the violation between the quotes;
* **`fix_settles_iff`** — when the rule has nothing to say about a target after its fix;
* **`fix_leaves_violation`** — an extension that is written twice is not settled by one fix;
* **`removal_undoes_insertion`** — where extensions are unwanted, an added one is taken off again.
-/
import SpecifierLint.Proofs.Edit.Splice
import SpecifierLint.Proofs.Rule.Exemption
import SpecifierLint.Proofs.Rule.Fix
import SpecifierLint.Proofs.Source.Spans

namespace SpecifierLint

/-! ### Literals of a changed source -/

/-- The target in a source that was changed between its quotes: the literal starts where it did and
ends as far from the end of the source as it did. -/
def Target.readBack (t : Target) (source changed : Text) : Target :=
  let place := Source.Specifier.ofSource changed t.place.start.toNat
    (changed.length - (source.length - t.place.stop.toNat))
  { t with specifier := place.value, place := place }

/-- What stands around a literal: the front of the source, the two quotes, and the rest. -/
structure Frame where
  front : Text
  opening : Char
  closing : Char
  rest : Text

namespace Frame

variable {f : Frame} {t : Target} {source : Text}

/-- The source with a value between the quotes. -/
def around (f : Frame) (value : Text) : Text :=
  f.front ++ f.opening :: (value ++ f.closing :: f.rest)

/-- The literal of the target stands in the frame, and its value is the specifier. -/
structure Holds (f : Frame) (t : Target) : Prop where
  value : t.specifier = t.place.value
  start : t.place.start = f.front.length
  stop : t.place.stop = f.front.length + t.specifier.length + 2

/-- A literal that stands in a source has a frame there. -/
theorem exists_holds (hspans : t.place.Spans source) (hvalue : t.specifier = t.place.value) :
    ∃ f : Frame, f.Holds t ∧ source = f.around t.specifier := by
  obtain ⟨front, closing, rest, hsource, hstart, hstop⟩ := hspans
  rw [← hvalue] at hsource hstop
  exact ⟨⟨front, t.place.quote, closing, rest⟩, ⟨hvalue, hstart, hstop⟩, hsource⟩

/-- With another value in the frame the target is read back with this value. -/
theorem readBack_eq (h : f.Holds t) (value : Text) :
    t.readBack (f.around t.specifier) (f.around value)
      = { t with
          specifier := value
          place := .ofSource (f.around value) f.front.length
            (f.front.length + (value.length + 2)) } := by
  have hfirst : t.place.start.toNat = f.front.length := by
    rw [h.start]
    rfl
  have hlast : (f.around value).length - ((f.around t.specifier).length - t.place.stop.toNat)
      = f.front.length + (value.length + 2) := by
    have hstop := h.stop
    simp only [around, List.length_append, List.length_cons]
    omega
  have hread : (Source.Specifier.ofSource (f.around value) f.front.length
      (f.front.length + (value.length + 2))).value = value := by
    rw [around, ← Source.Specifier.atPosition_eq f.front _ (by omega)]
    simp [Source.Specifier.atPosition]
  simp only [Target.readBack, hfirst, hlast, hread]

theorem specifier_readBack (h : f.Holds t) (value : Text) :
    (t.readBack (f.around t.specifier) (f.around value)).specifier = value := by
  rw [readBack_eq h]

theorem Holds.readBack (h : f.Holds t) (value : Text) :
    f.Holds (t.readBack (f.around t.specifier) (f.around value)) := by
  refine ⟨rfl, ?_, ?_⟩
  · rw [readBack_eq h]
    rfl
  · rw [readBack_eq h]
    show ((f.front.length + (value.length + 2) : Nat) : Int) = f.front.length + value.length + 2
    omega

/-- A fix puts a text that mends the violation between the quotes. -/
theorem exists_mended (h : f.Holds t) {p : Policy} {listing : Sibling.Listing} {v : Violation}
    {e : Edit} (hv : Rule.decision p listing t = .violates v) (hfix : v.fix = some e) :
    ∃ mended, v.Mends mended ∧ e.apply (f.around t.specifier) = f.around mended := by
  have hstart := h.start
  have hstop := h.stop
  have hvalue := h.value
  obtain ⟨kept, cut, hparts, hfirst, hlast, hmends⟩ :=
    Rule.exists_kept_of_fix hv hfix hvalue (by rw [← hvalue]; omega)
  rw [(Rule.decision_eq_violates hv).place] at hparts hfirst hlast
  rw [← hvalue] at hparts hlast
  have hlength := congrArg List.length hparts
  rw [List.length_append] at hlength
  have hedit := Edit.apply_between (e := e) (f.front ++ f.opening :: kept) cut (f.closing :: f.rest)
    (by simp only [List.length_append, List.length_cons]; omega)
    (by simp only [List.length_append, List.length_cons]; omega)
  refine ⟨kept ++ e.text, hmends, ?_⟩
  simpa [around, hparts] using hedit

end Frame

namespace Rule

variable {p : Policy} {listing : Sibling.Listing} {t : Target} {v : Violation} {e : Edit}
  {source : Text}

/-! ### Targets with the same file -/

/-- What the rule decides about a target that resolves to the file of one that breaks a policy, under
any policy that reads extensions in the same way. -/
theorem decision_of_breaks (h : Breaks p listing t v) {q : Policy} (hesm : q.esm = p.esm) {u : Target}
    (hresolved : u.resolved = t.resolved) :
    decision q listing u
      = if isExempt u then .conforms
        else match q.styleFor v.extension with
          | .always =>
            if v.extension = Path.extension u.specifier then .conforms
            else requireExtension u (siblingsOf listing t) v.extension
          | .never =>
            if v.extension = Path.extension u.specifier then
              forbidExtension u (siblingsOf listing t) v.extension
            else .conforms := by
  obtain ⟨found, hfound, hext⟩ := h.found
  have hsiblings : siblingsOf listing u = siblingsOf listing t := by
    rw [siblingsOf, siblingsOf, hresolved]
  rw [← hresolved, ← hsiblings] at hfound
  have hdecision := decision_of_found (p := q) hfound
  rw [hsiblings, hesm, ← hext] at hdecision
  exact hdecision

/-- A target that resolves to the file of one that breaks a policy is exempt only for its specifier. -/
theorem isExempt_iff (h : Breaks p listing t v) {u : Target} (hresolved : u.resolved = t.resolved) :
    isExempt u = true ↔ isPackageName u.specifier = true ∨ isCoreDirectory u.specifier = true := by
  have hexempt := h.not_exempt
  simp only [isExempt, Bool.or_eq_false_iff] at hexempt
  rw [isExempt, hresolved, hexempt.1.1, Bool.false_or, Bool.or_eq_true]

/-- Where an extension was missing, a target of the same file conforms if it has the extension. -/
theorem conforms_iff_of_require (h : Breaks p listing t v) (hkind : v.kind = .requireExtension)
    {u : Target} (hresolved : u.resolved = t.resolved) :
    decision p listing u = .conforms ↔
      isExempt u = true ∨ Path.extension u.specifier = v.extension := by
  have hstyle : p.styleFor v.extension = .always := by
    rcases h.kind with ⟨_, hstyle, _⟩ | ⟨hforbid, _⟩
    · exact hstyle
    · rw [hkind] at hforbid
      exact absurd hforbid (by simp)
  rw [decision_of_breaks h rfl hresolved, hstyle, requireExtension_eq]
  by_cases hexempt : isExempt u = true
  · simp [hexempt]
  · by_cases hwritten : v.extension = Path.extension u.specifier
    · simp [hexempt, hwritten]
    · simp [hexempt, hwritten, Ne.symm hwritten, violationOf]

/-- Where an extension was forbidden, a target of the same file conforms if it has another or none. -/
theorem conforms_iff_of_forbid (h : Breaks p listing t v) (hkind : v.kind = .forbidExtension)
    {u : Target} (hresolved : u.resolved = t.resolved) :
    decision p listing u = .conforms ↔
      isExempt u = true ∨ Path.extension u.specifier ≠ v.extension := by
  have hstyle : p.styleFor v.extension = .never := by
    rcases h.kind with ⟨hrequire, _⟩ | ⟨_, hstyle, _⟩
    · rw [hkind] at hrequire
      exact absurd hrequire (by simp)
    · exact hstyle
  rw [decision_of_breaks h rfl hresolved, hstyle, forbidExtension_eq]
  by_cases hexempt : isExempt u = true
  · simp [hexempt]
  · by_cases hwritten : v.extension = Path.extension u.specifier
    · simp [hexempt, hwritten, violationOf]
    · simp [hexempt, hwritten, Ne.symm hwritten]

/-- A target of the same file that does not conform has the same violation, and it is as fixable. -/
theorem violates_of_not_conforms (h : Breaks p listing t v) {u : Target}
    (hresolved : u.resolved = t.resolved) (hne : decision p listing u ≠ .conforms) :
    ∃ w, decision p listing u = .violates w ∧ w.kind = v.kind ∧ w.extension = v.extension
      ∧ w.fixable = v.fixable := by
  -- the kind, the extension and the right to a fix depend on the file alone
  have hdecision := decision_of_breaks h rfl hresolved
  rcases h.kind with ⟨hkind, hstyle, _, hfix⟩ | ⟨hkind, hstyle, _, hfix⟩
  · rw [hstyle, requireExtension_eq] at hdecision
    split at hdecision
    · exact absurd hdecision hne
    · dsimp only at hdecision
      split at hdecision
      · exact absurd hdecision hne
      · refine ⟨_, hdecision, hkind.symm, rfl, ?_⟩
        rw [Violation.fixable, Violation.fixable, hfix, Bool.eq_iff_iff, Option.isSome_ite,
          Option.isSome_ite]
  · rw [hstyle, forbidExtension_eq] at hdecision
    split at hdecision
    · exact absurd hdecision hne
    · dsimp only at hdecision
      split at hdecision
      · refine ⟨_, hdecision, hkind.symm, rfl, ?_⟩
        rw [Violation.fixable, Violation.fixable, hfix, Bool.eq_iff_iff, Option.isSome_ite,
          Option.isSome_ite]
      · exact absurd hdecision hne

/-! ### Fixes that settle their violation -/

/-- The rule has nothing to say about a target after its fix exactly in these cases.  If an extension
was added, either it is read as the extension of the specifier, or it made the specifier the name of a
package.  If an extension was taken off, either it does not end what is left as well, or what is left
is exempt.  In all other cases the target violates the policy in the same way as before, and a fix is
offered once more. -/
theorem fix_settles_iff (hspans : t.place.Spans source) (hvalue : t.specifier = t.place.value)
    (h : decision p listing t = .violates v) (hfix : v.fix = some e) :
    (v.kind = .requireExtension →
        (decision p listing (t.readBack source (e.apply source)) = .conforms ↔
          Path.Takes t.specifier v.extension
            ∨ (isSegment v.extension = true ∧ (t.specifier = [] ∨ IsScope t.specifier))))
      ∧ (v.kind = .forbidExtension → ∃ kept, t.specifier = kept ++ v.extension
        ∧ (decision p listing (t.readBack source (e.apply source)) = .conforms ↔
          (¬ ∃ front, kept = front ++ v.extension ∧ Path.Takes front v.extension)
            ∨ isPackageName kept = true ∨ isCoreDirectory kept = true))
      ∧ (decision p listing (t.readBack source (e.apply source)) ≠ .conforms →
        ∃ w, decision p listing (t.readBack source (e.apply source)) = .violates w
          ∧ w.kind = v.kind ∧ w.extension = v.extension ∧ w.fixable = true) := by
  have hb := decision_eq_violates h
  obtain ⟨f, hholds, rfl⟩ := Frame.exists_holds hspans hvalue
  obtain ⟨mended, hmends, hedit⟩ := Frame.exists_mended hholds h hfix
  rw [hedit]
  have hspecifier := Frame.specifier_readBack hholds mended
  have hresolved : (t.readBack (f.around t.specifier) (f.around mended)).resolved = t.resolved := rfl
  have hexempt := isExempt_iff hb hresolved
  rw [hspecifier] at hexempt
  refine ⟨fun hkind => ?_, fun hkind => ?_, fun hne => ?_⟩
  · -- the specifier has the extension behind it
    rw [Violation.Mends, hkind, hb.place, ← hvalue] at hmends
    rw [conforms_iff_of_require hb hkind hresolved, hexempt, hspecifier, hmends,
      Path.extension_append_iff _ hb.extension_ne_nil]
    obtain ⟨after, hext⟩ := hb.exists_cons_extension
    have hpackage := hb.not_exempt
    simp only [isExempt, Bool.or_eq_false_iff] at hpackage
    rw [hext, isPackageName_append_iff hpackage.1.2, isCoreDirectory_append]
    simp [or_comm]
  · rw [Violation.Mends, hkind, hb.place, ← hvalue] at hmends
    refine ⟨mended, hmends, ?_⟩
    rw [conforms_iff_of_forbid hb hkind hresolved, hexempt, hspecifier, ne_eq,
      Path.extension_eq_iff hb.extension_ne_nil]
    exact or_comm
  · obtain ⟨w, hw, hkind, hext, hfixable⟩ := violates_of_not_conforms hb hresolved hne
    refine ⟨w, hw, hkind, hext, ?_⟩
    rw [hfixable, Violation.fixable, hfix]
    rfl

/-- A line with one import. -/
def importLine (specifier : Text) : Text := "import '" ++ specifier ++ "';"

/-- The target of this import. -/
def importedAs (specifier path : Text) : Target where
  specifier := specifier
  resolved := some path
  place := .ofSource (importLine specifier) 7 (specifier.length + 9)

/-- A directory with a script, a file that is found without an extension beside its declarations, and a
script with its extension written twice. -/
def sourceListing : Sibling.Listing := fun directory =>
  if directory = ("/src" : Text) then some ["bar.mjs", "foo", "foo.d.ts", "twice.js.js"] else none

/-- A script whose directory is reached over another, with the extension in its name, is settled. -/
theorem fix_settles_iff_script :
    ∃ v e, decision {} sourceListing (importedAs "./lib.mjs/../bar" "/src/bar.mjs") = .violates v
      ∧ v.fix = some e
      ∧ e.apply (importLine "./lib.mjs/../bar") = importLine "./lib.mjs/../bar.mjs"
      ∧ decision {} sourceListing
          ((importedAs "./lib.mjs/../bar" "/src/bar.mjs").readBack (importLine "./lib.mjs/../bar")
            (e.apply (importLine "./lib.mjs/../bar"))) = .conforms := by
  have hviolation : (decision {} sourceListing
      (importedAs "./lib.mjs/../bar" "/src/bar.mjs")).violation?.map
        (fun v => (v.kind, v.extension, v.fix))
          = some (.requireExtension, (".mjs" : Text), some (.insertAt 24 ".mjs")) := by
    decide +kernel
  obtain ⟨v, hv, hparts⟩ := Option.map_eq_some_iff.1 hviolation
  simp only [Prod.mk.injEq] at hparts
  obtain ⟨hkind, hext, hfix⟩ := hparts
  have hdecision := eq_violates_of_violation? hv
  have hspans : (importedAs "./lib.mjs/../bar" "/src/bar.mjs").place.Spans
      (importLine "./lib.mjs/../bar") := Source.ofSource_spans (by decide) (by decide)
  obtain ⟨hrequire, _, _⟩ := fix_settles_iff hspans (by decide) hdecision hfix
  refine ⟨v, _, hdecision, hfix, by decide, (hrequire hkind).2 (.inl ?_)⟩
  rw [hext]
  exact ⟨⟨"mjs", by decide, by decide, by decide⟩, by decide⟩

/-- An extension that is written twice, and one with two points, are not settled by the fix: the rule
asks for the same change again. -/
theorem fix_leaves_violation :
    (∃ v e w, decision { defaultStyle := .never } sourceListing
        (importedAs "./twice.js.js" "/src/twice.js.js") = .violates v
      ∧ v.fix = some e ∧ e.apply (importLine "./twice.js.js") = importLine "./twice.js"
      ∧ decision { defaultStyle := .never } sourceListing
          ((importedAs "./twice.js.js" "/src/twice.js.js").readBack (importLine "./twice.js.js")
            (importLine "./twice.js")) = .violates w
      ∧ w.kind = v.kind ∧ w.fix = some (.remove 15 18))
      ∧ ∃ v e w, decision {} sourceListing (importedAs "./foo" "/src/foo") = .violates v
        ∧ v.fix = some e ∧ e.apply (importLine "./foo") = importLine "./foo.d.ts"
        ∧ decision {} sourceListing
            ((importedAs "./foo" "/src/foo").readBack (importLine "./foo") (importLine "./foo.d.ts"))
              = .violates w
        ∧ w.kind = v.kind ∧ w.fix = some (.insertAt 18 ".d.ts") := by
  have hdecided (p : Policy) (t u : Target) (kind : ViolationKind) (e e' : Edit)
      (ht : (decision p sourceListing t).violation?.map (fun v => (v.kind, v.fix)) = some (kind, some e))
      (hu : (decision p sourceListing u).violation?.map (fun v => (v.kind, v.fix))
        = some (kind, some e')) :
      ∃ v w, decision p sourceListing t = .violates v ∧ v.fix = some e
        ∧ decision p sourceListing u = .violates w ∧ w.kind = v.kind ∧ w.fix = some e' := by
    obtain ⟨v, hv, hparts⟩ := Option.map_eq_some_iff.1 ht
    obtain ⟨w, hw, hagain⟩ := Option.map_eq_some_iff.1 hu
    simp only [Prod.mk.injEq] at hparts hagain
    exact ⟨v, w, eq_violates_of_violation? hv, hparts.2, eq_violates_of_violation? hw,
      hagain.1.trans hparts.1.symm, hagain.2⟩
  constructor
  · obtain ⟨v, w, hv, hfix, hw, hkind, hagain⟩ := hdecided { defaultStyle := .never }
      (importedAs "./twice.js.js" "/src/twice.js.js")
      ((importedAs "./twice.js.js" "/src/twice.js.js").readBack (importLine "./twice.js.js")
        (importLine "./twice.js"))
      .forbidExtension (.remove 18 21) (.remove 15 18) (by decide +kernel) (by decide +kernel)
    exact ⟨v, _, w, hv, hfix, by decide, hw, hkind, hagain⟩
  · obtain ⟨v, w, hv, hfix, hw, hkind, hagain⟩ := hdecided {} (importedAs "./foo" "/src/foo")
      ((importedAs "./foo" "/src/foo").readBack (importLine "./foo") (importLine "./foo.d.ts"))
      .requireExtension (.insertAt 13 ".d.ts") (.insertAt 18 ".d.ts")
      (by decide +kernel) (by decide +kernel)
    exact ⟨v, _, w, hv, hfix, by decide, hw, hkind, hagain⟩

/-! ### Fixes that undo each other -/

theorem isExempt_eq_false_of_takes (h : Breaks p listing t v) {u : Target}
    (hresolved : u.resolved = t.resolved) (hspecifier : u.specifier = t.specifier ++ v.extension)
    (hbackslash : '\\' ∉ t.specifier) (htakes : Path.Takes t.specifier v.extension) :
    isExempt u = false := by
  obtain ⟨after, hext⟩ := h.exists_cons_extension
  have hpackage := h.not_exempt
  simp only [isExempt, Bool.or_eq_false_iff] at hpackage
  rw [Bool.eq_false_iff, ne_eq, isExempt_iff h hresolved, hspecifier, hext, isCoreDirectory_append,
    isPackageName_append_iff hpackage.1.2]
  rintro (⟨_, hnil | ⟨scope, c, hscope, _, hc⟩⟩ | hcore)
  · rw [hnil] at htakes
    exact absurd htakes.2 (by decide)
  · rw [hscope] at hbackslash htakes
    simp only [isSlash, Bool.or_eq_true, decide_eq_true_eq] at hc
    rcases hc with rfl | rfl
    · -- what stands behind the slash of the scope is empty
      have hempty : '/' ∉ ([] : Text) := by simp
      have hname := Path.baseName_append ('@' :: scope) hempty
      rw [List.cons_append] at hname
      exact absurd htakes.2 (by rw [hname]; decide)
    · exact hbackslash (by simp)
  · exact absurd hcore (by simp)

/-- Where extensions are wanted and one is added to a specifier without backslashes that takes it, a
policy that wants the extension nowhere takes the same extension off again, and both fixes together
leave the source as it was. -/
theorem removal_undoes_insertion {wanted unwanted : Policy} (hspans : t.place.Spans source)
    (hvalue : t.specifier = t.place.value) (hesm : unwanted.esm = wanted.esm)
    (hsingle : (siblingsOf listing t).length = 1) (hbackslash : '\\' ∉ t.specifier)
    (hname : ∃ c ∈ Path.baseName t.specifier, c ≠ '.')
    (h : decision wanted listing t = .violates v) (hkind : v.kind = .requireExtension)
    (hpoint : v.extension.count '.' = 1) (hslash : '/' ∉ v.extension)
    (hstyle : unwanted.styleFor v.extension = .never) :
    ∃ e w e', v.fix = some e
      ∧ decision unwanted listing (t.readBack source (e.apply source)) = .violates w
      ∧ w.kind = .forbidExtension ∧ w.extension = v.extension ∧ w.fix = some e'
      ∧ e'.apply (e.apply source) = source := by
  have hb := decision_eq_violates h
  -- the only sibling stands out, so that the extension is added
  obtain ⟨e, hfix⟩ : ∃ e, v.fix = some e := by
    rcases hb.kind with ⟨_, _, _, hfix⟩ | ⟨hforbid, _⟩
    · rw [hasUniqueSibling, hsingle] at hfix
      exact ⟨_, hfix⟩
    · rw [hkind] at hforbid
      exact absurd hforbid (by simp)
  obtain ⟨f, hholds, rfl⟩ := Frame.exists_holds hspans hvalue
  obtain ⟨mended, hmends, hedit⟩ := Frame.exists_mended hholds h hfix
  rw [Violation.Mends, hkind, hb.place, ← hvalue] at hmends
  have hspecifier := Frame.specifier_readBack hholds mended
  have hresolved : (t.readBack (f.around t.specifier) (f.around mended)).resolved = t.resolved := rfl
  have htakes : Path.Takes t.specifier v.extension := by
    obtain ⟨after, hext⟩ := hb.exists_cons_extension
    rw [hext] at hpoint hslash
    refine ⟨⟨after, hext, ?_, fun hmem => hslash (List.mem_cons_of_mem _ hmem)⟩, ?_⟩
    · rw [List.count_cons_self, Nat.add_eq_right, List.count_eq_zero] at hpoint
      exact hpoint
    · simpa [List.all_eq_false] using hname
  have hexempt := isExempt_eq_false_of_takes hb hresolved (hspecifier.trans hmends) hbackslash htakes
  have hwritten : v.extension
      = Path.extension (t.readBack (f.around t.specifier) (f.around mended)).specifier := by
    rw [hspecifier, hmends]
    exact ((Path.extension_append_iff _ hb.extension_ne_nil).2 htakes).symm
  obtain ⟨w, e', hw, hforbid, hext, hfix'⟩ : ∃ w e',
      decision unwanted listing (t.readBack (f.around t.specifier) (f.around mended)) = .violates w
        ∧ w.kind = .forbidExtension ∧ w.extension = v.extension ∧ w.fix = some e' := by
    have hagain := decision_of_breaks hb hesm hresolved
    rw [hexempt, hstyle, forbidExtension_eq, if_neg (by simp), if_pos hsingle] at hagain
    dsimp only at hagain
    rw [if_pos hwritten] at hagain
    exact ⟨_, _, hagain, rfl, rfl, rfl⟩
  -- the frame holds the target that was read back, and its fix takes the extension off in it
  obtain ⟨restored, hrestored, hundone⟩ := Frame.exists_mended (hholds.readBack mended) hw hfix'
  rw [Violation.Mends, hforbid, (decision_eq_violates hw).place, hext] at hrestored
  dsimp only at hrestored
  rw [← (hholds.readBack mended).value, hspecifier, hmends] at hrestored
  rw [hspecifier, ← List.append_cancel_right hrestored, ← hedit] at hundone
  rw [← hedit] at hw
  exact ⟨e, w, e', hfix, hw, hforbid, hext, hfix', hundone⟩

/-- A directory with one script. -/
def nestedListing : Sibling.Listing := fun directory =>
  if directory = ("/src/a.js" : Text) then some ["foo.js"] else none

/-- The extension is found at the end of the specifier, though a directory in it has it too. -/
theorem removal_undoes_insertion_nested :
    ∃ v e w e', decision {} nestedListing (importedAs "./a.js/foo" "/src/a.js/foo.js") = .violates v
      ∧ v.kind = .requireExtension ∧ v.extension = (".js" : Text) ∧ v.fix = some e
      ∧ decision { overrides := [(".js", .never)] } nestedListing
          ((importedAs "./a.js/foo" "/src/a.js/foo.js").readBack (importLine "./a.js/foo")
            (e.apply (importLine "./a.js/foo"))) = .violates w
      ∧ w.kind = .forbidExtension ∧ w.extension = v.extension ∧ w.fix = some e'
      ∧ e'.apply (e.apply (importLine "./a.js/foo")) = importLine "./a.js/foo" := by
  have hviolation : (decision {} nestedListing
      (importedAs "./a.js/foo" "/src/a.js/foo.js")).violation?.map (fun v => (v.kind, v.extension))
        = some (.requireExtension, (".js" : Text)) := by
    decide +kernel
  obtain ⟨v, hv, hparts⟩ := Option.map_eq_some_iff.1 hviolation
  simp only [Prod.mk.injEq] at hparts
  obtain ⟨hkind, hext⟩ := hparts
  have hdecision := eq_violates_of_violation? hv
  have hspans : (importedAs "./a.js/foo" "/src/a.js/foo.js").place.Spans (importLine "./a.js/foo") :=
    Source.ofSource_spans (by decide) (by decide)
  have hesm : ({ overrides := [(".js", .never)] } : Policy).esm = ({} : Policy).esm := rfl
  have hsingle : (siblingsOf nestedListing
      (importedAs "./a.js/foo" "/src/a.js/foo.js")).length = 1 := by
    decide +kernel
  obtain ⟨e, w, e', hfix, hw, hfound⟩ := removal_undoes_insertion hspans (by decide) hesm hsingle
    (by decide) ⟨'f', by decide, by decide⟩ hdecision hkind (by rw [hext]; decide)
    (by rw [hext]; decide) (by rw [hext]; decide)
  exact ⟨v, e, w, e', hdecision, hkind, hext, hfix, hw, hfound⟩

end Rule

end SpecifierLint
