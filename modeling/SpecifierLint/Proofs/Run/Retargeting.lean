/-
Fixes and the files that specifiers resolve to.

A fix changes a specifier, and the changed specifier is resolved by a search that the rule does not
see.  Whether it still resolves to the same file depends on the route by which the search got there.
A place that led to its file by trying the extension that is added leads there again, and so does one
that loses an extension to try.  The index of a directory, and a file whose extension is never tried,
are lost.  Main statements:

* **`insertion_keeps_target_iff`** — when a specifier with an extension added resolves to the same file;
* **`insertion_loses_index`** — the index of a directory is lost;
* **`removal_keeps_target_iff`** — when a specifier with its extension cut off does;
* **`removal_loses_untried`** — a file with an extension that is never tried is lost.
-/
import SpecifierLint.Proofs.Outcome
import SpecifierLint.Proofs.Resolution.Siblings

namespace SpecifierLint.Run

open Resolution

variable {d : Disk} {p : Policy} {t : Target} {v : Violation} {directory path : Text}

theorem exists_isSlash_of_breaks (h : Rule.Breaks p (listing d) t v) (hne : t.specifier ≠ []) :
    ∃ c ∈ t.specifier, Rule.isSlash c = true := by
  have hexempt := h.not_exempt
  simp only [Rule.isExempt, Bool.or_eq_false_iff] at hexempt
  exact exists_isSlash_of_not_isPackageName hne hexempt.1.2

/-! ### Extensions that are added -/

/-- A specifier with the extension of its violation added resolves to the same file exactly if the
first of its places that is not silent leads there.  If the specifier ends in a name, these places are
those of the specifier with the extension behind them, and the place that led to the file still leads
there exactly if it finds the file again.  A path has one place only, so that this decides. -/
theorem insertion_keeps_target_iff
    (hresolve : resolve d p.tryExtensions directory t.specifier = .ok (some path))
    (hv : Rule.decision p (listing d) t = .violates v) :
    (resolve d p.tryExtensions directory (t.specifier ++ v.extension) = .ok (some path) ↔
        FirstLeads d p.tryExtensions (places d directory (t.specifier ++ v.extension)) path)
      ∧ (Path.EndsInName t.specifier →
        places d directory (t.specifier ++ v.extension)
          = (places d directory t.specifier).map (· ++ v.extension))
      ∧ (Path.EndsInName t.specifier → d.HasPlace →
        (∀ place ∈ places d directory t.specifier, Leads d p.tryExtensions place path →
          (Leads d p.tryExtensions (place ++ v.extension) path ↔
            Refinds d p.tryExtensions (place ++ v.extension) path))
        ∧ (isPathLike t.specifier = true →
          (resolve d p.tryExtensions directory (t.specifier ++ v.extension) = .ok (some path) ↔
            Refinds d p.tryExtensions (Path.joined directory t.specifier ++ v.extension) path))) := by
  have hb := Rule.decision_eq_violates hv
  obtain ⟨hsearched, hfirst⟩ := resolve_eq_some.1 hresolve
  have hslash := exists_isSlash_of_breaks hb hsearched.1
  have hext := hb.slash_not_mem_extension
  have hiff : resolve d p.tryExtensions directory (t.specifier ++ v.extension) = .ok (some path) ↔
      FirstLeads d p.tryExtensions (places d directory (t.specifier ++ v.extension)) path := by
    rw [resolve_eq_some]
    exact and_iff_right (isSearched_append hslash hsearched v.extension)
  have hplaces : Path.EndsInName t.specifier → places d directory (t.specifier ++ v.extension)
      = (places d directory t.specifier).map (· ++ v.extension) :=
    fun hname => places_append hname (not_all_points_of_isSlash hslash) hext
  have hleads : Path.EndsInName t.specifier → d.HasPlace → ∀ place ∈ places d directory t.specifier,
      Leads d p.tryExtensions place path →
        (Leads d p.tryExtensions (place ++ v.extension) path ↔
          Refinds d p.tryExtensions (place ++ v.extension) path) := by
    intro hname hd place hplace hleads
    obtain ⟨front, hlast⟩ := hasLast_of_mem_places hname hplace
    exact leads_append_iff hd hlast hext hb.extension_ne_nil hleads
  refine ⟨hiff, hplaces, fun hname hd => ⟨hleads hname hd, fun hlike => ?_⟩⟩
  -- the single place led to the file before, so the single longer place is the one to look at
  have hone := places_of_isPathLike d directory hlike
  rw [hone, firstLeads_singleton] at hfirst
  rw [hiff, hplaces hname, hone, List.map_singleton, firstLeads_singleton]
  exact hleads hname hd _ (by rw [hone]; exact List.mem_singleton_self _) hfirst

/-- A script, a TypeScript source, and a directory with an index. -/
def importDisk : Disk where
  entries := [([("proj" : Text)], .directory), ([("proj" : Text), "a.ts"], .file (.text [])),
    ([("proj" : Text), "b.js"], .file (.text [])), ([("proj" : Text), "lib"], .directory),
    ([("proj" : Text), "lib", "index.js"], .file (.text []))]
  cwd := [("proj" : Text)]

/-- The import of a specifier that resolves to a path. -/
def importOf (specifier path : Text) : Target where
  specifier := specifier
  resolved := some path
  place := .ofSource ("import '" ++ specifier ++ "';") 7 (specifier.length + 9)

/-- A script that is found by trying its extension is found again. -/
theorem insertion_keeps_target_iff_tried :
    ∃ v, resolve importDisk defaultTryExtensions "/proj" "./b" = .ok (some "/proj/b.js")
      ∧ Rule.decision {} (listing importDisk) (importOf "./b" "/proj/b.js") = .violates v
      ∧ v.kind = .requireExtension
      ∧ resolve importDisk defaultTryExtensions "/proj" (("./b" : Text) ++ v.extension)
          = .ok (some "/proj/b.js") := by
  have hresolve : resolve importDisk defaultTryExtensions "/proj" "./b" = .ok (some "/proj/b.js") := by
    decide +kernel
  have hviolation : (Rule.decision {} (listing importDisk)
      (importOf "./b" "/proj/b.js")).violation?.map (fun v => (v.kind, v.extension))
        = some (.requireExtension, (".js" : Text)) := by
    decide +kernel
  obtain ⟨v, hv, hparts⟩ := Option.map_eq_some_iff.1 hviolation
  simp only [Prod.mk.injEq] at hparts
  obtain ⟨hkind, hext⟩ := hparts
  have hdecision := Rule.eq_violates_of_violation? hv
  obtain ⟨_, _, hname⟩ :=
    insertion_keeps_target_iff (t := importOf "./b" "/proj/b.js") hresolve hdecision
  obtain ⟨_, hpath⟩ := hname (by decide) (by decide)
  refine ⟨v, hresolve, hdecision, hkind, (hpath (by decide)).2 (.inl ?_)⟩
  rw [hext]
  exact ⟨by decide +kernel, by decide +kernel⟩

/-- The index of a directory is lost: the specifier with the extension resolves to nothing. -/
theorem insertion_loses_index :
    ∃ v, resolve importDisk defaultTryExtensions "/proj" "./lib" = .ok (some "/proj/lib/index.js")
      ∧ Rule.decision {} (listing importDisk) (importOf "./lib" "/proj/lib/index.js") = .violates v
      ∧ v.kind = .requireExtension ∧ v.fix = some (.insertAt 13 v.extension)
      ∧ resolve importDisk defaultTryExtensions "/proj" (("./lib" : Text) ++ v.extension)
          = .ok none := by
  have hviolation : (Rule.decision {} (listing importDisk)
      (importOf "./lib" "/proj/lib/index.js")).violation?.map (fun v => (v.kind, v.extension, v.fix))
        = some (.requireExtension, (".js" : Text), some (.insertAt 13 ".js")) := by
    decide +kernel
  obtain ⟨v, hv, hparts⟩ := Option.map_eq_some_iff.1 hviolation
  simp only [Prod.mk.injEq] at hparts
  obtain ⟨hkind, hext, hfix⟩ := hparts
  refine ⟨v, by decide +kernel, Rule.eq_violates_of_violation? hv, hkind, ?_, ?_⟩
  · rw [hfix, hext]
  · rw [hext]
    decide +kernel

/-! ### Extensions that are cut off -/

/-- What is left of a specifier when its extension is cut off ends in a name that is not all points,
and the extension is that of this name with the extension behind it. -/
theorem endsInName_of_extension {kept extension : Text} (hkept : t.specifier = kept ++ extension)
    (hext : extension = Path.extension t.specifier) (hne : extension ≠ []) :
    Path.EndsInName kept ∧ Path.IsDown (Path.baseName kept) ∧ kept.all (· = '.') = false
      ∧ Path.nameExtension (Path.baseName kept ++ extension) = extension ∧ '/' ∉ extension := by
  obtain ⟨front, stem, after, hspec, heq, hfront, hstem, hslash, hafter⟩ :=
    Path.exists_name_of_extension (hext ▸ hne)
  rw [← hext] at heq
  subst heq
  have hcut : kept = front ++ stem := by
    rw [hspec] at hkept
    exact (List.append_cancel_right hkept).symm
  simp only [List.mem_append, not_or] at hslash
  have hbase : Path.baseName kept = stem := by
    rcases hfront with rfl | ⟨directory, rfl⟩
    · rw [hcut, List.nil_append, Path.baseName_of_not_mem hslash.1]
    · rw [hcut, List.append_assoc, List.singleton_append, Path.baseName_append directory hslash.1]
  -- a stem that is not all points is neither empty nor one of the two point components
  have hdown : Path.IsDown stem := by
    refine ⟨⟨?_, ?_, hslash.1⟩, ?_⟩
    · rintro rfl
      exact absurd hstem (by simp)
    · rintro rfl
      exact absurd hstem (by simp)
    · rintro rfl
      exact absurd hstem (by simp)
  refine ⟨?_, ?_, ?_, ?_, hslash.2⟩
  · rw [Path.EndsInName, hbase]
    exact hdown.1
  · rw [hbase]
    exact hdown
  · rw [hcut, List.all_append, hstem, Bool.and_false]
  · rw [hbase]
    exact Path.nameExtension_append hstem hafter

/-- A forbidden extension is the one that is written, and its edit is offered beside a single sibling
only. -/
theorem extension_of_forbid (h : Rule.Breaks p (listing d) t v) (hkind : v.kind = .forbidExtension) :
    v.extension = Path.extension t.specifier
      ∧ (v.fixable = true → (Rule.siblingsOf (listing d) t).length = 1) := by
  rcases h.kind with ⟨hrequire, _⟩ | ⟨_, _, hwritten, hfix⟩
  · rw [hkind] at hrequire
    exact absurd hrequire (by simp)
  · refine ⟨hwritten, fun hfixable => Decidable.byContradiction fun hmany => ?_⟩
    rw [if_neg hmany] at hfix
    simp [Violation.fixable, hfix] at hfixable

/-- A specifier with its forbidden extension cut off resolves to the same file exactly if it names no
core module and the first of its places that is not silent leads there.  The places of the specifier
are these places with the extension behind them.  If an edit is offered and all extensions to try are
plain, a place that is the file leads there without the extension exactly if there is no other file at
it and the extension is one of those to try, or the directory there leads to the file.  A path has one
place only, so that this decides. -/
theorem removal_keeps_target_iff {kept : Text}
    (hresolve : resolve d p.tryExtensions directory t.specifier = .ok (some path))
    (hresolved : t.resolved = some path) (hv : Rule.decision p (listing d) t = .violates v)
    (hkind : v.kind = .forbidExtension) (hkept : t.specifier = kept ++ v.extension) :
    (resolve d p.tryExtensions directory kept = .ok (some path) ↔
        isCoreModule kept = false ∧ FirstLeads d p.tryExtensions (places d directory kept) path)
      ∧ places d directory t.specifier = (places d directory kept).map (· ++ v.extension)
      ∧ (v.fixable = true → d.HasPlace → (∀ e ∈ p.tryExtensions, e.head? = some '.' ∧ '/' ∉ e) →
        (∀ place ∈ places d directory kept, d.isFile (place ++ v.extension) = .ok true →
          Path.absolute d.cwdPath (place ++ v.extension) = path →
          (∀ e ∈ p.tryExtensions, d.isTestable (place ++ e) = true) →
          (Leads d p.tryExtensions place path ↔
            d.isFile place = .ok false
              ∧ (v.extension ∈ p.tryExtensions ∨ InDirectory d p.tryExtensions place path)))
        ∧ (isPathLike kept = true → d.isFile (Path.joined directory t.specifier) = .ok true →
          (∀ e ∈ p.tryExtensions, d.isTestable (Path.joined directory kept ++ e) = true) →
          (resolve d p.tryExtensions directory kept = .ok (some path) ↔
            d.isFile (Path.joined directory kept) = .ok false
              ∧ (v.extension ∈ p.tryExtensions
                ∨ InDirectory d p.tryExtensions (Path.joined directory kept) path)))) := by
  have hb := Rule.decision_eq_violates hv
  obtain ⟨_, hfirst⟩ := resolve_eq_some.1 hresolve
  obtain ⟨hwritten, hfix⟩ := extension_of_forbid hb hkind
  obtain ⟨hname, hdown, hpoints, hext, hslash⟩ :=
    endsInName_of_extension hkept hwritten hb.extension_ne_nil
  have hiff : resolve d p.tryExtensions directory kept = .ok (some path) ↔
      isCoreModule kept = false ∧ FirstLeads d p.tryExtensions (places d directory kept) path := by
    -- the shortened specifier is not empty, but it can be the name of a core module
    rw [resolve_eq_some, IsSearched]
    exact ⟨fun h => ⟨h.1.2, h.2⟩, fun h => ⟨⟨hname.ne_nil, h.1⟩, h.2⟩⟩
  have hplaces : places d directory t.specifier = (places d directory kept).map (· ++ v.extension) := by
    rw [hkept]
    exact places_append hname hpoints hslash
  refine ⟨hiff, hplaces, fun hfixable hd hplain => ?_⟩
  have hleads : ∀ place ∈ places d directory kept, d.isFile (place ++ v.extension) = .ok true →
      Path.absolute d.cwdPath (place ++ v.extension) = path →
      (∀ e ∈ p.tryExtensions, d.isTestable (place ++ e) = true) →
      (Leads d p.tryExtensions place path ↔
        d.isFile place = .ok false
          ∧ (v.extension ∈ p.tryExtensions ∨ InDirectory d p.tryExtensions place path)) := by
    intro place hplace hfile hpath hshort
    obtain ⟨front, hlast⟩ := hasLast_of_mem_places hname hplace
    have hsingle := hfix hfixable
    rw [Rule.siblingsOf, hresolved, Option.getD_some] at hsingle
    exact leads_iff_of_single_sibling hd hlast hslash hb.extension_ne_nil hfile hpath hdown hext
      hsingle hplain hshort
  refine ⟨hleads, fun hlike hfile hshort => ?_⟩
  have hone := places_of_isPathLike d directory hlike
  have hjoined : Path.joined directory t.specifier = Path.joined directory kept ++ v.extension := by
    rw [hkept]
    exact Path.joined_append directory hname hslash
  rw [hplaces, hone, List.map_singleton, firstLeads_singleton] at hfirst
  rw [hjoined] at hfile
  -- the specifier names a file itself, so this is the file that it resolves to
  have hpath : Path.absolute d.cwdPath (Path.joined directory kept ++ v.extension) = path := by
    cases hfirst with
    | file here => rfl
    | behind absent found =>
      rw [Disk.fileSystem_isFile, hfile] at absent
      exact absurd absent (by simp)
  rw [hiff, hone, firstLeads_singleton, and_iff_right (isCoreModule_of_isPathLike hlike)]
  exact hleads _ (by rw [hone]; exact List.mem_singleton_self _) hfile hpath hshort

/-- Extensions are not written. -/
def barePolicy : Policy := { defaultStyle := .never }

/-- A script whose extension is one of those to try is found again. -/
theorem removal_keeps_target_iff_tried :
    ∃ v, resolve importDisk defaultTryExtensions "/proj" "./b.js" = .ok (some "/proj/b.js")
      ∧ Rule.decision barePolicy (listing importDisk) (importOf "./b.js" "/proj/b.js") = .violates v
      ∧ v.kind = .forbidExtension ∧ v.fixable = true ∧ ("./b.js" : Text) = "./b" ++ v.extension
      ∧ resolve importDisk defaultTryExtensions "/proj" "./b" = .ok (some "/proj/b.js") := by
  have hresolve : resolve importDisk defaultTryExtensions "/proj" "./b.js"
      = .ok (some "/proj/b.js") := by
    decide +kernel
  have hviolation : (Rule.decision barePolicy (listing importDisk)
      (importOf "./b.js" "/proj/b.js")).violation?.map (fun v => (v.kind, v.extension, v.fixable))
        = some (.forbidExtension, (".js" : Text), true) := by
    decide +kernel
  obtain ⟨v, hv, hparts⟩ := Option.map_eq_some_iff.1 hviolation
  simp only [Prod.mk.injEq] at hparts
  obtain ⟨hkind, hext, hfixable⟩ := hparts
  have hdecision := Rule.eq_violates_of_violation? hv
  have hkept : ("./b.js" : Text) = "./b" ++ v.extension := by
    rw [hext]
    decide
  obtain ⟨_, _, hoffered⟩ := removal_keeps_target_iff (t := importOf "./b.js" "/proj/b.js")
    hresolve rfl hdecision hkind hkept
  obtain ⟨_, hpath⟩ := hoffered hfixable (by decide) (by decide)
  have hiff := hpath (by decide) (by decide +kernel) (by decide +kernel)
  rw [hext] at hiff
  exact ⟨v, hresolve, hdecision, hkind, hfixable, hkept, hiff.2 ⟨by decide +kernel, .inl (by decide)⟩⟩

/-- A file whose extension is never tried is lost: the specifier without it resolves to nothing. -/
theorem removal_loses_untried :
    ∃ v, resolve importDisk defaultTryExtensions "/proj" "./a.ts" = .ok (some "/proj/a.ts")
      ∧ Rule.decision barePolicy (listing importDisk) (importOf "./a.ts" "/proj/a.ts") = .violates v
      ∧ v.kind = .forbidExtension ∧ v.fix = some (.remove 11 14)
      ∧ ("./a.ts" : Text) = "./a" ++ v.extension
      ∧ resolve importDisk defaultTryExtensions "/proj" "./a" = .ok none := by
  have hviolation : (Rule.decision barePolicy (listing importDisk)
      (importOf "./a.ts" "/proj/a.ts")).violation?.map (fun v => (v.kind, v.extension, v.fix))
        = some (.forbidExtension, (".ts" : Text), some (.remove 11 14)) := by
    decide +kernel
  obtain ⟨v, hv, hparts⟩ := Option.map_eq_some_iff.1 hviolation
  simp only [Prod.mk.injEq] at hparts
  obtain ⟨hkind, hext, hfix⟩ := hparts
  refine ⟨v, by decide +kernel, Rule.eq_violates_of_violation? hv, hkind, hfix, ?_, ?_⟩
  · rw [hext]
    decide
  · decide +kernel

end SpecifierLint.Run
