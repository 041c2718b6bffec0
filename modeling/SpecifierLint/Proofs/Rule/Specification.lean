/-
The decision against its specification.

The specification speaks of the sole TypeScript sibling and of the sole sibling of a file, where the
decision takes the first one of a list, and it takes for granted that an extension that is to be cut off
occurs in the specifier.  Both come to the same: a first sibling is only taken if one stands out, and an
extension is only cut off if the specifier ends in it.  Main statements:

* **`foundExtension?_eq_some_iff`** — the extension of a target is the one that the specification means;
* **`strictDecision_eq`** — what the decision takes out of a list or a specifier is always there;
* **`decision_meets_specification`** — the outcome for every target is the one that is specified.
-/
import SpecifierLint.Proofs.Rule.Fix

namespace SpecifierLint.Rule

variable {p : Policy} {listing : Sibling.Listing} {t : Target} {resolved found extension : Text}
  {siblings : List Text}

/-! ### The extension of a file -/

/-- The TypeScript sources among the siblings. -/
def typescriptOf (siblings : List Text) : List Text := siblings.filter typescriptExtensions.contains

/-- There is one sibling only, or one TypeScript source among them. -/
def StandsOut (siblings : List Text) : Prop :=
  siblings.length = 1 ∨ (typescriptOf siblings).length = 1

theorem hasUniqueSibling_iff : hasUniqueSibling siblings = true ↔ StandsOut siblings := by
  rw [hasUniqueSibling, StandsOut, typescriptOf, Bool.or_eq_true, decide_eq_true_eq, decide_eq_true_eq]

/-- The extension that a file really has: its own, or that of the sole TypeScript source beside it, or
that of the sole file beside it. -/
inductive IsFound (resolved : Text) (siblings : List Text) : Text → Prop
  | own (h : resolved ≠ []) : IsFound resolved siblings resolved
  | soleTypescript {e : Text} (h : resolved = []) (hsole : typescriptOf siblings = [e]) :
      IsFound resolved siblings e
  | sole {e : Text} (h : resolved = []) (hmany : (typescriptOf siblings).length ≠ 1)
      (hsole : siblings = [e]) : IsFound resolved siblings e

theorem typescriptOf_singleton {e : Text} (h : (typescriptOf [e]).length ≠ 1) :
    typescriptOf [e] = [] := by
  have hle : (typescriptOf [e]).length ≤ 1 := List.length_filter_le ..
  exact List.length_eq_zero_iff.1 (by omega)

theorem foundExtension?_nil :
    foundExtension? [] siblings
      = if hasUniqueSibling siblings then (typescriptOf siblings).head?.or siblings.head? else none :=
  rfl

theorem foundExtension?_of_ne (h : resolved ≠ []) :
    foundExtension? resolved siblings = some resolved := by
  rw [foundExtension?, if_pos (by simpa using h)]

/-- The extension of a target is the one that the specification means. -/
theorem foundExtension?_eq_some_iff :
    foundExtension? resolved siblings = some found ↔ IsFound resolved siblings found := by
  constructor
  · intro h
    -- without an extension of its own the file takes the one that stands out among its siblings
    by_cases hresolved : resolved = []
    · rw [hresolved, foundExtension?_nil, Option.ite_none_right_eq_some, hasUniqueSibling_iff] at h
      obtain ⟨hout, h⟩ := h
      by_cases htypescript : (typescriptOf siblings).length = 1
      · obtain ⟨e, he⟩ := List.length_eq_one_iff.1 htypescript
        rw [he] at h
        cases h
        exact .soleTypescript hresolved he
      · obtain ⟨e, rfl⟩ := List.length_eq_one_iff.1 (hout.resolve_right htypescript)
        rw [typescriptOf_singleton htypescript] at h
        cases h
        exact .sole hresolved htypescript rfl
    · rw [foundExtension?_of_ne hresolved] at h
      cases h
      exact .own hresolved
  · intro h
    cases h with
    | own h => exact foundExtension?_of_ne h
    | soleTypescript h hsole =>
      have hout : StandsOut siblings := .inr (by rw [hsole]; rfl)
      rw [h, foundExtension?_nil, if_pos (hasUniqueSibling_iff.2 hout), hsole]
      rfl
    | sole h hmany hsole =>
      subst hsole
      rw [h, foundExtension?_nil, if_pos (hasUniqueSibling_iff.2 (.inl rfl)),
        typescriptOf_singleton hmany]
      rfl

/-- A file has no extension exactly if it has none of its own and no sibling stands out. -/
theorem foundExtension?_eq_none_iff :
    foundExtension? resolved siblings = none ↔ resolved = [] ∧ ¬ StandsOut siblings := by
  by_cases hresolved : resolved = []
  · rw [hresolved, foundExtension?_nil, ← hasUniqueSibling_iff]
    by_cases hout : hasUniqueSibling siblings = true
    · -- the list that is not empty has a first element
      have hne : siblings ≠ [] := by
        rintro rfl
        exact absurd hout (by decide)
      simp [hout, hne]
    · simp [hout]
  · simp [foundExtension?_of_ne hresolved, hresolved]

/-! ### The decision step by step -/

/-- Something that the decision takes is not there. -/
inductive Lack where
  /-- A list of siblings has no first one. -/
  | sibling
  /-- An extension does not occur in the specifier. -/
  | occurrence

/-- The first one of the siblings. -/
def firstOf : List Text → Except Lack Text
  | [] => .error .sibling
  | e :: _ => .ok e

/-- The extension of a file: its own, or the first TypeScript source beside it if there is any, or else
the first sibling. -/
def strictExtension (resolved : Text) (siblings : List Text) : Except Lack Text :=
  if resolved ≠ [] then .ok resolved
  else if typescriptOf siblings ≠ [] then firstOf (typescriptOf siblings)
  else firstOf siblings

/-- The edit that cuts the last occurrence of an extension out of the specifier. -/
def strictRemoval (t : Target) (extension : Text) : Except Lack Edit :=
  match Text.lastOffset? extension t.specifier with
  | none => .error .occurrence
  | some offset =>
    let start : Int := t.place.start + 1 + offset
    .ok (.remove start (start + extension.length))

/-- The decision, where the first sibling is taken without a look whether there is one, and so is the
last occurrence of an extension. -/
def strictDecision (p : Policy) (listing : Sibling.Listing) (t : Target) : Except Lack Decision :=
  let siblings := siblingsOf listing t
  let resolved := Path.extension (t.resolved.getD [])
  let written := Path.extension t.specifier
  if isExempt t then .ok .conforms
  else if resolved = [] ∧ hasUniqueSibling siblings = false then .ok .conforms
  else
    match strictExtension resolved siblings with
    | .error lack => .error lack
    | .ok found =>
      let extension := canonical p.esm found
      match p.styleFor extension with
      | .always =>
        .ok (if extension = written then .conforms else requireExtension t siblings extension)
      | .never =>
        if extension ≠ written then .ok .conforms
        else if siblings.length ≠ 1 then
          .ok (violationOf t .forbidExtension extension none (some ambiguousRemoval))
        else
          (strictRemoval t extension).map fun edit =>
            violationOf t .forbidExtension extension (some edit) none

theorem strictExtension_of_isFound (h : IsFound resolved siblings found) :
    strictExtension resolved siblings = .ok found := by
  cases h with
  | own h => rw [strictExtension, if_pos h]
  | soleTypescript h hsole =>
    rw [strictExtension, if_neg (by simpa using h), hsole, if_pos (by simp), firstOf]
  | sole h hmany hsole =>
    subst hsole
    rw [strictExtension, if_neg (by simpa using h), typescriptOf_singleton hmany, if_neg (by simp),
      firstOf]

theorem exists_lastOffset?_of_written (hne : extension ≠ [])
    (hwritten : extension = Path.extension t.specifier) :
    ∃ offset, Text.lastOffset? extension t.specifier = some offset := by
  obtain ⟨kept, hkept, _⟩ := (Path.extension_eq_iff hne).1 hwritten.symm
  exact ⟨kept.length, by rw [hkept, Text.lastOffset?_append kept hne]⟩

/-- The removal that the decision makes is that of the last occurrence of the extension. -/
theorem strictRemoval_of_written (hne : extension ≠ [])
    (hwritten : extension = Path.extension t.specifier) (hsingle : siblings.length = 1) :
    (strictRemoval t extension).map (fun edit => violationOf t .forbidExtension extension (some edit) none)
      = .ok (forbidExtension t siblings extension) := by
  obtain ⟨offset, hoffset⟩ := exists_lastOffset?_of_written hne hwritten
  rw [strictRemoval, hoffset, forbidExtension, if_pos hsingle, hoffset]
  rfl

/-- What the decision takes out of a list of siblings or out of the specifier is always there. -/
theorem strictDecision_eq (p : Policy) (listing : Sibling.Listing) (t : Target) :
    strictDecision p listing t = .ok (decision p listing t) := by
  rw [strictDecision]
  dsimp only
  cases hfound : foundExtension? (Path.extension (t.resolved.getD [])) (siblingsOf listing t) with
  | none =>
    obtain ⟨hresolved, hout⟩ := foundExtension?_eq_none_iff.1 hfound
    rw [← hasUniqueSibling_iff, Bool.not_eq_true] at hout
    rw [decision_of_not_found hfound]
    split
    · rfl
    · rw [if_pos ⟨hresolved, hout⟩]
  | some found =>
    -- a target with an extension is not one that is skipped
    have hcertain : ¬ (Path.extension (t.resolved.getD []) = []
        ∧ hasUniqueSibling (siblingsOf listing t) = false) := by
      rintro ⟨hresolved, hout⟩
      rw [foundExtension?_eq_none_iff.2 ⟨hresolved, by simp [← hasUniqueSibling_iff, hout]⟩] at hfound
      exact absurd hfound (by simp)
    rw [decision_of_found hfound, if_neg hcertain,
      strictExtension_of_isFound (foundExtension?_eq_some_iff.1 hfound)]
    dsimp only
    by_cases hexempt : isExempt t = true
    · rw [if_pos hexempt, if_pos hexempt]
    · rw [if_neg hexempt, if_neg hexempt]
      cases p.styleFor (canonical p.esm found) with
      | always => rfl
      | never =>
        dsimp only
        by_cases hwritten : canonical p.esm found = Path.extension t.specifier
        · rw [if_neg (by simpa using hwritten), if_pos hwritten]
          by_cases hsingle : (siblingsOf listing t).length = 1
          · obtain ⟨rest, hrest⟩ := exists_cons_of_foundExtension? hfound
            rw [if_neg (by simpa using hsingle)]
            exact strictRemoval_of_written (canonical_ne_nil (by simp [hrest])) hwritten hsingle
          · rw [if_pos hsingle, forbidExtension, if_neg hsingle]
        · rw [if_pos hwritten, if_neg hwritten]

/-! ### The specification -/

/-- The extension that the specifier of a target is measured by: that of its file, where TypeScript
sources count as `.js` under the module flag.  A target that is exempt has none. -/
def IsCanonical (p : Policy) (listing : Sibling.Listing) (t : Target) (extension : Text) : Prop :=
  isExempt t = false
    ∧ ∃ found, IsFound (Path.extension (t.resolved.getD [])) (siblingsOf listing t) found
      ∧ extension = if p.esm = true ∧ found ∈ typescriptExtensions then (".js" : Text) else found

/-- What the specification says about the outcome for a target. -/
structure MeetsSpecification (p : Policy) (listing : Sibling.Listing) (t : Target)
    (outcome : Decision) : Prop where
  exempt : isExempt t = true → outcome = .conforms
  undetermined : Path.extension (t.resolved.getD []) = [] → ¬ StandsOut (siblingsOf listing t) →
    outcome = .conforms
  determined : isExempt t = false →
    Path.extension (t.resolved.getD []) ≠ [] ∨ StandsOut (siblingsOf listing t) →
    ∃ extension, IsCanonical p listing t extension
  requires : ∀ extension, IsCanonical p listing t extension →
    ((∃ v, outcome = .violates v ∧ v.kind = .requireExtension) ↔
      p.styleFor extension = .always ∧ extension ≠ Path.extension t.specifier)
  forbids : ∀ extension, IsCanonical p listing t extension →
    ((∃ v, outcome = .violates v ∧ v.kind = .forbidExtension) ↔
      p.styleFor extension = .never ∧ extension = Path.extension t.specifier)
  names : ∀ v, outcome = .violates v → IsCanonical p listing t v.extension
  insertion : ∀ v, outcome = .violates v → v.kind = .requireExtension →
    (v.fixable = true ↔ StandsOut (siblingsOf listing t))
  removal : ∀ v, outcome = .violates v → v.kind = .forbidExtension →
    (v.fixable = true ↔ (siblingsOf listing t).length = 1)
  /-- A reason is given exactly if there is no fix, and the outcome is called after that. -/
  tristate : (outcome = .conforms ∧ outcome.outcome = "no_violation")
    ∨ ∃ v, outcome = .violates v
      ∧ ((v.fix.isSome ∧ v.withheld = none ∧ outcome.outcome = "violation_with_fix")
        ∨ (v.fix = none ∧ v.withheld.isSome ∧ outcome.outcome = "violation_without_fix"))

theorem canonical_eq (esm : Bool) (found : Text) :
    canonical esm found
      = if esm = true ∧ found ∈ typescriptExtensions then (".js" : Text) else found := by
  rw [canonical]
  simp

theorem isCanonical_iff :
    IsCanonical p listing t extension ↔
      isExempt t = false ∧ ∃ found,
        foundExtension? (Path.extension (t.resolved.getD [])) (siblingsOf listing t) = some found
          ∧ extension = canonical p.esm found := by
  simp only [IsCanonical, foundExtension?_eq_some_iff, canonical_eq]

theorem decision_of_isCanonical (h : IsCanonical p listing t extension) :
    decision p listing t
      = match p.styleFor extension with
        | .always =>
          if extension = Path.extension t.specifier then .conforms
          else requireExtension t (siblingsOf listing t) extension
        | .never =>
          if extension = Path.extension t.specifier then
            forbidExtension t (siblingsOf listing t) extension
          else .conforms := by
  obtain ⟨hexempt, found, hfound, rfl⟩ := isCanonical_iff.1 h
  have hdecision := decision_of_found (p := p) hfound
  rw [hexempt, if_neg (by simp)] at hdecision
  exact hdecision

theorem parts_of_violationOf {kind : ViolationKind} {fix : Option Edit} {withheld : Option Text}
    {v : Violation} (h : violationOf t kind extension fix withheld = .violates v) :
    v.fix = fix ∧ v.withheld = withheld := by
  cases h
  exact ⟨rfl, rfl⟩

theorem isCanonical_of_violates {v : Violation} (h : decision p listing t = .violates v) :
    IsCanonical p listing t v.extension := by
  have hb := decision_eq_violates h
  exact isCanonical_iff.2 ⟨hb.not_exempt, hb.found⟩

theorem fix_or_withheld {v : Violation} (h : decision p listing t = .violates v) :
    (v.fix.isSome ∧ v.withheld = none) ∨ (v.fix = none ∧ v.withheld.isSome) := by
  have hdecision := decision_of_isCanonical (isCanonical_of_violates h)
  rw [h] at hdecision
  -- fix and reason depend on the same condition, which is another one for each kind
  rcases (decision_eq_violates h).kind with ⟨_, hstyle, hwritten, _⟩ | ⟨_, hstyle, hwritten, _⟩
  · rw [hstyle] at hdecision
    dsimp only at hdecision
    rw [if_neg hwritten, requireExtension_eq] at hdecision
    obtain ⟨hfix, hwithheld⟩ := parts_of_violationOf hdecision.symm
    rw [hfix, hwithheld]
    by_cases hout : hasUniqueSibling (siblingsOf listing t) = true
    · simp [hout]
    · simp [hout]
  · rw [hstyle] at hdecision
    dsimp only at hdecision
    rw [if_pos hwritten, forbidExtension_eq] at hdecision
    obtain ⟨hfix, hwithheld⟩ := parts_of_violationOf hdecision.symm
    rw [hfix, hwithheld]
    by_cases hsingle : (siblingsOf listing t).length = 1
    · simp [hsingle]
    · simp [hsingle]

/-- A missing extension is reported exactly if it is wanted and the specifier has another or none, and an
extension is reported as forbidden exactly if it is unwanted and the specifier has it. -/
theorem exists_violates_iff (h : IsCanonical p listing t extension) (kind : ViolationKind) :
    (∃ v, decision p listing t = .violates v ∧ v.kind = kind) ↔
      (kind = .requireExtension ∧ p.styleFor extension = .always
        ∧ extension ≠ Path.extension t.specifier)
      ∨ (kind = .forbidExtension ∧ p.styleFor extension = .never
        ∧ extension = Path.extension t.specifier) := by
  rw [decision_of_isCanonical h]
  by_cases hwritten : extension = Path.extension t.specifier
  · cases p.styleFor extension with
    | always => simp [hwritten]
    | never => simp [hwritten, forbidExtension_eq, violationOf, eq_comm (a := kind)]
  · cases p.styleFor extension with
    | always => simp [hwritten, requireExtension_eq, violationOf, eq_comm (a := kind)]
    | never => simp [hwritten]

/-- For every policy, every listing and every target the decision finds all that it takes, and its outcome
is the one that is specified. -/
theorem decision_meets_specification (p : Policy) (listing : Sibling.Listing) (t : Target) :
    strictDecision p listing t = .ok (decision p listing t)
      ∧ MeetsSpecification p listing t (decision p listing t) := by
  refine ⟨strictDecision_eq p listing t, ?_⟩
  constructor
  case exempt =>
    intro hexempt
    rw [decision, if_pos hexempt]
  case undetermined =>
    intro hresolved hout
    exact decision_of_not_found (foundExtension?_eq_none_iff.2 ⟨hresolved, hout⟩)
  case determined =>
    intro hexempt hor
    cases hfound : foundExtension? (Path.extension (t.resolved.getD [])) (siblingsOf listing t) with
    | none =>
      obtain ⟨hresolved, hout⟩ := foundExtension?_eq_none_iff.1 hfound
      rcases hor with h | h
      · exact absurd hresolved h
      · exact absurd h hout
    | some found => exact ⟨_, isCanonical_iff.2 ⟨hexempt, found, hfound, rfl⟩⟩
  case requires => exact fun _ h => by simpa using exists_violates_iff h .requireExtension
  case forbids => exact fun _ h => by simpa using exists_violates_iff h .forbidExtension
  case names => exact fun _ h => isCanonical_of_violates h
  case insertion =>
    intro v h hkind
    rcases (decision_eq_violates h).kind with ⟨_, _, _, hfix⟩ | ⟨hforbid, _⟩
    · rw [Violation.fixable, hfix, Option.isSome_ite, hasUniqueSibling_iff]
    · rw [hkind] at hforbid
      exact absurd hforbid (by simp)
  case removal =>
    intro v h hkind
    rcases (decision_eq_violates h).kind with ⟨hrequire, _⟩ | ⟨_, _, _, hfix⟩
    · rw [hkind] at hrequire
      exact absurd hrequire (by simp)
    · rw [Violation.fixable, hfix, Option.isSome_ite]
  case tristate =>
    cases h : decision p listing t with
    | conforms => exact .inl ⟨rfl, rfl⟩
    | violates v =>
      refine .inr ⟨v, rfl, ?_⟩
      rcases fix_or_withheld h with ⟨hfix, hwithheld⟩ | ⟨hfix, hwithheld⟩
      · exact .inl ⟨hfix, hwithheld, if_pos hfix⟩
      · have hnot : ¬ v.fixable = true := by simp [Violation.fixable, hfix]
        exact .inr ⟨hfix, hwithheld, if_neg hnot⟩

end SpecifierLint.Rule
