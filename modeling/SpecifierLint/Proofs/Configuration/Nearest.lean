/-
The nearest configuration.

The configuration file of each directory is looked at from a place upwards.  A file that is missing, cannot
be read, is no valid document or has nothing for the linter is passed over, and the first one that has
something decides.  Not every damaged file is passed over, though: at a path that cannot be tested, at bytes
that are no text, at a document that goes beyond a limit and at a `tool` that is no table the search ends,
and what is further up is not found.  Main statements:

* **`passed_or_gives_or_stops`** — a file is passed over, gives a section, or ends the search;
* **`firstIn_eq_ok`**, **`firstIn_eq_error`** — the first file that is not passed over decides;
* **`nearest_section_iff`** — what a search finds, and what it ends at.
-/
import SpecifierLint.ConfigFile
import SpecifierLint.Proofs.Disk.Descent

namespace SpecifierLint.ConfigFile

/-! ### Sections of a document -/

/-- The section of the linter in a document holds something. -/
structure Holds (document : Table) (found : Found) : Prop where
  tool : document.get? "tool" = some (.table found.tools)
  named : found.tools.get? sectionName = some found.linter
  present : found.linter.isPresent = true

/-- A document has nothing for the linter: there is nothing under `tool`, or no section of the linter in it
that holds something. -/
inductive Lacks (document : Table) : Prop
  | tool (missing : ∀ tool, document.get? "tool" = some tool → tool.isPresent = false)
  | linter {tools : Table} (tool : document.get? "tool" = some (.table tools))
      (missing : ∀ linter, tools.get? sectionName = some linter → linter.isPresent = false)

/-- There is something under `tool`, but no table. -/
def HasOddTool (document : Table) : Prop :=
  ∃ tool, document.get? "tool" = some tool ∧ tool.isPresent = true ∧ tool.table? = none

section

variable {document : Table}

theorem sectionOf_of_table {tools : Table} (h : document.get? "tool" = some (.table tools)) :
    sectionOf document
      = .ok ((tools.get? sectionName).bind fun linter =>
          if linter.isPresent then some (⟨linter, tools⟩ : Found) else none) := by
  rw [sectionOf, h]
  cases tools with
  | nil => rfl
  | cons entry rest =>
    -- a table with an entry is present
    dsimp only [Value.isPresent, List.isEmpty_cons, Bool.not_false, Bool.not_true]
    cases Table.get? (entry :: rest) sectionName with
    | none => rfl
    | some linter => rfl

theorem Holds.sectionOf_eq {found : Found} (h : Holds document found) :
    sectionOf document = .ok (some found) := by
  rw [sectionOf_of_table h.tool, h.named, Option.bind_some, if_pos h.present]

theorem Lacks.sectionOf_eq (h : Lacks document) : sectionOf document = .ok none := by
  cases h with
  | tool missing =>
    rw [sectionOf]
    cases htool : document.get? "tool" with
    | none => rfl
    | some tool => simp [missing tool htool]
  | @linter tools tool missing =>
    rw [sectionOf_of_table tool]
    cases hlinter : tools.get? sectionName with
    | none => rfl
    | some linter => simp [missing linter hlinter]

theorem HasOddTool.sectionOf_eq (h : HasOddTool document) :
    sectionOf document = .error .toolIsNoTable := by
  obtain ⟨tool, htool, hpresent, hother⟩ := h
  rw [sectionOf, htool]
  cases tool with
  | table tools => exact absurd hother (by simp [Value.table?])
  | _ => simp [hpresent]

theorem eq_table_of_table? {v : Value} {t : Table} (h : v.table? = some t) : v = .table t := by
  cases v with
  | table entries => rw [Option.some.inj h]
  | _ => exact absurd h (by simp [Value.table?])

/-- A document has a section that holds something, or has none, or has an odd `tool`. -/
theorem sectionOf_cases (document : Table) :
    (∃ found, Holds document found) ∨ Lacks document ∨ HasOddTool document := by
  by_cases hmissing : ∀ tool, document.get? "tool" = some tool → tool.isPresent = false
  · exact .inr (.inl (.tool hmissing))
  · push Not at hmissing
    obtain ⟨tool, htool, hpresent⟩ := hmissing
    cases htable : tool.table? with
    | none => exact .inr (.inr ⟨tool, htool, by simpa using hpresent, htable⟩)
    | some tools =>
      rw [eq_table_of_table? htable] at htool
      by_cases hnone : ∀ linter, tools.get? sectionName = some linter → linter.isPresent = false
      · exact .inr (.inl (.linter htool hnone))
      · push Not at hnone
        obtain ⟨linter, hlinter, hpresent⟩ := hnone
        exact .inl ⟨⟨linter, tools⟩, htool, hlinter, by simpa using hpresent⟩

end

/-! ### One directory -/

/-- The path of the configuration file in a directory. -/
def fileIn (l : Location) : Text := Disk.pathOf (l ++ [("pyproject.toml" : Text)])

/-- The file of a directory can be read and parsed, and its section for the linter holds something. -/
inductive Gives (d : Disk) (l : Location) (found : Found) : Prop
  | section {t : Text} {document : Table} (readable : d.content (fileIn l) = .ok (.text t))
      (parsed : Toml.read d.room.document t = .ok document) (holds : Holds document found)

/-- The file of a directory is passed over. -/
inductive Passed (d : Disk) (l : Location) : Prop
  | unreadable {fault : Fault} (testable : d.isTestable (fileIn l) = true)
      (unread : d.content (fileIn l) = .error fault)
  | invalid {t : Text} (readable : d.content (fileIn l) = .ok (.text t))
      (unparsed : Toml.read d.room.document t = .error .invalid)
  | noSection {t : Text} {document : Table} (readable : d.content (fileIn l) = .ok (.text t))
      (parsed : Toml.read d.room.document t = .ok document) (lacks : Lacks document)

/-- The file of a directory ends the search. -/
inductive Stops (d : Disk) (l : Location) : Trouble → Prop
  | blocked {e : AccessError} (plain : '\x00' ∉ fileIn l) (blocked : d.Blocked (fileIn l) e) :
      Stops d l (.disk (.access e (fileIn l)))
  | noText {bytes : List UInt8} {fault : Text.DecodeFault}
      (readable : d.content (fileIn l) = .ok (.raw bytes fault)) : Stops d l (.disk (.encoding fault))
  | longInteger {t : Text} (readable : d.content (fileIn l) = .ok (.text t))
      (unparsed : Toml.read d.room.document t = .error .longInteger) : Stops d l .longInteger
  | tooDeep {t : Text} (readable : d.content (fileIn l) = .ok (.text t))
      (unparsed : Toml.read d.room.document t = .error .tooDeep) : Stops d l .tooDeep
  | oddTool {t : Text} {document : Table} (readable : d.content (fileIn l) = .ok (.text t))
      (parsed : Toml.read d.room.document t = .ok document) (odd : HasOddTool document) :
      Stops d l .toolIsNoTable

section

variable {d : Disk} {l : Location}

/-- Where a file can be read its path can be tested, and where there is nothing it cannot be read. -/
theorem content_of_hasEntry {path : Text} :
    (∀ content, d.content path = .ok content → d.hasEntry path = .ok true)
      ∧ (d.hasEntry path = .ok false → ∃ fault, d.content path = .error fault) := by
  rw [Disk.content, Disk.hasEntry, Disk.test]
  cases d.reach path with
  | error e => exact ⟨by simp, fun _ => ⟨_, rfl⟩⟩
  | ok found => exact ⟨fun _ _ => rfl, fun h => absurd h (by simp [Disk.verdict])⟩

/-- Whether there is a file is found out first, which only makes a difference if this fails. -/
theorem inDirectory_eq (h : ∀ c ∈ l, Path.IsDown c) :
    inDirectory d (Disk.pathOf l)
      = match d.hasEntry (fileIn l) with
        | .error fault => .error (.disk fault)
        | .ok _ =>
          match d.content (fileIn l) with
          | .error _ => .ok none
          | .ok (.raw _ fault) => .error (.disk (.encoding fault))
          | .ok (.text t) =>
            match Toml.read d.room.document t with
            | .error .invalid => .ok none
            | .error .longInteger => .error .longInteger
            | .error .tooDeep => .error .tooDeep
            | .ok document => sectionOf document := by
  have hfile : Path.joined (Disk.pathOf l) "pyproject.toml" = fileIn l :=
    Disk.joined_pathOf h (by decide)
  rw [inDirectory, hfile]
  cases hentry : d.hasEntry (fileIn l) with
  | error fault => rfl
  | ok isThere =>
    cases isThere with
    | true => rfl
    | false =>
      -- what is not there cannot be read either, so the file is passed over both ways
      obtain ⟨fault, hunread⟩ := content_of_hasEntry.2 hentry
      rw [hunread]

variable (h : ∀ c ∈ l, Path.IsDown c)

include h

theorem inDirectory_of_text {t : Text} (readable : d.content (fileIn l) = .ok (.text t)) :
    inDirectory d (Disk.pathOf l)
      = match Toml.read d.room.document t with
        | .error .invalid => .ok none
        | .error .longInteger => .error .longInteger
        | .error .tooDeep => .error .tooDeep
        | .ok document => sectionOf document := by
  rw [inDirectory_eq h, content_of_hasEntry.1 _ readable, readable]

theorem Gives.inDirectory_eq {found : Found} (hgives : Gives d l found) :
    inDirectory d (Disk.pathOf l) = .ok (some found) := by
  obtain ⟨readable, parsed, holds⟩ := hgives
  rw [inDirectory_of_text h readable, parsed]
  exact holds.sectionOf_eq

theorem Passed.inDirectory_eq (hpassed : Passed d l) : inDirectory d (Disk.pathOf l) = .ok none := by
  cases hpassed with
  | unreadable testable unread =>
    rw [ConfigFile.inDirectory_eq h, unread]
    cases hentry : d.hasEntry (fileIn l) with
    | ok isThere => rfl
    | error fault =>
      -- the other tests of the path would fail as well
      have hfile : d.isFile (fileIn l) = .error fault :=
        Disk.isFile_eq_error.2 (Disk.test_eq_error.1 hentry)
      rw [Disk.isTestable, hfile] at testable
      exact absurd testable (by simp [Except.isOk, Except.toBool])
  | invalid readable unparsed => rw [inDirectory_of_text h readable, unparsed]
  | noSection readable parsed lacks =>
    rw [inDirectory_of_text h readable, parsed]
    exact lacks.sectionOf_eq

theorem Stops.inDirectory_eq {trouble : Trouble} (hstops : Stops d l trouble) :
    inDirectory d (Disk.pathOf l) = .error trouble := by
  cases hstops with
  | blocked plain blocked =>
    have hentry : d.hasEntry (fileIn l) = .error _ := Disk.test_eq_error.2 ⟨plain, _, blocked, rfl⟩
    rw [ConfigFile.inDirectory_eq h, hentry]
  | noText readable =>
    rw [ConfigFile.inDirectory_eq h, content_of_hasEntry.1 _ readable, readable]
  | longInteger readable unparsed => rw [inDirectory_of_text h readable, unparsed]
  | tooDeep readable unparsed => rw [inDirectory_of_text h readable, unparsed]
  | oddTool readable parsed odd =>
    rw [inDirectory_of_text h readable, parsed]
    exact odd.sectionOf_eq

omit h

/-- The file of a directory is passed over, gives a section, or ends the search. -/
theorem passed_or_gives_or_stops (d : Disk) (l : Location) :
    Passed d l ∨ (∃ found, Gives d l found) ∨ ∃ trouble, Stops d l trouble := by
  -- in the order in which the file is tested, read, parsed and looked into
  cases hcontent : d.content (fileIn l) with
  | error fault =>
    cases hfile : d.isFile (fileIn l) with
    | ok isThere => exact .inl (.unreadable (by rw [Disk.isTestable, hfile]; rfl) hcontent)
    | error other =>
      obtain ⟨hplain, e, hblocked, _⟩ := Disk.isFile_eq_error.1 hfile
      exact .inr (.inr ⟨_, .blocked hplain hblocked⟩)
  | ok content =>
    cases content with
    | raw bytes fault => exact .inr (.inr ⟨_, .noText hcontent⟩)
    | text t =>
      cases hread : Toml.read d.room.document t with
      | error fault =>
        cases fault with
        | invalid => exact .inl (.invalid hcontent hread)
        | longInteger => exact .inr (.inr ⟨_, .longInteger hcontent hread⟩)
        | tooDeep => exact .inr (.inr ⟨_, .tooDeep hcontent hread⟩)
      | ok document =>
        rcases sectionOf_cases document with ⟨found, hholds⟩ | hlacks | hodd
        · exact .inr (.inl ⟨found, .section hcontent hread hholds⟩)
        · exact .inl (.noSection hcontent hread hlacks)
        · exact .inr (.inr ⟨_, .oddTool hcontent hread hodd⟩)

end

/-! ### Directories upwards -/

/-- A search through directories comes to one of them: the files of those before it are passed over. -/
def ComesTo (d : Disk) (ls : List Location) (l : Location) : Prop :=
  ∃ nearer above, ls = nearer ++ l :: above ∧ ∀ m ∈ nearer, Passed d m

section

variable {d : Disk} {ls : List Location}

/-- Either all files are passed over, or a search comes to one that gives a section or ends it. -/
theorem exists_comesTo (d : Disk) (ls : List Location) :
    (∀ l ∈ ls, Passed d l)
      ∨ ∃ l, ComesTo d ls l ∧ ((∃ found, Gives d l found) ∨ ∃ trouble, Stops d l trouble) := by
  induction ls with
  | nil => exact .inl (by simp)
  | cons l rest ih =>
    -- the nearest file decides, or the question is put to those above it
    rcases passed_or_gives_or_stops d l with hpassed | hdecides
    · rcases ih with hall | ⟨m, ⟨nearer, above, rfl, hnearer⟩, hm⟩
      · exact .inl (List.forall_mem_cons.2 ⟨hpassed, hall⟩)
      · exact .inr ⟨m, ⟨l :: nearer, above, rfl, List.forall_mem_cons.2 ⟨hpassed, hnearer⟩⟩, hm⟩
    · exact .inr ⟨l, ⟨[], rest, rfl, by simp⟩, hdecides⟩

theorem firstIn_cons_of_passed {l : Location} (h : ∀ c ∈ l, Path.IsDown c) (hpassed : Passed d l)
    (paths : List Text) : firstIn d (Disk.pathOf l :: paths) = firstIn d paths := by
  rw [firstIn, hpassed.inDirectory_eq h]

variable (hdown : ∀ l ∈ ls, ∀ c ∈ l, Path.IsDown c)

include hdown

theorem firstIn_of_passed (h : ∀ l ∈ ls, Passed d l) : firstIn d (ls.map Disk.pathOf) = .ok {} := by
  induction ls with
  | nil => rfl
  | cons l rest ih =>
    obtain ⟨hl, hrest⟩ := List.forall_mem_cons.1 hdown
    obtain ⟨hpassed, hmore⟩ := List.forall_mem_cons.1 h
    rw [List.map_cons, firstIn_cons_of_passed hl hpassed, ih hrest hmore]

/-- Where a search comes to, it goes on as if nothing were before. -/
theorem ComesTo.firstIn_eq {l : Location} (h : ComesTo d ls l) :
    ∃ paths, firstIn d (ls.map Disk.pathOf) = firstIn d (Disk.pathOf l :: paths) := by
  obtain ⟨nearer, above, rfl, hnearer⟩ := h
  refine ⟨above.map Disk.pathOf, ?_⟩
  induction nearer with
  | nil => rfl
  | cons m nearer ih =>
    obtain ⟨hm, hrest⟩ := List.forall_mem_cons.1 hdown
    obtain ⟨hpassed, hmore⟩ := List.forall_mem_cons.1 hnearer
    rw [List.cons_append, List.map_cons, firstIn_cons_of_passed hm hpassed, ih hmore hrest]

theorem ComesTo.isDown {l : Location} (h : ComesTo d ls l) : ∀ c ∈ l, Path.IsDown c := by
  obtain ⟨nearer, above, rfl, _⟩ := h
  exact hdown l (by simp)

theorem ComesTo.firstIn_of_gives {l : Location} {found : Found} (h : ComesTo d ls l)
    (hgives : Gives d l found) : firstIn d (ls.map Disk.pathOf) = .ok found := by
  obtain ⟨paths, hfirst⟩ := h.firstIn_eq hdown
  rw [hfirst, firstIn, hgives.inDirectory_eq (h.isDown hdown)]

theorem ComesTo.firstIn_of_stops {l : Location} {trouble : Trouble} (h : ComesTo d ls l)
    (hstops : Stops d l trouble) : firstIn d (ls.map Disk.pathOf) = .error trouble := by
  obtain ⟨paths, hfirst⟩ := h.firstIn_eq hdown
  rw [hfirst, firstIn, hstops.inDirectory_eq (h.isDown hdown)]

/-- A search finds what the first file gives that is not passed over, or nothing if all are. -/
theorem firstIn_eq_ok {found : Found} :
    firstIn d (ls.map Disk.pathOf) = .ok found ↔
      (∃ l, ComesTo d ls l ∧ Gives d l found) ∨ (∀ l ∈ ls, Passed d l) ∧ found = {} := by
  constructor
  · intro h
    rcases exists_comesTo d ls with hall | ⟨l, hcomes, ⟨given, hgives⟩ | ⟨trouble, hstops⟩⟩
    · rw [firstIn_of_passed hdown hall] at h
      exact .inr ⟨hall, (Except.ok.inj h).symm⟩
    · rw [hcomes.firstIn_of_gives hdown hgives] at h
      rw [Except.ok.inj h] at hgives
      exact .inl ⟨l, hcomes, hgives⟩
    · rw [hcomes.firstIn_of_stops hdown hstops] at h
      exact absurd h (by simp)
  · rintro (⟨l, hcomes, hgives⟩ | ⟨hall, rfl⟩)
    · exact hcomes.firstIn_of_gives hdown hgives
    · exact firstIn_of_passed hdown hall

/-- A search fails at the first file that is not passed over if this ends it. -/
theorem firstIn_eq_error {trouble : Trouble} :
    firstIn d (ls.map Disk.pathOf) = .error trouble ↔ ∃ l, ComesTo d ls l ∧ Stops d l trouble := by
  constructor
  · intro h
    rcases exists_comesTo d ls with hall | ⟨l, hcomes, ⟨given, hgives⟩ | ⟨other, hstops⟩⟩
    · rw [firstIn_of_passed hdown hall] at h
      exact absurd h (by simp)
    · rw [hcomes.firstIn_of_gives hdown hgives] at h
      exact absurd h (by simp)
    · rw [hcomes.firstIn_of_stops hdown hstops] at h
      rw [Except.error.inj h] at hstops
      exact ⟨l, hcomes, hstops⟩
  · rintro ⟨l, hcomes, hstops⟩
    exact hcomes.firstIn_of_stops hdown hstops

end

/-! ### Searches -/

/-- The directory that a path stands for and those above it, nearest first. -/
def upwardFrom (d : Disk) (start : Text) : List Location :=
  (Disk.locate (Path.resolved d.cwdPath start)).inits.reverse

theorem isDown_upwardFrom (d : Disk) (start : Text) :
    ∀ l ∈ upwardFrom d start, ∀ c ∈ l, Path.IsDown c := by
  obtain ⟨top, htop, hdown⟩ := Disk.exists_location_of_resolved d start
  intro l hl c hc
  rw [upwardFrom, htop, Disk.locate, Disk.parts_pathOf hdown, List.mem_reverse, List.mem_inits] at hl
  exact hdown c (hl.subset hc)

theorem ancestry_eq_map_upwardFrom (d : Disk) (start : Text) :
    Path.ancestry (Path.resolved d.cwdPath start) = (upwardFrom d start).map Disk.pathOf := by
  obtain ⟨top, htop, hdown⟩ := Disk.exists_location_of_resolved d start
  rw [upwardFrom, htop, Disk.locate, Disk.parts_pathOf hdown, Disk.ancestry_pathOf hdown]

theorem upwardFrom_of_walk {d : Disk} {start : Text} {l : Location} (h : d.walk start = .ok l) :
    upwardFrom d start = l.inits.reverse := by
  rw [upwardFrom, Disk.resolved_of_walk h, Disk.locate, Disk.parts_pathOf (Disk.isDown_of_walk h)]

/-- From the directory of a path up to the root, the first file that is not passed over decides: a search
finds the section that it gives, or ends with what is wrong with it.  If all are passed over nothing is
found.  Only a path that no directory can have is not searched from at all. -/
theorem nearest_section_iff (d : Disk) (start : Text) :
    (∀ l, d.walk start = .ok l → upwardFrom d start = l.inits.reverse)
      ∧ (∀ found, find d start = .ok found ↔
          '\x00' ∉ start ∧
            ((∃ l, ComesTo d (upwardFrom d start) l ∧ Gives d l found)
              ∨ (∀ l ∈ upwardFrom d start, Passed d l) ∧ found = {}))
      ∧ ∀ trouble, find d start = .error trouble ↔
          ('\x00' ∈ start ∧ trouble = .disk (.access .zeroCharacter start))
            ∨ ('\x00' ∉ start ∧ ∃ l, ComesTo d (upwardFrom d start) l ∧ Stops d l trouble) := by
  refine ⟨fun l => upwardFrom_of_walk, ?_⟩
  by_cases hzero : '\x00' ∈ start
  · have hfind : find d start = .error (.disk (.access .zeroCharacter start)) := by
      rw [find, if_pos (by simpa using hzero)]
    rw [hfind]
    simp [hzero, eq_comm]
  · have hfind : find d start = firstIn d ((upwardFrom d start).map Disk.pathOf) := by
      rw [find, if_neg (by simpa using hzero), ancestry_eq_map_upwardFrom]
    have hdown := isDown_upwardFrom d start
    refine ⟨fun found => ?_, fun trouble => ?_⟩
    · rw [hfind, firstIn_eq_ok hdown, and_iff_right hzero]
    · rw [hfind, firstIn_eq_error hdown, and_iff_right hzero, or_iff_right fun h => hzero h.1]

/-- A document with a section for the linter. -/
def neverDocument : Text := "[tool.ext-lint]\noptions = [\"never\"]\n"

/-- What is found in this document. -/
def neverFound : Found :=
  ⟨.table [("options", .list [.text "never"])],
    [("ext-lint", .table [("options", .list [.text "never"])])]⟩

theorem gives_neverFound {d : Disk} {l : Location} (hroom : d.room = {})
    (h : d.content (fileIn l) = .ok (.text neverDocument)) : Gives d l neverFound := by
  have hread : Toml.read d.room.document neverDocument = .ok [("tool", .table neverFound.tools)] := by
    rw [hroom]
    with_unfolding_all rfl
  exact .section h hread ⟨rfl, rfl, rfl⟩

/-- A directory with no configuration file, below one whose file is broken, below one with a section. -/
def brokenBetween : Disk :=
  { entries :=
      [(["pyproject.toml"], .file (.text neverDocument)),
        (["proj"], .directory),
        (["proj", "pyproject.toml"], .file (.text "[tool.ext-lint\n")),
        (["proj", "src"], .directory)] }

/-- The directory without a file and the one with a broken file are passed over. -/
theorem nearest_section_iff_skipped :
    upwardFrom brokenBetween "/proj/src" = ([["proj", "src"], ["proj"], []] : List Location)
      ∧ find brokenBetween "/proj/src" = .ok neverFound := by
  obtain ⟨hwalk, hfound, _⟩ := nearest_section_iff brokenBetween "/proj/src"
  have hupward : upwardFrom brokenBetween "/proj/src"
      = ([["proj", "src"], ["proj"], []] : List Location) := hwalk ["proj", "src"] rfl
  have hnone : Passed brokenBetween ["proj", "src"] := .unreadable rfl rfl
  have hbroken : Passed brokenBetween ["proj"] := .invalid rfl rfl
  refine ⟨hupward, (hfound neverFound).2 ⟨by decide, .inl ⟨[], ?_, gives_neverFound rfl rfl⟩⟩⟩
  refine ⟨[["proj", "src"], ["proj"]], [], hupward, ?_⟩
  exact List.forall_mem_cons.2 ⟨hnone, List.forall_mem_singleton.2 hbroken⟩

/-- A directory with a section, above one whose file is no text. -/
def undecodableBelow : Disk :=
  { entries :=
      [(["pyproject.toml"], .file (.text neverDocument)),
        (["proj"], .directory),
        (["proj", "pyproject.toml"], .file (.ofBytes [0xff]))] }

/-- A file that is no text gives no section, but is not passed over: the search ends at it, below the
directory whose file gives one. -/
theorem undecodable_file_ends_search :
    upwardFrom undecodableBelow "/proj" = ([["proj"], []] : List Location)
      ∧ (∀ found, ¬ Gives undecodableBelow ["proj"] found)
      ∧ Gives undecodableBelow [] neverFound
      ∧ find undecodableBelow "/proj" = .error (.disk (.encoding ⟨.startByte, 0xff, 0, 1⟩)) := by
  have hraw : undecodableBelow.content (fileIn ["proj"])
      = .ok (.raw [0xff] ⟨.startByte, 0xff, 0, 1⟩) := rfl
  refine ⟨by decide, ?_, gives_neverFound rfl rfl, rfl⟩
  rintro found ⟨readable, _, _⟩
  rw [hraw] at readable
  exact absurd readable (by simp)

end SpecifierLint.ConfigFile
