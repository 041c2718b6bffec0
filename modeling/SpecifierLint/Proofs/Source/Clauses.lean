/-
Which texts are clauses.

The items of a clause are spelled one behind the other, with blanks between them where one likes; two
names need some, because a name goes on as long as name characters follow.  Main statements:

* **`readItems_eq_some_iff`** — items are read as they are spelled, up to the first character that
  belongs to none;
* **`clauseLength?_eq_some_iff`** — a clause that ends in `from` is measured exactly if one stands
  there.
-/
import SpecifierLint.Source.Clause
import SpecifierLint.Proofs.Source.Lexemes

namespace SpecifierLint

/-! ### Blanks and names -/

namespace Text

theorem inRanges_eq_false {ranges others : List (Nat × Nat)} {n : Nat}
    (hdisjoint : (others.all fun b => ranges.all fun a => a.2 < b.1 || b.2 < a.1) = true)
    (h : inRanges others n = true) : inRanges ranges n = false := by
  obtain ⟨b, hb, hn⟩ := List.any_eq_true.1 h
  have hapart := List.all_eq_true.1 hdisjoint b hb
  rw [inRanges, List.any_eq_false]
  intro a ha hin
  have hab := List.all_eq_true.1 hapart a ha
  simp only [Bool.and_eq_true, Bool.or_eq_true, decide_eq_true_eq] at hn hin hab
  omega

theorem isAlphanumeric_of_isBlank {c : Char} (h : isBlank c = true) : isAlphanumeric c = false := by
  rw [isAlphanumeric]
  split
  · next hascii =>
    obtain ⟨b, hb, hn⟩ := List.any_eq_true.1 h
    simp only [blankRanges, List.mem_cons, List.not_mem_nil, or_false, Bool.and_eq_true,
      decide_eq_true_eq] at hb hn
    have hsmall : c.toNat ≤ 0xd ∨ c.toNat = 0x1c ∨ c.toNat = 0x1d ∨ c.toNat = 0x1e
        ∨ c.toNat = 0x1f ∨ c.toNat = 0x20 := by
      rcases hb with rfl | rfl | rfl | rfl | rfl | rfl | rfl | rfl | rfl | rfl
      all_goals simp only at hn; omega
    show ((decide (c.val ≥ 'A'.val ∧ c.val ≤ 'Z'.val)
      || (decide (c.val ≥ 'a'.val) && decide (c.val ≤ 'z'.val)))
      || (decide (c.val ≥ '0'.val) && decide (c.val ≤ '9'.val))) = false
    simp only [Bool.or_eq_false_iff, Bool.and_eq_false_iff, decide_eq_false_iff_not, ge_iff_le,
      UInt32.le_iff_toNat_le, Char.toNat, Char.reduceVal, UInt32.reduceToNat] at hsmall ⊢
    omega
  · exact inRanges_eq_false (by decide +kernel) h

end Text

namespace Source

theorem isBlank_of_isNameChar {c : Char} (h : isNameChar c = true) : Text.isBlank c = false := by
  rw [Bool.eq_false_iff]
  intro hblank
  have halpha := Text.isAlphanumeric_of_isBlank hblank
  simp only [isNameChar, isWordChar, halpha, Bool.false_or, Bool.or_eq_true,
    decide_eq_true_eq] at h
  rcases h with rfl | rfl
  · exact absurd hblank (by decide)
  · exact absurd hblank (by decide)

/-- A character with which a clause goes on: a blank, or the start of an item. -/
def isClauseChar (c : Char) : Bool :=
  Text.isBlank c || isNameChar c || c = ',' || c = '*' || c = '\x7b'

theorem stopsAt_isClauseChar {t : Text} (h : StopsAt isClauseChar t) :
    StopsAt Text.isBlank t ∧ StopsAt isNameChar t := by
  constructor
  · intro c hc
    have hstop := h c hc
    simp only [isClauseChar, Bool.or_eq_false_iff] at hstop
    exact hstop.1.1.1.1
  · intro c hc
    have hstop := h c hc
    simp only [isClauseChar, Bool.or_eq_false_iff] at hstop
    exact hstop.1.1.1.2

/-! ### Spelled items -/

/-- The text of a clause item. -/
inductive ItemText : ClauseItem → Text → Prop
  | name {word : Text} (nonempty : word ≠ []) (letters : ∀ c ∈ word, isNameChar c = true) :
      ItemText (.name word) word
  | comma : ItemText .comma [',']
  | star : ItemText .star ['*']
  | braces {body : Text} (inside : '\x7d' ∉ body) :
      ItemText (.braces body) ('\x7b' :: (body ++ ['\x7d']))

theorem ItemText.ne_nil {item : ClauseItem} {u : Text} (h : ItemText item u) : u ≠ [] := by
  cases h with
  | name nonempty _ => exact nonempty
  | comma => simp
  | star => simp
  | braces _ => simp

/-- An item may stand before a text: a name would run into a name character. -/
def ClauseItem.Before (item : ClauseItem) (t : Text) : Prop :=
  match item with
  | .name _ => StopsAt isNameChar t
  | _ => True

theorem ClauseItem.before_of_stopsAt (item : ClauseItem) {t : Text} (h : StopsAt isNameChar t) :
    item.Before t := by
  cases item with
  | name _ => exact h
  | comma => trivial
  | star => trivial
  | braces _ => trivial

/-- What may stand behind an item depends on the first character of the text there. -/
theorem ClauseItem.Before.of_head {item : ClauseItem} {t u : Text} (h : item.Before t)
    (hhead : u.head? = t.head?) : item.Before u := by
  cases item with
  | name _ => exact fun c hc => h c (hhead ▸ hc)
  | comma => trivial
  | star => trivial
  | braces _ => trivial

/-- A text spells clause items, with blanks before, between and behind them. -/
inductive Spells : List ClauseItem → Text → Prop
  | nil : Spells [] []
  | blank {c : Char} {items : List ClauseItem} {t : Text} (isBlank : Text.isBlank c = true)
      (more : Spells items t) : Spells items (c :: t)
  | item {first : ClauseItem} {items : List ClauseItem} {u t : Text} (text : ItemText first u)
      (apart : first.Before t) (more : Spells items t) : Spells (first :: items) (u ++ t)

theorem Spells.eq_nil {items : List ClauseItem} (h : Spells items []) : items = [] := by
  generalize hw : ([] : Text) = w at h
  cases h with
  | nil => rfl
  | blank _ _ => simp at hw
  | item text _ _ => exact absurd (List.append_eq_nil_iff.1 hw.symm).1 text.ne_nil

theorem readItems_skip (u t : Text) :
    readItems u.length (u ++ t)
      = (readItems 0 t).map fun (items, n) => (items, n + u.length) := by
  induction u with
  | nil => simp
  | cons c u ih =>
    rw [List.length_cons, List.cons_append, readItems, if_pos (by omega), Nat.add_sub_cancel, ih]
    cases readItems 0 t with
    | none => rfl
    | some found => simp [Nat.add_assoc]

theorem readItems_blank {c : Char} (h : Text.isBlank c = true) (t : Text) :
    readItems 0 (c :: t) = (readItems 0 t).map fun (items, n) => (items, n + 1) := by
  rw [readItems, if_neg (by simp), if_pos h]

/-- An item is read whole, and then what stands behind it. -/
theorem readItems_item {first : ClauseItem} {u t : Text} (text : ItemText first u)
    (apart : first.Before t) :
    readItems 0 (u ++ t)
      = (readItems 0 t).map fun (items, n) => (first :: items, n + u.length) := by
  cases text with
  | name nonempty letters =>
    obtain ⟨c, run, rfl⟩ := List.exists_cons_of_ne_nil nonempty
    obtain ⟨hc, hrun⟩ := List.forall_mem_cons.1 letters
    rw [List.cons_append, readItems, if_neg (by simp), if_neg (by simp [isBlank_of_isNameChar hc]),
      if_pos hc]
    dsimp only
    rw [takeWhile_run hrun apart, readItems_skip]
    cases readItems 0 t with
    | none => rfl
    | some found => simp [Nat.add_assoc]
  | comma =>
    rw [List.singleton_append, readItems, if_neg (by simp), if_neg (by decide),
      if_neg (by decide +kernel), if_pos rfl]
    rfl
  | star =>
    rw [List.singleton_append, readItems, if_neg (by simp), if_neg (by decide),
      if_neg (by decide +kernel), if_neg (by decide), if_pos rfl]
    rfl
  | @braces body inside =>
    -- the names in braces end at the first closing brace
    have hbody : (body ++ '\x7d' :: t).takeWhile (· != '\x7d') = body := by
      refine takeWhile_run (fun c hc => ?_) (stopsAt_cons.2 (by simp))
      rw [bne_iff_ne]
      rintro rfl
      exact inside hc
    have hsplit : body ++ '\x7d' :: t = (body ++ ['\x7d']) ++ t := by simp
    have hlength : (body ++ ['\x7d']).length = body.length + 1 := by simp
    rw [List.cons_append, ← hsplit, readItems, if_neg (by simp), if_neg (by decide),
      if_neg (by decide +kernel), if_neg (by decide), if_neg (by decide), if_pos rfl]
    dsimp only
    rw [hbody, if_neg (by simp), ← hlength, hsplit, readItems_skip]
    cases readItems 0 t with
    | none => rfl
    | some found => simp [Nat.add_assoc]

theorem readItems_unclosed {t : Text} (h : '\x7d' ∉ t) : readItems 0 ('\x7b' :: t) = none := by
  have hall : t.takeWhile (· != '\x7d') = t := by
    rw [List.takeWhile_eq_self_iff]
    intro c hc
    rw [bne_iff_ne]
    rintro rfl
    exact h hc
  rw [readItems, if_neg (by simp), if_neg (by decide), if_neg (by decide +kernel),
    if_neg (by decide), if_neg (by decide), if_pos rfl]
  dsimp only
  rw [hall, if_pos rfl]

theorem readItems_stop {t : Text} (h : StopsAt isClauseChar t) : readItems 0 t = some ([], 0) := by
  cases t with
  | nil => rfl
  | cons c rest =>
    have hc := stopsAt_cons.1 h
    simp only [isClauseChar, Bool.or_eq_false_iff, decide_eq_false_iff_not] at hc
    obtain ⟨⟨⟨⟨hblank, hname⟩, hcomma⟩, hstar⟩, hbrace⟩ := hc
    rw [readItems, if_neg (by simp), if_neg (by simp [hblank]), if_neg (by simp [hname]),
      if_neg hcomma, if_neg hstar, if_neg hbrace]

/-- Spelled items are read, if the text does not go on with more of the clause. -/
theorem readItems_append {items : List ClauseItem} {w rest : Text} (h : Spells items w)
    (hrest : StopsAt isClauseChar rest) : readItems 0 (w ++ rest) = some (items, w.length) := by
  induction h with
  | nil => exact readItems_stop hrest
  | blank isBlank _ ih =>
    rw [List.cons_append, readItems_blank isBlank, ih]
    rfl
  | @item first items u t text apart _ ih =>
    have happart : first.Before (t ++ rest) := by
      cases t with
      | nil => exact first.before_of_stopsAt (stopsAt_isClauseChar hrest).2
      | cons c t => exact apart.of_head rfl
    rw [List.append_assoc, readItems_item text happart, ih]
    simp [Nat.add_comm]

/-- A text that starts with a character of a clause starts with a blank or an item, or with a brace
that is never closed. -/
theorem exists_front_of_isClauseChar {c : Char} (h : isClauseChar c = true) (t : Text) :
    Text.isBlank c = true ∨ (c = '\x7b' ∧ '\x7d' ∉ t)
      ∨ ∃ first u rest, c :: t = u ++ rest ∧ ItemText first u ∧ first.Before rest := by
  simp only [isClauseChar, Bool.or_eq_true, decide_eq_true_eq] at h
  rcases h with (((hblank | hname) | rfl) | rfl) | rfl
  · exact .inl hblank
  · -- the name is the whole run of name characters
    refine .inr (.inr ⟨_, c :: t.takeWhile isNameChar, t.dropWhile isNameChar, ?_, .name (by simp) ?_,
      stopsAt_dropWhile isNameChar t⟩)
    · rw [List.cons_append, List.takeWhile_append_dropWhile]
    · exact List.forall_mem_cons.2 ⟨hname, fun _ hx => List.mem_takeWhile_imp hx⟩
  · exact .inr (.inr ⟨_, [','], t, rfl, .comma, trivial⟩)
  · exact .inr (.inr ⟨_, ['*'], t, rfl, .star, trivial⟩)
  · by_cases hclosed : '\x7d' ∈ t
    · obtain ⟨body, rest, rfl, hbody⟩ := List.eq_append_cons_of_mem hclosed
      exact .inr (.inr ⟨_, '\x7b' :: (body ++ ['\x7d']), rest, by simp, .braces hbody, trivial⟩)
    · exact .inr (.inl ⟨rfl, hclosed⟩)

theorem exists_spells_of_readItems {t : Text} {items : List ClauseItem} {n : Nat}
    (h : readItems 0 t = some (items, n)) :
    ∃ w rest, t = w ++ rest ∧ n = w.length ∧ Spells items w ∧ StopsAt isClauseChar rest := by
  -- by strong induction, since an item is passed over whole
  induction hlength : t.length using Nat.strongRecOn generalizing t items n with
  | ind length ih =>
    subst hlength
    by_cases hstop : StopsAt isClauseChar t
    · rw [readItems_stop hstop] at h
      cases h
      exact ⟨[], t, rfl, rfl, .nil, hstop⟩
    · cases t with
      | nil => exact absurd (stopsAt_nil _) hstop
      | cons c rest =>
        rw [stopsAt_cons, Bool.not_eq_false] at hstop
        rcases exists_front_of_isClauseChar hstop rest with hblank | ⟨rfl, hunclosed⟩ | hitem
        · rw [readItems_blank hblank] at h
          obtain ⟨⟨more, k⟩, hmore, heq⟩ := Option.map_eq_some_iff.1 h
          cases heq
          obtain ⟨w, behind, rfl, rfl, hspells, hends⟩ := ih _ (by simp) hmore rfl
          exact ⟨c :: w, behind, rfl, rfl, .blank hblank hspells, hends⟩
        · rw [readItems_unclosed hunclosed] at h
          exact absurd h (by simp)
        · obtain ⟨first, u, behind, hsplit, htext, hbefore⟩ := hitem
          have hne := List.length_pos_iff.2 htext.ne_nil
          rw [hsplit, readItems_item htext hbefore] at h
          obtain ⟨⟨more, k⟩, hmore, heq⟩ := Option.map_eq_some_iff.1 h
          cases heq
          have hshort : behind.length < (c :: rest).length := by
            rw [hsplit, List.length_append]
            omega
          obtain ⟨w, last, rfl, rfl, hspells, hends⟩ := ih _ hshort hmore rfl
          have happart : first.Before w := by
            cases w with
            | nil => exact first.before_of_stopsAt (stopsAt_nil _)
            | cons d w => exact hbefore.of_head rfl
          refine ⟨u ++ w, last, by rw [hsplit, List.append_assoc], ?_, .item htext happart hspells,
            hends⟩
          rw [List.length_append, Nat.add_comm]

/-- Items are read as they are spelled, up to the first character that belongs to none. -/
theorem readItems_eq_some_iff {t : Text} {items : List ClauseItem} {n : Nat} :
    readItems 0 t = some (items, n) ↔
      ∃ w rest, t = w ++ rest ∧ n = w.length ∧ Spells items w ∧ StopsAt isClauseChar rest := by
  constructor
  · exact exists_spells_of_readItems
  · rintro ⟨w, rest, rfl, rfl, hspells, hstop⟩
    exact readItems_append hspells hstop

/-! ### Putting clauses together -/

theorem Spells.blanks {items : List ClauseItem} {w : Text} (h : Spells items w) (gap : Blanks) :
    Spells items (gap.1 ++ w) := by
  obtain ⟨gap, hgap⟩ := gap
  induction gap with
  | nil => exact h
  | cons c gap ih =>
    obtain ⟨hc, hgap⟩ := List.forall_mem_cons.1 hgap
    exact .blank hc (ih hgap)

theorem spells_nil {w : Text} (h : Spells [] w) : ∃ gap : Blanks, w = gap.1 := by
  generalize hitems : ([] : List ClauseItem) = items at h
  induction h with
  | nil => exact ⟨⟨[], by simp⟩, rfl⟩
  | @blank c _ _ isBlank _ ih =>
    obtain ⟨gap, rfl⟩ := ih hitems
    exact ⟨⟨c :: gap.1, List.forall_mem_cons.2 ⟨isBlank, gap.2⟩⟩, rfl⟩
  | item _ _ _ _ => exact absurd hitems (by simp)

theorem spells_cons {first : ClauseItem} {items : List ClauseItem} {w : Text}
    (h : Spells (first :: items) w) :
    ∃ (gap : Blanks) (u v : Text), w = gap.1 ++ (u ++ v) ∧ ItemText first u ∧ Spells items v := by
  generalize hall : first :: items = all at h
  induction h with
  | nil => exact absurd hall (by simp)
  | @blank c _ _ isBlank _ ih =>
    obtain ⟨gap, u, v, rfl, hu, hv⟩ := ih hall
    exact ⟨⟨c :: gap.1, List.forall_mem_cons.2 ⟨isBlank, gap.2⟩⟩, u, v, rfl, hu, hv⟩
  | @item _ _ u t text _ more _ =>
    obtain ⟨rfl, rfl⟩ := List.cons.inj hall
    exact ⟨⟨[], by simp⟩, u, t, rfl, text, more⟩

/-- What is spelled goes on with more items, unless a name would run into the next one. -/
theorem Spells.append {items others : List ClauseItem} {w v : Text} (h : Spells items w)
    (hv : Spells others v) (hapart : StopsAt isNameChar v) :
    Spells (items ++ others) (w ++ v) := by
  induction h with
  | nil => exact hv
  | blank isBlank _ ih => exact .blank isBlank ih
  | @item first items u t text apart _ ih =>
    rw [List.append_assoc, List.cons_append]
    refine .item text ?_ ih
    cases t with
    | nil => exact first.before_of_stopsAt hapart
    | cons d t => exact apart.of_head rfl

theorem exists_spells_append {items others : List ClauseItem} {w : Text}
    (h : Spells (items ++ others) w) :
    ∃ u v, w = u ++ v ∧ Spells items u ∧ Spells others v := by
  generalize hall : items ++ others = all at h
  induction h generalizing items with
  | nil =>
    obtain ⟨rfl, rfl⟩ := List.append_eq_nil_iff.1 hall
    exact ⟨[], [], rfl, .nil, .nil⟩
  | blank isBlank _ ih =>
    obtain ⟨u, v, rfl, hu, hv⟩ := ih hall
    exact ⟨_ :: u, v, rfl, .blank isBlank hu, hv⟩
  | @item first _ front t text apart more ih =>
    cases items with
    | nil =>
      rw [List.nil_append] at hall
      exact ⟨[], front ++ t, rfl, .nil, hall ▸ .item text apart more⟩
    | cons i items =>
      obtain ⟨rfl, hrest⟩ := List.cons.inj hall
      obtain ⟨u, v, rfl, hu, hv⟩ := ih hrest
      refine ⟨front ++ u, v, by rw [List.append_assoc], .item text ?_ hu, hv⟩
      cases u with
      | nil => exact i.before_of_stopsAt (stopsAt_nil _)
      | cons d u => exact apart.of_head rfl

/-! ### Clauses -/

/-- A text is a clause with the `from` at its end. -/
def ClauseText (w : Text) : Prop :=
  ∃ items clause, Spells items w ∧ beforeLastFrom? items = some clause
    ∧ ClauseItem.isClause (w.head?.any Text.isBlank) clause = true

theorem beforeLastFrom?_append (items : List ClauseItem) :
    beforeLastFrom? (items ++ [.name "from"]) = some items := by
  rw [beforeLastFrom?, List.getLast?_concat]
  dsimp only
  rw [List.dropLast_concat, show beforeFrom? "from" = some [] by decide]
  simp

theorem exists_of_beforeLastFrom? {items clause : List ClauseItem}
    (h : beforeLastFrom? items = some clause) :
    ∃ (front : List ClauseItem) (word stem : Text), items = front ++ [.name word]
      ∧ word = stem ++ "from" ∧ clause = front ++ (if stem.isEmpty then [] else [.name stem]) := by
  unfold beforeLastFrom? at h
  split at h
  · next word hlast =>
    obtain ⟨front, rfl⟩ := List.getLast?_eq_some_iff.1 hlast
    obtain ⟨stem, hstem, rfl⟩ := Option.map_eq_some_iff.1 h
    simp only [beforeFrom?] at hstem
    split at hstem
    · next hword =>
      rw [Option.some.inj hstem] at hword
      exact ⟨front, word, stem, rfl, hword, by rw [List.dropLast_concat]⟩
    · exact absurd hstem (by simp)
  · exact absurd h (by simp)

theorem ClauseText.ne_nil {w : Text} (h : ClauseText w) : w ≠ [] := by
  rintro rfl
  obtain ⟨items, clause, hspells, hfrom, _⟩ := h
  rw [hspells.eq_nil] at hfrom
  exact absurd hfrom (by simp [beforeLastFrom?])

/-- A clause that ends in `from` is measured exactly if one stands there. -/
theorem clauseLength?_eq_some_iff {t : Text} {n : Nat} :
    clauseLength? t = some n ↔
      ∃ w rest, t = w ++ rest ∧ n = w.length ∧ ClauseText w ∧ StopsAt isClauseChar rest := by
  have hhead {w rest : Text} (hne : w ≠ []) : (w ++ rest).head? = w.head? := by
    obtain ⟨c, w, rfl⟩ := List.exists_cons_of_ne_nil hne
    rfl
  constructor
  · intro h
    rw [clauseLength?] at h
    split at h
    · next items length hitems =>
      split at h
      · next clause hfrom =>
        split at h
        · next hclause =>
          cases h
          obtain ⟨w, rest, rfl, rfl, hspells, hstop⟩ := readItems_eq_some_iff.1 hitems
          -- an empty clause has no `from`
          have hne : w ≠ [] := by
            rintro rfl
            rw [hspells.eq_nil] at hfrom
            exact absurd hfrom (by simp [beforeLastFrom?])
          rw [hhead hne] at hclause
          exact ⟨w, rest, rfl, rfl, ⟨items, clause, hspells, hfrom, hclause⟩, hstop⟩
        · exact absurd h (by simp)
      · exact absurd h (by simp)
    · exact absurd h (by simp)
  · rintro ⟨w, rest, rfl, rfl, hclause, hstop⟩
    have hne := hclause.ne_nil
    obtain ⟨items, clause, hspells, hfrom, hclause⟩ := hclause
    rw [clauseLength?, readItems_append hspells hstop]
    dsimp only
    rw [hfrom]
    dsimp only
    rw [hhead hne, if_pos hclause]

end Source

end SpecifierLint
