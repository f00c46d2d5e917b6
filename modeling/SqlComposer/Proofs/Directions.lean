import Mathlib.Tactic.SplitIfs
import SqlComposer.Proofs.FoldedWords
import SqlComposer.Query.Alias

/-!
# Directions at the end of an order entry

An order entry may end with a direction as a word. `DirectionSuffix` says so as a way to cut the
entry, and `splitDirection?` finds the cut if there is one. Up to blanks there is only one: the
word has no blanks, a blank stands before it, and none but blanks stand after it.
-/

set_option autoImplicit false

namespace SqlComposer

open SqlComposer.Text SqlComposer.Sql

/-! ## Directions as words -/

/-- A text that ends with a direction as a word, after a blank and possibly before some. -/
def DirectionSuffix (text before word : String) : Prop :=
  ∃ blanks after : String, text = before ++ blanks ++ word ++ after
    ∧ blanks ≠ "" ∧ (∀ c ∈ blanks.toList, isBlank c = true)
    ∧ (∃ direction : SortDirection, SameWord direction.keyword.toList word.toList)
    ∧ ∀ c ∈ after.toList, isBlank c = true

/-- The letters of the directions. -/
def directionLetters : List Char := ['A', 'S', 'C', 'D', 'E']

theorem SortDirection.keyword_letters (direction : SortDirection) :
    ∀ c ∈ direction.keyword.toList, c ∈ directionLetters := by
  have hall : direction.keyword.toList.all (directionLetters.contains ·) = true := by
    cases direction <;> decide
  intro c hc
  exact List.contains_iff_mem.mp (List.all_eq_true.mp hall c hc)

/-- Outside ASCII only the long s is a case variant of a letter other than `k` and `i`. -/
theorem foldLetter_of_not_ascii {c : Char} (h : ¬c.toNat < 128) :
    c = 'ſ' ∨ foldLetter c = 'k' ∨ foldLetter c = 'i' ∨ foldLetter c = c := by
  unfold foldLetter
  rw [if_neg h]
  split_ifs with hlong
  · exact Or.inl (beq_iff_eq.mp hlong)
  · exact Or.inr (Or.inl rfl)
  · exact Or.inr (Or.inr (Or.inl rfl))
  · exact Or.inr (Or.inr (Or.inr rfl))

/-- The capital of a case variant of a letter of the directions is the letter. -/
theorem upperChar_of_sameFolded {w c : Char} (hw : w ∈ directionLetters)
    (h : sameFolded w c = true) : upperChar c = [w] := by
  have hfold : foldLetter w = foldLetter c := by simpa [sameFolded] using h
  have hletters (p : Char → Bool) (hp : directionLetters.all p = true) : p w = true :=
    List.all_eq_true.mp hp w hw
  by_cases hascii : c.toNat < 128
  · have hall : (List.range 128).all (fun n => directionLetters.all fun w =>
        foldLetter w != foldLetter (Char.ofNat n) || upperChar (Char.ofNat n) == [w]) = true := by
      decide +kernel
    have hc := hletters _ (List.all_eq_true.mp hall c.toNat (List.mem_range.mpr hascii))
    rw [Char.ofNat_toNat] at hc
    simpa [hfold] using hc
  · have hother := hletters (fun w => foldLetter w != 'k' && foldLetter w != 'i'
      && decide ((foldLetter w).toNat < 128)) (by decide)
    simp only [hfold, Bool.and_eq_true, bne_iff_ne, decide_eq_true_eq] at hother
    obtain ⟨⟨hk, hi⟩, hsmall⟩ := hother
    rcases foldLetter_of_not_ascii hascii with rfl | hc | hc | hc
    · have hlong := hletters (fun w => foldLetter w != 's' || w == 'S') (by decide)
      obtain rfl : w = 'S' := by simpa [hfold, show foldLetter 'ſ' = 's' by decide] using hlong
      decide
    · exact absurd hc hk
    · exact absurd hc hi
    · exact absurd (hc ▸ hsmall) hascii

/-- The capitals of a direction in any case are its keyword. -/
theorem upper_of_sameWord {direction : SortDirection} {word : String}
    (h : SameWord direction.keyword.toList word.toList) : upper word = direction.keyword := by
  have hchars {letters text : List Char} (h : SameWord letters text)
      (hletters : ∀ c ∈ letters, c ∈ directionLetters) : text.flatMap upperChar = letters := by
    induction h with
    | nil => rfl
    | cons hsame _ ih =>
      rw [List.flatMap_cons, upperChar_of_sameFolded (hletters _ List.mem_cons_self) hsame,
        ih fun c hc => hletters c (List.mem_cons_of_mem _ hc)]
      rfl
  unfold upper
  rw [hchars h direction.keyword_letters, String.ofList_toList]

theorem letters_of_sameWord {direction : SortDirection} {word : List Char}
    (h : SameWord direction.keyword.toList word) : ∀ c ∈ word, isFoldedLetter c = true := by
  have hall : directionLetters.all isFoldedLetter = true := by decide
  exact h.letters fun w hw => List.all_eq_true.mp hall w (direction.keyword_letters w hw)

theorem isBlank_of_sameWord {direction : SortDirection} {word : List Char}
    (h : SameWord direction.keyword.toList word) : ∀ c ∈ word, isBlank c = false :=
  fun c hc => isBlank_of_isFoldedLetter (letters_of_sameWord h c hc)

theorem SortDirection.eq_of_sameWord {d direction : SortDirection} {word : List Char}
    (h : SameWord d.keyword.toList word) (h' : SameWord direction.keyword.toList word) :
    d = direction := by
  have hlength : d.keyword.toList.length = direction.keyword.toList.length :=
    h.length_eq.trans h'.length_eq.symm
  cases d <;> cases direction <;> first | rfl | cases hlength

/-! ## Entries that end with a direction -/

/-- What follows the last character of a class in a text is found in one way. -/
theorem last_run_unique {p : Char → Bool} {as bs cs ds : List Char} (h : as ++ cs = bs ++ ds)
    (has : ∃ c ∈ as.getLast?, p c = true) (hbs : ∃ c ∈ bs.getLast?, p c = true)
    (hcs : ∀ c ∈ cs, p c = false) (hds : ∀ c ∈ ds, p c = false) : as = bs ∧ cs = ds := by
  have hnone {es fs gs : List Char} (hlast : ∃ c ∈ (es ++ fs).getLast?, p c = true)
      (hrun : ∀ c ∈ fs ++ gs, p c = false) : fs = [] := by
    cases fs with
    | nil => rfl
    | cons f fs =>
      obtain ⟨c, hc, hpc⟩ := hlast
      rw [List.getLast?_append_of_ne_nil _ (List.cons_ne_nil f fs)] at hc
      rw [hrun c (List.mem_append_left gs (List.mem_of_getLast? hc))] at hpc
      cases hpc
  rcases List.append_eq_append_iff.mp h with ⟨es, rfl, rfl⟩ | ⟨es, rfl, rfl⟩
  · obtain rfl : es = [] := hnone hbs hcs
    simp
  · obtain rfl : es = [] := hnone has hds
    simp

/-- A text ends in a direction exactly where a case variant of its keyword stands after a blank. -/
theorem endingIn?_eq_some_iff {core before : List Char} {d direction : SortDirection} :
    endingIn? core d = some (before, direction)
      ↔ d = direction ∧ (∃ c ∈ before.getLast?, isBlank c = true)
        ∧ ∃ word, core = before ++ word ∧ SameWord d.keyword.toList word := by
  constructor
  · intro h
    unfold endingIn? at h
    simp only at h
    split at h
    · next c hlast hword =>
      split at h
      · next hblank =>
        obtain ⟨hbefore, rfl⟩ := Prod.mk.inj (Option.some.inj h)
        rw [hbefore] at hlast hword
        obtain ⟨text, hparts⟩ : before <+: core := hbefore ▸ List.take_prefix _ _
        rw [← hparts, List.drop_left] at hword
        obtain ⟨word, hsame, rfl⟩ := afterFolded?_eq_some_iff.mp hword
        rw [List.append_nil] at hparts
        exact ⟨rfl, ⟨c, hlast, hblank⟩, word, hparts.symm, hsame⟩
      · cases h
    · cases h
  · rintro ⟨rfl, ⟨c, hlast, hblank⟩, word, rfl, hword⟩
    have htake : (before ++ word).take ((before ++ word).length - d.keyword.toList.length)
        = before := by
      rw [hword.length_eq, List.length_append, Nat.add_sub_cancel, List.take_left]
    have hafter : afterFolded? d.keyword.toList word = some [] :=
      afterFolded?_eq_some_iff.mpr ⟨word, hword, (List.append_nil word).symm⟩
    simp only [endingIn?, htake, Option.mem_def.mp hlast, List.drop_left, hafter, hblank, if_true]

/-- A direction is split off exactly where a text ends with one. -/
theorem splitDirection?_eq_some_iff {cs before : List Char} {direction : SortDirection} :
    splitDirection? cs = some (before, direction)
      ↔ (∃ c ∈ before.getLast?, isBlank c = true)
        ∧ ∃ word after, cs = before ++ word ++ after ∧ SameWord direction.keyword.toList word
          ∧ ∀ c ∈ after, isBlank c = true := by
  have hsplit : splitDirection? cs
      = (endingIn? (dropEnd isBlank cs) .asc).or (endingIn? (dropEnd isBlank cs) .desc) := rfl
  constructor
  · intro h
    have hending : endingIn? (dropEnd isBlank cs) direction = some (before, direction) := by
      rw [hsplit] at h
      rcases Option.or_eq_some_iff.mp h with hasc | ⟨-, hdesc⟩
      · obtain rfl := (endingIn?_eq_some_iff.mp hasc).1
        exact hasc
      · obtain rfl := (endingIn?_eq_some_iff.mp hdesc).1
        exact hdesc
    obtain ⟨-, hlast, word, hcore, hword⟩ := endingIn?_eq_some_iff.mp hending
    obtain ⟨after, hcs, hafter⟩ := exists_dropEnd isBlank cs
    rw [hcore] at hcs
    exact ⟨hlast, word, after, hcs, hword, hafter⟩
  · rintro ⟨hlast, word, after, rfl, hword, hafter⟩
    have hblank := isBlank_of_sameWord hword
    have hcore : dropEnd isBlank (before ++ word ++ after) = before ++ word := by
      have hne : word ≠ [] := by
        rintro rfl
        cases direction <;> cases hword.length_eq
      rw [dropEnd_of_boundary _ hafter]
      intro c hc
      rw [List.getLast?_append_of_ne_nil _ hne] at hc
      exact hblank c (List.mem_of_getLast? hc)
    have hending : endingIn? (before ++ word) direction = some (before, direction) :=
      endingIn?_eq_some_iff.mpr ⟨rfl, hlast, word, rfl, hword⟩
    rw [hsplit, hcore, Option.or_eq_some_iff]
    cases hasc : endingIn? (before ++ word) .asc with
    | none =>
      cases direction with
      | asc => rw [hending] at hasc; cases hasc
      | desc => exact Or.inr ⟨rfl, hending⟩
    | some parts =>
      -- a second reading would end with another word
      obtain ⟨before', direction'⟩ := parts
      obtain ⟨rfl, hlast', word', hparts, hword'⟩ := endingIn?_eq_some_iff.mp hasc
      obtain ⟨rfl, rfl⟩ := last_run_unique hparts hlast hlast' hblank (isBlank_of_sameWord hword')
      exact Or.inl (by rw [SortDirection.eq_of_sameWord hword hword'])

/-- Only blanks and letters are cut off with a direction. -/
theorem DirectionSuffix.exists_rest {text before word : String}
    (h : DirectionSuffix text before word) :
    ∃ rest, text = before ++ rest
      ∧ ∀ c ∈ rest.toList, isBlank c = true ∨ isFoldedLetter c = true := by
  obtain ⟨blanks, after, rfl, -, hblanks, ⟨direction, hword⟩, hafter⟩ := h
  refine ⟨blanks ++ word ++ after, by simp [String.append_assoc], ?_⟩
  intro c hc
  rw [String.toList_append, String.toList_append, List.mem_append, List.mem_append] at hc
  rcases hc with (hc | hc) | hc
  · exact Or.inl (hblanks c hc)
  · exact Or.inr (letters_of_sameWord hword c hc)
  · exact Or.inl (hafter c hc)

/-- Of an entry that ends with a direction the rest is resolved, without the blanks around it. -/
theorem Aliases.resolveOrder_of_suffix (aliases : Aliases) {text before word : String}
    (h : DirectionSuffix text before word) :
    ∃ direction, aliases.resolveOrder text = (aliases.resolve (trim before), some direction)
      ∧ upper word = direction.keyword := by
  obtain ⟨blanks, after, rfl, hne, hblanks, ⟨direction, hword⟩, hafter⟩ := h
  refine ⟨direction, ?_, upper_of_sameWord hword⟩
  have hlast : ∃ c ∈ (before.toList ++ blanks.toList).getLast?, isBlank c = true := by
    have hsome : blanks.toList ≠ [] := fun hnil => hne (String.toList_eq_nil_iff.mp hnil)
    refine ⟨blanks.toList.getLast hsome, ?_, hblanks _ (List.getLast_mem hsome)⟩
    rw [List.getLast?_append_of_ne_nil _ hsome]
    exact List.getLast?_eq_some_getLast hsome
  have hsplit : splitDirection? (before ++ blanks ++ word ++ after).toList
      = some (before.toList ++ blanks.toList, direction) :=
    splitDirection?_eq_some_iff.mpr
      ⟨hlast, word.toList, after.toList, by simp [String.toList_append], hword, hafter⟩
  unfold Aliases.resolveOrder
  rw [hsplit]
  simp only [trimBy_append hblanks]
  rfl

/-- An entry that does not end with a direction is resolved as a whole. -/
theorem Aliases.resolveOrder_of_no_suffix (aliases : Aliases) {text : String}
    (h : ∀ before word, ¬DirectionSuffix text before word) :
    aliases.resolveOrder text = (aliases.resolve (trim text), none) := by
  unfold Aliases.resolveOrder
  cases hsplit : splitDirection? text.toList with
  | none => rfl
  | some parts =>
    obtain ⟨before, direction⟩ := parts
    obtain ⟨⟨c, hc, hblank⟩, word, after, htext, hword, hafter⟩ :=
      splitDirection?_eq_some_iff.mp hsplit
    obtain ⟨front, rfl⟩ : ∃ front, before = front ++ [c] := List.getLast?_eq_some_iff.mp hc
    refine absurd ?_ (h (String.ofList front) (String.ofList word))
    refine ⟨String.ofList [c], String.ofList after, ?_, ?_, ?_, ⟨direction, ?_⟩, ?_⟩
    · rw [← String.toList_inj]
      simpa using htext
    · intro hempty
      have hchars := congrArg String.toList hempty
      simp at hchars
    · simpa using hblank
    · rwa [String.toList_ofList]
    · rwa [String.toList_ofList]

end SqlComposer
