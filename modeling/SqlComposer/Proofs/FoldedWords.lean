import Mathlib.Data.List.Forall2
import SqlComposer.Sql.Denylist

/-!
# Words in any case, and blanks

A keyword may be written in any case, also with the few letters outside ASCII that are case
variants of ASCII ones. `SameWord` says so of a whole word, and `afterFolded?` finds exactly the
texts that begin with such a word. What can be decided from the code points of the blanks holds
of all blanks; above all, none is a case variant of a letter, so where blanks end and a word
begins is never in doubt.
-/

set_option autoImplicit false

namespace SqlComposer

open SqlComposer.Text

namespace Text

/-- The code points of the blanks. -/
def blankCodes : List Nat :=
  List.range' 9 5 ++ List.range' 0x1C 5 ++ [0x85, 0xA0, 0x1680] ++ List.range' 0x2000 11
    ++ [0x2028, 0x2029, 0x202F, 0x205F, 0x3000]

theorem mem_blankCodes {c : Char} (h : isBlank c = true) : c.toNat ∈ blankCodes := by
  simp only [isBlank, isWhiteSpace, Bool.or_eq_true, Bool.and_eq_true, decide_eq_true_eq,
    beq_iff_eq] at h
  simp only [blankCodes, List.mem_append, List.mem_range'_1, List.mem_cons, List.not_mem_nil,
    or_false]
  omega

/-- What can be seen from the code points of the blanks holds of them. -/
theorem of_isBlank {p : Char → Bool} (hp : blankCodes.all (fun n => p (Char.ofNat n)) = true)
    {c : Char} (h : isBlank c = true) : p c = true := by
  have hc := List.all_eq_true.mp hp c.toNat (mem_blankCodes h)
  rwa [Char.ofNat_toNat] at hc

/-- A case variant of a letter is no blank. -/
theorem isBlank_of_isFoldedLetter {c : Char} (h : isFoldedLetter c = true) : isBlank c = false := by
  rw [Bool.eq_false_iff]
  intro hblank
  have hletter := of_isBlank (p := fun c => !isFoldedLetter c) (by decide +kernel) hblank
  rw [h] at hletter
  cases hletter

end Text

namespace Sql

/-- A text that is a word in some case. -/
def SameWord (word text : List Char) : Prop :=
  List.Forall₂ (fun w c => sameFolded w c = true) word text

/-- A word of letters has only case variants of letters in any case. -/
theorem SameWord.letters {word text : List Char} (h : SameWord word text)
    (hword : ∀ w ∈ word, isFoldedLetter w = true) : ∀ c ∈ text, isFoldedLetter c = true := by
  induction h with
  | nil => exact fun c hc => nomatch hc
  | @cons w c word text hsame _ ih =>
    have hfold : foldLetter w = foldLetter c := by simpa [sameFolded] using hsame
    intro d hd
    rcases List.mem_cons.mp hd with rfl | hd
    · have hw := hword w List.mem_cons_self
      unfold isFoldedLetter at hw ⊢
      rwa [← hfold]
    · exact ih (fun v hv => hword v (List.mem_cons_of_mem w hv)) d hd

/-- What follows a word in some case is found exactly if the text begins with such a word. -/
theorem afterFolded?_eq_some_iff {word cs rest : List Char} :
    afterFolded? word cs = some rest ↔ ∃ text, SameWord word text ∧ cs = text ++ rest := by
  induction word generalizing cs with
  | nil =>
    constructor
    · intro h
      exact ⟨[], .nil, Option.some.inj h⟩
    · rintro ⟨text, htext, rfl⟩
      cases htext
      rfl
  | cons w word ih =>
    constructor
    · intro h
      cases cs with
      | nil => cases h
      | cons c cs =>
        simp only [afterFolded?] at h
        split at h
        · next hsame =>
          obtain ⟨text, htext, rfl⟩ := ih.mp h
          exact ⟨c :: text, .cons hsame htext, rfl⟩
        · cases h
    · rintro ⟨text, htext, rfl⟩
      cases htext with
      | cons hsame htext =>
        rw [List.cons_append, afterFolded?, if_pos hsame]
        exact ih.mpr ⟨_, htext, rfl⟩

theorem atWordEnd_iff {cs : List Char} : atWordEnd cs = true ↔ ∀ c ∈ cs.head?, isWord c = false := by
  cases cs <;> simp [atWordEnd]

end Sql

end SqlComposer
