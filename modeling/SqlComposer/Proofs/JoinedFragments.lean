import Mathlib.Data.List.Find
import SqlComposer.Proofs.FoldedWords
import SqlComposer.Proofs.Marks
import SqlComposer.Proofs.Screening

/-!
# Fragments one by one and joined

The fragments of a condition are searched for signs one by one, and then they are joined by `AND`
and sent as one text. That is as strict as a search of the joined text: no sign is lost or comes
about where two fragments meet, because no sign has anything in common with the separator, which
begins and ends with a blank, and because a word ends where its fragment does.

For the same reason a sign is still found when more text is put around a fragment, as long as this
does not go on with a word. And the case of ASCII letters makes no difference to any sign: the
words among them are looked for in any case, and the marks have no letters.
-/

set_option autoImplicit false

namespace SqlComposer.Sql

open SqlComposer.Text

/-! ## Signs across a separator -/

/-- What stands between two fragments. -/
def andSeparator : List Char := [' ', 'A', 'N', 'D', ' ']

/-- No character of a word is like a space, if that was checked of each. -/
theorem unblank_of_all {word : List Char} (h : word.all (!sameFolded · ' ') = true) :
    ∀ w ∈ word, sameFolded w ' ' = false := by
  simpa using h

/-- A word without blanks that a text begins with ends before the next blank. -/
theorem afterFolded?_append_blank {word : List Char} (hword : ∀ w ∈ word, sameFolded w ' ' = false)
    (cs rest : List Char) :
    afterFolded? word (cs ++ ' ' :: rest) = (afterFolded? word cs).map (· ++ ' ' :: rest) := by
  induction word generalizing cs with
  | nil => rfl
  | cons w word ih =>
    obtain ⟨hw, hword⟩ := List.forall_mem_cons.mp hword
    cases cs with
    | nil => simp [afterFolded?, hw]
    | cons c cs =>
      simp only [List.cons_append, afterFolded?]
      split
      · exact ih hword cs
      · rfl

/-- Whether a word stands at the start of a text does not depend on what follows a space. -/
theorem startsWord_append_blank {word : List Char} (hword : ∀ w ∈ word, sameFolded w ' ' = false)
    (cs rest : List Char) : startsWord word (cs ++ ' ' :: rest) = startsWord word cs := by
  unfold startsWord
  rw [afterFolded?_append_blank hword]
  cases afterFolded? word cs with
  | none => rfl
  | some after => cases after <;> rfl

/-- Blanks are taken off up to a word that follows them. -/
theorem dropWhile_append_separator (cs bs : List Char) :
    (cs ++ andSeparator ++ bs).dropWhile isBlank
      = if (cs.dropWhile isBlank).isEmpty then "AND ".toList ++ bs
        else cs.dropWhile isBlank ++ andSeparator ++ bs := by
  rw [List.append_assoc, List.dropWhile_append]
  split
  · rfl
  · exact (List.append_assoc ..).symm

/-- The name of a file target has to follow `INTO`, and `AND` is none. -/
theorem startsIntoFile_append_separator (cs bs : List Char) :
    startsIntoFile (cs ++ andSeparator ++ bs) = startsIntoFile cs := by
  have hinto : afterFolded? "INTO".toList (cs ++ andSeparator ++ bs)
      = (afterFolded? "INTO".toList cs).map (· ++ andSeparator ++ bs) := by
    have hword : ∀ w ∈ "INTO".toList, sameFolded w ' ' = false := unblank_of_all (by decide)
    simpa [andSeparator] using afterFolded?_append_blank hword cs _
  have htarget (word : List Char) (hword : ∀ w ∈ word, sameFolded w ' ' = false) (ds : List Char) :
      startsWord word (ds ++ andSeparator ++ bs) = startsWord word ds := by
    simpa [andSeparator] using startsWord_append_blank hword ds _
  unfold startsIntoFile
  rw [hinto]
  cases afterFolded? "INTO".toList cs with
  | none => rfl
  | some after =>
    rw [Option.map_some]
    dsimp only
    rw [dropWhile_append_separator]
    cases after with
    | nil => rfl
    | cons b after =>
      simp only [List.cons_append]
      split
      · next hblank =>
        -- nothing but blanks between `INTO` and `AND`
        rw [List.isEmpty_iff.mp hblank]
        rfl
      · rw [htarget _ (unblank_of_all (by decide)), htarget _ (unblank_of_all (by decide))]

/-- A search for whole words looks at both sides of a separator as if they stood alone. -/
theorem atSomeWord_append_separator {starts : List Char → Bool} {bs : List Char}
    (hstarts : ∀ cs, starts (cs ++ andSeparator ++ bs) = starts cs) (hnil : starts [] = false)
    (hand : starts ("AND ".toList ++ bs) = false) (inWord : Bool) (as : List Char) :
    atSomeWord starts inWord (as ++ andSeparator ++ bs)
      = (atSomeWord starts inWord as || atSomeWord starts false bs) := by
  induction as generalizing inWord with
  | nil =>
    have hblank : starts (' ' :: ("AND ".toList ++ bs)) = false := (hstarts []).trans hnil
    change ((!inWord && starts (' ' :: ("AND ".toList ++ bs)))
      || ((!false && starts ("AND ".toList ++ bs)) || atSomeWord starts false bs)) = _
    rw [hblank, hand]
    simp [atSomeWord]
  | cons a as ih =>
    have hhere : starts (a :: (as ++ andSeparator ++ bs)) = starts (a :: as) := hstarts (a :: as)
    change ((!inWord && starts (a :: (as ++ andSeparator ++ bs)))
      || atSomeWord starts (isWord a) (as ++ andSeparator ++ bs)) = _
    rw [hhere, ih, atSomeWord, Bool.or_assoc]

/-- What has not all characters of a separator is not found across it. -/
theorem prefix_of_append_cons {part as bs : List Char} {c : Char} (hc : c ∉ part)
    (h : part <+: as ++ c :: bs) : part <+: as := by
  have hwhole : as <+: as ++ c :: bs := List.prefix_append as (c :: bs)
  rcases List.prefix_or_prefix_of_prefix h hwhole with hpart | ⟨more, rfl⟩
  · exact hpart
  · have hmore : more <+: c :: bs := (List.prefix_append_right_inj as).mp h
    cases more with
    | nil => simp
    | cons d more =>
      obtain ⟨rfl, -⟩ := List.cons_prefix_cons.mp hmore
      exact absurd (List.mem_append_right as List.mem_cons_self) hc

/-- A part without a character is found on one of the two sides of that character. -/
theorem infix_append_cons_iff {part : List Char} {c : Char} (hc : c ∉ part) (as bs : List Char) :
    part <:+: as ++ c :: bs ↔ part <:+: as ∨ part <:+: bs := by
  constructor
  · intro h
    induction as with
    | nil =>
      rcases List.infix_cons_iff.mp h with hfront | hlater
      · exact .inl (prefix_of_append_cons hc hfront).isInfix
      · exact .inr hlater
    | cons a as ih =>
      rcases List.infix_cons_iff.mp h with hfront | hlater
      · have hleft : part <+: a :: as := prefix_of_append_cons hc hfront
        exact .inl hleft.isInfix
      · exact (ih hlater).imp_left fun h => List.infix_cons_iff.mpr (.inr h)
  · rintro (h | h)
    · exact h.trans (List.prefix_append as (c :: bs)).isInfix
    · exact h.trans ((List.suffix_cons c bs).trans (List.suffix_append as (c :: bs))).isInfix

/-- A part without any character of the separator is found in one of two joined texts. -/
theorem hasInfix_append_separator {part : List Char} (hpart : ∀ c ∈ andSeparator, c ∉ part)
    (hne : part ≠ []) (as bs : List Char) :
    hasInfix part (as ++ andSeparator ++ bs) = (hasInfix part as || hasInfix part bs) := by
  have hnil : ¬ part <:+: [] := fun h => hne (List.infix_nil.mp h)
  have hrest (c : Char) (hc : c ∈ andSeparator) (cs : List Char) :
      part <:+: c :: cs ↔ part <:+: cs := by
    simpa [hnil] using infix_append_cons_iff (hpart c hc) [] cs
  rw [Bool.eq_iff_iff, Bool.or_eq_true, hasInfix_eq_true_iff, hasInfix_eq_true_iff,
    hasInfix_eq_true_iff, List.append_assoc]
  change part <:+: as ++ ' ' :: 'A' :: 'N' :: 'D' :: ' ' :: bs ↔ _
  rw [infix_append_cons_iff (hpart ' ' (by decide)), hrest 'A' (by decide),
    hrest 'N' (by decide), hrest 'D' (by decide), hrest ' ' (by decide)]

/-- A sign has nothing in common with the separator. -/
def Sign.separable : Sign → Bool
  | .mark text => !text.toList.isEmpty && andSeparator.all (!text.toList.contains ·)
  | .word text =>
    text.toList.all (!sameFolded · ' ') && !startsWord text.toList []
      && !startsWord text.toList "AND".toList
  | .intoFile => true

/-- Every sign of the denylist is found in one of two joined texts or in neither. -/
theorem separable_of_mem {sign : Sign} (h : sign ∈ denylist) : sign.separable = true := by
  revert sign
  decide

/-- A sign is found in joined texts exactly if it is found in one of them. -/
theorem Sign.occursIn_append_separator {sign : Sign} (h : sign.separable = true)
    (as bs : List Char) :
    sign.occursIn (as ++ andSeparator ++ bs) = (sign.occursIn as || sign.occursIn bs) := by
  cases sign with
  | mark text =>
    simp only [separable, Bool.and_eq_true, Bool.not_eq_true', List.all_eq_true,
      List.isEmpty_eq_false_iff, List.contains_eq_mem, decide_eq_false_iff_not] at h
    exact hasInfix_append_separator h.2 h.1 as bs
  | word text =>
    simp only [separable, Bool.and_eq_true, Bool.not_eq_true', List.all_eq_true] at h
    obtain ⟨⟨hblank, hnil⟩, hand⟩ := h
    refine atSomeWord_append_separator (fun cs => ?_) hnil ?_ false as
    · rw [List.append_assoc]
      exact startsWord_append_blank hblank cs _
    · exact (startsWord_append_blank hblank "AND".toList bs).trans hand
  | intoFile =>
    exact atSomeWord_append_separator (fun cs => startsIntoFile_append_separator cs bs) rfl rfl
      false as

/-! ## Signs with text around them -/

section Around

variable {before after : List Char}

/-- What goes on after a text leaves what the text begins with as it is. -/
theorem afterFolded?_append {word cs rest : List Char} (h : afterFolded? word cs = some rest) :
    afterFolded? word (cs ++ after) = some (rest ++ after) := by
  obtain ⟨text, htext, rfl⟩ := afterFolded?_eq_some_iff.mp h
  exact afterFolded?_eq_some_iff.mpr ⟨text, htext, List.append_assoc ..⟩

/-- A word at the start of a text is still there if something follows that ends words. -/
theorem startsWord_append (hafter : ∀ c ∈ after.head?, isWord c = false) {word cs : List Char}
    (h : startsWord word cs = true) : startsWord word (cs ++ after) = true := by
  unfold startsWord at h ⊢
  split at h
  · next rest hrest =>
    rw [afterFolded?_append hrest]
    cases rest with
    | nil => exact atWordEnd_iff.mpr hafter
    | cons c rest => exact h
  · cases h

/-- So are the words about a file. -/
theorem startsIntoFile_append (hafter : ∀ c ∈ after.head?, isWord c = false) {cs : List Char}
    (h : startsIntoFile cs = true) : startsIntoFile (cs ++ after) = true := by
  unfold startsIntoFile at h ⊢
  split at h
  · cases h
  · next rest hrest =>
    rw [afterFolded?_append hrest]
    split at h
    · cases h
    · next b rest =>
      have htarget (word : List Char) (hne : startsWord word [] = false)
          (hword : startsWord word ((b :: rest).dropWhile isBlank) = true) :
          startsWord word ((b :: rest ++ after).dropWhile isBlank) = true := by
        rw [List.dropWhile_append, if_neg]
        · exact startsWord_append hafter hword
        · intro hempty
          rw [List.isEmpty_iff.mp hempty, hne] at hword
          cases hword
      obtain ⟨hblank, hfile⟩ := Bool.and_eq_true_iff.mp h
      refine Bool.and_eq_true_iff.mpr ⟨hblank, Bool.or_eq_true_iff.mpr ?_⟩
      exact (Bool.or_eq_true_iff.mp hfile).imp (htarget _ (by decide)) (htarget _ (by decide))

variable {starts : List Char → Bool}

/-- What is found at the start of some word is still found if something follows the text. -/
theorem atSomeWord_append (hstarts : ∀ cs, starts cs = true → starts (cs ++ after) = true)
    {inWord : Bool} {cs : List Char} (h : atSomeWord starts inWord cs = true) :
    atSomeWord starts inWord (cs ++ after) = true := by
  induction cs generalizing inWord with
  | nil => cases h
  | cons c cs ih =>
    rw [atSomeWord, Bool.or_eq_true, Bool.and_eq_true] at h
    rw [List.cons_append, atSomeWord, Bool.or_eq_true, Bool.and_eq_true]
    exact h.imp (And.imp_right (hstarts (c :: cs))) ih

/-- A word is found again after a text that does not end within a word. -/
theorem atSomeWord_prepend (hbefore : ∀ c ∈ before.getLast?, isWord c = false) {cs : List Char}
    (h : atSomeWord starts false cs = true) : atSomeWord starts false (before ++ cs) = true := by
  rcases List.eq_nil_or_concat before with rfl | ⟨init, d, rfl⟩
  · exact h
  · have hd : isWord d = false := hbefore d (by simp)
    have hlast (inWord : Bool) : atSomeWord starts inWord (init ++ d :: cs) = true := by
      induction init generalizing inWord with
      | nil => rw [List.nil_append, atSomeWord, hd, h, Bool.or_true]
      | cons c init ih =>
        have hinit : atSomeWord starts (isWord c) (init ++ d :: cs) = true :=
          ih (fun e he => by simp_all) _
        rw [List.cons_append, atSomeWord, hinit, Bool.or_true]
    rw [List.concat_append]
    exact hlast false

/-- A sign is found again within text that does not go on with a word on either side. -/
theorem Sign.occursIn_around (hbefore : ∀ c ∈ before.getLast?, isWord c = false)
    (hafter : ∀ c ∈ after.head?, isWord c = false) {sign : Sign} {cs : List Char}
    (h : sign.occursIn cs = true) : sign.occursIn (before ++ cs ++ after) = true := by
  rw [List.append_assoc]
  cases sign with
  | mark text =>
    have hpart : text.toList <:+: cs := hasInfix_eq_true_iff.mp h
    have hwithin : cs <:+: before ++ (cs ++ after) := ⟨before, after, List.append_assoc ..⟩
    exact hasInfix_eq_true_iff.mpr (hpart.trans hwithin)
  | word text =>
    exact atSomeWord_prepend hbefore (atSomeWord_append (fun cs => startsWord_append hafter) h)
  | intoFile =>
    exact atSomeWord_prepend hbefore (atSomeWord_append (fun cs => startsIntoFile_append hafter) h)

end Around

/-! ## The case of letters -/

/-- What no capital is told from its small letter by is the same of a character made small. -/
theorem asciiLower_invariant {α : Type} {p : Char → α}
    (hp : ∀ n < 128, p (asciiLower (Char.ofNat n)) = p (Char.ofNat n)) (c : Char) :
    p (asciiLower c) = p c := by
  by_cases hc : c.toNat < 128
  · have h := hp c.toNat hc
    rwa [Char.ofNat_toNat] at h
  · have hupper : isAsciiUpper c = false := by
      by_contra hupper
      simp only [isAsciiUpper, Bool.not_eq_false, Bool.and_eq_true, decide_eq_true_eq,
        Char.le_def, UInt32.le_iff_toNat_le] at hupper
      exact hc (Nat.lt_of_le_of_lt hupper.2 (by decide))
    rw [asciiLower, hupper, if_neg (by decide)]

/-- A letter is a word character in either case. -/
theorem isWord_asciiLower (c : Char) : isWord (asciiLower c) = isWord c :=
  asciiLower_invariant (by decide) c

/-- No blank has a case. -/
theorem isBlank_asciiLower (c : Char) : isBlank (asciiLower c) = isBlank c :=
  asciiLower_invariant (by decide) c

/-- A letter is folded alike in either case. -/
theorem foldLetter_asciiLower (c : Char) : foldLetter (asciiLower c) = foldLetter c :=
  asciiLower_invariant (by decide) c

/-- What follows a word is the same for a text in small letters, in small letters. -/
theorem afterFolded?_asciiLower (word cs : List Char) :
    afterFolded? word (cs.map asciiLower) = (afterFolded? word cs).map (·.map asciiLower) := by
  induction word generalizing cs with
  | nil => rfl
  | cons w word ih =>
    cases cs with
    | nil => rfl
    | cons c cs =>
      have hsame : sameFolded w (asciiLower c) = sameFolded w c :=
        congrArg (foldLetter w == ·) (foldLetter_asciiLower c)
      rw [List.map_cons, afterFolded?, afterFolded?, hsame]
      split
      · exact ih cs
      · rfl

/-- A word is found at the start of a text in whatever case the text is. -/
theorem startsWord_asciiLower (word cs : List Char) :
    startsWord word (cs.map asciiLower) = startsWord word cs := by
  unfold startsWord
  rw [afterFolded?_asciiLower]
  cases afterFolded? word cs with
  | none => rfl
  | some rest =>
    cases rest with
    | nil => rfl
    | cons c rest => exact congrArg (!·) (isWord_asciiLower c)

/-- So are the words about a file. -/
theorem startsIntoFile_asciiLower (cs : List Char) :
    startsIntoFile (cs.map asciiLower) = startsIntoFile cs := by
  have hblank : isBlank ∘ asciiLower = isBlank := funext isBlank_asciiLower
  unfold startsIntoFile
  rw [afterFolded?_asciiLower]
  cases afterFolded? "INTO".toList cs with
  | none => rfl
  | some rest =>
    rw [Option.map_some]
    dsimp only
    rw [List.dropWhile_map, hblank, startsWord_asciiLower, startsWord_asciiLower]
    cases rest with
    | nil => rfl
    | cons b rest =>
      rw [List.map_cons]
      dsimp only
      rw [isBlank_asciiLower]

/-- What is found in whatever case at the start of a text is so at the start of its words. -/
theorem atSomeWord_asciiLower {starts : List Char → Bool}
    (hstarts : ∀ cs, starts (cs.map asciiLower) = starts cs) (inWord : Bool) (cs : List Char) :
    atSomeWord starts inWord (cs.map asciiLower) = atSomeWord starts inWord cs := by
  induction cs generalizing inWord with
  | nil => rfl
  | cons c cs ih =>
    have hhere : starts (asciiLower c :: cs.map asciiLower) = starts (c :: cs) := hstarts (c :: cs)
    rw [List.map_cons, atSomeWord, atSomeWord, hhere, isWord_asciiLower, ih]

/-- A mark without letters. -/
def Sign.caseless : Sign → Bool
  | .mark text => text.toList.all fun c => !isAsciiLetter c
  | _ => true

/-- Every sign of the denylist is found in whatever case a text is. -/
theorem caseless_of_mem {sign : Sign} (h : sign ∈ denylist) : sign.caseless = true := by
  revert sign
  decide

/-- A character that is no letter comes from itself alone. -/
theorem asciiLower_eq_iff {m : Char} (hm : isAsciiLetter m = false) (c : Char) :
    m = asciiLower c ↔ m = c := by
  have hletter : isAsciiLetter (asciiLower c) = isAsciiLetter c :=
    asciiLower_invariant (by decide) c
  constructor
  · intro h
    have hc : isAsciiLetter c = false := by rw [← hletter, ← h, hm]
    have hupper : isAsciiUpper c = false := (Bool.or_eq_false_iff.mp hc).1
    rw [h, asciiLower, hupper, if_neg (by decide)]
  · rintro rfl
    have hupper : isAsciiUpper m = false := (Bool.or_eq_false_iff.mp hm).1
    rw [asciiLower, hupper, if_neg (by decide)]

/-- A prefix without letters is found in whatever case a text is. -/
theorem isPrefixOf_asciiLower {part : List Char} (hpart : ∀ m ∈ part, isAsciiLetter m = false)
    (cs : List Char) : part.isPrefixOf (cs.map asciiLower) = part.isPrefixOf cs := by
  induction part generalizing cs with
  | nil => rfl
  | cons m part ih =>
    obtain ⟨hm, hpart⟩ := List.forall_mem_cons.mp hpart
    cases cs with
    | nil => rfl
    | cons c cs =>
      have hsame : (m == asciiLower c) = (m == c) := by
        rw [Bool.eq_iff_iff, beq_iff_eq, beq_iff_eq, asciiLower_eq_iff hm]
      rw [List.map_cons, List.isPrefixOf, List.isPrefixOf, hsame, ih hpart]

/-- A part without letters is found in whatever case a text is. -/
theorem hasInfix_asciiLower {part : List Char} (hpart : ∀ m ∈ part, isAsciiLetter m = false)
    (cs : List Char) : hasInfix part (cs.map asciiLower) = hasInfix part cs := by
  induction cs with
  | nil => rfl
  | cons c cs ih =>
    rw [List.map_cons, hasInfix, hasInfix, ih, ← List.map_cons, isPrefixOf_asciiLower hpart]

/-- A sign that has no case is found in a text and in its small letters alike. -/
theorem Sign.occursIn_asciiLower {sign : Sign} (h : sign.caseless = true) (cs : List Char) :
    sign.occursIn (cs.map asciiLower) = sign.occursIn cs := by
  cases sign with
  | mark text => exact hasInfix_asciiLower (by simpa [caseless] using h) cs
  | word text => exact atSomeWord_asciiLower (startsWord_asciiLower text.toList) false cs
  | intoFile => exact atSomeWord_asciiLower startsIntoFile_asciiLower false cs

/-- What a text is blamed for does not depend on the case of its ASCII letters. -/
theorem dangerIn?_lowerAscii (s : String) : dangerIn? (lowerAscii s) = dangerIn? s := by
  unfold dangerIn? lowerAscii
  rw [String.toList_ofList]
  exact List.find?_congr fun sign hsign =>
    Sign.occursIn_asciiLower (caseless_of_mem hsign) s.toList

/-! ## The check -/

/-- A fragment is let through, unchanged. -/
def Passes (kind : FragmentKind) (fragment : String) : Prop :=
  checkFragment kind fragment = .ok fragment

instance (kind : FragmentKind) (fragment : String) : Decidable (Passes kind fragment) :=
  decidable_of_iff (dangerIn? fragment = none) <| by
    unfold Passes checkFragment
    cases dangerIn? fragment <;> simp

/-- A fragment passes the check exactly if it has no sign of the denylist. -/
theorem passes_iff {kind : FragmentKind} {fragment : String} :
    Passes kind fragment ↔ ¬ Dangerous fragment := by
  rw [← dangerIn?_eq_none_iff]
  unfold Passes checkFragment
  cases dangerIn? fragment <;> simp

/-- Of two texts joined by the separator one is dangerous if the whole is, and the other way round.
-/
theorem dangerous_and_iff {s t : String} :
    Dangerous (s ++ " AND " ++ t) ↔ Dangerous s ∨ Dangerous t := by
  have hsign (sign : Sign) (h : sign ∈ denylist) :
      sign.occursIn (s ++ " AND " ++ t).toList = true
        ↔ sign.occursIn s.toList = true ∨ sign.occursIn t.toList = true := by
    rw [← Bool.or_eq_true, ← Sign.occursIn_append_separator (separable_of_mem h),
      String.toList_append, String.toList_append]
    rfl
  constructor
  · rintro ⟨sign, h, hoccurs⟩
    exact ((hsign sign h).mp hoccurs).imp (⟨sign, h, ·⟩) (⟨sign, h, ·⟩)
  · rintro (⟨sign, h, hoccurs⟩ | ⟨sign, h, hoccurs⟩)
    · exact ⟨sign, h, (hsign sign h).mpr (.inl hoccurs)⟩
    · exact ⟨sign, h, (hsign sign h).mpr (.inr hoccurs)⟩

/-- Joined texts are dangerous exactly if one of them is. -/
theorem dangerous_intercalate_iff {fragments : List String} :
    Dangerous (" AND ".intercalate fragments) ↔ ∃ f ∈ fragments, Dangerous f := by
  induction fragments with
  | nil =>
    have hempty : ¬ Dangerous "" := dangerIn?_eq_none_iff.mp (by decide)
    simpa using hempty
  | cons f fragments ih =>
    cases fragments with
    | nil => simp
    | cons g fragments =>
      rw [String.intercalate_cons_cons, dangerous_and_iff, ih]
      simp

/-- A dangerous text is so between texts that do not go on with a word. -/
theorem Dangerous.around {before fragment after : String} (h : Dangerous fragment)
    (hbefore : ∀ c ∈ before.toList.getLast?, isWord c = false)
    (hafter : ∀ c ∈ after.toList.head?, isWord c = false) :
    Dangerous (before ++ fragment ++ after) := by
  obtain ⟨sign, hsign, hoccurs⟩ := h
  refine ⟨sign, hsign, ?_⟩
  rw [String.toList_append, String.toList_append]
  exact Sign.occursIn_around hbefore hafter hoccurs

/-- The check lets the clause of joined fragments through exactly if it lets each of them through.
A fragment that it rejects is rejected within every text that does not go on with a word at either
side of it. And texts that differ in the case of ASCII letters only are blamed for the same sign,
or for none. -/
theorem fragments_checked_as_joined (kind : FragmentKind) :
    (∀ fragments : List String,
      Passes kind (" AND ".intercalate fragments) ↔ ∀ f ∈ fragments, Passes kind f)
    ∧ (∀ before fragment after : String, ¬ Passes kind fragment →
      (∀ c ∈ before.toList.getLast?, isWord c = false) →
      (∀ c ∈ after.toList.head?, isWord c = false) →
        ¬ Passes kind (before ++ fragment ++ after))
    ∧ ∀ s t : String, lowerAscii s = lowerAscii t →
      dangerIn? s = dangerIn? t ∧ (Passes kind s ↔ Passes kind t) := by
  refine ⟨fun fragments => ?_, fun before fragment after h hbefore hafter => ?_, fun s t h => ?_⟩
  · simp only [passes_iff, dangerous_intercalate_iff]
    simp
  · rw [passes_iff, not_not] at h ⊢
    exact h.around hbefore hafter
  · have hsame : dangerIn? s = dangerIn? t := by
      rw [← dangerIn?_lowerAscii s, h, dangerIn?_lowerAscii]
    refine ⟨hsame, ?_⟩
    rw [passes_iff, passes_iff, ← dangerIn?_eq_none_iff, ← dangerIn?_eq_none_iff, hsame]

/-- Half a sign at the end of one fragment and half at the beginning of the next are none, but a
whole one stays one in brackets and in any case. -/
theorem halves_pass_whole_rejected :
    (Passes .whereClause "a -" ∧ Passes .whereClause "- b INTO"
      ∧ Passes .whereClause "OUTFILE = 'updated'"
      ∧ Passes .whereClause (" AND ".intercalate ["a -", "- b INTO", "OUTFILE = 'updated'"]))
    ∧ (¬ Passes .whereClause "x into\t\tDumpFile"
      ∧ ¬ Passes .whereClause ("(" ++ "x into\t\tDumpFile" ++ ")"))
    ∧ (lowerAscii "Drop 1" = lowerAscii "dROP 1" ∧ dangerIn? "Drop 1" = some (.word "DROP")
      ∧ dangerIn? "dROP 1" = some (.word "DROP")) := by
  obtain ⟨hjoined, haround, hcase⟩ := fragments_checked_as_joined .whereClause
  have hfirst : Passes .whereClause "a -" := by decide
  have hsecond : Passes .whereClause "- b INTO" := by decide
  have hthird : Passes .whereClause "OUTFILE = 'updated'" := by decide
  have hfile : ¬ Passes .whereClause "x into\t\tDumpFile" := by decide
  have hdrop : lowerAscii "Drop 1" = lowerAscii "dROP 1" := by decide
  have hblamed : dangerIn? "Drop 1" = some (.word "DROP") := by decide
  refine ⟨⟨hfirst, hsecond, hthird, (hjoined _).mpr ?_⟩,
    ⟨hfile, haround "(" _ ")" hfile (by rintro _ ⟨⟩; decide) (by rintro _ ⟨⟩; decide)⟩,
    hdrop, hblamed, ?_⟩
  · simp [hfirst, hsecond, hthird]
  · rw [← (hcase _ _ hdrop).1, hblamed]

end SqlComposer.Sql
