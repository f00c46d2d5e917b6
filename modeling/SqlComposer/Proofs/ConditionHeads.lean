import Mathlib.Data.List.Nodup
import SqlComposer.Proofs.Composition
import SqlComposer.Proofs.FoldedWords

/-!
# Names at the head of a condition

`ConditionHead` says how a condition may begin, as a way to cut it: blanks, a name, and a rest
that begins with an operator. `conditionHead?` does not try all cuts. It takes the blanks there
are and the longest name there is, and looks once for an operator. This finds every cut, and so
there is only one: an operator begins with a blank or a comparison sign, and neither goes on a
name, so that after a shorter name there is never an operator.
-/

set_option autoImplicit false

namespace SqlComposer

open SqlComposer.Text SqlComposer.Sql

/-! ## How a condition may begin -/

/-- A name without quotes. -/
def IsPlainName (cs : List Char) : Prop :=
  ∃ c more, cs = c :: more ∧ isNameStart c = true ∧ ∀ d ∈ more, isNamePart d = true

/-- A name in backticks. -/
def IsQuotedName (cs : List Char) : Prop :=
  ∃ body, cs = '\x60' :: (body ++ ['\x60']) ∧ body ≠ [] ∧ '\x60' ∉ body

/-- A name of a form, or two of them with a dot between. -/
def IsQualified (IsName : List Char → Prop) (cs : List Char) : Prop :=
  IsName cs ∨ ∃ as bs, cs = as ++ '.' :: bs ∧ IsName as ∧ IsName bs

/-- The name of a field. -/
def IsFieldName (cs : List Char) : Prop :=
  IsQualified IsPlainName cs ∨ IsQualified IsQuotedName cs

/-- The operators that are signs. -/
def comparisonSigns : List String := ["<=>", "<>", "!=", "<=", ">=", "=", "<", ">"]

/-- A text that spells words out, in any case and with blanks between them. -/
inductive SpelledOut : List String → List Char → Prop where
  | last {word : String} {text : List Char} (htext : SameWord word.toList text) :
    SpelledOut [word] text
  | next {word : String} {words : List String} {text blanks more : List Char}
    (htext : SameWord word.toList text) (hne : blanks ≠ [])
    (hblanks : ∀ c ∈ blanks, isBlank c = true) (hmore : SpelledOut words more) :
    SpelledOut (word :: words) (text ++ (blanks ++ more))

/-- A text that begins with an operator: with a sign, or with words after a blank that end where
a word ends. -/
inductive StartsOperator : List Char → Prop where
  | sign {blanks after : List Char} {sign : String} (hblanks : ∀ c ∈ blanks, isBlank c = true)
    (hsign : sign ∈ comparisonSigns) : StartsOperator (blanks ++ (sign.toList ++ after))
  | words {words : List String} {blanks text after : List Char} (hne : blanks ≠ [])
    (hblanks : ∀ c ∈ blanks, isBlank c = true) (hwords : words ∈ wordOperators)
    (htext : SpelledOut words text) (hend : ∀ c ∈ after.head?, isWord c = false) :
    StartsOperator (blanks ++ (text ++ after))

/-- A condition cut before and after the name at its head. -/
structure ConditionHead (fragment lead name rest : String) : Prop where
  split : fragment = lead ++ name ++ rest
  blanks : ∀ c ∈ lead.toList, isBlank c = true
  name : IsFieldName name.toList
  operator : StartsOperator rest.toList

/-- A name without the backticks around it. -/
def bareName (name : String) : String := String.ofList (trimBy (· == '\x60') name.toList)

/-! ## Where names end -/

theorem isBlank_of_isNameStart {c : Char} (h : isNameStart c = true) : isBlank c = false := by
  rw [Bool.eq_false_iff]
  intro hblank
  have hstart := of_isBlank (p := fun c => !isNameStart c) (by decide +kernel) hblank
  rw [h] at hstart
  cases hstart

/-- A measure of the names of a form at the front of texts: it finds only such names, and finds
each of them where nothing goes on it. -/
structure Measures (nameLength : List Char → Nat) (IsName : List Char → Prop) : Prop where
  nonempty {name : List Char} : IsName name → name ≠ []
  sound {cs : List Char} : nameLength cs ≠ 0 → IsName (cs.take (nameLength cs))
  exact {name rest : List Char} : IsName name → (∀ c ∈ rest.head?, isNamePart c = false) →
    nameLength (name ++ rest) = name.length

theorem measures_plain : Measures plainNameLength IsPlainName where
  nonempty := by
    rintro name ⟨c, more, rfl, -, -⟩
    simp
  sound := by
    intro cs hlength
    cases cs with
    | nil => exact absurd rfl hlength
    | cons c cs =>
      simp only [plainNameLength] at hlength ⊢
      split at hlength
      · next hstart =>
        rw [if_pos hstart, Nat.add_comm, List.take_succ_cons,
          ← List.prefix_iff_eq_take.mp (List.takeWhile_prefix isNamePart)]
        exact ⟨c, _, rfl, hstart, List.all_eq_true.mp List.all_takeWhile⟩
      · exact absurd rfl hlength
  exact := by
    rintro name rest ⟨c, more, rfl, hstart, hmore⟩ hrest
    rw [List.cons_append, plainNameLength, if_pos hstart, takeWhile_of_boundary hmore hrest,
      List.length_cons, Nat.add_comm]

theorem quotedNameLength_cons (cs : List Char) :
    quotedNameLength ('\x60' :: cs) =
      if (cs.takeWhile (· != '\x60')).isEmpty || (cs.takeWhile (· != '\x60')).length == cs.length
      then 0 else (cs.takeWhile (· != '\x60')).length + 2 := rfl

/-- A text that is not all taken up to a backtick has one there. -/
theorem exists_backtick {cs : List Char}
    (h : (cs.takeWhile (· != '\x60')).length ≠ cs.length) :
    ∃ rest, cs = cs.takeWhile (· != '\x60') ++ '\x60' :: rest := by
  have hsplit := List.takeWhile_append_dropWhile (p := (· != '\x60')) (l := cs)
  have hhead := List.head?_dropWhile_not (· != '\x60') cs
  cases hrest : cs.dropWhile (· != '\x60') with
  | nil =>
    rw [hrest, List.append_nil] at hsplit
    exact absurd (congrArg List.length hsplit) h
  | cons c rest =>
    rw [hrest] at hsplit hhead
    obtain rfl : c = '\x60' := by simpa using hhead
    exact ⟨rest, hsplit.symm⟩

theorem measures_quoted : Measures quotedNameLength IsQuotedName where
  nonempty := by
    rintro name ⟨body, rfl, -, -⟩
    simp
  sound := by
    intro cs hlength
    unfold quotedNameLength at hlength
    split at hlength
    · next cs =>
      rw [quotedNameLength_cons]
      simp only at hlength
      split at hlength
      · exact absurd rfl hlength
      · next hbody =>
        rw [if_neg hbody]
        simp only [Bool.or_eq_true, List.isEmpty_iff, beq_iff_eq, not_or] at hbody
        obtain ⟨hne, hshort⟩ := hbody
        obtain ⟨rest, hsplit⟩ := exists_backtick hshort
        have hinside : '\x60' ∉ cs.takeWhile (· != '\x60') :=
          fun hmem => by simpa using List.all_eq_true.mp List.all_takeWhile _ hmem
        generalize cs.takeWhile (· != '\x60') = body at hne hsplit hinside ⊢
        refine ⟨body, ?_, hne, hinside⟩
        rw [hsplit, List.take_succ_cons, List.take_length_add_append]
        rfl
    · exact absurd rfl hlength
  exact := by
    rintro name rest ⟨body, rfl, hne, hbody⟩ -
    have hinside : ∀ c ∈ body, (c != '\x60') = true := by
      intro c hc
      rw [bne_iff_ne]
      rintro rfl
      exact hbody hc
    have htake : (body ++ '\x60' :: rest).takeWhile (· != '\x60') = body :=
      takeWhile_of_boundary hinside (by simp)
    rw [List.cons_append, List.append_assoc, List.singleton_append, quotedNameLength_cons, htake,
      if_neg (by simp [hne])]
    simp

section Qualified

variable {nameLength : List Char → Nat} {IsName : List Char → Prop}

theorem sound_qualified (h : Measures nameLength IsName) {cs : List Char}
    (hlength : qualifiedLength nameLength cs ≠ 0) :
    IsQualified IsName (cs.take (qualifiedLength nameLength cs)) := by
  unfold qualifiedLength at hlength ⊢
  simp only at hlength ⊢
  split at hlength
  · exact absurd rfl hlength
  · next hfirst =>
    rw [if_neg hfirst]
    simp only [beq_iff_eq] at hfirst
    have hname := h.sound hfirst
    split
    · next rest hdrop =>
      split
      · exact Or.inl hname
      · next hsecond =>
        simp only [beq_iff_eq] at hsecond
        refine Or.inr ⟨_, _, ?_, hname, h.sound hsecond⟩
        rw [Nat.add_assoc, List.take_add, hdrop, Nat.add_comm 1, List.take_succ_cons]
    · exact Or.inl hname

/-- Of a name with a dot in it the whole is measured, if no second dot follows. -/
theorem exact_qualified (h : Measures nameLength IsName) {name rest : List Char}
    (hname : IsQualified IsName name)
    (hrest : ∀ c ∈ rest.head?, isNamePart c = false ∧ c ≠ '.') :
    qualifiedLength nameLength (name ++ rest) = name.length := by
  have hpart : ∀ c ∈ rest.head?, isNamePart c = false := fun c hc => (hrest c hc).1
  rcases hname with hname | ⟨as, bs, rfl, has, hbs⟩
  · have hfirst : nameLength (name ++ rest) = name.length := h.exact hname hpart
    have hne : name.length ≠ 0 := fun hzero => h.nonempty hname (List.length_eq_zero_iff.mp hzero)
    simp only [qualifiedLength, hfirst, List.drop_left, beq_iff_eq, if_neg hne]
    split
    · exact absurd rfl (hrest '.' rfl).2
    · rfl
  · have hfirst : nameLength (as ++ '.' :: (bs ++ rest)) = as.length :=
      h.exact has (by simp; decide)
    have hsecond : nameLength (bs ++ rest) = bs.length := h.exact hbs hpart
    have has' : as.length ≠ 0 := fun hzero => h.nonempty has (List.length_eq_zero_iff.mp hzero)
    have hbs' : bs.length ≠ 0 := fun hzero => h.nonempty hbs (List.length_eq_zero_iff.mp hzero)
    rw [List.append_assoc, List.cons_append]
    simp only [qualifiedLength, hfirst, List.drop_left, hsecond, beq_iff_eq, if_neg has',
      if_neg hbs']
    simp
    omega

end Qualified

theorem head?_of_isPlainName {name : List Char} (h : IsQualified IsPlainName name) :
    ∃ c more, name = c :: more ∧ isNameStart c = true := by
  rcases h with ⟨c, more, rfl, hstart, -⟩ | ⟨as, bs, rfl, ⟨c, more, rfl, hstart, -⟩, -⟩
  · exact ⟨c, more, rfl, hstart⟩
  · exact ⟨c, _, rfl, hstart⟩

theorem head?_of_isQuotedName {name : List Char} (h : IsQualified IsQuotedName name) :
    ∃ more, name = '\x60' :: more := by
  rcases h with ⟨body, rfl, -, -⟩ | ⟨as, bs, rfl, ⟨body, rfl, -, -⟩, -⟩
  · exact ⟨_, rfl⟩
  · exact ⟨_, rfl⟩

/-- No blank begins the name of a field. -/
theorem isBlank_of_isFieldName {name : List Char} (h : IsFieldName name) :
    ∃ c more, name = c :: more ∧ isBlank c = false := by
  rcases h with h | h
  · obtain ⟨c, more, rfl, hstart⟩ := head?_of_isPlainName h
    exact ⟨c, more, rfl, isBlank_of_isNameStart hstart⟩
  · obtain ⟨more, rfl⟩ := head?_of_isQuotedName h
    exact ⟨_, more, rfl, by decide⟩

theorem isFieldName_take {cs : List Char} (h : fieldNameLength cs ≠ 0) :
    IsFieldName (cs.take (fieldNameLength cs)) := by
  unfold fieldNameLength at h ⊢
  split at h
  · exact Or.inr (sound_qualified measures_quoted h)
  · exact Or.inl (sound_qualified measures_plain h)

/-- The name of a field is measured where nothing goes on it. -/
theorem fieldNameLength_append {name rest : List Char} (h : IsFieldName name)
    (hrest : ∀ c ∈ rest.head?, isNamePart c = false ∧ c ≠ '.') :
    fieldNameLength (name ++ rest) = name.length := by
  rcases h with h | h
  · have hlength := exact_qualified measures_plain h hrest
    obtain ⟨c, more, rfl, hstart⟩ := head?_of_isPlainName h
    have hc : c ≠ '\x60' := by
      rintro rfl
      cases hstart
    rw [← hlength]
    unfold fieldNameLength
    split
    · next heq => exact absurd (List.cons.inj heq).1 hc
    · rfl
  · have hlength := exact_qualified measures_quoted h hrest
    obtain ⟨more, rfl⟩ := head?_of_isQuotedName h
    exact hlength

/-! ## Where an operator begins -/

theorem startsComparison_iff {cs : List Char} :
    startsComparison cs = true ↔ ∃ sign ∈ comparisonSigns, ∃ after, cs = sign.toList ++ after := by
  constructor
  · intro h
    unfold startsComparison at h
    split at h
    · next after => exact ⟨"=", by decide, after, rfl⟩
    · next after => exact ⟨"<", by decide, after, rfl⟩
    · next after => exact ⟨">", by decide, after, rfl⟩
    · next after => exact ⟨"!=", by decide, after, rfl⟩
    · cases h
  · rintro ⟨sign, hsign, after, rfl⟩
    simp only [comparisonSigns, List.mem_cons, List.not_mem_nil, or_false] at hsign
    rcases hsign with rfl | rfl | rfl | rfl | rfl | rfl | rfl | rfl <;> rfl

/-- Words of letters, such as the operators are. -/
def OfLetters (words : List String) : Prop :=
  ∀ word ∈ words, word.toList ≠ [] ∧ ∀ c ∈ word.toList, isFoldedLetter c = true

theorem ofLetters_wordOperators : ∀ words ∈ wordOperators, words ≠ [] ∧ OfLetters words := by
  have hall : wordOperators.all (fun words => !words.isEmpty && words.all fun word =>
      !word.toList.isEmpty && word.toList.all isFoldedLetter) = true := by decide
  unfold OfLetters
  simpa using hall

/-- No blank begins what is spelled out. -/
theorem SpelledOut.isBlank_head {words : List String} {text : List Char} (h : SpelledOut words text)
    (hwords : OfLetters words) : ∃ c more, text = c :: more ∧ isBlank c = false := by
  have hword {word : String} {words : List String} {text : List Char}
      (hwords : OfLetters (word :: words)) (htext : SameWord word.toList text) :
      ∃ c more, text = c :: more ∧ isBlank c = false := by
    obtain ⟨hne, hletters⟩ := hwords word List.mem_cons_self
    have hletter := htext.letters hletters
    cases text with
    | nil => exact absurd (List.length_eq_zero_iff.mp htext.length_eq) hne
    | cons c more =>
      exact ⟨c, more, rfl, isBlank_of_isFoldedLetter (hletter c List.mem_cons_self)⟩
  cases h with
  | last htext => exact hword hwords htext
  | next htext =>
    obtain ⟨c, more, rfl, hc⟩ := hword hwords htext
    exact ⟨c, _, rfl, hc⟩

theorem startsWords_last_iff {word : String} {cs : List Char} :
    startsWords [word] cs = true ↔ ∃ text after, SameWord word.toList text ∧ cs = text ++ after
      ∧ ∀ c ∈ after.head?, isWord c = false := by
  simp only [startsWords, startsWord]
  constructor
  · intro h
    split at h
    · next after hafter =>
      obtain ⟨text, htext, rfl⟩ := afterFolded?_eq_some_iff.mp hafter
      exact ⟨text, after, htext, rfl, atWordEnd_iff.mp h⟩
    · cases h
  · rintro ⟨text, after, htext, rfl, hend⟩
    rw [afterFolded?_eq_some_iff.mpr ⟨text, htext, rfl⟩]
    exact atWordEnd_iff.mpr hend

theorem startsWords_next_iff {word second : String} {words : List String} {cs : List Char} :
    startsWords (word :: second :: words) cs = true ↔ ∃ text b rest, SameWord word.toList text
      ∧ cs = text ++ b :: rest ∧ isBlank b = true
      ∧ startsWords (second :: words) (rest.dropWhile isBlank) = true := by
  simp only [startsWords]
  constructor
  · intro h
    split at h
    · next b rest hafter =>
      simp only [Bool.and_eq_true] at h
      obtain ⟨text, htext, rfl⟩ := afterFolded?_eq_some_iff.mp hafter
      exact ⟨text, b, rest, htext, rfl, h⟩
    · cases h
  · rintro ⟨text, b, rest, htext, rfl, hblank, hstarts⟩
    have hafter : afterFolded? word.toList (text ++ b :: rest) = some (b :: rest) :=
      afterFolded?_eq_some_iff.mpr ⟨text, htext, rfl⟩
    simp only [hafter, hblank, hstarts, Bool.and_self]

/-- Words are found exactly where they are spelled out, if they are of letters. -/
theorem startsWords_iff {words : List String} (hne : words ≠ []) (hwords : OfLetters words)
    {cs : List Char} :
    startsWords words cs = true ↔ ∃ text after, SpelledOut words text ∧ cs = text ++ after
      ∧ ∀ c ∈ after.head?, isWord c = false := by
  induction words generalizing cs with
  | nil => exact absurd rfl hne
  | cons word words ih =>
    cases words with
    | nil =>
      rw [startsWords_last_iff]
      constructor
      · rintro ⟨text, after, htext, hsplit⟩
        exact ⟨text, after, .last htext, hsplit⟩
      · rintro ⟨text, after, htext, hsplit⟩
        cases htext with
        | last htext => exact ⟨text, after, htext, hsplit⟩
        | next _ _ _ hmore => cases hmore
    | cons second words =>
      have hrest : OfLetters (second :: words) := fun w hw => hwords w (List.mem_cons_of_mem _ hw)
      rw [startsWords_next_iff]
      constructor
      · rintro ⟨text, b, rest, htext, rfl, hblank, hstarts⟩
        obtain ⟨more, after, hmore, hsplit, hend⟩ := (ih (by simp) hrest).mp hstarts
        have hblanks : ∀ c ∈ b :: rest.takeWhile isBlank, isBlank c = true :=
          List.forall_mem_cons.mpr ⟨hblank, List.all_eq_true.mp List.all_takeWhile⟩
        refine ⟨_, after, .next htext (List.cons_ne_nil _ _) hblanks hmore, ?_, hend⟩
        rw [List.append_assoc, List.append_assoc, ← hsplit, List.cons_append,
          List.takeWhile_append_dropWhile]
      · rintro ⟨text, after, htext, rfl, hend⟩
        cases htext with
        | @next _ _ text blanks more htext hblank hblanks hmore =>
          -- the blanks end where the next word begins, so they are all taken off
          obtain ⟨d, ds, hd, hdblank⟩ := hmore.isBlank_head hrest
          cases blanks with
          | nil => exact absurd rfl hblank
          | cons b blanks =>
            obtain ⟨hb, hblanks⟩ := List.forall_mem_cons.mp hblanks
            have hdrop : (blanks ++ (more ++ after)).dropWhile isBlank = more ++ after :=
              dropWhile_of_boundary hblanks (by simp [hd, hdblank])
            refine ⟨text, b, blanks ++ (more ++ after), htext, by simp, hb, ?_⟩
            rw [hdrop]
            exact (ih (by simp) hrest).mpr ⟨more, after, hmore, rfl, hend⟩

/-- No blank begins a comparison sign, and none goes on a name. -/
theorem head?_comparisonSign {sign : String} (h : sign ∈ comparisonSigns) :
    ∃ c more, sign.toList = c :: more ∧ isBlank c = false ∧ isNamePart c = false ∧ c ≠ '.' := by
  have hall : comparisonSigns.all (fun sign => sign.toList.head?.any fun c =>
      !isBlank c && !isNamePart c && c != '.') = true := by decide
  have hsign := List.all_eq_true.mp hall sign h
  cases hhead : sign.toList with
  | nil => simp [hhead] at hsign
  | cons c more =>
    obtain ⟨⟨hblank, hpart⟩, hdot⟩ : (isBlank c = false ∧ isNamePart c = false) ∧ c ≠ '.' := by
      simpa [hhead] using hsign
    exact ⟨c, more, rfl, hblank, hpart, hdot⟩

/-- An operator is found exactly where one begins. -/
theorem operatorFollows_iff {cs : List Char} : operatorFollows cs = true ↔ StartsOperator cs := by
  simp only [operatorFollows, Bool.or_eq_true, Bool.and_eq_true, decide_eq_true_eq,
    List.any_eq_true]
  constructor
  · have hblanks : ∀ c ∈ cs.takeWhile isBlank, isBlank c = true :=
      List.all_eq_true.mp List.all_takeWhile
    have hsplit := List.takeWhile_append_dropWhile (p := isBlank) (l := cs)
    rintro (hsign | ⟨hshorter, words, hwords, hstarts⟩)
    · obtain ⟨sign, hsign, after, hafter⟩ := startsComparison_iff.mp hsign
      rw [← hsplit, hafter]
      exact .sign hblanks hsign
    · obtain ⟨hne, hletters⟩ := ofLetters_wordOperators words hwords
      obtain ⟨text, after, htext, hafter, hend⟩ := (startsWords_iff hne hletters).mp hstarts
      have hblank : cs.takeWhile isBlank ≠ [] := by
        intro hnil
        rw [hnil, List.nil_append] at hsplit
        rw [hsplit] at hshorter
        exact Nat.lt_irrefl _ hshorter
      rw [← hsplit, hafter]
      exact .words hblank hblanks hwords htext hend
  · rintro (⟨hblanks, hsign⟩ | ⟨hblank, hblanks, hwords, htext, hend⟩)
    · obtain ⟨c, more, hc, hcblank, -⟩ := head?_comparisonSign hsign
      rw [dropWhile_of_boundary hblanks (by simp [hc, hcblank])]
      exact Or.inl (startsComparison_iff.mpr ⟨_, hsign, _, rfl⟩)
    · obtain ⟨hne, hletters⟩ := ofLetters_wordOperators _ hwords
      obtain ⟨c, more, rfl, hcblank⟩ := htext.isBlank_head hletters
      rw [dropWhile_of_boundary hblanks (by simp [hcblank])]
      refine Or.inr ⟨?_, _, hwords,
        (startsWords_iff hne hletters).mpr ⟨_, _, htext, rfl, hend⟩⟩
      simp only [List.length_append]
      exact Nat.lt_add_of_pos_left (List.length_pos_iff.mpr hblank)

/-- What an operator begins with goes on no name. -/
theorem StartsOperator.ends_name {cs : List Char} (h : StartsOperator cs) :
    ∀ c ∈ cs.head?, isNamePart c = false ∧ c ≠ '.' := by
  have hblank {b : Char} {blanks rest : List Char} (hblanks : ∀ c ∈ b :: blanks, isBlank c = true) :
      ∀ c ∈ ((b :: blanks) ++ rest).head?, isNamePart c = false ∧ c ≠ '.' := by
    rintro c ⟨⟩
    have hends := of_isBlank (p := fun c => !isNamePart c && c != '.') (by decide +kernel)
      (hblanks _ List.mem_cons_self)
    simpa using hends
  rcases h with @⟨_ | ⟨b, blanks⟩, after, sign, hblanks, hsign⟩
    | @⟨words, _ | ⟨b, blanks⟩, text, after, hne, hblanks⟩
  · obtain ⟨c, more, hc, -, hends⟩ := head?_comparisonSign hsign
    rw [hc]
    rintro _ ⟨⟩
    exact hends
  · exact hblank hblanks
  · exact absurd rfl hne
  · exact hblank hblanks

/-! ## The head of a condition -/

theorem conditionHead?_eq_some_iff {fragment lead name rest : String} :
    conditionHead? fragment.toList = some (lead.toList, name.toList, rest.toList)
      ↔ ConditionHead fragment lead name rest := by
  constructor
  · intro h
    simp only [conditionHead?, Bool.and_eq_true, bne_iff_ne] at h
    split at h
    · next hcuts =>
      obtain ⟨hlength, hoperator⟩ := hcuts
      obtain ⟨hlead, hname, hrest⟩ : _ ∧ _ ∧ _ := by simpa using h
      have hfield := isFieldName_take hlength
      rw [hname] at hfield
      refine ⟨?_, ?_, hfield, ?_⟩
      · rw [← String.toList_inj, String.toList_append, String.toList_append, ← hlead, ← hname,
          ← hrest, List.append_assoc, List.take_append_drop, List.takeWhile_append_dropWhile]
      · rw [← hlead]
        exact List.all_eq_true.mp List.all_takeWhile
      · rw [← hrest]
        exact operatorFollows_iff.mp hoperator
    · cases h
  · rintro ⟨rfl, hblanks, hfield, hoperator⟩
    obtain ⟨c, more, hc, hcblank⟩ := isBlank_of_isFieldName hfield
    have hbody : ∀ d ∈ (name.toList ++ rest.toList).head?, isBlank d = false := by
      simp [hc, hcblank]
    have hlength := fieldNameLength_append hfield hoperator.ends_name
    have hne : name.toList.length ≠ 0 := by
      rw [hc]
      simp
    simp only [conditionHead?, String.toList_append, List.append_assoc,
      takeWhile_of_boundary hblanks hbody, dropWhile_of_boundary hblanks hbody, hlength,
      List.take_left, List.drop_left, operatorFollows_iff.mpr hoperator, bne_iff_ne.mpr hne,
      Bool.and_self, if_true]

/-- A condition has one head at most. -/
theorem ConditionHead.unique {fragment lead name rest lead' name' rest' : String}
    (h : ConditionHead fragment lead name rest) (h' : ConditionHead fragment lead' name' rest') :
    lead = lead' ∧ name = name' ∧ rest = rest' := by
  have hfound := conditionHead?_eq_some_iff.mpr h
  rw [conditionHead?_eq_some_iff.mpr h'] at hfound
  simpa [String.toList_inj, eq_comm] using hfound

/-- A condition without a head is left as it is. -/
theorem Aliases.resolveCondition_of_no_head {aliases : Aliases} {fragment : String}
    (h : ∀ lead name rest, ¬ConditionHead fragment lead name rest) :
    aliases.resolveCondition fragment = fragment := by
  unfold Aliases.resolveCondition
  cases hhead : conditionHead? fragment.toList with
  | none => rfl
  | some parts =>
    obtain ⟨lead, name, rest⟩ := parts
    refine absurd (conditionHead?_eq_some_iff.mp ?_)
      (h (String.ofList lead) (String.ofList name) (String.ofList rest))
    simpa using hhead

/-- Of a condition with a head the name is resolved. -/
theorem Aliases.resolveCondition_of_head {aliases : Aliases} {fragment lead name rest : String}
    (h : ConditionHead fragment lead name rest) :
    aliases.resolveCondition fragment = lead ++ aliases.resolve name ++ rest := by
  unfold Aliases.resolveCondition
  rw [conditionHead?_eq_some_iff.mpr h]
  simp [← String.toList_inj]

/-! ## Aliases -/

theorem Query.mem_aliases_iff {q : Query} {label text : String} :
    (label, text) ∈ q.aliases ↔ (label, FieldSpec.column text) ∈ q.fields := by
  unfold Query.aliases
  rw [List.mem_filterMap]
  constructor
  · rintro ⟨⟨label', spec⟩, hmem, hspec⟩
    cases spec with
    | column text' =>
      obtain ⟨rfl, rfl⟩ := Prod.mk.inj (Option.some.inj hspec)
      exact hmem
    | raw | subquery => cases hspec
  · intro h
    exact ⟨_, h, rfl⟩

/-- A name with a column text behind it is resolved to this text, as no two output columns have
one label. -/
theorem Query.resolve_of_column {q : Query} (hlabels : (q.fields.map (·.1)).Nodup)
    {name text : String} (h : (bareName name, FieldSpec.column text) ∈ q.fields) :
    q.aliases.resolve name = text := by
  have hmem := Query.mem_aliases_iff.mpr h
  obtain ⟨text', hfound⟩ := exists_lookup? (List.mem_map_of_mem (f := (·.1)) hmem)
  have hcolumn := Query.mem_aliases_iff.mp (mem_of_lookup? hfound)
  have hsame := List.inj_on_of_nodup_map hlabels hcolumn h rfl
  have htext : text' = text := FieldSpec.column.inj (Prod.mk.inj hsame).2
  unfold Aliases.resolve
  rw [show lookup? (String.ofList (trimBy (· == '\x60') name.toList)) q.aliases = _ from hfound,
    htext]
  rfl

theorem Query.resolve_of_no_column {q : Query} {name : String}
    (h : ∀ text, (bareName name, FieldSpec.column text) ∉ q.fields) :
    q.aliases.resolve name = name := by
  unfold Aliases.resolve
  cases hfound : lookup? (String.ofList (trimBy (· == '\x60') name.toList)) q.aliases with
  | none => rfl
  | some text => exact absurd (Query.mem_aliases_iff.mp (mem_of_lookup? hfound)) (h text)

/-- A condition is resolved at its head and nowhere else. There is one head at most, and nothing
after the name in it goes on the name. If the name has a column text behind it, this text takes
its place; in all other cases the condition is left as it is. -/
theorem condition_resolved_at_head (q : Query) (hlabels : (q.fields.map (·.1)).Nodup)
    (fragment : String) :
    (∀ lead name rest, ConditionHead fragment lead name rest →
      (∀ text, (bareName name, FieldSpec.column text) ∈ q.fields →
        q.aliases.resolveCondition fragment = lead ++ text ++ rest)
      ∧ (∀ c ∈ rest.toList.head?, isNamePart c = false ∧ c ≠ '.')
      ∧ ∀ lead' name' rest', ConditionHead fragment lead' name' rest' →
        lead' = lead ∧ name' = name ∧ rest' = rest)
    ∧ ((∀ lead name rest text, ConditionHead fragment lead name rest →
        (bareName name, FieldSpec.column text) ∉ q.fields) →
      q.aliases.resolveCondition fragment = fragment) := by
  constructor
  · intro lead name rest hhead
    refine ⟨fun text htext => ?_, hhead.operator.ends_name, fun _ _ _ h => h.unique hhead⟩
    rw [Aliases.resolveCondition_of_head hhead, Query.resolve_of_column hlabels htext]
  · intro hnone
    by_cases hhead : ∃ lead name rest, ConditionHead fragment lead name rest
    · obtain ⟨lead, name, rest, hhead⟩ := hhead
      have hname : ∀ text, (bareName name, FieldSpec.column text) ∉ q.fields :=
        fun text => hnone lead name rest text hhead
      rw [Aliases.resolveCondition_of_head hhead, Query.resolve_of_no_column hname]
      exact hhead.split.symm
    · apply Aliases.resolveCondition_of_no_head
      intro lead name rest h
      exact hhead ⟨lead, name, rest, h⟩

/-- A query for people, by a name that is put together. -/
def Query.people : Query :=
  Query.ofTable "users" [("id", .column "u.id"), ("name", .column "CONCAT(first, ' ', last)"),
    ("age", .raw "YEAR(NOW()) - born")]

theorem name_condition_resolved :
    (Query.people.fields.map (·.1)).Nodup
    ∧ ConditionHead "\n`name` not\t like ?" "\n" "`name`" " not\t like ?"
    ∧ Query.people.aliases.resolveCondition "\n`name` not\t like ?"
      = "\nCONCAT(first, ' ', last) not\t like ?" := by
  have hlabels : (Query.people.fields.map (·.1)).Nodup := by decide
  have hhead : ConditionHead "\n`name` not\t like ?" "\n" "`name`" " not\t like ?" :=
    conditionHead?_eq_some_iff.mp (by decide +kernel)
  have hcolumn : (bareName "`name`", FieldSpec.column "CONCAT(first, ' ', last)")
      ∈ Query.people.fields := List.mem_cons_of_mem _ List.mem_cons_self
  exact ⟨hlabels, hhead,
    ((condition_resolved_at_head Query.people hlabels _).1 _ _ _ hhead).1 _ hcolumn⟩

end SqlComposer
