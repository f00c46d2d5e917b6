import Mathlib.Data.List.Forall2
import SqlComposer.Proofs.FoldedWords
import SqlComposer.Proofs.TableStatements

/-!
# Texts written bare

Engines, character sets, collations, targets of foreign keys and lengths of columns are neither
quoted nor bound: they are written into the definition of a table as they are. This module says
what each of them is meant to be, letter by letter, and lays the statement that creates a table out
part by part, so that every text that stands bare in it is at its place.

The checks do not look at the text that is written. Those of names and targets look past a newline
at the end, and that of lengths looks past blanks of every kind, of which only the spaces are
removed afterwards. What they look at has the form it is meant to have. So a bare text has that
form exactly if it has no blank in it.
-/

set_option autoImplicit false

namespace SqlComposer

open SqlComposer.Sql SqlComposer.Text

namespace Sql

/-! ## What a bare text is meant to be -/

/-- The kinds of texts that are written bare. -/
inductive BareForm where
  /-- An engine, a character set or a collation. -/
  | name
  /-- The target of a foreign key. -/
  | target
  /-- The length of a column. -/
  | length
  deriving DecidableEq, Repr

/-- At least one character, and all of one class. -/
structure NonemptyRun (p : Char → Bool) (cs : List Char) : Prop where
  nonempty : cs ≠ []
  chars : ∀ c ∈ cs, p c = true

/-- A word, a word in parentheses, and nothing else. -/
inductive IsTarget : List Char → Prop
  | intro {table column : List Char} (htable : NonemptyRun isWord table)
      (hcolumn : NonemptyRun isWord column) : IsTarget (table ++ '(' :: (column ++ [')']))

/-- Digits, or digits, a comma and digits. -/
inductive IsLengthText : List Char → Prop
  | whole {digits : List Char} (h : NonemptyRun isDigit digits) : IsLengthText digits
  | scaled {precision scale : List Char} (hprecision : NonemptyRun isDigit precision)
      (hscale : NonemptyRun isDigit scale) : IsLengthText (precision ++ ',' :: scale)

/-- What a text of each kind is meant to be. -/
def BareForm.Spells : BareForm → List Char → Prop
  | .name => NonemptyRun isTokenChar
  | .target => IsTarget
  | .length => IsLengthText

/-- What the check of each kind looks at. -/
def BareForm.core : BareForm → List Char → List Char
  | .name | .target => dropFinalNewline
  | .length => List.filter (!isBlank ·)

/-! ## The checks -/

/-- A run of characters of a class without blanks has no blank in it. -/
theorem NonemptyRun.isBlank {p : Char → Bool}
    (hp : blankCodes.all (fun n => !p (Char.ofNat n)) = true) {cs : List Char}
    (h : NonemptyRun p cs) : ∀ c ∈ cs, isBlank c = false := by
  intro c hc
  rw [Bool.eq_false_iff]
  intro hblank
  have hclass := of_isBlank (p := fun c => !p c) hp hblank
  rw [h.chars c hc] at hclass
  cases hclass

/-- What is taken while characters are of a class is a run of that class, if anything is taken. -/
theorem nonemptyRun_takeWhile {p : Char → Bool} {cs : List Char}
    (h : (cs.takeWhile p).isEmpty = false) : NonemptyRun p (cs.takeWhile p) :=
  ⟨fun hnil => by simp [hnil] at h, fun _ hc => List.mem_takeWhile_imp hc⟩

/-- A name is accepted exactly if it has the form of one up to a newline at its end. -/
theorem isToken_iff (text : String) :
    isToken text = true ↔ BareForm.name.Spells (BareForm.name.core text.toList) := by
  simp only [isToken, BareForm.Spells, BareForm.core, Bool.and_eq_true, Bool.not_eq_true',
    List.isEmpty_eq_false_iff, List.all_eq_true]
  exact ⟨fun ⟨hnonempty, hchars⟩ => ⟨hnonempty, hchars⟩, fun h => ⟨h.nonempty, h.chars⟩⟩

/-- A target is accepted exactly if it has the form of one up to a newline at its end. -/
theorem isReference_iff (text : String) :
    isReference text = true ↔ BareForm.target.Spells (BareForm.target.core text.toList) := by
  simp only [isReference, BareForm.Spells, BareForm.core]
  generalize dropFinalNewline text.toList = cs
  constructor
  · intro h
    split at h
    · next rest hrest =>
      simp only [Bool.and_eq_true, Bool.not_eq_true', beq_iff_eq] at h
      obtain ⟨⟨htable, hcolumn⟩, hclose⟩ := h
      have hsplit : cs = cs.takeWhile isWord ++ '(' :: (rest.takeWhile isWord ++ [')']) := by
        rw [← hclose, List.takeWhile_append_dropWhile, ← hrest, List.takeWhile_append_dropWhile]
      rw [hsplit]
      exact .intro (nonemptyRun_takeWhile htable) (nonemptyRun_takeWhile hcolumn)
    · cases h
  · rintro ⟨htable, hcolumn⟩
    have hopen (rest : List Char) : ∀ c ∈ ('(' :: rest).head?, isWord c = false := by
      rintro _ ⟨⟩
      decide
    have hclose : ∀ c ∈ [')'].head?, isWord c = false := by
      rintro _ ⟨⟩
      decide
    simp only [dropWhile_of_boundary htable.chars (hopen _),
      takeWhile_of_boundary htable.chars (hopen _), dropWhile_of_boundary hcolumn.chars hclose,
      takeWhile_of_boundary hcolumn.chars hclose]
    simp [htable.nonempty, hcolumn.nonempty]

/-- Only blanks. -/
def Blank (cs : List Char) : Prop := ∀ c ∈ cs, isBlank c = true

/-- Digits, or digits, a comma and digits, with any blanks around each. -/
inductive IsSpacedLength : List Char → Prop
  | whole {before digits after : List Char} (hbefore : Blank before)
      (hdigits : NonemptyRun isDigit digits) (hafter : Blank after) :
      IsSpacedLength (before ++ (digits ++ after))
  | scaled {before precision left right scale after : List Char} (hbefore : Blank before)
      (hprecision : NonemptyRun isDigit precision) (hleft : Blank left) (hright : Blank right)
      (hscale : NonemptyRun isDigit scale) (hafter : Blank after) :
      IsSpacedLength (before ++ (precision ++ (left ++ ',' :: (right ++ scale)) ++ after))

/-- What is taken while characters are blank is blank. -/
theorem blank_takeWhile (cs : List Char) : Blank (cs.takeWhile isBlank) :=
  fun _ hc => List.mem_takeWhile_imp hc

/-- There is no blank among digits. -/
theorem NonemptyRun.not_blank {digits : List Char} (h : NonemptyRun isDigit digits) :
    ∀ c ∈ digits, Text.isBlank c = false := h.isBlank (by decide +kernel)

/-- What is between blanks, without a blank at either end, is left when they are trimmed. -/
theorem trimBy_of_blank {before core after : List Char} (hbefore : Blank before)
    (hafter : Blank after) (hhead : ∀ c ∈ core.head?, isBlank c = false)
    (hlast : ∀ c ∈ core.getLast?, isBlank c = false) (hcore : core ≠ []) :
    trimBy isBlank (before ++ (core ++ after)) = core := by
  unfold trimBy
  rw [dropWhile_of_boundary hbefore (by rwa [List.head?_append_of_ne_nil _ hcore]),
    dropEnd_of_boundary hlast hafter]

/-- A blank is no digit. -/
theorem isDigit_of_isBlank {c : Char} (h : isBlank c = true) : isDigit c = false := by
  simpa using of_isBlank (p := fun c => !isDigit c) (by decide +kernel) h

/-- A text that is accepted as a length falls into blanks, digits and perhaps a comma. -/
theorem IsSpacedLength.of_isLength {text : String} (h : isLength text = true) :
    IsSpacedLength text.toList := by
  simp only [isLength, Bool.and_eq_true, Bool.not_eq_true', Bool.or_eq_true] at h
  obtain ⟨after, hsplit, hafter⟩ := exists_dropEnd isBlank (text.toList.dropWhile isBlank)
  have htext : text.toList = text.toList.takeWhile isBlank
      ++ (trimBy isBlank text.toList ++ after) := by
    conv_lhs => rw [← List.takeWhile_append_dropWhile (p := isBlank) (l := text.toList), hsplit]
    rfl
  have hbefore := blank_takeWhile text.toList
  generalize trimBy isBlank text.toList = cs at h htext
  generalize text.toList.takeWhile isBlank = before at hbefore htext
  rw [htext]
  obtain ⟨hfirst, hrest⟩ := h
  have hdigits : NonemptyRun isDigit (cs.takeWhile isDigit) := nonemptyRun_takeWhile hfirst
  rw [← List.takeWhile_append_dropWhile (p := isDigit) (l := cs)]
  rcases hrest with hempty | hscale
  · rw [List.isEmpty_iff.mp hempty, List.append_nil]
    exact .whole hbefore hdigits hafter
  · split at hscale
    · next more hcomma =>
      simp only [Bool.and_eq_true, Bool.not_eq_true', List.isEmpty_eq_false_iff,
        List.all_eq_true] at hscale
      rw [← List.takeWhile_append_dropWhile (p := isBlank) (l := cs.dropWhile isDigit), hcomma,
        ← List.takeWhile_append_dropWhile (p := isBlank) (l := more)]
      exact .scaled hbefore hdigits (blank_takeWhile _) (blank_takeWhile _) ⟨hscale.1, hscale.2⟩
        hafter
    · cases hscale

/-- A text of blanks, digits and perhaps a comma in their order is accepted as a length. -/
theorem IsSpacedLength.isLength {text : String} (h : IsSpacedLength text.toList) :
    isLength text = true := by
  have hrun {digits more : List Char} (hdigits : NonemptyRun isDigit digits)
      (hmore : ∀ c ∈ more.head?, isDigit c = false) :
      (digits ++ more).takeWhile isDigit = digits ∧ (digits ++ more).dropWhile isDigit = more :=
    ⟨takeWhile_of_boundary hdigits.chars hmore, dropWhile_of_boundary hdigits.chars hmore⟩
  unfold SqlComposer.isLength
  generalize text.toList = cs at h
  dsimp only
  cases h with
  | whole hbefore hdigits hafter =>
    rw [trimBy_of_blank hbefore hafter (fun c hc => hdigits.not_blank c (List.mem_of_head? hc))
      (fun c hc => hdigits.not_blank c (List.mem_of_getLast? hc)) hdigits.nonempty]
    have hnone : ∀ c ∈ ([] : List Char).head?, isDigit c = false := by simp
    obtain ⟨htake, hdrop⟩ := hrun hdigits hnone
    rw [List.append_nil] at htake hdrop
    simp [htake, hdrop, hdigits.nonempty]
  | @scaled before precision left right scale after hbefore hprecision hleft hright hscale hafter =>
    have hhead : ∀ c ∈ (precision ++ (left ++ ',' :: (right ++ scale))).head?,
        isBlank c = false := by
      rw [List.head?_append_of_ne_nil _ hprecision.nonempty]
      exact fun c hc => hprecision.not_blank c (List.mem_of_head? hc)
    have hlast : ∀ c ∈ (precision ++ (left ++ ',' :: (right ++ scale))).getLast?,
        isBlank c = false := by
      rw [← List.cons_append, ← List.append_assoc, ← List.append_assoc,
        List.getLast?_append_of_ne_nil _ hscale.nonempty]
      exact fun c hc => hscale.not_blank c (List.mem_of_getLast? hc)
    rw [trimBy_of_blank hbefore hafter hhead hlast (by simp [hprecision.nonempty])]
    have hmore : ∀ c ∈ (left ++ ',' :: (right ++ scale)).head?, isDigit c = false := by
      cases left with
      | nil =>
        rintro _ ⟨⟩
        decide
      | cons c left =>
        rintro _ ⟨⟩
        exact isDigit_of_isBlank (hleft c List.mem_cons_self)
    obtain ⟨htake, hdrop⟩ := hrun hprecision hmore
    have hcomma : (left ++ ',' :: (right ++ scale)).dropWhile isBlank
        = ',' :: (right ++ scale) := by
      refine dropWhile_of_boundary hleft ?_
      rintro _ ⟨⟩
      decide
    have hsecond : (right ++ scale).dropWhile isBlank = scale :=
      dropWhile_of_boundary hright fun c hc => hscale.not_blank c (List.mem_of_head? hc)
    simp only [htake, hdrop, hcomma, hsecond]
    simp [hprecision.nonempty, hscale.nonempty, List.all_eq_true.mpr hscale.chars]

/-- A length is accepted exactly if it is digits, or digits, a comma and digits, but for blanks. -/
theorem isLength_iff (text : String) : isLength text = true ↔ IsSpacedLength text.toList :=
  ⟨.of_isLength, IsSpacedLength.isLength⟩

/-- What a length has besides blanks is digits, or digits, a comma and digits. -/
theorem IsSpacedLength.spells {cs : List Char} (h : IsSpacedLength cs) :
    BareForm.length.Spells (BareForm.length.core cs) := by
  have hblank {blanks : List Char} (h : Blank blanks) : blanks.filter (!isBlank ·) = [] := by
    rw [List.filter_eq_nil_iff]
    intro c hc
    simp [h c hc]
  have hdigits {digits : List Char} (h : NonemptyRun isDigit digits) :
      digits.filter (!isBlank ·) = digits := by
    rw [List.filter_eq_self]
    intro c hc
    simp [h.not_blank c hc]
  have hcomma (cs : List Char) :
      (',' :: cs).filter (!isBlank ·) = ',' :: cs.filter (!isBlank ·) :=
    List.filter_cons_of_pos (by decide)
  cases h with
  | whole hbefore hrun hafter =>
    simp only [BareForm.Spells, BareForm.core, List.filter_append, hblank hbefore, hdigits hrun,
      hblank hafter, List.nil_append, List.append_nil]
    exact .whole hrun
  | scaled hbefore hprecision hleft hright hscale hafter =>
    simp only [BareForm.Spells, BareForm.core, List.filter_append, hcomma, hblank hbefore,
      hdigits hprecision, hblank hleft, hblank hright, hdigits hscale, hblank hafter,
      List.nil_append, List.append_nil]
    exact .scaled hprecision hscale

/-- A number is written as a run of digits. -/
theorem nonemptyRun_toDigits (n : Nat) : NonemptyRun isDigit (Nat.toDigits 10 n) where
  nonempty := Nat.toDigits_ne_nil
  chars c hc := by
    have hchar : c.isDigit = true := Nat.isDigit_of_mem_toDigits (by decide) (by decide) hc
    have hbounds : 48 ≤ c.toNat ∧ c.toNat ≤ 57 := by
      simpa [Char.isDigit, UInt32.le_iff_toNat_le] using hchar
    have hdigit : isAsciiDigit c = true := by
      simpa [isAsciiDigit, Char.le_def, UInt32.le_iff_toNat_le] using hbounds
    simp only [isDigit, digitValue?, hdigit, if_pos (show c.toNat < 128 by omega), if_true,
      Option.isSome_some]

/-! ## Blanks in bare texts -/

/-- A text that is what it is meant to be has no blank. -/
theorem BareForm.Spells.blankless {form : BareForm} {cs : List Char} (h : form.Spells cs) :
    ∀ c ∈ cs, isBlank c = false := by
  cases form with
  | name => exact NonemptyRun.isBlank (by decide +kernel) h
  | target =>
    cases h with
    | intro htable hcolumn =>
      have hword {word : List Char} (h : NonemptyRun isWord word) :
          ∀ c ∈ word, Text.isBlank c = false := h.isBlank (by decide +kernel)
      simp only [List.forall_mem_append, List.forall_mem_cons]
      exact ⟨hword htable, by decide, hword hcolumn, by decide, List.forall_mem_nil _⟩
  | length =>
    have hnumber {digits : List Char} (h : NonemptyRun isDigit digits) :
        ∀ c ∈ digits, Text.isBlank c = false := h.isBlank (by decide +kernel)
    cases h with
    | whole h => exact hnumber h
    | scaled hprecision hscale =>
      simp only [List.forall_mem_append, List.forall_mem_cons]
      exact ⟨hnumber hprecision, by decide, hnumber hscale⟩

/-- The check looks at all of a text without blanks. -/
theorem BareForm.core_of_blankless (form : BareForm) {cs : List Char}
    (h : ∀ c ∈ cs, isBlank c = false) : form.core cs = cs := by
  have hline : dropFinalNewline cs = cs := by
    unfold dropFinalNewline
    split
    · next rest hrest =>
      have hnewline : '\n' ∈ cs := List.mem_reverse.mp (hrest ▸ List.mem_cons_self)
      exact absurd (h '\n' hnewline) (by decide)
    · rfl
  cases form with
  | name => exact hline
  | target => exact hline
  | length =>
    rw [core, List.filter_eq_self]
    intro c hc
    simp [h c hc]

/-- A text of which the check sees what it is meant to be is that itself exactly if it has no
blank. -/
theorem BareForm.Spells.iff_blankless {form : BareForm} {cs : List Char}
    (h : form.Spells (form.core cs)) : form.Spells cs ↔ ∀ c ∈ cs, isBlank c = false :=
  ⟨Spells.blankless, fun hblankless => by rwa [form.core_of_blankless hblankless] at h⟩

end Sql

/-! ## The parts of a statement -/

/-- A part of a statement: a text that stands bare in it, or another one. -/
inductive Part where
  | bare (form : BareForm) (text : String)
  /-- A text of the statement itself, a quoted one or an expression. -/
  | other (text : String)
  deriving DecidableEq

/-- The text of a part. -/
def Part.text : Part → String
  | .bare _ text => text
  | .other text => text

/-- What some parts are written as, one after another. -/
def written : List Part → String
  | [] => ""
  | p :: ps => p.text ++ written ps

/-- Parts are written one after another. -/
@[simp] theorem written_append (ps qs : List Part) :
    written (ps ++ qs) = written ps ++ written qs := by
  induction ps with
  | nil => simp [written]
  | cons p ps ih => simp [written, ih, String.append_assoc]

/-- Texts of one part each. -/
def others (texts : List String) : List (List Part) := texts.map fun text => [.other text]

/-- Clauses with a separator between them. -/
def separated (separator : String) : List (List Part) → List Part
  | [] => []
  | [ps] => ps
  | ps :: qs :: rest => ps ++ .other separator :: separated separator (qs :: rest)

/-- The parts of a text, each bare one of which has the form it is meant to have as far as its check
sees it. -/
structure Lays (parts : List Part) (text : String) : Prop where
  written : written parts = text
  bare : ∀ form bareText, .bare form bareText ∈ parts →
    form.Spells (form.core bareText.toList)

section Lays

variable {parts parts' : List Part} {text text' : String}

/-- Two texts that are laid out are laid out by the parts of both. -/
theorem Lays.append (h : Lays parts text) (h' : Lays parts' text') :
    Lays (parts ++ parts') (text ++ text') where
  written := by rw [written_append, h.written, h'.written]
  bare form bareText hbare :=
    (List.mem_append.mp hbare).elim (h.bare form bareText) (h'.bare form bareText)

/-- Any text is laid out by itself as a part that is not bare. -/
theorem lays_other (text : String) : Lays [.other text] text where
  written := String.append_empty
  bare form bareText hbare := by simp at hbare

/-- A text is laid out by itself as a bare part if its core is spelled as the form has it. -/
theorem lays_bare {form : BareForm} (h : form.Spells (form.core text.toList)) :
    Lays [.bare form text] text where
  written := String.append_empty
  bare form' bareText hbare := by
    simp only [List.mem_singleton, Part.bare.injEq] at hbare
    rw [hbare.1, hbare.2]
    exact h

/-- No parts lay out the empty text. -/
theorem lays_nil : Lays [] "" where
  written := rfl
  bare _ _ hbare := nomatch hbare

/-- Texts that are not bare are laid out each by itself. -/
theorem lays_others (texts : List String) : List.Forall₂ Lays (others texts) texts := by
  induction texts with
  | nil => exact .nil
  | cons text texts ih => exact .cons (lays_other text) ih

/-- Clauses that are laid out are so with separators between them. -/
theorem Lays.separated {separator : String} {clauses : List (List Part)} {texts : List String}
    (h : List.Forall₂ Lays clauses texts) :
    Lays (separated separator clauses) (separator.intercalate texts) := by
  induction h with
  | nil => exact lays_nil
  | @cons ps text rest texts hps hrest ih =>
    cases hrest with
    | nil =>
      rw [String.intercalate_singleton]
      exact hps
    | cons hqs hrest =>
      rw [String.intercalate_cons_cons, String.append_assoc]
      exact hps.append ((lays_other separator).append ih)

end Lays

/-- A fragment that is accepted is left as it is. -/
theorem eq_of_checkFragment {kind : FragmentKind} {fragment checked : String}
    (h : checkFragment kind fragment = .ok checked) : checked = fragment := by
  unfold checkFragment at h
  split at h
  · cases h
  · cases h
    rfl

/-- A bare name after its keyword, if there is one. -/
def tokenParts (keyword : String) (text : Option String) : List (List Part) :=
  match nonEmpty? text with
  | none => []
  | some t => [[.other keyword, .bare .name t]]

/-- A name that is accepted is laid out as a bare name. -/
theorem lays_checkToken {option text checked : String} (h : checkToken option text = .ok checked) :
    Lays [.bare .name text] checked := by
  unfold checkToken at h
  split at h
  · next htoken =>
    cases h
    exact lays_bare ((isToken_iff text).mp htoken)
  · cases h

/-- The clause of a name that is accepted is laid out with the name as a bare part. -/
theorem lays_tokenClause {keyword option : String} {text : Option String} {clauses : List String}
    (h : tokenClause keyword option text = .ok clauses) :
    List.Forall₂ Lays (tokenParts keyword text) clauses := by
  unfold tokenClause at h
  unfold tokenParts
  cases htoken : nonEmpty? text with
  | none =>
    rw [htoken] at h
    cases h
    exact .nil
  | some token =>
    rw [htoken] at h
    obtain ⟨checked, hchecked, h⟩ := ok_of_bind h
    cases h
    exact .cons ((lays_other keyword).append (lays_checkToken hchecked)) .nil

/-- The parts of the texts of a list, one after another, if each is laid out. -/
theorem lays_mapM {α : Type} {f : α → Except Rejection String} {parts : α → List Part} {xs : List α}
    {texts : List String} (hparts : ∀ x ∈ xs, ∀ text, f x = .ok text → Lays (parts x) text)
    (h : xs.mapM f = .ok texts) : List.Forall₂ Lays (xs.map parts) texts := by
  induction xs generalizing texts with
  | nil =>
    cases h
    exact .nil
  | cons x xs ih =>
    rw [List.mapM_cons] at h
    obtain ⟨text, htext, h⟩ := ok_of_bind h
    obtain ⟨rest, hrest, h⟩ := ok_of_bind h
    cases h
    exact .cons (hparts x List.mem_cons_self text htext)
      (ih (fun x' hx' => hparts x' (List.mem_cons_of_mem x hx')) hrest)

/-! ## Columns -/

/-- A length that validation lets through is spelled as a length, apart from its blanks. -/
theorem IsColumnLength.spells {v : Value} (h : IsColumnLength v) :
    BareForm.length.Spells (BareForm.length.core v.display.toList) := by
  cases h with
  | @number n hn =>
    obtain ⟨k, rfl⟩ := Int.eq_ofNat_of_zero_le (Int.le_of_lt hn)
    have htext : (toString (k : Int)).toList = Nat.toDigits 10 k := toList_toString_nat k
    have hspells : BareForm.length.Spells (Nat.toDigits 10 k) := .whole (nonemptyRun_toDigits k)
    rw [Value.display_int, htext, BareForm.core_of_blankless _ hspells.blankless]
    exact hspells
  | @digits given hlength =>
    have hcore : BareForm.length.core (withoutSpaces given).toList
        = BareForm.length.core given.toList := by
      simp only [BareForm.core, withoutSpaces, String.toList_ofList, List.filter_filter]
      refine List.filter_congr fun c _ => ?_
      by_cases hspace : c = ' '
      · rw [hspace]
        decide
      · simp [hspace]
    rw [Value.display_text, hcore]
    exact ((isLength_iff given).mp hlength).spells

namespace Column

variable {c : Column}

/-- The type of a column, part by part. -/
def typeParts (c : Column) : List Part :=
  match c.type.hasValues, c.options.length with
  | false, some length =>
    [.other (upper c.type.name), .other "(", .bare .length length.display, .other ")"]
  | _, _ => [.other c.typeText]

/-- The expression of a computed column, if there is one. -/
def generatedTexts (c : Column) : List String :=
  match c.options.generated with
  | none => []
  | some g => ["GENERATED ALWAYS AS (" ++ g.expression ++ ") " ++ g.storage.keyword]

/-- The definition of a column, part by part. -/
def parts (c : Column) : List Part :=
  separated " " ([[.other (quoteName c.name)], c.typeParts]
    ++ others (if c.options.unsigned then ["UNSIGNED"] else [])
    ++ others (if c.options.zerofill then ["ZEROFILL"] else [])
    ++ (if c.type.isTextual then tokenParts "CHARACTER SET " c.options.charset
      ++ tokenParts "COLLATE " c.options.collate else [])
    ++ others c.generatedTexts ++ others c.closingClauses)

/-- The type of a column is laid out with its length as a bare part. -/
theorem lays_typeText (hc : c.options.Validated) : Lays c.typeParts c.typeText := by
  unfold typeParts
  split
  · next length hvalues hlength =>
    have htext : c.typeText = upper c.type.name ++ ("(" ++ (length.display ++ ")")) := by
      simp [typeText, hvalues, hlength, String.append_assoc]
    rw [htext]
    exact (lays_other _).append ((lays_other "(").append
      ((lays_bare (hc.length length hlength).spells).append (lays_other ")")))
  · exact lays_other _

/-- The clause of a computed column has its expression unchanged. -/
theorem generatedClause_eq {clauses : List String} (h : c.generatedClause = .ok clauses) :
    clauses = c.generatedTexts := by
  unfold generatedClause at h
  unfold generatedTexts
  cases hgenerated : c.options.generated with
  | none =>
    rw [hgenerated] at h
    cases h
    rfl
  | some g =>
    rw [hgenerated] at h
    obtain ⟨expression, hexpression, h⟩ := ok_of_bind h
    cases h
    rw [eq_of_checkFragment hexpression]

/-- The clauses of the character set and the collation of a column are laid out. -/
theorem lays_charsetClauses {clauses : List String} (h : c.charsetClauses = .ok clauses) :
    List.Forall₂ Lays (if c.type.isTextual then tokenParts "CHARACTER SET " c.options.charset
      ++ tokenParts "COLLATE " c.options.collate else []) clauses := by
  unfold charsetClauses at h
  split at h
  · next htextual =>
    obtain ⟨charset, hcharset, h⟩ := ok_of_bind h
    obtain ⟨collate, hcollate, h⟩ := ok_of_bind h
    cases h
    rw [if_pos htextual]
    exact List.rel_append (lays_tokenClause hcharset) (lays_tokenClause hcollate)
  · next htextual =>
    cases h
    rw [if_neg htextual]
    exact .nil

/-- The definition of a column is laid out. -/
theorem lays_definition (hc : c.options.Validated) {text : String} (h : c.definition = .ok text) :
    Lays c.parts text := by
  unfold definition at h
  obtain ⟨_, -, h⟩ := ok_of_bind h
  obtain ⟨charset, hcharset, h⟩ := ok_of_bind h
  obtain ⟨generated, hgenerated, h⟩ := ok_of_bind h
  obtain ⟨_, -, h⟩ := ok_of_bind h
  cases h
  rw [generatedClause_eq hgenerated]
  refine .separated (List.rel_append (List.rel_append (List.rel_append (List.rel_append
    (List.rel_append ?_ (lays_others _)) (lays_others _)) (lays_charsetClauses hcharset))
    (lays_others _)) (lays_others _))
  exact .cons (lays_other _) (.cons (lays_typeText hc) .nil)

end Column

/-! ## Keys, checks and options -/

/-- The definition of a foreign key, part by part. -/
def ForeignKey.parts (k : ForeignKey) : List Part :=
  [.other "FOREIGN KEY (", .other (quoteName k.column), .other ") REFERENCES ",
    .bare .target k.reference, .other (actionText " ON DELETE " k.onDelete),
    .other (actionText " ON UPDATE " k.onUpdate)]

/-- The definition of a check. -/
def Check.text (c : Check) : String :=
  "CONSTRAINT " ++ quoteName c.name ++ " CHECK (" ++ c.condition ++ ")"

/-- The options of a table, part by part. -/
def TableOptions.parts (o : TableOptions) : List Part :=
  separated " " ([[.other "ENGINE=", .bare .name ((nonEmpty? o.engine).getD defaultEngine)]]
    ++ others (match o.autoIncrement with
      | some n => if n = 0 then [] else ["AUTO_INCREMENT=" ++ toString n]
      | none => [])
    ++ others (match o.rowFormat with
      | some f => ["ROW_FORMAT=" ++ f.keyword]
      | none => [])
    ++ [[.other "DEFAULT CHARACTER SET ", .bare .name ((nonEmpty? o.charset).getD defaultCharset)]]
    ++ tokenParts "COLLATE " o.collate
    ++ others (match nonEmpty? o.comment with
      | some text => ["COMMENT=" ++ quoteText text]
      | none => []))

/-- The definition of a foreign key is laid out with what it refers to as a bare part. -/
theorem ForeignKey.lays_definition {k : ForeignKey} {text : String} (h : k.definition = .ok text) :
    Lays k.parts text := by
  unfold ForeignKey.definition at h
  obtain ⟨reference, hreference, h⟩ := ok_of_bind h
  cases h
  unfold checkReference at hreference
  split at hreference
  · next htarget =>
    cases hreference
    have hbare : Lays [.bare .target k.reference] k.reference :=
      lays_bare ((isReference_iff k.reference).mp htarget)
    exact (((((lays_other _).append (lays_other _)).append (lays_other _)).append hbare).append
      (lays_other _)).append (lays_other _)
  · cases hreference

/-- The definition of a check is laid out without bare parts. -/
theorem Check.lays_definition {c : Check} {text : String} (h : c.definition = .ok text) :
    Lays [.other c.text] text := by
  unfold Check.definition at h
  obtain ⟨condition, hcondition, h⟩ := ok_of_bind h
  cases h
  rw [eq_of_checkFragment hcondition]
  exact lays_other _

/-- The options of a table are laid out with their names as bare parts. -/
theorem TableOptions.lays_text {o : TableOptions} {text : String} (h : o.text = .ok text) :
    Lays o.parts text := by
  unfold TableOptions.text at h
  obtain ⟨engine, hengine, h⟩ := ok_of_bind h
  obtain ⟨_, -, h⟩ := ok_of_bind h
  obtain ⟨charset, hcharset, h⟩ := ok_of_bind h
  obtain ⟨collate, hcollate, h⟩ := ok_of_bind h
  cases h
  refine .separated (List.rel_append (List.rel_append (List.rel_append (List.rel_append
    (List.rel_append ?_ (lays_others _)) (lays_others _)) ?_) (lays_tokenClause hcollate))
    (lays_others _))
  · exact .cons ((lays_other _).append (lays_checkToken hengine)) .nil
  · exact .cons ((lays_other _).append (lays_checkToken hcharset)) .nil

namespace TableDefinition

/-- The options of a table, the usual ones if none are given, part by part. -/
def optionsParts : Option TableOptions → List Part
  | none => [.other "ENGINE=", .bare .name defaultEngine, .other " DEFAULT CHARACTER SET ",
      .bare .name defaultCharset]
  | some o => o.parts

/-- The statement that creates a table, part by part. -/
def parts (t : TableDefinition) : List Part :=
  [.other "CREATE TABLE ", .other (quoteName t.table), .other " ("]
    ++ separated ", " (t.columns.map Column.parts ++ others [keyDefinition (nameList t.primaryKey)]
      ++ others (t.indexes.map Index.definition) ++ t.foreignKeys.map ForeignKey.parts
      ++ t.checks.map fun c => [.other c.text])
    ++ [.other ") "] ++ optionsParts t.options

/-- The options of a table are laid out, also where none are given. -/
theorem lays_optionsText {o : Option TableOptions} {text : String} (h : optionsText o = .ok text) :
    Lays (optionsParts o) text := by
  cases o with
  | none =>
    cases h
    have hname {name : String} (h : isToken name = true) : Lays [.bare .name name] name :=
      lays_bare ((isToken_iff name).mp h)
    exact (((lays_other "ENGINE=").append (hname (by decide))).append (lays_other _)).append
      (hname (by decide))
  | some o => exact TableOptions.lays_text h

/-- The statement that creates a table is laid out part by part. -/
theorem lays_createText {t : TableDefinition} (hcolumns : ∀ c ∈ t.columns, c.options.Validated)
    {create : String} (h : t.createText = .ok create) : Lays t.parts create := by
  unfold createText at h
  obtain ⟨columns, hcolumnTexts, h⟩ := ok_of_bind h
  obtain ⟨foreignKeys, hforeignKeys, h⟩ := ok_of_bind h
  obtain ⟨checks, hchecks, h⟩ := ok_of_bind h
  obtain ⟨options, hoptions, h⟩ := ok_of_bind h
  cases h
  have hdefinitions : List.Forall₂ Lays (t.columns.map Column.parts
      ++ others [keyDefinition (nameList t.primaryKey)] ++ others (t.indexes.map Index.definition)
      ++ t.foreignKeys.map ForeignKey.parts ++ t.checks.map fun c => [.other c.text])
      (columns ++ [keyDefinition (nameList t.primaryKey)] ++ t.indexes.map Index.definition
        ++ foreignKeys ++ checks) :=
    List.rel_append (List.rel_append (List.rel_append (List.rel_append
      (lays_mapM (fun c hc _ => Column.lays_definition (hcolumns c hc)) hcolumnTexts)
      (lays_others _)) (lays_others _))
      (lays_mapM (fun _ _ _ => ForeignKey.lays_definition) hforeignKeys))
      (lays_mapM (fun _ _ _ => Check.lays_definition) hchecks)
  exact (((((lays_other _).append (lays_other _)).append (lays_other _)).append
    (Lays.separated hdefinitions)).append (lays_other _)).append (lays_optionsText hoptions)

end TableDefinition

/-- A sound record of a table is read as a definition. If it is composed, the statement that creates
the table is written part by part as laid out, and of every text that stands bare in it the check
has seen what it is meant to be: a name of ASCII letters, digits and underscores, two words with
parentheses, digits with at most one comma. The text itself is that exactly if it has no blank. -/
theorem bare_texts_spelled_iff {fields : List (String × Value)} {given : List String}
    (hrecord : (Value.record .createTableConfig fields given).Sound) :
    ∃ t, TableDefinition.ofRecord? (.record .createTableConfig fields given) = some t
      ∧ ∀ statements,
        (composeTable (.record .createTableConfig fields given)).1 = .ok statements →
          statements = TableDefinition.statements (quoteName t.table) (written t.parts) t.dropFirst
          ∧ ∀ form text, .bare form text ∈ t.parts →
            form.Spells (form.core text.toList)
              ∧ (form.Spells text.toList ↔ ∀ c ∈ text.toList, isBlank c = false) := by
  obtain ⟨t, ht, hcolumns⟩ := reads_table fields given hrecord
  refine ⟨t, ht, fun statements h => ?_⟩
  have hcompile : t.compile = .ok statements := by
    simp only [composeTable, ht] at h
    exact ok_of_rejecting h
  unfold TableDefinition.compile at hcompile
  obtain ⟨create, hcreate, hcompile⟩ := ok_of_bind hcompile
  cases hcompile
  have hlays : Lays t.parts create := TableDefinition.lays_createText hcolumns hcreate
  refine ⟨by rw [hlays.written], fun form text hbare => ?_⟩
  have hspells : form.Spells (form.core text.toList) := hlays.bare form text hbare
  exact ⟨hspells, hspells.iff_blankless⟩

/-- A table with one column that refers to another table, with an engine of its own. -/
def ledger (engine reference length : String) : Value :=
  .record .createTableConfig
    [("table", .text "ledger"),
      ("columns", .list
        [.record .columnSpec
          [("name", .text "amount"), ("type", .text "decimal"),
            ("options", defaultColumnOptions.copyWith [("length", .text length)])]
          ["name", "type", "options"]]),
      ("primary_key", .text "amount"),
      ("foreign_keys", .list
        [.record .foreignKey
          [("column", .text "amount"), ("reference", .text reference), ("on_delete", .null),
            ("on_update", .null)]
          ["column", "reference"]]),
      ("indexes", .list []),
      ("checks", .list []),
      ("table_options", .record .tableOptions
        [("engine", .text engine), ("auto_increment", .null), ("row_format", .null),
          ("charset", .null), ("collate", .null), ("comment", .null)]
        ["engine"]),
      ("drop_if_exists", .bool false)]
    ["table", "columns", "primary_key", "foreign_keys", "table_options"]

/-- The statement of a ledger. -/
def ledgerStatement (engine reference length : String) : String :=
  "CREATE TABLE \x60ledger\x60 (\x60amount\x60 DECIMAL(" ++ length
    ++ ") NULL, PRIMARY KEY (\x60amount\x60), FOREIGN KEY (\x60amount\x60) REFERENCES " ++ reference
    ++ ") ENGINE=" ++ engine ++ " DEFAULT CHARACTER SET utf8mb4"

/-- A ledger keeps to the schema if its length is accepted as it is. -/
theorem sound_ledger (engine reference : String) {length : String}
    (hlength : isLength length = true) (hspaceless : withoutSpaces length = length) :
    (ledger engine reference length).Sound := by
  have hrule : FieldRule.length.apply (.text length) = .ok (.text length) := by
    simp only [FieldRule.apply, hlength, if_true, hspaceless]
  have hoptions : (defaultColumnOptions.copyWith [("length", .text length)]).Sound := by
    have htype : (FieldType.optional (.union [("int", anyInteger), ("str", anyText)])).Fits
        (.text length) :=
      .present (.union (List.mem_cons_of_mem _ List.mem_cons_self) (.text (Nat.zero_le _)))
    refine Value.copyWith_sound sound_defaultColumnOptions ?_
    simp only [List.forall_mem_singleton, RecordKind.fields, columnOptionFields,
      List.forall_mem_cons, FieldDef.accepts_ruled]
    refine ⟨Value.sound_text length, fun _ => ⟨_, htype, hrule⟩, ?_⟩
    simp
  have hcolumn : (Value.record .columnSpec
      [("name", .text "amount"), ("type", .text "decimal"),
        ("options", defaultColumnOptions.copyWith [("length", .text length)])]
      ["name", "type", "options"]).Sound := by
    refine .record ?_ (by simp [hoptions])
    simp only [RecordKind.Keeps, RecordKind.fields, List.forall_mem_cons,
      FieldDef.accepts_required, FieldDef.accepts_withDefault]
    exact ⟨.text (by decide), .choice (by decide), .record _ _, List.forall_mem_nil _⟩
  have hkey : (Value.record .foreignKey
      [("column", .text "amount"), ("reference", .text reference), ("on_delete", .null),
        ("on_update", .null)] ["column", "reference"]).Sound := by
    refine .record ?_ (by simp)
    simp only [RecordKind.Keeps, RecordKind.fields, List.forall_mem_cons,
      FieldDef.accepts_required, FieldDef.accepts_nullable]
    exact ⟨.text (by decide), .text (Nat.zero_le _), .null, .null, List.forall_mem_nil _⟩
  have htableOptions : (Value.record .tableOptions
      [("engine", .text engine), ("auto_increment", .null), ("row_format", .null),
        ("charset", .null), ("collate", .null), ("comment", .null)] ["engine"]).Sound := by
    refine .record ?_ (by simp)
    simp only [RecordKind.Keeps, RecordKind.fields, List.forall_mem_cons,
      FieldDef.accepts_nullable]
    exact ⟨.present (.text (Nat.zero_le _)), .null, .null, .null, .null, .null,
      List.forall_mem_nil _⟩
  refine .record ?_ (by simp [hcolumn, hkey, htableOptions])
  simp only [RecordKind.Keeps, RecordKind.fields, tableFields, List.forall_mem_cons,
    FieldDef.accepts_required, FieldDef.accepts_nullable, FieldDef.accepts_withDefault,
    FieldDef.accepts_ruled]
  have hprimary : textOrTexts.Fits (.text "amount") :=
    .union List.mem_cons_self (.text (Nat.zero_le _))
  exact ⟨.text (by decide), .list (Nat.le_refl 1) (by simp), ⟨.text "amount", hprimary, rfl⟩,
    .list (Nat.zero_le _) (by simp), .list (by decide) (List.forall_mem_nil _),
    .list (by decide) (List.forall_mem_nil _), .present (.record _ _), .boolean false,
    List.forall_mem_nil _⟩

/-- What a table is composed to, read off a computation. -/
theorem composeTable_eq_ok {record : Value} {statements : List String}
    (h : (composeTable record).1.toOption = some statements) :
    (composeTable record).1 = .ok statements := by
  cases hcomposed : (composeTable record).1 with
  | error f =>
    rw [hcomposed] at h
    cases h
  | ok composed =>
    rw [hcomposed] at h
    cases h
    rfl

/-- The bare texts of a ledger have the forms they are meant to have. -/
theorem ledger_spelled :
    (composeTable (ledger "InnoDB" "users(id)" "10,2")).1
        = .ok [ledgerStatement "InnoDB" "users(id)" "10,2"]
      ∧ BareForm.name.Spells "InnoDB".toList ∧ BareForm.target.Spells "users(id)".toList
      ∧ BareForm.length.Spells "10,2".toList := by
  have hsound : (ledger "InnoDB" "users(id)" "10,2").Sound :=
    sound_ledger _ _ (by decide) (by decide)
  obtain ⟨t, ht, hspelled⟩ := bare_texts_spelled_iff hsound
  have hcomposed : (composeTable (ledger "InnoDB" "users(id)" "10,2")).1
      = .ok [ledgerStatement "InnoDB" "users(id)" "10,2"] := composeTable_eq_ok (by decide +kernel)
  obtain ⟨-, hbare⟩ := hspelled _ hcomposed
  have hparts : (TableDefinition.ofRecord? (ledger "InnoDB" "users(id)" "10,2")).all (fun t =>
      [.bare .length "10,2", .bare .target "users(id)", .bare .name "InnoDB"].all (· ∈ t.parts))
        = true := by decide +kernel
  have ht : TableDefinition.ofRecord? (ledger "InnoDB" "users(id)" "10,2") = some t := ht
  rw [ht] at hparts
  obtain ⟨hlength, hreference, hengine, -⟩ : _ ∈ t.parts ∧ _ ∈ t.parts ∧ _ ∈ t.parts ∧ True := by
    simpa using hparts
  have hblankless (text : String) (h : text.toList.all (!isBlank ·) = true) :
      ∀ c ∈ text.toList, isBlank c = false := by simpa using h
  exact ⟨hcomposed, (hbare _ _ hengine).2.mpr (hblankless _ (by decide)),
    (hbare _ _ hreference).2.mpr (hblankless _ (by decide)),
    (hbare _ _ hlength).2.mpr (hblankless _ (by decide))⟩

/-- An engine and a target with a newline at the end, and a length with a tab in it, are accepted
and written as they are. -/
theorem looseLedger_written :
    (ledger "InnoDB\n" "users(id)\n" "10,\t2").Sound
      ∧ (composeTable (ledger "InnoDB\n" "users(id)\n" "10,\t2")).1
        = .ok [ledgerStatement "InnoDB\n" "users(id)\n" "10,\t2"]
      ∧ ¬ BareForm.name.Spells "InnoDB\n".toList
      ∧ ¬ BareForm.target.Spells "users(id)\n".toList
      ∧ ¬ BareForm.length.Spells "10,\t2".toList := by
  refine ⟨sound_ledger _ _ (by decide) (by decide), composeTable_eq_ok (by decide +kernel),
    ?_, ?_, ?_⟩
  · exact fun h => absurd (h.blankless '\n' (by decide)) (by decide)
  · exact fun h => absurd (h.blankless '\n' (by decide)) (by decide)
  · exact fun h => absurd (h.blankless '\t' (by decide)) (by decide)

end SqlComposer
