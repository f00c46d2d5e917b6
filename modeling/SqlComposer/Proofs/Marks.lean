import Mathlib.Data.List.Chain
import Mathlib.Data.List.Infix
import SqlComposer.Sql.Rejection
import SqlComposer.Proofs.QuoteState

/-!
# Separators and comments outside quotes

A second statement or a comment begins with one of a few marks, and it only does so outside
quotes. `unquoted` is a text with its quoted regions blanked out, and a text is `Unmarked` if no
mark occurs in that.

Free text is unmarked because it is searched for the marks, and a name because it stands in
quotes whatever it holds. What is left to rule out is a mark that comes about where two texts
meet, as the bare star of a wildcard could after a slash. Texts are never put next to each other
but around a `Joint`, which begins and ends with a character of no mark, and `Clean` texts stay
clean around joints.
-/

set_option autoImplicit false

namespace SqlComposer.Sql

open SqlComposer.Text

/-! ## What stands outside quotes -/

/-- A text that is scanned from a region on, with a blank for every character of a quoted region
and for the quotes around it. -/
def unquotedFrom : Region → List Char → List Char
  | _, [] => []
  | r, c :: cs =>
    (if r = .outside ∧ r.step c = .outside then c else ' ') :: unquotedFrom (r.step c) cs

/-- A text with its quoted regions blanked out. -/
def unquoted (sql : String) : List Char := unquotedFrom .outside sql.toList

/-- The marks that end a statement or begin or end a comment. -/
def marks : List String := [";", "#", "--", "/*", "*/"]

/-- A text without marks outside quotes. -/
def Unmarked (sql : String) : Prop := ∀ mark ∈ marks, ¬ mark.toList <:+: unquoted sql

instance (sql : String) : Decidable (Unmarked sql) :=
  inferInstanceAs (Decidable (∀ mark ∈ marks, ¬ mark.toList <:+: unquoted sql))

theorem unquotedFrom_append (r : Region) (as bs : List Char) :
    unquotedFrom r (as ++ bs) = unquotedFrom r as ++ unquotedFrom (r.scan as) bs := by
  induction as generalizing r with
  | nil => rfl
  | cons c cs ih => rw [List.cons_append, unquotedFrom, ih, unquotedFrom, List.cons_append,
      Region.scan_cons]

/-- After a closed text, a text reads as it does alone. -/
theorem unquoted_append {s : String} (hs : QuoteClosed s) (t : String) :
    unquoted (s ++ t) = unquoted s ++ unquoted t := by
  unfold unquoted
  rw [String.toList_append, unquotedFrom_append, show Region.scan .outside s.toList = _ from hs]

theorem unquotedFrom_outside {cs : List Char} (h : ∀ c ∈ cs, isQuote c = false) :
    unquotedFrom .outside cs = cs := by
  induction cs with
  | nil => rfl
  | cons c cs ih =>
    have hstep : Region.outside.step c = .outside := Region.step_outside (h c List.mem_cons_self)
    rw [unquotedFrom, hstep, if_pos ⟨rfl, rfl⟩, ih fun d hd => h d (List.mem_cons_of_mem c hd)]

/-- What stands at the front of the unquoted text without blanks stands there in the text. -/
theorem prefix_of_unquotedFrom {mark cs : List Char} (hmark : ' ' ∉ mark) {r : Region}
    (h : mark <+: unquotedFrom r cs) : mark <+: cs := by
  induction mark generalizing r cs with
  | nil => exact List.nil_prefix
  | cons m mark ih =>
    cases cs with
    | nil => exact absurd (List.prefix_nil.mp h) (by simp)
    | cons c cs =>
      obtain ⟨hm, hrest⟩ := List.cons_prefix_cons.mp h
      obtain ⟨hblank, hmark'⟩ : ' ' ≠ m ∧ ' ' ∉ mark := by simpa using hmark
      have hc : m = c := by
        split at hm
        · exact hm
        · exact absurd hm.symm hblank
      exact List.cons_prefix_cons.mpr ⟨hc, ih hmark' hrest⟩

/-- What occurs in the unquoted text without blanks occurs in the text. -/
theorem infix_of_unquotedFrom {mark cs : List Char} (hmark : ' ' ∉ mark) {r : Region}
    (h : mark <:+: unquotedFrom r cs) : mark <:+: cs := by
  induction cs generalizing r with
  | nil => exact h
  | cons c cs ih =>
    rcases List.infix_cons_iff.mp h with hfront | hlater
    · have hunquoted : mark <+: unquotedFrom r (c :: cs) := hfront
      exact (prefix_of_unquotedFrom hmark hunquoted).isInfix
    · exact List.infix_cons_iff.mpr (Or.inr (ih hlater))

/-! ## Marks where texts meet -/

/-- Two characters that make no mark next to each other. -/
def Apart (c d : Char) : Prop :=
  (c, d) ≠ ('-', '-') ∧ (c, d) ≠ ('/', '*') ∧ (c, d) ≠ ('*', '/')

/-- A character that marks of two characters are made of. -/
def isHalfMark (c : Char) : Bool := c == '-' || c == '/' || c == '*'

theorem apart_of_left {c : Char} (hc : isHalfMark c = false) (d : Char) : Apart c d := by
  simp only [isHalfMark, Bool.or_eq_false_iff, beq_eq_false_iff_ne] at hc
  simp [Apart, hc]

theorem apart_of_right {d : Char} (hd : isHalfMark d = false) (c : Char) : Apart c d := by
  simp only [isHalfMark, Bool.or_eq_false_iff, beq_eq_false_iff_ne] at hd
  simp [Apart, hd]

/-- A mark of two characters does not occur if no two neighbours make one. -/
theorem isChain_apart_iff {cs : List Char} :
    cs.IsChain Apart ↔ ¬ ['-', '-'] <:+: cs ∧ ¬ ['/', '*'] <:+: cs ∧ ¬ ['*', '/'] <:+: cs := by
  rw [List.isChain_iff_forall_rel_of_append_cons_cons]
  constructor
  · intro h
    refine ⟨?_, ?_, ?_⟩
    · rintro ⟨before, after, rfl⟩
      exact (h (by simp; rfl) : Apart '-' '-').1 rfl
    · rintro ⟨before, after, rfl⟩
      exact (h (by simp; rfl) : Apart '/' '*').2.1 rfl
    · rintro ⟨before, after, rfl⟩
      exact (h (by simp; rfl) : Apart '*' '/').2.2 rfl
  · rintro ⟨hdashes, hopen, hclose⟩ c d before after rfl
    have hpair : [c, d] <:+: before ++ c :: d :: after := ⟨before, after, by simp⟩
    refine ⟨?_, ?_, ?_⟩
    · rintro ⟨⟩
      exact hdashes hpair
    · rintro ⟨⟩
      exact hopen hpair
    · rintro ⟨⟩
      exact hclose hpair

/-- A text has no marks if neither its characters nor its neighbours outside quotes are any. -/
theorem unmarked_iff {sql : String} :
    Unmarked sql ↔ (∀ c ∈ unquoted sql, c ≠ ';' ∧ c ≠ '#') ∧ (unquoted sql).IsChain Apart := by
  have hsingle (c : Char) : ¬ [c] <:+: unquoted sql ↔ ∀ d ∈ unquoted sql, d ≠ c := by
    rw [List.singleton_infix_iff]
    exact ⟨fun h d hd hdc => h (hdc ▸ hd), fun h hc => h c hc rfl⟩
  have hmarks : Unmarked sql ↔ ¬ [';'] <:+: unquoted sql ∧ ¬ ['#'] <:+: unquoted sql
      ∧ ¬ ['-', '-'] <:+: unquoted sql ∧ ¬ ['/', '*'] <:+: unquoted sql
      ∧ ¬ ['*', '/'] <:+: unquoted sql := by
    simp [Unmarked, marks]
  rw [hmarks, hsingle, hsingle, isChain_apart_iff]
  constructor
  · rintro ⟨hsemicolon, hhash, hpairs⟩
    exact ⟨fun c hc => ⟨hsemicolon c hc, hhash c hc⟩, hpairs⟩
  · rintro ⟨hchars, hpairs⟩
    exact ⟨fun c hc => (hchars c hc).1, fun c hc => (hchars c hc).2, hpairs⟩

/-- A text that ends outside quotes and has no marks outside them. -/
structure Clean (sql : String) : Prop where
  closed : QuoteClosed sql
  unmarked : Unmarked sql

instance (sql : String) : Decidable (Clean sql) :=
  decidable_of_iff (QuoteClosed sql ∧ Unmarked sql) ⟨fun h => ⟨h.1, h.2⟩, fun h => ⟨h.1, h.2⟩⟩

/-- A clean text that no mark begins or ends in, and so can stand between any clean texts. -/
structure Joint (sql : String) : Prop where
  clean : Clean sql
  first : (unquoted sql).head?.any (!isHalfMark ·) = true
  last : (unquoted sql).getLast?.any (!isHalfMark ·) = true

instance (sql : String) : Decidable (Joint sql) :=
  decidable_of_iff (Clean sql ∧ (unquoted sql).head?.any (!isHalfMark ·) = true
      ∧ (unquoted sql).getLast?.any (!isHalfMark ·) = true)
    ⟨fun h => ⟨h.1, h.2.1, h.2.2⟩, fun h => ⟨h.1, h.2, h.3⟩⟩

/-- Clean texts around a joint are clean. -/
theorem Clean.join {s joint t : String} (hs : Clean s) (hjoint : Joint joint) (ht : Clean t) :
    Clean (s ++ joint ++ t) := by
  obtain ⟨hscs, hschain⟩ := unmarked_iff.mp hs.unmarked
  obtain ⟨hjcs, hjchain⟩ := unmarked_iff.mp hjoint.clean.unmarked
  obtain ⟨htcs, htchain⟩ := unmarked_iff.mp ht.unmarked
  obtain ⟨c, hfirst, hc⟩ : ∃ c, (unquoted joint).head? = some c ∧ isHalfMark c = false := by
    simpa [Option.any_eq_true] using hjoint.first
  obtain ⟨d, hlast, hd⟩ : ∃ d, (unquoted joint).getLast? = some d ∧ isHalfMark d = false := by
    simpa [Option.any_eq_true] using hjoint.last
  have hsj : QuoteClosed (s ++ joint) := hs.closed.append hjoint.clean.closed
  refine ⟨hsj.append ht.closed, unmarked_iff.mpr ?_⟩
  rw [unquoted_append hsj, unquoted_append hs.closed]
  constructor
  · intro e he
    rcases List.mem_append.mp he with he | he
    · rcases List.mem_append.mp he with he | he
      · exact hscs e he
      · exact hjcs e he
    · exact htcs e he
  · -- the neighbours at both seams are a character of the joint and some other
    refine List.IsChain.append (List.IsChain.append hschain hjchain ?_) htchain ?_
    · intro x _ y hy
      obtain rfl : c = y := Option.some.inj (hfirst.symm.trans hy)
      exact apart_of_right hc x
    · intro x hx y _
      rw [List.getLast?_append, hlast] at hx
      obtain rfl : d = x := by simpa using hx
      exact apart_of_left hd y

theorem clean_empty : Clean "" := by decide

theorem Joint.before {joint t : String} (hjoint : Joint joint) (ht : Clean t) :
    Clean (joint ++ t) := by
  simpa using clean_empty.join hjoint ht

theorem Joint.after {s joint : String} (hs : Clean s) (hjoint : Joint joint) :
    Clean (s ++ joint) := by
  simpa using hs.join hjoint clean_empty

/-- Clean texts with joints between them are clean. -/
theorem Clean.intercalate {separator : String} (hseparator : Joint separator) {ts : List String}
    (hts : ∀ t ∈ ts, Clean t) : Clean (separator.intercalate ts) := by
  induction ts with
  | nil =>
    rw [String.intercalate_nil]
    exact clean_empty
  | cons t ts ih =>
    have ht : Clean t := hts t List.mem_cons_self
    have hrest : Clean (separator.intercalate ts) :=
      ih fun u hu => hts u (List.mem_cons_of_mem t hu)
    cases ts with
    | nil =>
      rw [String.intercalate_singleton]
      exact ht
    | cons u us =>
      rw [String.intercalate_cons_cons]
      exact ht.join hseparator hrest

/-! ## Clean texts -/

theorem hasInfix_eq_true_iff {part whole : List Char} :
    hasInfix part whole = true ↔ part <:+: whole := by
  induction whole with
  | nil => simp [hasInfix]
  | cons c cs ih =>
    rw [hasInfix, Bool.or_eq_true, List.isPrefixOf_iff_prefix, ih, List.infix_cons_iff]

/-- Free text that ends outside quotes and has no sign of the denylist is clean. -/
theorem clean_of_safe {fragment : String} (hclosed : QuoteClosed fragment)
    (hsafe : dangerIn? fragment = none) : Clean fragment := by
  refine ⟨hclosed, ?_⟩
  intro mark hmark hinfix
  obtain ⟨hlisted, hblank⟩ : Sign.mark mark ∈ denylist ∧ ' ' ∉ mark.toList := by
    have hall : ∀ m ∈ marks, Sign.mark m ∈ denylist ∧ ' ' ∉ m.toList := by decide
    exact hall mark hmark
  have hoccurs : (Sign.mark mark).occursIn fragment.toList = true :=
    hasInfix_eq_true_iff.mpr (infix_of_unquotedFrom hblank hinfix)
  exact List.find?_eq_none.mp hsafe _ hlisted hoccurs

/-- A text has no marks if outside quotes it has no characters of marks. -/
theorem unmarked_of_forall {sql : String}
    (h : ∀ c ∈ unquoted sql, isHalfMark c = false ∧ c ≠ ';' ∧ c ≠ '#') : Unmarked sql := by
  refine unmarked_iff.mpr ⟨fun c hc => (h c hc).2, ?_⟩
  rw [List.isChain_iff_forall_rel_of_append_cons_cons]
  intro c d before after hsplit
  exact apart_of_left (h c (by rw [hsplit]; simp)).1 d

/-- Text without quotes and characters of marks is clean. -/
theorem clean_of_plain {s : String}
    (h : ∀ c ∈ s.toList, isQuote c = false ∧ isHalfMark c = false ∧ c ≠ ';' ∧ c ≠ '#') :
    Clean s := by
  have hquotes : ∀ c ∈ s.toList, isQuote c = false := fun c hc => (h c hc).1
  refine ⟨Region.scan_outside hquotes, unmarked_of_forall ?_⟩
  rw [unquoted, unquotedFrom_outside hquotes]
  exact fun c hc => (h c hc).2

theorem clean_toString (n : Nat) : Clean (toString n) := by
  apply clean_of_plain
  intro c hc
  rw [Nat.toString_eq_repr, Nat.toList_repr] at hc
  have hdigit : c.isDigit = true := Nat.isDigit_of_mem_toDigits (by decide) (by decide) hc
  have hother (d : Char) (hd : d.isDigit = false) : c ≠ d := by
    rintro rfl
    rw [hd] at hdigit
    cases hdigit
  simp [isQuote, isHalfMark, hother]

theorem clean_placeholders (n : Nat) : Clean (placeholders n) := by
  apply Clean.intercalate (by decide)
  intro t ht
  rw [List.eq_of_mem_replicate ht]
  decide

/-! ## Names -/

/-- A character of a name leaves no trace outside its backticks. -/
theorem unquotedFrom_nameChar (c : Char) :
    ∀ d ∈ unquotedFrom (.inside '\x60') (nameChar c), d = ' ' := by
  unfold nameChar
  split
  · simp [unquotedFrom, Region.step, isQuote]
  · split
    · simp [unquotedFrom, Region.step]
    · simp [unquotedFrom]

theorem unquotedFrom_nameChars (cs : List Char) :
    ∀ d ∈ unquotedFrom (.inside '\x60') (cs.flatMap nameChar), d = ' ' := by
  induction cs with
  | nil => simp [unquotedFrom]
  | cons c cs ih =>
    rw [List.flatMap_cons, unquotedFrom_append, scan_nameChar]
    intro d hd
    rcases List.mem_append.mp hd with hd | hd
    · exact unquotedFrom_nameChar c d hd
    · exact ih d hd

/-- A segment of a name is clean, whether it is quoted or the bare star. -/
theorem clean_quoteSegment (segment : List Char) :
    Clean (String.ofList (quoteSegment segment)) := by
  refine ⟨(inert_quoteSegment segment).1, ?_⟩
  unfold quoteSegment
  split
  · next hstar =>
    rw [hstar]
    decide
  · have hopen : Region.outside.step '\x60' = .inside '\x60' := by decide
    have hclose : unquotedFrom (.inside '\x60') ['\x60'] = [' '] := by decide
    have hblank : ∀ d ∈ unquoted (String.ofList ('\x60' :: (segment.flatMap nameChar ++ ['\x60']))),
        d = ' ' := by
      unfold unquoted
      rw [String.toList_ofList, unquotedFrom, hopen, if_neg (by simp), unquotedFrom_append,
        (scan_nameChars segment).1, hclose]
      intro d hd
      rcases List.mem_cons.mp hd with rfl | hd
      · rfl
      · rcases List.mem_append.mp hd with hd | hd
        · exact unquotedFrom_nameChars segment d hd
        · exact List.mem_singleton.mp hd
    apply unmarked_of_forall
    intro c hc
    rw [hblank c hc]
    decide

/-- A quoted name is clean, whatever it holds. -/
theorem clean_quoteName (name : String) : Clean (quoteName name) := by
  rw [quoteName_eq_intercalate]
  apply Clean.intercalate (by decide)
  intro t ht
  obtain ⟨segment, -, rfl⟩ := List.mem_map.mp ht
  exact clean_quoteSegment segment

theorem clean_nameList (names : List String) : Clean (nameList names) := by
  apply Clean.intercalate (by decide)
  intro t ht
  obtain ⟨name, -, rfl⟩ := List.mem_map.mp ht
  exact clean_quoteName name

/-- A plain name as a column is clean. -/
theorem clean_column {text : String} (h : isExpression text = false) : Clean (column text) := by
  rw [column, h]
  exact clean_quoteName text

end SqlComposer.Sql
