import SqlComposer.Sql.Change
import SqlComposer.Text.Trim

/-!
# Texts that leave the quote state alone

A statement is composed from texts that are scanned one by one and sent as a whole, so the two
scans have to meet at every seam. They do if each text ends outside quotes: `QuoteClosed` texts
can be put next to each other, and their placeholders add up. A text is `Inert` if it is closed
and has no placeholder at all. Quoted names are inert whatever they hold, as a backtick within a
name is written twice and a question mark in it is inside the quotes.

Cutting blanks and words off the ends of a closed text leaves a closed text. A cut could only go
wrong inside quotes, and no text without quotes leads out of them again.
-/

set_option autoImplicit false

namespace SqlComposer.Sql

open SqlComposer.Text

/-! ## Closed and inert texts -/

/-- A text that ends outside quotes and has no placeholders. -/
def Inert (sql : String) : Prop := QuoteClosed sql ∧ countPlaceholders sql = 0

instance (sql : String) : Decidable (Inert sql) := inferInstanceAs (Decidable (_ ∧ _))

theorem Region.step_outside {c : Char} (h : isQuote c = false) :
    Region.outside.step c = .outside := by
  simp [Region.step, h]

/-- Text without quotes does not lead into a quoted region. -/
theorem Region.scan_outside {cs : List Char} (h : ∀ c ∈ cs, isQuote c = false) :
    Region.outside.scan cs = .outside := by
  induction cs with
  | nil => rfl
  | cons c cs ih =>
    rw [Region.scan_cons, Region.step_outside (h c List.mem_cons_self)]
    exact ih fun d hd => h d (List.mem_cons_of_mem c hd)

/-- The quote that a region was opened by is a quote. -/
def Region.Proper : Region → Prop
  | .outside => True
  | .inside q => isQuote q = true
  | .escaped q => isQuote q = true

theorem Region.Proper.step {r : Region} (h : r.Proper) (c : Char) : (r.step c).Proper := by
  cases r with
  | outside =>
    simp only [Region.step]
    split
    · next hc => exact hc
    · trivial
  | inside q =>
    simp only [Region.step]
    split
    · exact h
    · split
      · trivial
      · exact h
  | escaped q => exact h

theorem Region.Proper.scan {r : Region} (h : r.Proper) (cs : List Char) : (r.scan cs).Proper := by
  induction cs generalizing r with
  | nil => exact h
  | cons c cs ih => exact ih (h.step c)

/-- Text without quotes does not lead out of a quoted region. -/
theorem Region.eq_outside_of_scan {r : Region} (hr : r.Proper) {cs : List Char}
    (h : ∀ c ∈ cs, isQuote c = false) (hscan : r.scan cs = .outside) : r = .outside := by
  induction cs generalizing r with
  | nil => exact hscan
  | cons c cs ih =>
    have hc : isQuote c = false := h c List.mem_cons_self
    have hstep : r.step c = .outside :=
      ih (hr.step c) (fun d hd => h d (List.mem_cons_of_mem c hd)) hscan
    cases r with
    | outside => rfl
    | inside q =>
      simp only [Region.step] at hstep
      split at hstep
      · cases hstep
      · split at hstep
        · next hq =>
          have hcq : c = q := by simpa using hq
          rw [hcq, show isQuote q = true from hr] at hc
          cases hc
        · cases hstep
    | escaped q => cases hstep

/-- The placeholders of two texts in a row add up if the first ends outside quotes. -/
theorem countPlaceholders_append {s : String} (hs : QuoteClosed s) (t : String) :
    countPlaceholders (s ++ t) = countPlaceholders s + countPlaceholders t := by
  unfold countPlaceholders
  rw [String.toList_append, countFrom_append, show Region.scan .outside s.toList = _ from hs]

theorem QuoteClosed.append {s t : String} (hs : QuoteClosed s) (ht : QuoteClosed t) :
    QuoteClosed (s ++ t) := by
  unfold QuoteClosed
  rw [String.toList_append, Region.scan_append, show Region.scan .outside s.toList = _ from hs]
  exact ht

theorem QuoteClosed.intercalate {separator : String} (hseparator : QuoteClosed separator)
    {ts : List String} (hts : ∀ t ∈ ts, QuoteClosed t) :
    QuoteClosed (separator.intercalate ts) := by
  induction ts with
  | nil => rfl
  | cons t ts ih =>
    have ht : QuoteClosed t := hts t List.mem_cons_self
    have hrest : QuoteClosed (separator.intercalate ts) :=
      ih fun u hu => hts u (List.mem_cons_of_mem t hu)
    cases ts with
    | nil =>
      rw [String.intercalate_singleton]
      exact ht
    | cons u us =>
      rw [String.intercalate_cons_cons]
      exact (ht.append hseparator).append hrest

theorem Inert.append {s t : String} (hs : Inert s) (ht : Inert t) : Inert (s ++ t) :=
  ⟨hs.1.append ht.1, by rw [countPlaceholders_append hs.1, hs.2, ht.2]⟩

theorem Inert.intercalate {separator : String} (hseparator : Inert separator)
    {ts : List String} (hts : ∀ t ∈ ts, Inert t) : Inert (separator.intercalate ts) := by
  induction ts with
  | nil =>
    rw [String.intercalate_nil]
    decide
  | cons t ts ih =>
    have ht : Inert t := hts t List.mem_cons_self
    have hrest : Inert (separator.intercalate ts) :=
      ih fun u hu => hts u (List.mem_cons_of_mem t hu)
    cases ts with
    | nil =>
      rw [String.intercalate_singleton]
      exact ht
    | cons u us =>
      rw [String.intercalate_cons_cons]
      exact (ht.append hseparator).append hrest

/-- Text without quotes and question marks is inert. -/
theorem inert_of_plain {s : String} (h : ∀ c ∈ s.toList, isQuote c = false ∧ c ≠ '?') :
    Inert s := by
  refine ⟨Region.scan_outside fun c hc => (h c hc).1, ?_⟩
  unfold countPlaceholders
  generalize s.toList = cs at h
  induction cs with
  | nil => rfl
  | cons c cs ih =>
    have hc := h c List.mem_cons_self
    simp only [countFrom]
    rw [if_neg (fun hmark => hc.2 hmark.2), Region.step_outside hc.1, Nat.zero_add]
    exact ih fun d hd => h d (List.mem_cons_of_mem c hd)

/-- A number is inert. -/
theorem inert_toString (n : Nat) : Inert (toString n) := by
  apply inert_of_plain
  intro c hc
  rw [Nat.toString_eq_repr, Nat.toList_repr] at hc
  have hdigit : c.isDigit = true := Nat.isDigit_of_mem_toDigits (by decide) (by decide) hc
  constructor
  · rw [Bool.eq_false_iff]
    intro hquote
    simp only [isQuote, Bool.or_eq_true, beq_iff_eq] at hquote
    rcases hquote with (rfl | rfl) | rfl <;> exact absurd hdigit (by decide)
  · rintro rfl
    exact absurd hdigit (by decide)

/-- A list of placeholders is closed and has as many as it should. -/
theorem placeholders_spec (n : Nat) :
    QuoteClosed (placeholders n) ∧ countPlaceholders (placeholders n) = n := by
  unfold placeholders
  induction n with
  | zero => decide
  | succ n ih =>
    cases n with
    | zero => decide
    | succ n =>
      rw [List.replicate_succ, List.replicate_succ, String.intercalate_cons_cons,
        ← List.replicate_succ]
      have hfirst : QuoteClosed "?" ∧ countPlaceholders "?" = 1 := by decide
      have hcomma : Inert ", " := by decide
      refine ⟨(hfirst.1.append hcomma.1).append ih.1, ?_⟩
      rw [countPlaceholders_append (hfirst.1.append hcomma.1), countPlaceholders_append hfirst.1,
        hfirst.2, hcomma.2, ih.2]
      omega

/-! ## Names -/

/-- A character of a name stays inside backticks. -/
theorem scan_nameChar (c : Char) : (Region.inside '\x60').scan (nameChar c) = .inside '\x60' := by
  unfold nameChar
  split
  · decide
  · split
    · decide
    · next hquote _ =>
      simp [Region.step, hquote]

/-- A character of a name is no placeholder. -/
theorem countFrom_nameChar (c : Char) : countFrom (.inside '\x60') (nameChar c) = 0 := by
  unfold nameChar
  split
  · decide
  · split
    · decide
    · simp [countFrom]

theorem scan_nameChars (cs : List Char) :
    (Region.inside '\x60').scan (cs.flatMap nameChar) = .inside '\x60'
      ∧ countFrom (.inside '\x60') (cs.flatMap nameChar) = 0 := by
  induction cs with
  | nil => exact ⟨rfl, rfl⟩
  | cons c cs ih =>
    rw [List.flatMap_cons, Region.scan_append, countFrom_append, scan_nameChar,
      countFrom_nameChar, Nat.zero_add]
    exact ih

/-- A segment of a name is inert, whether it is quoted or the bare star. -/
theorem inert_quoteSegment (segment : List Char) : Inert (String.ofList (quoteSegment segment)) := by
  unfold quoteSegment
  split
  · next hstar =>
    rw [hstar]
    decide
  · obtain ⟨hscan, hcount⟩ := scan_nameChars segment
    have hopen : Region.outside.step '\x60' = .inside '\x60' := by decide
    constructor
    · unfold QuoteClosed
      rw [String.toList_ofList, Region.scan_cons, hopen, Region.scan_append, hscan]
      decide
    · unfold countPlaceholders
      rw [String.toList_ofList, countFrom, hopen, countFrom_append, hcount, hscan]
      decide

/-- A quoted name is its segments with dots between them. -/
theorem quoteName_eq_intercalate (name : String) :
    quoteName name
      = ".".intercalate ((segments name).map fun segment => String.ofList (quoteSegment segment)) := by
  apply String.toList_inj.mp
  unfold quoteName
  rw [String.toList_ofList, String.toList_intercalate, List.map_map]
  simp [Function.comp_def]

/-- A quoted name is inert, whatever it holds. -/
theorem inert_quoteName (name : String) : Inert (quoteName name) := by
  rw [quoteName_eq_intercalate]
  apply Inert.intercalate (by decide)
  intro t ht
  obtain ⟨segment, -, rfl⟩ := List.mem_map.mp ht
  exact inert_quoteSegment segment

theorem inert_nameList (names : List String) : Inert (nameList names) := by
  apply Inert.intercalate (by decide)
  intro t ht
  obtain ⟨name, -, rfl⟩ := List.mem_map.mp ht
  exact inert_quoteName name

/-- Text that is no expression has no quotes. -/
theorem quoteClosed_of_not_expression {text : String} (h : isExpression text = false) :
    QuoteClosed text := by
  apply Region.scan_outside
  intro c hc
  have hmark := List.any_eq_false.mp h c hc
  simp only [isExpressionMark, Bool.or_eq_true, not_or] at hmark
  exact Bool.not_eq_true _ ▸ hmark.2

/-- A column is closed if it is an expression that is, or a name. -/
theorem quoteClosed_column {text : String} (h : QuoteClosed text) : QuoteClosed (column text) := by
  unfold column
  split
  · exact h
  · exact (inert_quoteName text).1

end SqlComposer.Sql
