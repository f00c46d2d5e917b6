import SqlComposer.Proofs.ConditionHeads
import SqlComposer.Proofs.Directions
import SqlComposer.Proofs.QuoteState

/-!
# Resolved texts stay closed

Before a condition or an order entry is emitted, it is cut up: blanks and a direction are taken
off, and a name at its head is replaced by the text behind an alias. `resolveCondition` and
`resolveOrder` give closed texts from closed texts, because every cut falls outside quotes: a
name is read as a whole, with both of its backticks, and blanks and directions have no quotes.
-/

set_option autoImplicit false

namespace SqlComposer

open SqlComposer.Text SqlComposer.Sql

/-- Characters that end a scan outside quotes. -/
def ClosedChars (cs : List Char) : Prop := Region.outside.scan cs = .outside

instance (cs : List Char) : Decidable (ClosedChars cs) := inferInstanceAs (Decidable (_ = _))

theorem quoteClosed_ofList {cs : List Char} : QuoteClosed (String.ofList cs) ↔ ClosedChars cs := by
  unfold QuoteClosed ClosedChars
  rw [String.toList_ofList]

/-- A class without the three quotes has no quotes. -/
theorem isQuote_eq_false_of {p : Char → Bool}
    (hp : p '\'' = false ∧ p '"' = false ∧ p '\x60' = false) {c : Char} (hc : p c = true) :
    isQuote c = false := by
  rw [Bool.eq_false_iff]
  intro hquote
  simp only [isQuote, Bool.or_eq_true, beq_iff_eq] at hquote
  obtain ⟨hsingle, hdouble, hback⟩ := hp
  rcases hquote with (rfl | rfl) | rfl
  · rw [hsingle] at hc
    cases hc
  · rw [hdouble] at hc
    cases hc
  · rw [hback] at hc
    cases hc

theorem isQuote_of_isBlank {c : Char} (hc : isBlank c = true) : isQuote c = false :=
  isQuote_eq_false_of (by decide) hc

namespace ClosedChars

theorem append {as bs : List Char} (ha : ClosedChars as) (hb : ClosedChars bs) :
    ClosedChars (as ++ bs) := by
  unfold ClosedChars
  rw [Region.scan_append, show Region.outside.scan as = _ from ha]
  exact hb

/-- The end of closed text after a closed beginning is closed. -/
theorem right {as bs : List Char} (h : ClosedChars (as ++ bs)) (ha : ClosedChars as) :
    ClosedChars bs := by
  unfold ClosedChars at h
  rw [Region.scan_append, show Region.outside.scan as = _ from ha] at h
  exact h

/-- The beginning of closed text is closed if what follows has no quotes. -/
theorem left {as bs : List Char} (h : ClosedChars (as ++ bs))
    (hb : ∀ c ∈ bs, isQuote c = false) : ClosedChars as := by
  unfold ClosedChars at h
  rw [Region.scan_append] at h
  exact Region.eq_outside_of_scan (Region.Proper.scan (r := .outside) trivial as) hb h

theorem takeWhile {p : Char → Bool} (hp : ∀ c, p c = true → isQuote c = false) (cs : List Char) :
    ClosedChars (cs.takeWhile p) := by
  apply Region.scan_outside
  intro c hc
  exact hp c (List.all_eq_true.mp List.all_takeWhile c hc)

/-- Taking off characters at the front keeps text closed, if they are no quotes. -/
theorem dropWhile {p : Char → Bool} (hp : ∀ c, p c = true → isQuote c = false) {cs : List Char}
    (h : ClosedChars cs) : ClosedChars (cs.dropWhile p) := by
  rw [← List.takeWhile_append_dropWhile (p := p) (l := cs)] at h
  exact h.right (takeWhile hp cs)

/-- Taking off characters at the end keeps text closed, if they are no quotes. -/
theorem dropEnd {p : Char → Bool} (hp : ∀ c, p c = true → isQuote c = false) {cs : List Char}
    (h : ClosedChars cs) : ClosedChars (Text.dropEnd p cs) := by
  obtain ⟨after, hsplit, hafter⟩ := exists_dropEnd p cs
  rw [hsplit] at h
  exact h.left fun c hc => hp c (hafter c hc)

theorem trimBy {p : Char → Bool} (hp : ∀ c, p c = true → isQuote c = false) {cs : List Char}
    (h : ClosedChars cs) : ClosedChars (Text.trimBy p cs) :=
  (h.dropWhile hp).dropEnd hp

end ClosedChars

/-! ## Names at the head of a condition -/

theorem closed_plainName {name : List Char} (h : IsPlainName name) : ClosedChars name := by
  obtain ⟨c, more, rfl, hstart, hmore⟩ := h
  apply Region.scan_outside
  intro d hd
  rcases List.mem_cons.mp hd with rfl | hd
  · exact isQuote_eq_false_of (by decide) hstart
  · exact isQuote_eq_false_of (by decide) (hmore d hd)

/-- Text between backticks is closed with both of them. -/
theorem scan_backticks {cs : List Char} (h : '\x60' ∉ cs) :
    (Region.inside '\x60').scan cs = .inside '\x60' := by
  induction cs with
  | nil => rfl
  | cons c cs ih =>
    rw [List.mem_cons, not_or] at h
    have hstep : (Region.inside '\x60').step c = .inside '\x60' := by
      simp [Region.step, Ne.symm h.1]
    rw [Region.scan_cons, hstep]
    exact ih h.2

theorem closed_quotedName {name : List Char} (h : IsQuotedName name) : ClosedChars name := by
  obtain ⟨body, rfl, -, hbody⟩ := h
  unfold ClosedChars
  rw [Region.scan_cons, Region.scan_append,
    show Region.outside.step '\x60' = .inside '\x60' by decide, scan_backticks hbody]
  decide

/-- A name with a second one after a dot is closed if names of its form are. -/
theorem closed_qualified {IsName : List Char → Prop}
    (hname : ∀ {name : List Char}, IsName name → ClosedChars name) {name : List Char}
    (h : IsQualified IsName name) : ClosedChars name := by
  rcases h with h | ⟨as, bs, rfl, has, hbs⟩
  · exact hname h
  · have hdot : ClosedChars ['.'] := by decide
    exact (hname has).append (hdot.append (hname hbs))

theorem closed_fieldName {name : List Char} (h : IsFieldName name) : ClosedChars name :=
  h.elim (closed_qualified closed_plainName) (closed_qualified closed_quotedName)

/-! ## Aliases -/

/-- Aliases for closed texts only. -/
def Aliases.Closed (aliases : Aliases) : Prop := ∀ e ∈ aliases, QuoteClosed e.2

/-- What a name resolves to is the text behind an alias or the name itself. -/
theorem Aliases.resolve_cases (aliases : Aliases) (name : String) :
    (∃ k, (k, aliases.resolve name) ∈ aliases) ∨ aliases.resolve name = name := by
  unfold Aliases.resolve
  cases hfound : lookup? (String.ofList (trimBy (· == '\x60') name.toList)) aliases with
  | none => exact Or.inr rfl
  | some text => exact Or.inl ⟨_, mem_of_lookup? hfound⟩

namespace Aliases.Closed

variable {aliases : Aliases}

theorem resolve (ha : aliases.Closed) {name : String} (hname : QuoteClosed name) :
    QuoteClosed (aliases.resolve name) := by
  rcases aliases.resolve_cases name with ⟨k, hmem⟩ | hself
  · exact ha _ hmem
  · rw [hself]
    exact hname

/-- A closed condition stays closed when the name at its head is resolved. -/
theorem resolveCondition (ha : aliases.Closed) {fragment : String} (h : QuoteClosed fragment) :
    QuoteClosed (aliases.resolveCondition fragment) := by
  by_cases hhead : ∃ lead name rest, ConditionHead fragment lead name rest
  · obtain ⟨lead, name, rest, hhead⟩ := hhead
    rw [aliases.resolveCondition_of_head hhead]
    obtain ⟨rfl, hblanks, hfield, -⟩ := hhead
    have hlead : QuoteClosed lead :=
      Region.scan_outside fun c hc => isQuote_of_isBlank (hblanks c hc)
    have hname : QuoteClosed name := closed_fieldName hfield
    have hrest : QuoteClosed rest := by
      unfold QuoteClosed at h
      rw [String.toList_append] at h
      exact ClosedChars.right h (hlead.append hname)
    exact (hlead.append (ha.resolve hname)).append hrest
  · rw [aliases.resolveCondition_of_no_head fun lead name rest h => hhead ⟨lead, name, rest, h⟩]
    exact h

/-- A closed order entry resolves to a closed column. -/
theorem resolveOrder (ha : aliases.Closed) {term : String} (h : QuoteClosed term) :
    QuoteClosed (aliases.resolveOrder term).1 := by
  have hblank : ∀ c, isBlank c = true → isQuote c = false := fun c hc => isQuote_of_isBlank hc
  by_cases hsuffix : ∃ before word, DirectionSuffix term before word
  · obtain ⟨before, word, hsuffix⟩ := hsuffix
    obtain ⟨direction, hresolve, -⟩ := aliases.resolveOrder_of_suffix hsuffix
    obtain ⟨rest, rfl, hrest⟩ := hsuffix.exists_rest
    have hquotes : ∀ c ∈ rest.toList, isQuote c = false := by
      intro c hc
      rcases hrest c hc with hc | hc
      · exact isQuote_of_isBlank hc
      · exact isQuote_eq_false_of (by decide) hc
    have hbefore : ClosedChars before.toList := by
      unfold QuoteClosed at h
      rw [String.toList_append] at h
      exact ClosedChars.left h hquotes
    rw [hresolve]
    exact ha.resolve (quoteClosed_ofList.mpr (hbefore.trimBy hblank))
  · rw [aliases.resolveOrder_of_no_suffix fun before word h => hsuffix ⟨before, word, h⟩]
    exact ha.resolve (quoteClosed_ofList.mpr (ClosedChars.trimBy hblank h))

end Aliases.Closed

end SqlComposer
