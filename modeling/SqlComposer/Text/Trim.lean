import SqlComposer.Text.Classes

/-!
# Cutting texts

Trimming at both ends, cutting at blanks and at line ends, and taking the first characters.
All of it is done on the list of characters; `dropEnd` and `trimBy` are the two operations the
others are made of.
-/

set_option autoImplicit false

namespace SqlComposer.Text

/-- The list without the longest run of characters satisfying `p` at its end. -/
def dropEnd (p : Char → Bool) (cs : List Char) : List Char :=
  (cs.reverse.dropWhile p).reverse

/-- The list without the characters satisfying `p` at either end. -/
def trimBy (p : Char → Bool) (cs : List Char) : List Char :=
  dropEnd p (cs.dropWhile p)

/-- The text without the blanks at either end. -/
def trim (s : String) : String := String.ofList (trimBy isBlank s.toList)

/-! ## Where a class of characters ends -/

/-- What a class does not go on is left when the characters of the class are taken off. -/
theorem dropWhile_of_boundary {p : Char → Bool} {as bs : List Char}
    (has : ∀ c ∈ as, p c = true) (hbs : ∀ c ∈ bs.head?, p c = false) :
    (as ++ bs).dropWhile p = bs := by
  rw [List.dropWhile_append_of_pos has]
  cases bs with
  | nil => rfl
  | cons b bs => exact List.dropWhile_cons_of_neg (by simp [hbs b rfl])

theorem takeWhile_of_boundary {p : Char → Bool} {as bs : List Char}
    (has : ∀ c ∈ as, p c = true) (hbs : ∀ c ∈ bs.head?, p c = false) :
    (as ++ bs).takeWhile p = as := by
  have hsplit := List.takeWhile_append_dropWhile (p := p) (l := as ++ bs)
  rw [dropWhile_of_boundary has hbs] at hsplit
  exact List.append_cancel_right hsplit

/-- A text is what is left at its front and what is taken off its end. -/
theorem exists_dropEnd (p : Char → Bool) (cs : List Char) :
    ∃ after, cs = dropEnd p cs ++ after ∧ ∀ c ∈ after, p c = true := by
  refine ⟨(cs.reverse.takeWhile p).reverse, ?_, ?_⟩
  · unfold dropEnd
    rw [← List.reverse_append, List.takeWhile_append_dropWhile, List.reverse_reverse]
  · intro c hc
    exact List.all_eq_true.mp List.all_takeWhile c (List.mem_reverse.mp hc)

theorem dropEnd_of_boundary {p : Char → Bool} {as bs : List Char}
    (has : ∀ c ∈ as.getLast?, p c = false) (hbs : ∀ c ∈ bs, p c = true) :
    dropEnd p (as ++ bs) = as := by
  unfold dropEnd
  rw [List.reverse_append, dropWhile_of_boundary (fun c hc => hbs c (List.mem_reverse.mp hc))
    (by rwa [List.head?_reverse]), List.reverse_reverse]

/-- Characters at the end that are trimmed away do not count. -/
theorem trimBy_append {p : Char → Bool} {as bs : List Char} (hbs : ∀ c ∈ bs, p c = true) :
    trimBy p (as ++ bs) = trimBy p as := by
  have hend (cs : List Char) : dropEnd p (cs ++ bs) = dropEnd p cs := by
    unfold dropEnd
    rw [List.reverse_append,
      List.dropWhile_append_of_pos fun c hc => hbs c (List.mem_reverse.mp hc)]
  unfold trimBy
  rw [List.dropWhile_append]
  split
  · next hempty =>
    have hnil : (bs ++ []).dropWhile p = [] := dropWhile_of_boundary hbs (by simp)
    rw [List.append_nil] at hnil
    rw [List.isEmpty_iff.mp hempty, hnil]
  · exact hend _

/-! ## Words, lines and parts -/

/-- The maximal runs of characters that do not satisfy `p`, in order. -/
def runs (p : Char → Bool) : List Char → List (List Char)
  | [] => []
  | c :: cs =>
    if p c then runs p cs
    else match cs with
      | [] => [[c]]
      | d :: _ => if p d then [c] :: runs p cs else match runs p cs with
        | [] => [[c]]
        | w :: ws => (c :: w) :: ws

/-- The words of a text: what stands between blanks. -/
def words (s : String) : List String := (runs isBlank s.toList).map String.ofList

/-- The lines of a text without their ends. A carriage return and the newline after it are one
line end, and a line end at the very end opens no further line. -/
def linesFrom (current : List Char) : List Char → List (List Char)
  | [] => if current.isEmpty then [] else [current.reverse]
  | '\r' :: '\n' :: cs => current.reverse :: linesFrom [] cs
  | c :: cs =>
    if isLineEnd c then current.reverse :: linesFrom [] cs else linesFrom (c :: current) cs

/-- The lines of a text. -/
def lines (s : String) : List String := (linesFrom [] s.toList).map String.ofList

/-- The first `n` characters of a text. -/
def firstChars (n : Nat) (s : String) : String := String.ofList (s.toList.take n)

/-- Whether the characters of `part` stand next to each other somewhere in `whole`. -/
def hasInfix (part : List Char) : List Char → Bool
  | [] => part.isEmpty
  | c :: cs => part.isPrefixOf (c :: cs) || hasInfix part cs

/-- Whether `part` occurs in `whole`. -/
def contains (whole part : String) : Bool := hasInfix part.toList whole.toList

end SqlComposer.Text
