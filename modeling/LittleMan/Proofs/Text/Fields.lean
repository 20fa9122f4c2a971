import LittleMan.Text.Blank
import LittleMan.Text.Line
import Mathlib.Data.List.TakeWhile

/-!
# Fields of a line

How the fields of a text behave under concatenation. A blank belongs to no field, so a text falls
apart at each of its blanks (`fields_append_blank_cons`), and blanks at an end of a text make no
difference (`fields_blank_append`, `fields_append_of_blank`). Two texts without blanks are the two
fields of what they make with blanks between them (`fields_pair`). The line breaks at the end of a
source line are blanks, and none of them opens a comment: the fields in front of the comment are
the same with and without them (`fields_before_dropBreaks`).
-/

namespace LittleMan

namespace Text

/-- The empty text has no fields. -/
@[simp] lemma fields_nil : fields [] = [] := by
  simp [fields, List.splitOnP_nil]

/-- A text falls apart at a blank. -/
lemma fields_append_blank_cons {b : Char} (hb : isBlank b = true) (x y : Text) :
    fields (x ++ b :: y) = fields x ++ fields y := by
  unfold fields
  rw [List.splitOnP_append_cons x y hb, List.filter_append]

/-- A blank in front of a text belongs to no field. -/
lemma fields_blank_cons {b : Char} (hb : isBlank b = true) (t : Text) :
    fields (b :: t) = fields t := by
  have hcut := fields_append_blank_cons hb [] t
  rwa [fields_nil, List.nil_append, List.nil_append] at hcut

/-- Blanks in front of a text make no difference to its fields. -/
lemma fields_blank_append {s : Text} (h : ∀ c ∈ s, isBlank c = true) (t : Text) :
    fields (s ++ t) = fields t := by
  induction s with
  | nil => rfl
  | cons b s ih =>
    rw [List.cons_append, fields_blank_cons (h b List.mem_cons_self)]
    exact ih fun c hc => h c (List.mem_cons_of_mem b hc)

/-- Blanks alone have no fields. -/
lemma fields_eq_nil_of_blank {t : Text} (h : ∀ c ∈ t, isBlank c = true) : fields t = [] := by
  have hblank := fields_blank_append h []
  rwa [List.append_nil, fields_nil] at hblank

/-- Blanks behind a text make no difference to its fields. -/
lemma fields_append_of_blank (t : Text) {s : Text} (h : ∀ c ∈ s, isBlank c = true) :
    fields (t ++ s) = fields t := by
  cases s with
  | nil => rw [List.append_nil]
  | cons b s =>
    have hb : isBlank b = true := h b List.mem_cons_self
    have hs : fields s = [] := fields_eq_nil_of_blank fun c hc => h c (List.mem_cons_of_mem b hc)
    rw [fields_append_blank_cons hb, hs, List.append_nil]

/-- A text without blanks is a single field. -/
lemma fields_eq_singleton {t : Text} (hne : t ≠ []) (h : ∀ c ∈ t, isBlank c = false) :
    fields t = [t] := by
  have hsplit : t.splitOnP isBlank = [t] :=
    List.splitOnP_eq_singleton fun c hc => by rw [h c hc]
  unfold fields
  rw [hsplit]
  simp [hne]

/-- Two texts without blanks are the two fields of what they make with blanks between them. -/
lemma fields_pair {x y blanks : Text} (hx : x ≠ []) (hy : y ≠ []) (hblanks : blanks ≠ [])
    (hx' : ∀ c ∈ x, isBlank c = false) (hy' : ∀ c ∈ y, isBlank c = false)
    (hblanks' : ∀ c ∈ blanks, isBlank c = true) : fields (x ++ (blanks ++ y)) = [x, y] := by
  obtain ⟨b, rest, rfl⟩ := List.exists_cons_of_ne_nil hblanks
  have hrest : ∀ c ∈ rest, isBlank c = true := fun c hc => hblanks' c (List.mem_cons_of_mem b hc)
  rw [List.cons_append, fields_append_blank_cons (hblanks' b List.mem_cons_self),
    fields_blank_append hrest, fields_eq_singleton hx hx', fields_eq_singleton hy hy']
  rfl

/-! ### Breaks at the end of a line -/

/-- A text is what is left of it without the characters of a class at its end, followed by
characters of that class. -/
lemma exists_eq_dropEndWhile_append (p : Char → Bool) (t : Text) :
    ∃ s, t = dropEndWhile p t ++ s ∧ ∀ c ∈ s, p c = true := by
  refine ⟨(t.reverse.takeWhile p).reverse, ?_, ?_⟩
  · unfold dropEndWhile
    rw [← List.reverse_append, List.takeWhile_append_dropWhile, List.reverse_reverse]
  · intro c hc
    exact List.all_eq_true.mp (List.all_takeWhile (p := p) (l := t.reverse)) c
      (List.mem_reverse.mp hc)

/-- All of a text stands before a character that it does not have. -/
lemma before_eq_self {a : Char} {t : Text} (h : a ∉ t) : before a t = t :=
  List.takeWhile_eq_self_iff.mpr fun _ hc => bne_iff_ne.mpr fun hca => h (hca ▸ hc)

/-- What stands before a character `a`, when characters other than `a` are put behind the text. -/
lemma before_append_of_ne {a : Char} (t : Text) {s : Text} (h : ∀ c ∈ s, c ≠ a) :
    before a (t ++ s) = if a ∈ t then before a t else before a t ++ s := by
  have hs : s.takeWhile (· != a) = s := by
    rw [List.takeWhile_eq_self_iff]
    exact fun c hc => bne_iff_ne.mpr (h c hc)
  unfold before
  rw [List.takeWhile_append, hs]
  by_cases ha : a ∈ t
  · have hlt : (t.takeWhile (· != a)).length ≠ t.length := by
      intro heq
      have hself := (List.takeWhile_prefix (· != a) (l := t)).eq_of_length heq
      have := List.takeWhile_eq_self_iff.mp hself a ha
      exact bne_iff_ne.mp this rfl
    rw [if_neg hlt, if_pos ha]
  · have hself : t.takeWhile (· != a) = t := before_eq_self ha
    rw [hself, if_pos rfl, if_neg ha]

/-- The fields in front of a comment do not depend on the line breaks at the end of the line. -/
theorem fields_before_dropBreaks (line : Text) :
    fields (before '#' (dropBreaks line)) = fields (before '#' line) := by
  obtain ⟨s, hline, hs⟩ := exists_eq_dropEndWhile_append (fun c => c == '\r' || c == '\n') line
  have hbreak : ∀ c ∈ s, c = '\r' ∨ c = '\n' := fun c hc => by simpa using hs c hc
  have hblank : ∀ c ∈ s, isBlank c = true := by
    intro c hc
    rcases hbreak c hc with rfl | rfl <;> decide
  have hne : ∀ c ∈ s, c ≠ '#' := by
    intro c hc
    rcases hbreak c hc with rfl | rfl <;> decide
  have hbefore : before '#' line = if '#' ∈ dropBreaks line then before '#' (dropBreaks line)
      else before '#' (dropBreaks line) ++ s :=
    (congrArg (before '#') hline).trans (before_append_of_ne (dropBreaks line) hne)
  rw [hbefore]
  split
  · rfl
  · rw [fields_append_of_blank _ hblank]

end Text

end LittleMan
