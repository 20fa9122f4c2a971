import LittleMan.Proofs.Text.Fields

/-!
# Other fields in a text

A text is made up of blanks and fields, and it can be taken apart at its front: it is empty, or it
opens with a blank, or it opens with a whole field (`fields_induction`).

A text can be given other fields in the place of its own, the blanks staying what they are
(`refill`). With as many fields as it had, the text then has these fields (`fields_refill`), and
with its own ones it is the same text (`refill_fields`).
-/

namespace LittleMan

namespace Text

/-- The text can be a field: it is not empty and has no blanks. -/
structure IsField (t : Text) : Prop where
  ne_nil : t ≠ []
  not_blank : ∀ c ∈ t, isBlank c = false

/-- A field can end in front of the text: there is nothing more, or a blank. -/
def EndsField (t : Text) : Prop :=
  ∀ c ∈ t.head?, isBlank c = true

section

variable {b : Char} {w rest : Text} {new : List Text}

/-- A field can end in front of a blank. -/
lemma endsField_blank_cons (hb : isBlank b = true) (rest : Text) : EndsField (b :: rest) :=
  fun _ hc => Option.some.inj hc ▸ hb

/-- A text that opens with a field. -/
lemma fields_field_append (hw : IsField w) (hrest : EndsField rest) :
    fields (w ++ rest) = w :: fields rest := by
  cases rest with
  | nil => rw [List.append_nil, fields_nil, fields_eq_singleton hw.ne_nil hw.not_blank]
  | cons b rest =>
    have hb : isBlank b = true := hrest b rfl
    have hsingle : fields w = [w] := fields_eq_singleton hw.ne_nil hw.not_blank
    rw [fields_append_blank_cons hb, fields_blank_cons hb, hsingle, List.singleton_append]

/-- Fields with a blank between neighbours make a text that has these fields. -/
lemma fields_intercalate (hb : isBlank b = true) {parts : List Text}
    (hparts : ∀ part ∈ parts, IsField part) : fields (List.intercalate [b] parts) = parts := by
  induction parts with
  | nil => exact fields_nil
  | cons part parts ih =>
    obtain ⟨hpart, hparts⟩ := List.forall_mem_cons.mp hparts
    cases parts with
    | nil => rw [List.intercalate_singleton, fields_eq_singleton hpart.ne_nil hpart.not_blank]
    | cons part' parts =>
      rw [List.intercalate_cons_cons, List.append_assoc, List.singleton_append,
        fields_field_append hpart (endsField_blank_cons hb _), fields_blank_cons hb, ih hparts]

/-- Induction on a text from its front, a blank or a whole field at a time. -/
theorem fields_induction {motive : Text → Prop} (nil : motive [])
    (blank : ∀ b rest, isBlank b = true → motive rest → motive (b :: rest))
    (field : ∀ w rest, IsField w → EndsField rest → motive rest → motive (w ++ rest)) (t : Text) :
    motive t := by
  induction hlength : t.length using Nat.strong_induction_on generalizing t with
  | _ n ih =>
    cases t with
    | nil => exact nil
    | cons c rest =>
      cases hc : isBlank c with
      | true =>
        have hlt : rest.length < n := by
          rw [← hlength]
          exact Nat.lt_succ_self rest.length
        exact blank c rest hc (ih rest.length hlt rest rfl)
      | false =>
        let p : Char → Bool := fun d => !isBlank d
        have hsplit : c :: rest = (c :: rest.takeWhile p) ++ rest.dropWhile p := by
          rw [List.cons_append, List.takeWhile_append_dropWhile]
        have hlt : (rest.dropWhile p).length < n := by
          have hle : (rest.dropWhile p).length ≤ rest.length := rest.length_dropWhile_le p
          rw [List.length_cons] at hlength
          omega
        have hw : IsField (c :: rest.takeWhile p) := by
          refine ⟨List.cons_ne_nil _ _, fun d hd => ?_⟩
          rcases List.mem_cons.mp hd with rfl | hd
          · exact hc
          · simpa [p] using List.mem_takeWhile_imp hd
        have hrest : EndsField (rest.dropWhile p) := by
          intro d hd
          have hstop := List.head?_dropWhile_not p rest
          rw [hd] at hstop
          simpa [p] using hstop
        rw [hsplit]
        exact field _ _ hw hrest (ih _ hlt _ rfl)

/-- The fields of a text can be fields, and all of their characters are in the text. -/
theorem isField_of_mem_fields (t : Text) :
    ∀ w ∈ fields t, IsField w ∧ ∀ c ∈ w, c ∈ t := by
  induction t using fields_induction with
  | nil => simp
  | blank b rest hb ih =>
    rw [fields_blank_cons hb]
    intro w hw
    obtain ⟨hfield, hmem⟩ := ih w hw
    exact ⟨hfield, fun c hc => List.mem_cons_of_mem b (hmem c hc)⟩
  | field w rest hw hrest ih =>
    rw [fields_field_append hw hrest]
    intro w' hw'
    rcases List.mem_cons.mp hw' with rfl | hw'
    · exact ⟨hw, fun c hc => List.mem_append_left rest hc⟩
    · obtain ⟨hfield, hmem⟩ := ih w' hw'
      exact ⟨hfield, fun c hc => List.mem_append_right w (hmem c hc)⟩

/-! ### Refilling -/

/-- The text with other fields, from a place on that is inside a field or not. -/
def refillFrom : Bool → List Text → Text → Text
  | _, _, [] => []
  | inside, new, c :: rest =>
    if isBlank c then c :: refillFrom false new rest
    else if inside then refillFrom true new rest
    else new.headD [] ++ refillFrom true new.tail rest

/-- The text with other fields in the place of its own, one after the other, and with the same
blanks. -/
def refill (new : List Text) (t : Text) : Text :=
  refillFrom false new t

lemma refill_nil (new : List Text) : refill new [] = [] := rfl

/-- Blanks stay. -/
lemma refill_blank_cons (hb : isBlank b = true) :
    refill new (b :: rest) = b :: refill new rest := by
  unfold refill
  rw [refillFrom, if_pos hb]

/-- What is left of a field is passed over. -/
lemma refillFrom_true_append (hw : ∀ c ∈ w, isBlank c = false) (hrest : EndsField rest) :
    refillFrom true new (w ++ rest) = refill new rest := by
  induction w with
  | nil =>
    cases rest with
    | nil => rfl
    | cons b rest =>
      have hb : isBlank b = true := hrest b rfl
      rw [List.nil_append, refill_blank_cons hb, refillFrom, if_pos hb]
      rfl
  | cons c w ih =>
    have hc : isBlank c = false := hw c List.mem_cons_self
    rw [List.cons_append, refillFrom, hc, if_neg (by decide), if_pos rfl]
    exact ih fun d hd => hw d (List.mem_cons_of_mem c hd)

/-- The next field takes the place of a field. -/
lemma refill_field_append (hw : IsField w) (hrest : EndsField rest) (f : Text) :
    refill (f :: new) (w ++ rest) = f ++ refill new rest := by
  obtain ⟨c, w, rfl⟩ := List.exists_cons_of_ne_nil hw.ne_nil
  have hc : isBlank c = false := hw.not_blank c List.mem_cons_self
  have hw' : ∀ d ∈ w, isBlank d = false := fun d hd => hw.not_blank d (List.mem_cons_of_mem c hd)
  unfold refill
  rw [List.cons_append, refillFrom, hc, if_neg (by decide), if_neg (by decide)]
  exact congrArg (f ++ ·) (refillFrom_true_append hw' hrest)

/-- A field can still end in front of what was refilled. -/
lemma EndsField.refill (h : EndsField rest) (new : List Text) : EndsField (refill new rest) := by
  cases rest with
  | nil => exact h
  | cons b rest =>
    have hb : isBlank b = true := h b rfl
    rw [refill_blank_cons hb]
    exact h

/-- A text refilled with as many fields as it had has these fields. -/
theorem fields_refill (t : Text) {new : List Text} (hnew : ∀ f ∈ new, IsField f)
    (hlength : new.length = (fields t).length) : fields (refill new t) = new := by
  induction t using fields_induction generalizing new with
  | nil =>
    rw [fields_nil] at hlength
    rw [List.eq_nil_of_length_eq_zero hlength, refill_nil, fields_nil]
  | blank b rest hb ih =>
    rw [fields_blank_cons hb] at hlength
    rw [refill_blank_cons hb, fields_blank_cons hb, ih hnew hlength]
  | field w rest hw hrest ih =>
    rw [fields_field_append hw hrest] at hlength
    obtain ⟨f, new, rfl⟩ := List.exists_cons_of_length_eq_add_one hlength
    have hf : IsField f := hnew f List.mem_cons_self
    have hnew' : ∀ g ∈ new, IsField g := fun g hg => hnew g (List.mem_cons_of_mem f hg)
    rw [refill_field_append hw hrest, fields_field_append hf (hrest.refill new),
      ih hnew' (Nat.succ.inj hlength)]

/-- Refilled with its own fields a text is what it was. -/
theorem refill_fields (t : Text) : refill (fields t) t = t := by
  induction t using fields_induction with
  | nil => exact refill_nil _
  | blank b rest hb ih => rw [fields_blank_cons hb, refill_blank_cons hb, ih]
  | field w rest hw hrest ih =>
    rw [fields_field_append hw hrest, refill_field_append hw hrest, ih]

/-- All characters of a refilled text are its own or those of the new fields. -/
lemma mem_of_mem_refillFrom (inside : Bool) (t : Text) {c : Char}
    (h : c ∈ refillFrom inside new t) : c ∈ t ∨ ∃ f ∈ new, c ∈ f := by
  induction t generalizing inside new with
  | nil => exact absurd h List.not_mem_nil
  | cons d t ih =>
    unfold refillFrom at h
    split at h
    · rcases List.mem_cons.mp h with rfl | h
      · exact .inl List.mem_cons_self
      · exact (ih false h).imp_left (List.mem_cons_of_mem d)
    · split at h
      · exact (ih true h).imp_left (List.mem_cons_of_mem d)
      · cases new with
        | nil => exact (ih true h).imp_left (List.mem_cons_of_mem d)
        | cons f new =>
          rcases List.mem_append.mp h with h | h
          · exact .inr ⟨f, List.mem_cons_self, h⟩
          · rcases ih true h with h | ⟨g, hg, h⟩
            · exact .inl (List.mem_cons_of_mem d h)
            · exact .inr ⟨g, List.mem_cons_of_mem f hg, h⟩

end

end Text

end LittleMan
