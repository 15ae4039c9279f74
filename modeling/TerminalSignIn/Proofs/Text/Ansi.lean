import TerminalSignIn.Proofs.Text.Normal

/-!
# ANSI escape sequences in a message

A control sequence, an operating system command and an escape of two characters are left out as a whole. An escape with
intermediate characters is longer than that, and all but the first of its intermediates stay in the message.
-/

namespace TerminalSignIn

namespace Text

def isWithin (first last : Nat) (char : Char) : Bool :=
  first ≤ char.toNat && char.toNat ≤ last

def isParameter (char : Char) : Bool :=
  isWithin 0x30 0x3F char

def isIntermediate (char : Char) : Bool :=
  isWithin 0x20 0x2F char

def isShortEnd (char : Char) : Bool :=
  isWithin 0x30 0x7E char

/-- The characters that open sequences of other forms right behind the escape character. -/
def introducers : Text := "[]PX^_".toList

/-- An escape sequence of one of three forms of the ANSI grammar. -/
inductive AnsiEscape where
  | control (parameters intermediates : Text) (last : Char)
      (areParameters : ∀ char ∈ parameters, isParameter char = true)
      (areIntermediates : ∀ char ∈ intermediates, isIntermediate char = true) (ends : isSequenceEnd last = true)
  | command (body ending : Text) (noBell : bell ∉ body) (noEscape : escape ∉ body) (ends : IsCommandEnd ending)
  | short (intermediates : Text) (last : Char)
      (areIntermediates : ∀ char ∈ intermediates, isIntermediate char = true) (ends : isShortEnd last = true)
      (unopened : intermediates = [] → last ∉ introducers)

namespace AnsiEscape

def toText : AnsiEscape → Text
  | control parameters intermediates last .. => escape :: '[' :: (parameters ++ intermediates ++ [last])
  | command body ending .. => escape :: ']' :: (body ++ ending)
  | short intermediates last .. => escape :: (intermediates ++ [last])

def residue : AnsiEscape → Text
  | short (_ :: intermediates) last .. => intermediates ++ [last]
  | _ => []

end AnsiEscape

theorem isWithin_iff {first last : Nat} {char : Char} :
    isWithin first last char = true ↔ first ≤ char.toNat ∧ char.toNat ≤ last := by
  rw [isWithin, Bool.and_eq_true, decide_eq_true_eq, decide_eq_true_eq]

theorem isSequenceEnd_of_isWithin {first last : Nat} {char : Char} (within : isWithin first last char = true)
    (below : last < 0x40) : isSequenceEnd char = false := by
  have bounds := isWithin_iff.mp within
  simp only [isSequenceEnd, Bool.and_eq_false_iff, decide_eq_false_iff_not]
  omega

theorem isPrintable_of_isShortEnd {char : Char} (ends : isShortEnd char = true) : isPrintable char = true := by
  have bounds := isWithin_iff.mp ends
  simp [isPrintable, isBlank, isControl]
  omega

theorem ne_of_isIntermediate {char other : Char} (intermediate : isIntermediate char = true)
    (differs : isIntermediate other = false) : char ≠ other := by
  rintro rfl
  rw [differs] at intermediate
  contradiction

theorem unended_of_notMem {text : Text} (noBell : bell ∉ text) (noEscape : escape ∉ text) : Unended text := by
  refine ⟨noBell, fun ends => noEscape ?_⟩
  exact ends.subset List.mem_cons_self

namespace AnsiEscape

theorem escape_notMem_residue (sequence : AnsiEscape) : escape ∉ sequence.residue := by
  match sequence with
  | control .. => exact List.not_mem_nil
  | command .. => exact List.not_mem_nil
  | short [] .. => exact List.not_mem_nil
  | short (first :: intermediates) last areIntermediates ends _ =>
    intro member
    rcases List.mem_append.mp member with inside | isLast
    · exact ne_of_isIntermediate (areIntermediates escape (List.mem_cons_of_mem _ inside)) (by decide) rfl
    · rw [← List.mem_singleton.mp isLast] at ends
      exact absurd ends (by decide)

/-- Sequences that leave nothing are removed as a whole; of the others the first two characters are. -/
theorem token_of_toText (sequence : AnsiEscape) :
    ∃ token, EscapeToken token ∧ sequence.toText = token ++ sequence.residue := by
  match sequence with
  | control parameters intermediates last areParameters areIntermediates ends =>
    refine ⟨_, @EscapeToken.sequence (parameters ++ intermediates) last ?_ ends, by simp [toText, residue]⟩
    intro char member
    rcases List.mem_append.mp member with parameter | intermediate
    · exact isSequenceEnd_of_isWithin (areParameters char parameter) (by decide)
    · exact isSequenceEnd_of_isWithin (areIntermediates char intermediate) (by decide)
  | command body ending noBell noEscape ends =>
    exact ⟨_, .command (unended_of_notMem noBell noEscape) ends, by simp [toText, residue]⟩
  | short [] last _ _ unopened =>
    have other : last ∉ introducers := unopened rfl
    refine ⟨[escape, last], .single ?_ ?_, by simp [toText, residue]⟩
    · rintro rfl
      exact other (by decide)
    · rintro rfl
      exact other (by decide)
  | short (first :: intermediates) last areIntermediates _ _ =>
    have intermediate := areIntermediates first List.mem_cons_self
    exact ⟨[escape, first], .single (ne_of_isIntermediate intermediate (by decide))
      (ne_of_isIntermediate intermediate (by decide)), by simp [toText, residue]⟩

theorem stripEscapes_inserted (sequence : AnsiEscape) {before after : Text} (plainBefore : escape ∉ before)
    (plainAfter : escape ∉ after) :
    stripEscapes (before ++ sequence.toText ++ after) = before ++ sequence.residue ++ after := by
  obtain ⟨token, whole, parts⟩ := sequence.token_of_toText
  have behind := stripEscapes_append_of_notMem sequence.escape_notMem_residue after
  rw [List.append_assoc, stripEscapes_append_of_notMem plainBefore, parts, List.append_assoc, stripEscapes,
    whole.stripFrom_append, ← stripEscapes, behind, stripEscapes_of_notMem plainAfter, List.append_assoc]

theorem residue_eq_nil_or_printable (sequence : AnsiEscape) :
    sequence.residue = [] ∨ ∃ char ∈ sequence.residue, isPrintable char = true := by
  match sequence with
  | control .. => exact .inl rfl
  | command .. => exact .inl rfl
  | short [] .. => exact .inl rfl
  | short (_ :: intermediates) last _ ends _ =>
    exact .inr ⟨last, List.mem_append_right intermediates List.mem_cons_self, isPrintable_of_isShortEnd ends⟩

/-- In any text without other escapes a sequence is displayed as what is left of it, so it leaves no trace anywhere
exactly if nothing is left of it. -/
theorem traceless_iff (sequence : AnsiEscape) :
    (∀ before after : Text, escape ∉ before → escape ∉ after →
      display (before ++ sequence.toText ++ after) = display (before ++ sequence.residue ++ after)) ∧
    ((∀ before after : Text, escape ∉ before → escape ∉ after →
      display (before ++ sequence.toText ++ after) = display (before ++ after)) ↔ sequence.residue = []) := by
  have shown : ∀ before after : Text, escape ∉ before → escape ∉ after →
      display (before ++ sequence.toText ++ after) = display (before ++ sequence.residue ++ after) := by
    intro before after plainBefore plainAfter
    apply display_congr
    rw [sequence.stripEscapes_inserted plainBefore plainAfter, stripEscapes_of_notMem]
    simp [plainBefore, plainAfter, sequence.escape_notMem_residue]
  refine ⟨shown, fun traceless => ?_, fun nothing before after plainBefore plainAfter => ?_⟩
  · have alone : display sequence.residue = [] := by
      have same := shown [] [] List.not_mem_nil List.not_mem_nil
      rw [traceless [] [] List.not_mem_nil List.not_mem_nil, List.nil_append, List.append_nil] at same
      exact same.symm
    apply sequence.residue_eq_nil_or_printable.resolve_right
    rintro ⟨char, member, printable⟩
    have hidden := isPrintable_of_display_eq_nil sequence.escape_notMem_residue alone char member
    rw [printable] at hidden
    contradiction
  · rw [shown before after plainBefore plainAfter, nothing, List.append_nil]

/-- A color between two words leaves no trace, and a change of the character set leaves its last letter. -/
theorem traceless_iff_at_letter :
    (∃ sequence : AnsiEscape, sequence.toText = "\x1b[1;31m".toList ∧ sequence.residue = [] ∧
      display ("Locked ".toList ++ sequence.toText ++ "out".toList) = display ("Locked ".toList ++ "out".toList)) ∧
    ∃ sequence : AnsiEscape, sequence.toText = "\x1b(B".toList ∧ sequence.residue = "B".toList ∧
      display ("Locked ".toList ++ sequence.toText ++ "out".toList) = "Locked Bout".toList ∧
      ¬ ∀ before after : Text, escape ∉ before → escape ∉ after →
        display (before ++ sequence.toText ++ after) = display (before ++ after) := by
  constructor
  · refine ⟨control ['1', ';', '3', '1'] [] 'm' (by simp [isParameter, isWithin]) (by simp) (by decide), rfl, rfl, ?_⟩
    exact (traceless_iff _).2.mpr rfl _ _ (by decide) (by decide)
  · refine ⟨short ['('] 'B' (by simp [isIntermediate, isWithin]) (by decide) nofun, rfl, rfl, ?_, ?_⟩
    · rw [(traceless_iff _).1 _ _ (by decide) (by decide)]
      decide
    · rw [(traceless_iff _).2]
      decide

end AnsiEscape

end Text

end TerminalSignIn
