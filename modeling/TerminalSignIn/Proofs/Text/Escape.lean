import TerminalSignIn.Text.Display

/-!
# What counts as an escape sequence

The reader of escape sequences goes through a text character by character. What it leaves out can be told without its
states: the text is a row of kept characters and of whole sequences, each of which is opened by the escape character
and ends as its kind asks for, or else with the text.
-/

namespace TerminalSignIn

namespace Text

def IsCommandEnd (text : Text) : Prop :=
  text = [bell] ∨ text = [escape, '\\']

structure Unended (text : Text) : Prop where
  bell : bell ∉ text
  escape : ¬ [escape, '\\'] <:+: text

inductive EscapeToken : Text → Prop where
  | sequence {body : Text} {last : Char} : (∀ char ∈ body, isSequenceEnd char = false) → isSequenceEnd last = true →
      EscapeToken (escape :: '[' :: (body ++ [last]))
  | command {body ending : Text} : Unended body → IsCommandEnd ending → EscapeToken (escape :: ']' :: (body ++ ending))
  | single {char : Char} : char ≠ '[' → char ≠ ']' → EscapeToken [escape, char]

inductive OpenEscape : Text → Prop where
  | sequence {body : Text} : (∀ char ∈ body, isSequenceEnd char = false) → OpenEscape (escape :: '[' :: body)
  | command {body : Text} : Unended body → OpenEscape (escape :: ']' :: body)
  | lone : OpenEscape [escape]

/-- From left to right, escape sequences are removed from the first text, and the second one is left. -/
inductive Stripped : Text → Text → Prop where
  | nil : Stripped [] []
  | kept {char : Char} {rest left : Text} : char ≠ escape → Stripped rest left → Stripped (char :: rest) (char :: left)
  | removed {token rest left : Text} : EscapeToken token → Stripped rest left → Stripped (token ++ rest) left
  | ended {token : Text} : OpenEscape token → Stripped token []

/-! ### The states of the reader -/

theorem stripFrom_plain_cons {char : Char} (differs : char ≠ escape) (rest : Text) :
    stripFrom .plain (char :: rest) = char :: stripFrom .plain rest := by
  simp [stripFrom, EscapeState.keeps, EscapeState.next, differs]

theorem stripFrom_sequence {body : Text} (inside : ∀ char ∈ body, isSequenceEnd char = false) (rest : Text) :
    stripFrom .sequence (body ++ rest) = stripFrom .sequence rest := by
  induction body with
  | nil => rfl
  | cons char body ih =>
    obtain ⟨here, later⟩ := List.forall_mem_cons.mp inside
    simp [stripFrom, EscapeState.keeps, EscapeState.next, here, ih later]

theorem unended_nil : Unended [] :=
  ⟨List.not_mem_nil, by simp⟩

theorem unended_cons {char : Char} {text : Text} :
    Unended (char :: text) ↔ char ≠ bell ∧ ¬ (char = escape ∧ text.head? = some '\\') ∧ Unended text := by
  have opens : [escape, '\\'] <+: char :: text ↔ char = escape ∧ text.head? = some '\\' := by
    cases text <;> simp [List.cons_prefix_cons, eq_comm]
  constructor
  · rintro ⟨noBell, noEnd⟩
    rw [List.mem_cons, not_or] at noBell
    rw [List.infix_cons_iff, not_or, opens] at noEnd
    exact ⟨Ne.symm noBell.1, noEnd.1, noBell.2, noEnd.2⟩
  · rintro ⟨differs, noOpening, noBell, noEnd⟩
    refine ⟨List.not_mem_cons_of_ne_of_not_mem (Ne.symm differs) noBell, ?_⟩
    rw [List.infix_cons_iff, not_or, opens]
    exact ⟨noOpening, noEnd⟩

/-- The reader is in a command; behind an escape character it also looks out for the backslash. -/
def InCommand (state : EscapeState) (text : Text) : Prop :=
  state = .command ∨ state = .commandEscape ∧ text.head? ≠ some '\\'

theorem stripFrom_command {state : EscapeState} {body : Text} (inside : InCommand state body) (unended : Unended body) :
    ∃ reached, (reached = .command ∨ reached = .commandEscape) ∧
      ∀ rest, stripFrom state (body ++ rest) = stripFrom reached rest := by
  induction body generalizing state with
  | nil =>
    refine ⟨state, ?_, fun rest => rfl⟩
    rcases inside with command | ⟨escaped, _⟩
    · exact .inl command
    · exact .inr escaped
  | cons char body ih =>
    obtain ⟨noBell, noOpening, unended⟩ := unended_cons.mp unended
    have next : InCommand (state.next char) body := by
      unfold InCommand EscapeState.next
      rcases inside with rfl | ⟨rfl, noBackslash⟩ <;> grind
    have skipped : state.keeps char = false := by
      rcases inside with rfl | ⟨rfl, _⟩ <;> rfl
    obtain ⟨reached, command, same⟩ := ih next unended
    refine ⟨reached, command, fun rest => ?_⟩
    rw [List.cons_append, stripFrom, skipped]
    exact same rest

theorem stripFrom_commandEnd {state : EscapeState} (command : state = .command ∨ state = .commandEscape)
    {ending : Text} (ends : IsCommandEnd ending) (rest : Text) :
    stripFrom state (ending ++ rest) = stripFrom .plain rest := by
  rcases command with rfl | rfl <;> rcases ends with rfl | rfl <;> rfl

/-! ### Whole sequences and open ones -/

theorem EscapeToken.stripFrom_append {token : Text} (whole : EscapeToken token) (rest : Text) :
    stripFrom .plain (token ++ rest) = stripFrom .plain rest := by
  cases whole with
  | @sequence body last inside ends =>
    change stripFrom .sequence (body ++ [last] ++ rest) = _
    rw [List.append_assoc, stripFrom_sequence inside]
    simp [stripFrom, EscapeState.keeps, EscapeState.next, ends]
  | @command body ending unended ends =>
    change stripFrom .command (body ++ ending ++ rest) = _
    obtain ⟨reached, command, same⟩ := stripFrom_command (.inl rfl) unended
    rw [List.append_assoc, same, stripFrom_commandEnd command ends]
  | single noSequence noCommand =>
    simp [stripFrom, EscapeState.keeps, EscapeState.next, noSequence, noCommand]

theorem OpenEscape.stripFrom_eq_nil {token : Text} (opened : OpenEscape token) : stripFrom .plain token = [] := by
  cases opened with
  | @sequence body inside =>
    change stripFrom .sequence body = []
    rw [← List.append_nil body]
    exact stripFrom_sequence inside []
  | @command body unended =>
    change stripFrom .command body = []
    obtain ⟨reached, _, same⟩ := stripFrom_command (.inl rfl) unended
    rw [← List.append_nil body]
    exact same []
  | lone => rfl

/-! ### Every text is such a row -/

theorem unended_or_exists (text : Text) :
    Unended text ∨ ∃ body ending rest, Unended body ∧ IsCommandEnd ending ∧ text = body ++ ending ++ rest := by
  induction text with
  | nil => exact .inl unended_nil
  | cons char text ih =>
    by_cases noBell : char = bell
    · exact .inr ⟨[], [char], text, unended_nil, .inl (by rw [noBell]), rfl⟩
    by_cases opens : char = escape ∧ text.head? = some '\\'
    · obtain ⟨rest, rfl⟩ := List.head?_eq_some_iff.mp opens.2
      exact .inr ⟨[], [char, '\\'], rest, unended_nil, .inr (by rw [opens.1]), rfl⟩
    rcases ih with unended | ⟨body, ending, rest, unended, ends, rfl⟩
    · exact .inl (unended_cons.mpr ⟨noBell, opens, unended⟩)
    · refine .inr ⟨char :: body, ending, rest, unended_cons.mpr ⟨noBell, ?_, unended⟩, ends, rfl⟩
      -- A backslash in front of the body is also in front of the whole text.
      rintro ⟨isEscape, backslash⟩
      refine opens ⟨isEscape, ?_⟩
      rw [List.head?_append, List.head?_append, backslash, Option.some_or, Option.some_or]

theorem openEscape_or_exists (text : Text) :
    OpenEscape (escape :: text) ∨ ∃ token rest, EscapeToken token ∧ escape :: text = token ++ rest := by
  cases text with
  | nil => exact .inl .lone
  | cons char text =>
    by_cases sequence : char = '['
    · subst sequence
      cases found : text.find? isSequenceEnd with
      | none =>
        rw [List.find?_eq_none] at found
        exact .inl (.sequence (by simpa using found))
      | some last =>
        obtain ⟨ends, body, rest, rfl, inside⟩ := List.find?_eq_some_iff_append.mp found
        exact .inr ⟨_, rest, .sequence (by simpa using inside) ends, by simp⟩
    by_cases command : char = ']'
    · subst command
      rcases unended_or_exists text with unended | ⟨body, ending, rest, unended, ends, rfl⟩
      · exact .inl (.command unended)
      · exact .inr ⟨_, rest, .command unended ends, rfl⟩
    · exact .inr ⟨[escape, char], text, .single sequence command, rfl⟩

theorem EscapeToken.length_pos {token : Text} (whole : EscapeToken token) : 0 < token.length := by
  cases whole <;> exact Nat.succ_pos _

theorem stripped_stripEscapes (text : Text) : Stripped text text.stripEscapes := by
  match text with
  | [] => exact .nil
  | char :: rest =>
    by_cases kept : char = escape
    · subst kept
      rcases openEscape_or_exists rest with opened | ⟨token, behind, whole, parts⟩
      · rw [stripEscapes, opened.stripFrom_eq_nil]
        exact .ended opened
      · have shorter : behind.length < rest.length + 1 := by
          have positive := whole.length_pos
          rw [← List.length_cons, parts, List.length_append]
          omega
        rw [parts, stripEscapes, whole.stripFrom_append]
        exact .removed whole (stripped_stripEscapes behind)
    · rw [stripEscapes, stripFrom_plain_cons kept]
      exact .kept kept (stripped_stripEscapes rest)
termination_by text.length

/-- What is left of a text is told by the grammar of escape sequences alone. -/
theorem stripped_iff {text left : Text} : Stripped text left ↔ left = text.stripEscapes := by
  constructor
  · intro stripped
    induction stripped with
    | nil => rfl
    | kept differs _ ih => rw [stripEscapes, stripFrom_plain_cons differs, ih, stripEscapes]
    | removed whole _ ih => rw [stripEscapes, whole.stripFrom_append, ih, stripEscapes]
    | ended opened => rw [stripEscapes, opened.stripFrom_eq_nil]
  · rintro rfl
    exact stripped_stripEscapes text

/-! ### Texts without the escape character -/

theorem stripEscapes_append_of_notMem {before : Text} (plain : escape ∉ before) (rest : Text) :
    stripEscapes (before ++ rest) = before ++ stripEscapes rest := by
  induction before with
  | nil => rfl
  | cons char before ih =>
    rw [List.mem_cons, not_or] at plain
    rw [List.cons_append, stripEscapes, stripFrom_plain_cons (Ne.symm plain.1), ← stripEscapes, ih plain.2,
      List.cons_append]

theorem stripEscapes_of_notMem {text : Text} (plain : escape ∉ text) : stripEscapes text = text := by
  have whole := stripEscapes_append_of_notMem plain []
  rw [List.append_nil] at whole
  rw [whole]
  exact List.append_nil text

theorem escape_notMem_stripFrom (state : EscapeState) (text : Text) : escape ∉ stripFrom state text := by
  induction text generalizing state with
  | nil => exact List.not_mem_nil
  | cons char rest ih =>
    rw [stripFrom]
    split
    next kept =>
      have differs : char ≠ escape := by simp_all [EscapeState.keeps]
      exact List.not_mem_cons_of_ne_of_not_mem (Ne.symm differs) (ih _)
    · exact ih _

end Text

end TerminalSignIn
