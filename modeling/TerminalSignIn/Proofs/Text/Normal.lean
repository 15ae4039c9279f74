import TerminalSignIn.Proofs.Text.Display
import TerminalSignIn.Proofs.Text.Escape
import TerminalSignIn.Proofs.Text.Pieces

/-!
# The display form, stage by stage

Display goes over a message once. It comes to the same as three passes, the first of which removes the escape sequences
and the second the control characters, while the third puts single spaces between the words that are left. So what is
displayed is one line of printable characters with single spaces inside it. Only a line of more than `displayLimit`
characters is cut, and then it is exactly as long as the limit allows and ends in an ellipsis.
-/

namespace TerminalSignIn

namespace Text

def line (message : Text) : Text :=
  join [' '] message.stripEscapes.dropControls.words

/-! ### Words -/

theorem words_cons_of_blank {char : Char} (blank : isBlank char = true) (rest : Text) :
    words (char :: rest) = words rest := by
  rw [words.eq_def]
  exact if_pos blank

theorem words_cons_of_not_blank {char : Char} (visible : isBlank char = false) (rest : Text) :
    words (char :: rest) = (char :: rest.takeWhile (!isBlank ·)) :: words (rest.dropWhile (!isBlank ·)) := by
  induction rest generalizing char with
  | nil =>
    rw [words.eq_def]
    simp only [visible]
    rfl
  | cons following rest ih =>
    rw [words.eq_def]
    dsimp only
    rw [if_neg (by simp [visible])]
    by_cases blank : isBlank following = true
    · simp [blank]
    · rw [Bool.not_eq_true] at blank
      rw [if_neg (by simp [blank]), ih blank]
      simp [blank]

/-- Words are what stands between blanks, unless nothing does. -/
theorem words_eq (text : Text) : words text = (text.splitOnP isBlank).filter (· ≠ []) := by
  induction text with
  | nil => rfl
  | cons char rest ih =>
    rw [List.splitOnP_cons_eq_if_modifyHead]
    by_cases blank : isBlank char = true
    · rw [words_cons_of_blank blank, ih, if_pos blank]
      simp
    rw [if_neg blank, words.eq_def]
    dsimp only
    rw [if_neg blank]
    cases rest with
    | nil => simp
    | cons following rest =>
      dsimp only
      rw [ih, List.splitOnP_cons_eq_if_modifyHead]
      by_cases ends : isBlank following = true
      · simp [ends]
      · obtain ⟨first, others, pieces⟩ := List.exists_cons_of_ne_nil (List.splitOnP_ne_nil isBlank rest)
        rw [if_neg ends, if_neg ends, pieces]
        simp

/-! ### One pass -/

theorem collapse_cons {char : Char} (differs : char ≠ escape) (started gap : Bool) (rest : Text) :
    collapse .plain started gap (char :: rest) =
      if isBlank char then collapse .plain started started rest
      else if isControl char then collapse .plain started gap rest
      else if gap then ' ' :: char :: collapse .plain true false rest
      else char :: collapse .plain true false rest := by
  simp [collapse, EscapeState.keeps, EscapeState.next, differs]

theorem collapse_stripFrom (state : EscapeState) (started gap : Bool) (text : Text) :
    collapse state started gap text = collapse .plain started gap (stripFrom state text) := by
  induction text generalizing state started gap with
  | nil => rfl
  | cons char rest ih =>
    by_cases kept : state.keeps char = true
    · obtain ⟨rfl, differs⟩ : state = .plain ∧ char ≠ escape := by simpa [EscapeState.keeps] using kept
      rw [stripFrom_plain_cons differs, collapse_cons differs, collapse_cons differs]
      simp only [← ih]
    · rw [stripFrom, if_neg kept, ← ih, collapse]
      simp [kept]

theorem collapse_dropControls {text : Text} (plain : escape ∉ text) (started gap : Bool) :
    collapse .plain started gap text = collapse .plain started gap text.dropControls := by
  induction text generalizing started gap with
  | nil => rfl
  | cons char rest ih =>
    rw [List.mem_cons, not_or] at plain
    obtain ⟨differs, plain⟩ := plain
    rw [collapse_cons (Ne.symm differs), dropControls, List.filter_cons, ← dropControls]
    by_cases dropped : (isBlank char || !isControl char) = true
    · rw [if_pos dropped, collapse_cons (Ne.symm differs)]
      simp only [← ih plain]
    · obtain ⟨visible, control⟩ : isBlank char = false ∧ isControl char = true := by simpa using dropped
      rw [if_neg dropped, visible, control, ← ih plain]
      rfl

/-- Once something was written, the rest of a word comes first, unless a space is due, and a space before each word. -/
theorem collapse_started {text : Text} (plain : escape ∉ text)
    (shown : ∀ char ∈ text, isBlank char = true ∨ isControl char = false) :
    collapse .plain true true text = (words text).flatMap (' ' :: ·) ∧
    collapse .plain true false text =
      text.takeWhile (!isBlank ·) ++ (words (text.dropWhile (!isBlank ·))).flatMap (' ' :: ·) := by
  induction text with
  | nil => exact ⟨rfl, rfl⟩
  | cons char rest ih =>
    rw [List.mem_cons, not_or] at plain
    obtain ⟨differs, plain⟩ := plain
    obtain ⟨here, later⟩ := List.forall_mem_cons.mp shown
    obtain ⟨spaced, continued⟩ := ih plain later
    rw [collapse_cons (Ne.symm differs), collapse_cons (Ne.symm differs)]
    by_cases blank : isBlank char = true
    · simp [blank, spaced, words_cons_of_blank blank]
    · rw [Bool.not_eq_true] at blank
      have printed : isControl char = false := here.resolve_left (by simp [blank])
      simp [blank, printed, continued, words_cons_of_not_blank blank]

theorem collapse_unstarted {text : Text} (plain : escape ∉ text)
    (shown : ∀ char ∈ text, isBlank char = true ∨ isControl char = false) :
    collapse .plain false false text = join [' '] (words text) := by
  induction text with
  | nil => rfl
  | cons char rest ih =>
    rw [List.mem_cons, not_or] at plain
    obtain ⟨differs, plain⟩ := plain
    obtain ⟨here, later⟩ := List.forall_mem_cons.mp shown
    rw [collapse_cons (Ne.symm differs)]
    by_cases blank : isBlank char = true
    · rw [if_pos blank, ih plain later, words_cons_of_blank blank]
    · rw [Bool.not_eq_true] at blank
      have printed : isControl char = false := here.resolve_left (by simp [blank])
      rw [words_cons_of_not_blank blank, join_cons, (collapse_started plain later).2, blank, printed]
      simp [List.flatMap_def]

theorem collapse_eq_line (message : Text) : collapse .plain false false message = message.line := by
  have plain : escape ∉ message.stripEscapes := escape_notMem_stripFrom .plain message
  have stillPlain : escape ∉ message.stripEscapes.dropControls := fun member => plain (List.mem_filter.mp member).1
  have shown : ∀ char ∈ message.stripEscapes.dropControls, isBlank char = true ∨ isControl char = false := by
    intro char member
    simpa using (List.mem_filter.mp member).2
  rw [collapse_stripFrom, ← stripEscapes, collapse_dropControls plain, collapse_unstarted stillPlain shown, line]

theorem display_eq_truncate_line (message : Text) : message.display = truncate displayLimit message.line := by
  rw [display, collapse_eq_line]

theorem display_congr {message other : Text} (same : message.stripEscapes = other.stripEscapes) :
    message.display = other.display := by
  rw [display_eq_truncate_line, display_eq_truncate_line, line, line, same]

/-- A message is displayed in three stages: escape sequences are removed from left to right, then the control
characters that are not blank, and what then stands between blanks is joined by single spaces and cut. -/
theorem display_in_stages (message : Text) :
    (∀ left, Stripped message left ↔ left = message.stripEscapes) ∧
    message.display = truncate displayLimit (join [' ']
      (((message.stripEscapes.filter fun char => isBlank char || !isControl char).splitOnP isBlank).filter
        (· ≠ []))) := by
  refine ⟨fun left => stripped_iff, ?_⟩
  rw [display_eq_truncate_line, line, words_eq, dropControls]

/-! ### The normal form -/

theorem Tidy.head?_ne_space {text : Text} (tidy : Tidy text) : text.head? ≠ some ' ' := by
  cases tidy with
  | nil => exact nofun
  | cons printable _ =>
    intro space
    exact ne_space_of_isPrintable printable (Option.some.inj space)

theorem Tidy.getLast?_ne_space {text : Text} (tidy : Tidy text) : text.getLast? ≠ some ' ' := by
  intro space
  have filled : text ≠ [] := by
    rintro rfl
    contradiction
  have printable := tidy.flows.getLast filled
  rw [List.getLast?_eq_some_getLast filled] at space
  exact ne_space_of_isPrintable printable (Option.some.inj space)

theorem Flows.single_spaces {text : Text} (flows : Flows text) : ¬ [' ', ' '] <:+: text := by
  induction flows with
  | nil => simp
  | @printable char rest printable _ ih =>
    rw [List.infix_cons_iff, not_or, List.cons_prefix_cons]
    exact ⟨fun starts => ne_space_of_isPrintable printable starts.1.symm, ih⟩
  | @spaced char rest printable _ ih =>
    rw [List.infix_cons_iff, not_or, List.cons_prefix_cons, List.cons_prefix_cons, List.infix_cons_iff, not_or,
      List.cons_prefix_cons]
    exact ⟨fun starts => ne_space_of_isPrintable printable starts.2.1.symm,
      fun starts => ne_space_of_isPrintable printable starts.1.symm, ih⟩

theorem tidy_line (message : Text) : Tidy message.line := by
  rw [← collapse_eq_line]
  exact tidy_collapse .plain message

theorem display_of_le {message : Text} (fits : message.line.length ≤ displayLimit) :
    message.display = message.line := by
  have trimmed := (tidy_line message).trim
  rw [display_eq_truncate_line, truncate_of_le, trimmed]
  rw [trimmed]
  exact fits

theorem display_of_lt {message : Text} (long : displayLimit < message.line.length) :
    message.display = message.line.take (displayLimit - ellipsis.length) ++ ellipsis ∧
      message.display.length = displayLimit := by
  have trimmed := (tidy_line message).trim
  have limit : max displayLimit ellipsis.length = displayLimit := by decide
  have cut : max displayLimit ellipsis.length < message.line.trim.length := by rwa [limit, trimmed]
  constructor
  · rw [display_eq_truncate_line, truncate_of_lt cut, limit, trimmed]
  · rw [display_eq_truncate_line, length_truncate_of_lt cut, limit]

theorem isPrintable_of_collapse_eq_nil {text : Text} (plain : escape ∉ text) {started gap : Bool}
    (nothing : collapse .plain started gap text = []) : ∀ char ∈ text, isPrintable char = false := by
  induction text generalizing started gap with
  | nil => exact fun _ member => absurd member List.not_mem_nil
  | cons char rest ih =>
    rw [List.mem_cons, not_or] at plain
    rw [collapse_cons (Ne.symm plain.1)] at nothing
    rw [List.forall_mem_cons]
    split at nothing
    next blank => exact ⟨by simp [isPrintable, blank], ih plain.2 nothing⟩
    split at nothing
    next control => exact ⟨by simp [isPrintable, control], ih plain.2 nothing⟩
    split at nothing <;> contradiction

theorem isPrintable_of_display_eq_nil {message : Text} (plain : escape ∉ message) (nothing : message.display = []) :
    ∀ char ∈ message, isPrintable char = false := by
  have empty : collapse .plain false false message = [] := by
    rw [collapse_eq_line]
    rcases Nat.lt_or_ge displayLimit message.line.length with long | fits
    · have full := (display_of_lt long).2
      rw [nothing] at full
      exact absurd full (by decide)
    · rw [← display_of_le fits, nothing]
  exact isPrintable_of_collapse_eq_nil plain empty

/-- Whatever the message, its display form is short, is one line of printable characters, and has single spaces only
inside it. It is the whole line, unless that is too long and is cut to the limit, and displaying it again changes
nothing. -/
theorem display_normal (message : Text) :
    message.display.length ≤ displayLimit ∧
    (∀ char ∈ message.display, isControl char = false ∧ (isBlank char = true → char = ' ')) ∧
    message.display.head? ≠ some ' ' ∧ message.display.getLast? ≠ some ' ' ∧
    ¬ [' ', ' '] <:+: message.display ∧
    (message.line.length ≤ displayLimit ∧ message.display = message.line ∨
      displayLimit < message.line.length ∧ message.display.length = displayLimit ∧
        message.display = message.line.take (displayLimit - ellipsis.length) ++ ellipsis) ∧
    message.display.display = message.display := by
  have tidy := tidy_display message
  refine ⟨length_display_le message, ?_, tidy.head?_ne_space, tidy.getLast?_ne_space, tidy.flows.single_spaces, ?_,
    display_display message⟩
  · intro char member
    rcases tidy.flows.mem member with printable | rfl
    · obtain ⟨visible, printed⟩ := isPrintable_iff.mp printable
      exact ⟨printed, fun blank => absurd blank (by simp [visible])⟩
    · exact ⟨by decide, fun _ => rfl⟩
  · rcases Nat.lt_or_ge displayLimit message.line.length with long | fits
    · obtain ⟨cut, full⟩ := display_of_lt long
      exact .inr ⟨long, full, cut⟩
    · exact .inl ⟨fits, display_of_le fits⟩

/-- A colored message over two lines fits, and one of more letters than the limit is cut. -/
theorem display_normal_over_lines :
    (∃ shown, shown = display "\x1b[31m Locked\r\n\x1b]0;t\x07out\x00 \x1b".toList ∧ shown = "Locked out".toList ∧
      ' ' ∈ shown ∧ isControl ' ' = false) ∧
    ∃ shown, shown = display (List.replicate 201 'x') ∧ shown.length = displayLimit ∧
      shown = List.replicate 197 'x' ++ ellipsis := by
  constructor
  · have spaced : ' ' ∈ display "\x1b[31m Locked\r\n\x1b]0;t\x07out\x00 \x1b".toList := by decide
    exact ⟨_, rfl, by decide, spaced, ((display_normal _).2.1 ' ' spaced).1⟩
  · have whole : line (List.replicate 201 'x') = List.replicate 201 'x' := by decide +kernel
    obtain ⟨_, _, _, _, _, ⟨fits, _⟩ | ⟨_, full, cut⟩, _⟩ := display_normal (List.replicate 201 'x')
    · rw [whole, List.length_replicate] at fits
      exact absurd fits (by decide)
    · rw [whole, List.take_replicate] at cut
      exact ⟨_, rfl, full, cut⟩

end Text

end TerminalSignIn
