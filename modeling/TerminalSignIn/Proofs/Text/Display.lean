import TerminalSignIn.Proofs.Text.Pieces
import TerminalSignIn.Text.Display

/-!
# Tidy texts

A tidy text is one that can be displayed as it is: its characters are printable, and single spaces stand between them.
The display form of a message is tidy, and displaying a tidy text of at most `displayLimit` characters changes nothing,
so a message may pass through `Text.display` more than once.

A message is cut where it is displayed, and what was displayed may be cut again. A second cut never finds an ellipsis to
eat into: it leaves the text alone or takes its beginning and the ellipsis with it, so that of any two limits the
smaller one decides.
-/

namespace TerminalSignIn

namespace Text

def isPrintable (char : Char) : Bool :=
  !isBlank char && !isControl char

theorem isPrintable_iff {char : Char} : isPrintable char = true ↔ isBlank char = false ∧ isControl char = false := by
  simp [isPrintable]

theorem ne_escape_of_isPrintable {char : Char} (printable : isPrintable char = true) : char ≠ escape := by
  rintro rfl
  exact absurd printable (by decide)

theorem ne_space_of_isPrintable {char : Char} (printable : isPrintable char = true) : char ≠ ' ' := by
  rintro rfl
  exact absurd printable (by decide)

/-- What may stand behind a printable character of a tidy text. -/
inductive Flows : Text → Prop where
  | nil : Flows []
  | printable {char : Char} {rest : Text} : isPrintable char = true → Flows rest → Flows (char :: rest)
  | spaced {char : Char} {rest : Text} : isPrintable char = true → Flows rest → Flows (' ' :: char :: rest)

/-- A tidy text begins with a printable character, if it has a character at all. -/
inductive Tidy : Text → Prop where
  | nil : Tidy []
  | cons {char : Char} {rest : Text} : isPrintable char = true → Flows rest → Tidy (char :: rest)

theorem Tidy.flows {text : Text} (tidy : Tidy text) : Flows text := by
  cases tidy with
  | nil => exact .nil
  | cons printable flows => exact .printable printable flows

theorem getLast_cons_printable {char : Char} {rest : Text} (printable : isPrintable char = true)
    (behind : ∀ filled : rest ≠ [], isPrintable (rest.getLast filled) = true) :
    isPrintable ((char :: rest).getLast (List.cons_ne_nil char rest)) = true := by
  by_cases alone : rest = []
  · subst alone
    exact printable
  · rw [List.getLast_cons alone]
    exact behind alone

theorem Flows.getLast {text : Text} (flows : Flows text) (filled : text ≠ []) :
    isPrintable (text.getLast filled) = true := by
  induction flows with
  | nil => contradiction
  | printable printable _ ih => exact getLast_cons_printable printable ih
  | spaced printable _ ih =>
    rw [List.getLast_cons (List.cons_ne_nil _ _)]
    exact getLast_cons_printable printable ih

theorem Flows.mem {text : Text} (flows : Flows text) {char : Char} (member : char ∈ text) :
    isPrintable char = true ∨ char = ' ' := by
  induction flows with
  | nil => contradiction
  | printable printable _ ih =>
    rcases List.mem_cons.mp member with rfl | later
    · exact .inl printable
    · exact ih later
  | spaced printable _ ih =>
    rcases List.mem_cons.mp member with rfl | behind
    · exact .inr rfl
    · rcases List.mem_cons.mp behind with rfl | later
      · exact .inl printable
      · exact ih later

/-- A text that flows can be cut anywhere, even behind a space, if printable characters follow. -/
theorem Flows.take_append {text rest : Text} {char : Char} (flows : Flows text)
    (follows : isPrintable char = true) (behind : Flows rest) (count : Nat) :
    Flows (text.take count ++ char :: rest) := by
  induction flows generalizing count with
  | nil => simpa using Flows.printable follows behind
  | printable printable _ ih =>
    match count with
    | 0 => exact .printable follows behind
    | count + 1 => exact .printable printable (ih count)
  | spaced printable _ ih =>
    match count with
    | 0 => exact .printable follows behind
    | 1 => exact .spaced follows behind
    | count + 2 => exact .spaced printable (ih count)

theorem Tidy.take_append {text rest : Text} {char : Char} (tidy : Tidy text)
    (follows : isPrintable char = true) (behind : Flows rest) (count : Nat) :
    Tidy (text.take count ++ char :: rest) := by
  cases tidy with
  | nil => simpa using Tidy.cons follows behind
  | cons printable flows =>
    match count with
    | 0 => exact .cons follows behind
    | count + 1 => exact .cons printable (flows.take_append follows behind count)

theorem Tidy.trim {text : Text} (tidy : Tidy text) : text.trim = text := by
  have start : text.dropWhile isBlank = text := by
    cases tidy with
    | nil => rfl
    | cons printable _ => rw [List.dropWhile_cons_of_neg (by simp [isPrintable_iff.mp printable])]
  have ending : text.rdropWhile isBlank = text := by
    rw [List.rdropWhile_eq_self_iff]
    intro filled
    simp [isPrintable_iff.mp (tidy.flows.getLast filled)]
  rw [Text.trim, trimStart, start]
  exact ending

/-- Whatever the pass over a message is at, what it still writes flows. -/
theorem flows_collapse (state : EscapeState) (started gap : Bool) (text : Text) :
    Flows (collapse state started gap text) := by
  induction text generalizing state started gap with
  | nil => exact .nil
  | cons char rest ih =>
    unfold collapse
    dsimp only
    split
    · exact ih ..
    split
    · exact ih ..
    next visible =>
    split
    · exact ih ..
    next printed =>
    have printable : isPrintable char = true := by simp_all [isPrintable]
    split
    · exact .spaced printable (ih ..)
    · exact .printable printable (ih ..)

theorem tidy_collapse (state : EscapeState) (text : Text) : Tidy (collapse state false false text) := by
  induction text generalizing state with
  | nil => exact .nil
  | cons char rest ih =>
    unfold collapse
    dsimp only
    split
    · exact ih _
    split
    · exact ih _
    next visible =>
    split
    · exact ih _
    next printed =>
    exact .cons (by simp_all [isPrintable]) (flows_collapse ..)

theorem Flows.collapse {text : Text} (flows : Flows text) : collapse .plain true false text = text := by
  induction flows with
  | nil => rfl
  | printable printable _ ih =>
    obtain ⟨visible, printed⟩ := isPrintable_iff.mp printable
    simp [Text.collapse, EscapeState.keeps, EscapeState.next, ne_escape_of_isPrintable printable, visible, printed, ih]
  | spaced printable _ ih =>
    obtain ⟨visible, printed⟩ := isPrintable_iff.mp printable
    have space : isBlank ' ' = true ∧ ' ' ≠ escape := by decide
    simp [Text.collapse, EscapeState.keeps, EscapeState.next, ne_escape_of_isPrintable printable, visible, printed,
      space, ih]

theorem Tidy.collapse {text : Text} (tidy : Tidy text) : collapse .plain false false text = text := by
  cases tidy with
  | nil => rfl
  | cons printable flows =>
    obtain ⟨visible, printed⟩ := isPrintable_iff.mp printable
    simp [Text.collapse, EscapeState.keeps, EscapeState.next, ne_escape_of_isPrintable printable, visible, printed,
      flows.collapse]

theorem truncate_of_le {limit : Nat} {text : Text} (fits : text.trim.length ≤ max limit ellipsis.length) :
    truncate limit text = text.trim := by
  rw [truncate]
  exact if_pos fits

theorem truncate_of_lt {limit : Nat} {text : Text} (long : max limit ellipsis.length < text.trim.length) :
    truncate limit text = text.trim.take (max limit ellipsis.length - ellipsis.length) ++ ellipsis := by
  rw [truncate]
  exact if_neg (Nat.not_le.mpr long)

theorem length_truncate_of_lt {limit : Nat} {text : Text} (long : max limit ellipsis.length < text.trim.length) :
    (truncate limit text).length = max limit ellipsis.length := by
  have room : ellipsis.length ≤ max limit ellipsis.length := Nat.le_max_right ..
  rw [truncate_of_lt long, List.length_append, List.length_take]
  omega

theorem tidy_truncate {text : Text} (tidy : Tidy text) (limit : Nat) : Tidy (truncate limit text) := by
  have dots : Flows ['.', '.'] := .printable (by decide) (.printable (by decide) .nil)
  rcases Nat.lt_or_ge (max limit ellipsis.length) text.trim.length with long | fits
  · rw [truncate_of_lt long, tidy.trim]
    exact tidy.take_append (by decide) dots _
  · rw [truncate_of_le fits, tidy.trim]
    exact tidy

theorem length_truncate_le (limit : Nat) (text : Text) :
    (truncate limit text).length ≤ max limit ellipsis.length := by
  rcases Nat.lt_or_ge (max limit ellipsis.length) text.trim.length with long | fits
  · exact Nat.le_of_eq (length_truncate_of_lt long)
  · rw [truncate_of_le fits]
    exact fits

theorem tidy_display (message : Text) : Tidy message.display :=
  tidy_truncate (tidy_collapse _ _) _

theorem length_display_le (message : Text) : message.display.length ≤ displayLimit :=
  length_truncate_le displayLimit _

theorem Tidy.display {text : Text} (tidy : Tidy text) (short : text.length ≤ displayLimit) : text.display = text := by
  have fits : text.trim.length ≤ max displayLimit ellipsis.length := by
    rw [tidy.trim]
    exact Nat.le_trans short (Nat.le_max_left ..)
  rw [Text.display, tidy.collapse, truncate_of_le fits, tidy.trim]

theorem display_display (message : Text) : message.display.display = message.display :=
  (tidy_display message).display (length_display_le message)

structure IsShown (text : Text) : Prop where
  filled : text ≠ []
  fixed : text.display = text

theorem trim_display_eq_nil_iff (message : Text) : message.display.trim = [] ↔ message.display = [] := by
  rw [(tidy_display message).trim]

end Text

/-! ### Texts cut more than once -/

namespace Text

theorem truncate_trim (limit : Nat) (text : Text) : truncate limit text.trim = truncate limit text := by
  rw [truncate, truncate, trim_trim]

/-- Neither the first character of what is kept nor the last point of the ellipsis is blank. -/
theorem trim_cut (text : Text) (count : Nat) :
    trim (text.trim.take count ++ ellipsis) = text.trim.take count ++ ellipsis := by
  have point : isBlank '.' = false := by decide
  cases kept : text.trim.take count with
  | nil => decide
  | cons char rest =>
    have leads : char ∈ text.trim.head? := by
      have first : (text.trim.take count).head? = some char := by rw [kept]; rfl
      rw [List.head?_take] at first
      split at first
      · contradiction
      · exact first
    have split : char :: rest ++ ellipsis = char :: (rest ++ ['.', '.']) ++ ['.'] := by simp [ellipsis]
    rw [split]
    exact trim_between (head?_trim text char leads) point (rest ++ ['.', '.'])

theorem trim_truncate (limit : Nat) (text : Text) : (truncate limit text).trim = truncate limit text := by
  rcases Nat.lt_or_ge (max limit ellipsis.length) text.trim.length with long | fits
  · rw [truncate_of_lt long]
    exact trim_cut text _
  · rw [truncate_of_le fits, trim_trim]

/-- A larger limit changes nothing about a text that was cut. -/
theorem truncate_truncate_of_le {limit other : Nat} (text : Text) (larger : limit ≤ other) :
    truncate other (truncate limit text) = truncate limit text := by
  have short := length_truncate_le limit text
  rw [truncate_of_le, trim_truncate]
  rw [trim_truncate]
  omega

/-- A smaller limit finds what it keeps in front of the first cut. -/
theorem truncate_truncate_of_ge {limit other : Nat} (text : Text) (smaller : other ≤ limit) :
    truncate other (truncate limit text) = truncate other text := by
  rcases Nat.lt_or_ge (max limit ellipsis.length) text.trim.length with long | fits
  · have full := length_truncate_of_lt long
    have longer : max other ellipsis.length < text.trim.length := by omega
    rcases Nat.lt_or_ge (max other ellipsis.length) (max limit ellipsis.length) with less | same
    · have cutAgain : max other ellipsis.length < (truncate limit text).trim.length := by
        rw [trim_truncate, full]
        exact less
      have kept : (text.trim.take (max limit ellipsis.length - ellipsis.length)).length =
          max limit ellipsis.length - ellipsis.length := by
        rw [List.length_take]
        omega
      rw [truncate_of_lt cutAgain, trim_truncate, truncate_of_lt long, truncate_of_lt longer,
        List.take_append_of_le_length (by omega), List.take_take, Nat.min_eq_left (by omega)]
    · have alike : max other ellipsis.length = max limit ellipsis.length := by omega
      rw [truncate_of_le (by rw [trim_truncate, full]; exact same), trim_truncate, truncate_of_lt long,
        truncate_of_lt longer, alike]
  · rw [truncate_of_le fits, truncate_trim]

/-- Of two limits the smaller one decides, whichever comes first. A limit below the length of the ellipsis counts as
that length; a text that fits is only trimmed, and any other fills the limit, with as many of its first characters as
leave room for the ellipsis. -/
theorem truncate_absorbs (text : Text) (limit other : Nat) :
    truncate other (truncate limit text) = truncate (min limit other) text ∧
    truncate limit text = truncate (max limit 3) text ∧
    (truncate limit text).length ≤ max limit 3 ∧
    (text.trim.length ≤ max limit 3 ∧ truncate limit text = text.trim ∨
      max limit 3 < text.trim.length ∧
        ∃ kept, kept <+: text.trim ∧ kept.length = max limit 3 - 3 ∧ truncate limit text = kept ++ "...".toList) := by
  have dots : ellipsis.length = 3 := rfl
  refine ⟨?_, ?_, length_truncate_le limit text, ?_⟩
  · rcases Nat.le_total limit other with first | second
    · rw [truncate_truncate_of_le text first, Nat.min_eq_left first]
    · rw [truncate_truncate_of_ge text second, Nat.min_eq_right second]
  · rw [truncate, truncate, dots, Nat.max_assoc, Nat.max_self]
  · rcases Nat.lt_or_ge (max limit 3) text.trim.length with long | fits
    · refine .inr ⟨long, text.trim.take (max limit 3 - 3), List.take_prefix .., ?_, truncate_of_lt long⟩
      rw [List.length_take]
      omega
    · exact .inl ⟨fits, truncate_of_le fits⟩

end Text

end TerminalSignIn
