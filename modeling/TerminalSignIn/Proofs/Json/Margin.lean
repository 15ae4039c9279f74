import Mathlib.Data.List.Basic
import TerminalSignIn.Json.Parser

/-!
# Margins of JSON

The walk that cuts a text into tokens can be stopped and taken up again anywhere. Blank characters around a text make no
token: those that JSON knows as spaces leave the value of the text as it is, and with any other the text is no JSON.
-/

namespace TerminalSignIn

namespace Json

def advance (state : List Token × Reading) (char : Char) : Option (List Token × Reading) :=
  (state.2.next char).map fun (finished, reading) => (finished.reverse ++ state.1, reading)

def complete (state : List Token × Reading) : Option (List Token) :=
  state.2.finish.map (state.1.reverse ++ ·)

def tokensFrom? (state : List Token × Reading) (text : Text) : Option (List Token) :=
  (text.foldlM advance state).bind complete

theorem tokens?_eq (text : Text) : tokens? text = tokensFrom? ([], .between) text := by
  have step : (fun (state : List Token × Reading) char => do
      let (finished, reading) ← state.2.next char
      return (finished.reverse ++ state.1, reading)) = advance := by
    funext state char
    unfold advance
    cases state.2.next char <;> rfl
  unfold tokens? tokensFrom?
  rw [step]
  cases text.foldlM advance ([], .between) with
  | none => rfl
  | some state =>
    simp only [Option.bind_eq_bind, Option.bind_some, complete]
    cases state.2.finish <;> rfl

theorem tokensFrom?_append (state : List Token × Reading) (text more : Text) :
    tokensFrom? state (text ++ more) = (text.foldlM advance state).bind fun later => tokensFrom? later more := by
  unfold tokensFrom?
  rw [List.foldlM_append]
  exact Option.bind_assoc ..

theorem tokensFrom?_cons (state : List Token × Reading) (char : Char) (text : Text) :
    tokensFrom? state (char :: text) = (advance state char).bind fun later => tokensFrom? later text := by
  unfold tokensFrom?
  rw [List.foldlM_cons]
  exact Option.bind_assoc ..

/-! ### Blanks -/

/-- A character that belongs to no token but a string. -/
structure Separates (char : Char) : Prop where
  quote : char ≠ Text.quote
  numeral : isNumeralChar char = false
  lower : isLower char = false
  mark : mark? char = none

theorem toNat_of_isBlank {char : Char} (blank : isBlank char = true) : char.toNat ≤ 0x20 ∨ 0x7F < char.toNat := by
  simp only [isBlank, Bool.or_eq_true, Bool.and_eq_true, decide_eq_true_eq, beq_iff_eq] at blank
  omega

theorem separates_of_isBlank {char : Char} (blank : isBlank char = true) : Separates char := by
  have outside := toNat_of_isBlank blank
  have ofRange (low high : Char) (above : 0x20 < low.toNat) (below : high.toNat ≤ 0x7F) :
      (low ≤ char && char ≤ high) = false := by
    have bounds (first second : Char) : first ≤ second ↔ first.toNat ≤ second.toNat := Iff.rfl
    rw [Bool.and_eq_false_iff, decide_eq_false_iff_not, decide_eq_false_iff_not, bounds, bounds]
    omega
  have ofChar (other : Char) (above : 0x20 < other.toNat) (below : other.toNat ≤ 0x7F) : char ≠ other := by
    rintro rfl
    omega
  constructor
  · exact ofChar Text.quote (by decide) (by decide)
  · unfold isNumeralChar Numeral.isDigit
    have digit := ofRange '0' '9' (by decide) (by decide)
    have minus := ofChar '-' (by decide) (by decide)
    have plus := ofChar '+' (by decide) (by decide)
    have point := ofChar '.' (by decide) (by decide)
    have small := ofChar 'e' (by decide) (by decide)
    have capital := ofChar 'E' (by decide) (by decide)
    simp [digit, minus, plus, point, small, capital]
  · exact ofRange 'a' 'z' (by decide) (by decide)
  · unfold mark?
    split <;> first | rfl | exact absurd blank (by decide)

/-- Between two tokens a separating character is a space, or it is refused. -/
theorem start_of_separates {char : Char} (separates : Separates char) :
    Reading.start char = if isSpace char then some ([], .between) else none := by
  have numeral : (char = '-' || Numeral.isDigit char) = false := by
    have none := separates.numeral
    simp only [isNumeralChar, Bool.or_eq_false_iff] at none
    simp [none]
  unfold Reading.start
  simp only [separates.quote, numeral, separates.lower, separates.mark, Bool.false_eq_true, if_false, Option.map_none]

/-- A string that is open stays open up to the next quote, so its text cannot end in blanks. -/
theorem tokensFrom?_inString {text : Text} (blank : ∀ char ∈ text, isBlank char = true) (tokens : List Token)
    (state : StringState) (chars : Text) : tokensFrom? (tokens, .inString state chars) text = none := by
  induction text generalizing state chars with
  | nil => rfl
  | cons char text ih =>
    have quote := (separates_of_isBlank (blank char List.mem_cons_self)).quote
    rw [tokensFrom?_cons]
    unfold advance Reading.next
    simp only [quote, decide_false, Bool.and_false, Bool.false_eq_true, if_false]
    cases state.next char with
    | none => rfl
    | some result => exact ih (fun _ member => blank _ (List.mem_cons_of_mem _ member)) ..

theorem tokensFrom?_between {text : Text} (blank : ∀ char ∈ text, isBlank char = true) (tokens : List Token)
    (more : Text) : tokensFrom? (tokens, .between) (text ++ more) =
      if text.all isSpace then tokensFrom? (tokens, .between) more else none := by
  induction text with
  | nil => rfl
  | cons char text ih =>
    have separates := separates_of_isBlank (blank char List.mem_cons_self)
    have step : Reading.next char .between = _ := start_of_separates separates
    rw [List.cons_append, tokensFrom?_cons, List.all_cons]
    unfold advance
    rw [step]
    by_cases space : isSpace char = true
    · simp only [space, if_true, Option.map_some, Option.bind_some, List.reverse_nil, List.nil_append, Bool.true_and]
      exact ih fun _ member => blank _ (List.mem_cons_of_mem _ member)
    · simp [space]

/-- A numeral or a word ends where blanks begin, as it does at the end of the text. -/
theorem tokensFrom?_ended {reading : Reading} {char : Char}
    (ends : reading.next char = do
      let finished ← reading.finish
      let (tokens, later) ← Reading.start char
      return (finished ++ tokens, later))
    {text : Text} (blank : ∀ other ∈ char :: text, isBlank other = true) (tokens : List Token) :
    tokensFrom? (tokens, reading) (char :: text) =
      if (char :: text).all isSpace then tokensFrom? (tokens, reading) [] else none := by
  have step := start_of_separates (separates_of_isBlank (blank char List.mem_cons_self))
  have later := tokensFrom?_between (fun other member => blank other (List.mem_cons_of_mem _ member))
  have stopped : tokensFrom? (tokens, reading) [] = reading.finish.map (tokens.reverse ++ ·) := rfl
  rw [tokensFrom?_cons, stopped, List.all_cons]
  unfold advance
  rw [ends, step]
  cases reading.finish with
  | none => simp
  | some finished =>
    by_cases space : isSpace char = true
    · have rest := later (finished.reverse ++ tokens) []
      rw [List.append_nil] at rest
      simp only [space, if_true, Option.bind_eq_bind, Option.bind_some, Option.pure_def, Option.map_some,
        List.append_nil, Bool.true_and, rest]
      simp [tokensFrom?, complete, Reading.finish]
    · simp [space]

/-- Blanks behind a text only matter by what kind of blanks they are. -/
theorem tokensFrom?_blank (state : List Token × Reading) {text : Text} (blank : ∀ char ∈ text, isBlank char = true) :
    tokensFrom? state text = if text.all isSpace then tokensFrom? state [] else none := by
  obtain ⟨tokens, reading⟩ := state
  cases text with
  | nil => rfl
  | cons char text =>
    have separates := separates_of_isBlank (blank char List.mem_cons_self)
    cases reading with
    | between =>
      have all := tokensFrom?_between blank tokens []
      rwa [List.append_nil] at all
    | inString state chars =>
      rw [tokensFrom?_inString blank]
      exact (ite_self none).symm
    | inNumeral chars =>
      apply tokensFrom?_ended ?_ blank
      simp only [Reading.next, separates.numeral, Bool.false_eq_true, if_false]
    | inWord chars =>
      apply tokensFrom?_ended ?_ blank
      simp only [Reading.next, separates.lower, Bool.false_eq_true, if_false]

theorem tokens?_margins {front back : Text} (before : ∀ char ∈ front, isBlank char = true)
    (behind : ∀ char ∈ back, isBlank char = true) (text : Text) :
    tokens? (front ++ text ++ back) = if (front ++ back).all isSpace then tokens? text else none := by
  have inner (state : List Token × Reading) :
      tokensFrom? state (text ++ back) = if back.all isSpace then tokensFrom? state text else none := by
    rw [tokensFrom?_append]
    have same : tokensFrom? state text = (text.foldlM advance state).bind fun later => tokensFrom? later [] := by
      rw [← tokensFrom?_append, List.append_nil]
    rw [same]
    cases text.foldlM advance state with
    | none => exact (ite_self none).symm
    | some later => exact tokensFrom?_blank later behind
  rw [tokens?_eq, tokens?_eq, List.append_assoc, tokensFrom?_between before, inner, List.all_append]
  by_cases spaces : front.all isSpace = true <;> simp [spaces]

/-- A text with blanks around it is JSON if and only if the text is and the blanks are spaces of JSON. It has the same
value then. -/
theorem parse?_margins {front back : Text} (before : ∀ char ∈ front, isBlank char = true)
    (behind : ∀ char ∈ back, isBlank char = true) (text : Text) :
    parse? (front ++ text ++ back) = if (front ++ back).all isSpace then parse? text else none := by
  unfold parse?
  rw [tokens?_margins before behind]
  split <;> rfl

end Json

end TerminalSignIn
