import TerminalSignIn.Environment
import TerminalSignIn.Proofs.Text.Pieces

/-!
# Templates

A text with references is read from the left: a stretch without an opening, then the reference that begins behind it,
and so on, up to a last stretch or to an opening that is never closed. Every text is read in exactly one way.
-/

namespace TerminalSignIn

inductive Template where
  /-- No reference begins any more. -/
  | literal (text : Text)
  /-- Behind a stretch a reference begins that is never closed. -/
  | unclosed (before tail : Text)
  /-- Behind a stretch stands a reference. -/
  | reference (before name : Text) (rest : Template)
deriving DecidableEq

namespace Template

open Environment (opening closing)

def toText : Template → Text
  | literal text => text
  | unclosed before tail => before ++ (opening ++ tail)
  | reference before name rest => before ++ (opening ++ (name ++ closing :: rest.toText))

/-- No stretch has an opening in it, no name a closing brace, and no closing brace follows an opening that is never
closed. -/
def WellFormed : Template → Prop
  | literal text => ¬ opening <:+: text
  | unclosed before tail => ¬ opening <:+: before ∧ closing ∉ tail
  | reference before name rest => ¬ opening <:+: before ∧ closing ∉ name ∧ rest.WellFormed

instance decidableWellFormed : (template : Template) → Decidable template.WellFormed
  | literal text => inferInstanceAs (Decidable (¬ opening <:+: text))
  | unclosed before tail => inferInstanceAs (Decidable (¬ opening <:+: before ∧ closing ∉ tail))
  | reference before name rest =>
    have := decidableWellFormed rest
    inferInstanceAs (Decidable (¬ opening <:+: before ∧ closing ∉ name ∧ rest.WellFormed))

/-! ### The first opening -/

def Opens (char : Char) (rest : Text) : Prop :=
  char = '$' ∧ rest.head? = some '\x7b'

theorem opening_prefix_cons {char : Char} {text : Text} : opening <+: char :: text ↔ Opens char text := by
  unfold opening Opens
  cases text <;> simp [List.cons_prefix_cons, eq_comm]

theorem opening_infix_cons {char : Char} {text : Text} :
    opening <:+: char :: text ↔ Opens char text ∨ opening <:+: text := by
  rw [List.infix_cons_iff, opening_prefix_cons]

/-- An opening does not lie across the end of a stretch, if what follows does not begin with a brace. -/
theorem not_opens_append {char : Char} {before rest : Text} (free : ¬ opening <:+: char :: before)
    (apart : rest.head? ≠ some '\x7b') : ¬ Opens char (before ++ rest) := by
  rw [opening_infix_cons, not_or] at free
  rintro ⟨dollar, brace⟩
  cases before with
  | nil => exact apart brace
  | cons next before => exact free.1 ⟨dollar, brace⟩

def splitOpening? : Text → Option (Text × Text)
  | [] => none
  | '$' :: '\x7b' :: rest => some ([], rest)
  | char :: rest => (splitOpening? rest).map fun (before, after) => (char :: before, after)

theorem splitOpening?_cons {char : Char} {rest : Text} (not : ¬ Opens char rest) :
    splitOpening? (char :: rest) = (splitOpening? rest).map fun (before, after) => (char :: before, after) := by
  rw [splitOpening?]
  rintro _ rfl rfl
  exact not ⟨rfl, rfl⟩

theorem splitOpening?_append {before rest : Text} (free : ¬ opening <:+: before) (apart : rest.head? ≠ some '\x7b') :
    splitOpening? (before ++ rest) = (splitOpening? rest).map fun (front, after) => (before ++ front, after) := by
  induction before with
  | nil => simp
  | cons char before ih =>
    rw [List.cons_append, splitOpening?_cons (not_opens_append free apart)]
    rw [opening_infix_cons, not_or] at free
    rw [ih free.2, Option.map_map]
    rfl

theorem splitOpening?_free {text : Text} (free : ¬ opening <:+: text) : splitOpening? text = none := by
  have whole := @splitOpening?_append text [] free (by decide)
  rwa [List.append_nil] at whole

theorem splitOpening?_opened {before : Text} (free : ¬ opening <:+: before) (after : Text) :
    splitOpening? (before ++ (opening ++ after)) = some (before, after) := by
  rw [splitOpening?_append free (by simp [opening])]
  have found : splitOpening? (opening ++ after) = some ([], after) := rfl
  rw [found, Option.map_some]
  exact congrArg (fun front => some (front, after)) (List.append_nil before)

theorem exists_opening (text : Text) :
    ¬ opening <:+: text ∨ ∃ before after, ¬ opening <:+: before ∧ text = before ++ (opening ++ after) := by
  induction text with
  | nil => exact .inl (by simp [opening])
  | cons char text ih =>
    by_cases opens : Opens char text
    · obtain ⟨rfl, brace⟩ := opens
      obtain ⟨after, rfl⟩ := List.head?_eq_some_iff.mp brace
      exact .inr ⟨[], after, by simp [opening], rfl⟩
    · rcases ih with free | ⟨before, after, free, rfl⟩
      · exact .inl (by rw [opening_infix_cons]; exact not_or.mpr ⟨opens, free⟩)
      · refine .inr ⟨char :: before, after, ?_, rfl⟩
        rw [opening_infix_cons, not_or]
        refine ⟨?_, free⟩
        rintro ⟨dollar, brace⟩
        refine opens ⟨dollar, ?_⟩
        rw [List.head?_append, brace]
        rfl

/-! ### One reading of every text -/

def opened? : Template → Option (Text × Text)
  | literal _ => none
  | unclosed before tail => some (before, tail)
  | reference before name rest => some (before, name ++ closing :: rest.toText)

theorem splitOpening?_toText {template : Template} (wellFormed : template.WellFormed) :
    splitOpening? template.toText = template.opened? := by
  cases template with
  | literal text => exact splitOpening?_free wellFormed
  | unclosed before tail => exact splitOpening?_opened wellFormed.1 tail
  | reference before name rest => exact splitOpening?_opened wellFormed.1 _

theorem opened?_eq_of_toText_eq {template other : Template} (wellFormed : template.WellFormed)
    (otherFormed : other.WellFormed) (same : template.toText = other.toText) : template.opened? = other.opened? := by
  rw [← splitOpening?_toText wellFormed, ← splitOpening?_toText otherFormed, same]

theorem splitOnce?_closed {name : Text} (lacks : closing ∉ name) (rest : Text) :
    Text.splitOnce? closing (name ++ closing :: rest) = some (name, rest) :=
  Text.splitOnce?_eq_some_iff.mpr ⟨rfl, lacks⟩

/-- Two readings of one text are the same reading. -/
theorem eq_of_toText_eq {template other : Template} (wellFormed : template.WellFormed) (otherFormed : other.WellFormed)
    (same : template.toText = other.toText) : template = other := by
  have opened := opened?_eq_of_toText_eq wellFormed otherFormed same
  induction template generalizing other with
  | literal text =>
    cases other with
    | literal other => exact congrArg literal same
    | unclosed before tail => contradiction
    | reference before name rest => contradiction
  | unclosed before tail =>
    cases other with
    | literal other => contradiction
    | unclosed otherBefore otherTail =>
      cases opened
      rfl
    | reference otherBefore name rest =>
      cases opened
      exact absurd (List.mem_append_right _ List.mem_cons_self) wellFormed.2
  | reference before name rest ih =>
    cases other with
    | literal other => contradiction
    | unclosed otherBefore tail =>
      cases opened
      exact absurd (List.mem_append_right _ List.mem_cons_self) otherFormed.2
    | reference otherBefore otherName otherRest =>
      simp only [opened?, Option.some.injEq, Prod.mk.injEq] at opened
      obtain ⟨sameBefore, behind⟩ := opened
      have sides := splitOnce?_closed wellFormed.2.1 rest.toText
      rw [behind, splitOnce?_closed otherFormed.2.1] at sides
      simp only [Option.some.injEq, Prod.mk.injEq] at sides
      obtain ⟨sameName, sameRest⟩ := sides
      have later := opened?_eq_of_toText_eq wellFormed.2.2 otherFormed.2.2 sameRest.symm
      rw [sameBefore, sameName, ih wellFormed.2.2 otherFormed.2.2 sameRest.symm later]

theorem exists_template (text : Text) : ∃ template : Template, template.WellFormed ∧ template.toText = text := by
  rcases exists_opening text with free | ⟨before, after, free, rfl⟩
  · exact ⟨literal text, free, rfl⟩
  · cases closed : Text.splitOnce? closing after with
    | none => exact ⟨unclosed before after, ⟨free, Text.splitOnce?_eq_none_iff.mp closed⟩, rfl⟩
    | some sides =>
      obtain ⟨name, more⟩ := sides
      obtain ⟨rfl, lacks⟩ := Text.splitOnce?_eq_some_iff.mp closed
      have shorter : more.length < (before ++ (opening ++ (name ++ closing :: more))).length := by
        simp only [List.length_append, List.length_cons]
        omega
      obtain ⟨rest, wellFormed, same⟩ := exists_template more
      exact ⟨reference before name rest, ⟨free, lacks, wellFormed⟩, by rw [toText, same]⟩
termination_by text.length

end Template

end TerminalSignIn
