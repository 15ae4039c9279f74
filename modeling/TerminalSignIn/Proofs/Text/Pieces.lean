import Mathlib.Data.List.Basic
import Mathlib.Data.List.DropRight
import TerminalSignIn.Text.Basic

/-!
# Texts in pieces

Splitting a text at a separator and joining pieces by one undo each other, so what holds of every piece of a split is
the same as what the pieces of some join are made of. The first occurrence of a separator splits a text in two, and the
characters of a class at the end of a text are dropped up to the last that is not of the class. Trimming takes the
longest margins of blank characters off both ends. Nothing is left of a text of blanks alone, and of no other, and what
is left has no margins to take off.
-/

namespace TerminalSignIn

namespace Text

theorem splitOn_eq (separator : Char) (text : Text) : text.splitOn separator = List.splitOn separator text := by
  induction text with
  | nil => rw [splitOn, List.splitOn_nil]
  | cons char text ih =>
    rw [splitOn, ih, List.splitOn_cons_eq_if_modifyHead]
    by_cases same : char = separator
    · rw [if_pos same, if_pos (beq_iff_eq.mpr same)]
    · rw [if_neg same, if_neg (by simpa using same)]
      obtain ⟨piece, pieces, split⟩ := List.exists_cons_of_ne_nil (List.splitOn_ne_nil separator text)
      rw [split, List.modifyHead_cons]

theorem join_eq (separator : Text) (pieces : List Text) : join separator pieces = separator.intercalate pieces := by
  fun_induction join separator pieces with
  | case1 => rw [List.intercalate_nil]
  | case2 piece => rw [List.intercalate_singleton]
  | case3 piece pieces more ih => rw [ih, List.intercalate_cons_of_ne_nil more]

theorem join_cons (separator : Char) (piece : Text) (pieces : List Text) :
    join [separator] (piece :: pieces) = piece ++ (pieces.map (separator :: ·)).flatten := by
  induction pieces generalizing piece with
  | nil => simp [join]
  | cons next pieces ih =>
    rw [join, ih, List.map_cons, List.flatten_cons]
    · simp
    · exact List.cons_ne_nil next pieces

def Joined (separator : Char) (part : Text → Prop) (text : Text) : Prop :=
  ∃ pieces : List Text, pieces ≠ [] ∧ (∀ piece ∈ pieces, part piece) ∧ text = join [separator] pieces

theorem joined_iff {separator : Char} {part : Text → Prop} (separate : ∀ piece, part piece → separator ∉ piece)
    (text : Text) : Joined separator part text ↔ ∀ piece ∈ text.splitOn separator, part piece := by
  constructor
  · rintro ⟨pieces, filled, parts, rfl⟩
    rw [splitOn_eq, join_eq,
      List.splitOn_intercalate separator (fun piece member => separate piece (parts piece member)) filled]
    exact parts
  · intro parts
    rw [splitOn_eq] at parts
    refine ⟨List.splitOn separator text, List.splitOn_ne_nil separator text, parts, ?_⟩
    rw [join_eq, List.intercalate_splitOn]

theorem Joined.mem {separator char : Char} {part : Text → Prop} {text : Text} (joined : Joined separator part text)
    (member : char ∈ text) : char = separator ∨ ∃ piece, part piece ∧ char ∈ piece := by
  obtain ⟨pieces, _, parts, rfl⟩ := joined
  fun_induction join [separator] pieces <;> grind

theorem splitOnce?_eq_none {separator : Char} {text : Text} (lacks : separator ∉ text) :
    splitOnce? separator text = none := by
  induction text with
  | nil => rfl
  | cons char text ih =>
    rw [List.mem_cons, not_or] at lacks
    rw [splitOnce?, if_neg (Ne.symm lacks.1), ih lacks.2]
    rfl

/-- The first occurrence of a separator is the one with no other before it. -/
theorem splitOnce?_eq_some_iff {separator : Char} {text before after : Text} :
    splitOnce? separator text = some (before, after) ↔ text = before ++ separator :: after ∧ separator ∉ before := by
  constructor
  · intro found
    induction text generalizing before with
    | nil => contradiction
    | cons char text ih =>
      rw [splitOnce?] at found
      split at found
      next same =>
        cases found
        exact ⟨by rw [same, List.nil_append], List.not_mem_nil⟩
      next differs =>
        obtain ⟨⟨front, back⟩, inner, parts⟩ := Option.map_eq_some_iff.mp found
        cases parts
        obtain ⟨rfl, lacks⟩ := ih inner
        exact ⟨rfl, List.not_mem_cons_of_ne_of_not_mem (Ne.symm differs) lacks⟩
  · rintro ⟨rfl, lacks⟩
    induction before with
    | nil => rw [List.nil_append, splitOnce?, if_pos rfl]
    | cons char before ih =>
      rw [List.mem_cons, not_or] at lacks
      rw [List.cons_append, splitOnce?, if_neg (Ne.symm lacks.1), ih lacks.2]
      rfl

theorem splitOnce?_eq_none_iff {separator : Char} {text : Text} :
    splitOnce? separator text = none ↔ separator ∉ text := by
  refine ⟨fun unsplit member => ?_, splitOnce?_eq_none⟩
  obtain ⟨before, after, split, lacks⟩ := List.eq_append_cons_of_mem member
  rw [splitOnce?_eq_some_iff.mpr ⟨split, lacks⟩] at unsplit
  contradiction

theorem mem_of_splitOnce? {separator : Char} {text before after : Text}
    (found : splitOnce? separator text = some (before, after)) {char : Char} (member : char ∈ before) :
    char ∈ text := by
  obtain ⟨rfl, _⟩ := splitOnce?_eq_some_iff.mp found
  exact List.mem_append_left _ member

theorem splitOnce?_append {separator : Char} {text before after : Text}
    (found : splitOnce? separator text = some (before, after)) (more : Text) :
    splitOnce? separator (text ++ more) = some (before, after ++ more) := by
  obtain ⟨rfl, lacks⟩ := splitOnce?_eq_some_iff.mp found
  exact splitOnce?_eq_some_iff.mpr ⟨by rw [List.append_assoc, List.cons_append], lacks⟩

theorem splitOnce?_append_of_none {separator : Char} {text : Text} (lacks : splitOnce? separator text = none)
    (more : Text) :
    splitOnce? separator (text ++ more) =
      (splitOnce? separator more).map fun (before, after) => (text ++ before, after) := by
  induction text with
  | nil => simp
  | cons char text ih =>
    rw [splitOnce?] at lacks
    split at lacks
    · contradiction
    · next differs =>
      rw [List.cons_append, splitOnce?, if_neg differs, ih (Option.map_eq_none_iff.mp lacks), Option.map_map]
      rfl

/-! ### The end of a text -/

theorem exists_dropped (drops : Char → Bool) (text : Text) :
    ∃ dropped, text = dropEndWhile drops text ++ dropped ∧ ∀ char ∈ dropped, drops char = true :=
  ⟨text.rtakeWhile drops, List.rdropWhile_append_rtakeWhile.symm, fun _ => List.mem_rtakeWhile_imp⟩

theorem dropEndWhile_append {drops : Char → Bool} {tail : Text} (all : ∀ char ∈ tail, drops char = true) (text : Text) :
    dropEndWhile drops (text ++ tail) = dropEndWhile drops text := by
  rw [dropEndWhile, List.reverse_append, List.dropWhile_append_of_pos (by simpa using all), ← dropEndWhile]

theorem dropEndWhile_append_cons {drops : Char → Bool} {char : Char} (kept : drops char = false)
    (before after : Text) :
    dropEndWhile drops (before ++ char :: after) = before ++ char :: dropEndWhile drops after := by
  have stop : (after.reverse ++ [char] ++ before.reverse).dropWhile drops =
      after.reverse.dropWhile drops ++ [char] ++ before.reverse := by
    rw [List.append_assoc, List.dropWhile_append]
    by_cases all : after.reverse.dropWhile drops = []
    · simp [all, kept]
    · rw [if_neg (by simpa using all), List.append_assoc]
  have turned : (before ++ char :: after).reverse = after.reverse ++ [char] ++ before.reverse := by simp
  rw [dropEndWhile, turned, stop]
  simp [dropEndWhile]

theorem dropEndWhile_eq_nil {drops : Char → Bool} {text : Text} (all : ∀ char ∈ text, drops char = true) :
    dropEndWhile drops text = [] :=
  List.rdropWhile_eq_nil_iff.mpr all

theorem last_dropEndWhile {drops : Char → Bool} {text front : Text} {last : Char}
    (ends : dropEndWhile drops text = front ++ [last]) : drops last = false := by
  have filled : text.rdropWhile drops ≠ [] := by
    intro nothing
    exact List.concat_ne_nil last front (List.concat_eq_append ▸ ends.symm.trans nothing)
  have same : text.rdropWhile drops = front ++ [last] := ends
  simpa [same] using List.rdropWhile_last_not drops text filled

theorem mem_of_mem_dropEndWhile {drops : Char → Bool} {text : Text} {char : Char}
    (member : char ∈ dropEndWhile drops text) : char ∈ text :=
  (List.rdropWhile_prefix drops text).subset member

end Text

/-! ### Both ends of a text -/

namespace Text

theorem trimEnd_eq (text : Text) : text.trimEnd = text.rdropWhile isBlank := rfl

theorem exists_margins (text : Text) : ∃ front back, text = front ++ text.trim ++ back ∧
    (∀ char ∈ front, isBlank char = true) ∧ ∀ char ∈ back, isBlank char = true := by
  refine ⟨text.takeWhile isBlank, text.trimStart.rtakeWhile isBlank, ?_, fun _ => List.mem_takeWhile_imp,
    fun _ => List.mem_rtakeWhile_imp⟩
  calc
    text = text.takeWhile isBlank ++ text.dropWhile isBlank := List.takeWhile_append_dropWhile.symm
    _ = text.takeWhile isBlank ++ (text.trim ++ text.trimStart.rtakeWhile isBlank) := by
      rw [trim, trimEnd_eq, List.rdropWhile_append_rtakeWhile, trimStart]
    _ = _ := (List.append_assoc ..).symm

theorem trim_eq_nil_iff {text : Text} : text.trim = [] ↔ ∀ char ∈ text, isBlank char = true := by
  constructor
  · intro nothing
    obtain ⟨front, back, split, before, behind⟩ := exists_margins text
    rw [nothing, List.append_nil] at split
    rw [split, List.forall_mem_append]
    exact ⟨before, behind⟩
  · intro blank
    have start : text.trimStart = [] := List.dropWhile_eq_nil_iff.mpr blank
    rw [trim, start]
    rfl

theorem head?_trim (text : Text) : ∀ char ∈ text.trim.head?, isBlank char = false := by
  intro char first
  obtain ⟨rest, split⟩ : text.trim <+: text.dropWhile isBlank := List.rdropWhile_prefix isBlank _
  have leads : (text.dropWhile isBlank).head? = some char := by
    rw [← split, List.head?_append, Option.mem_def.mp first, Option.some_or]
  have visible := List.head?_dropWhile_not isBlank text
  rw [leads] at visible
  simpa using visible

theorem trim_trim (text : Text) : text.trim.trim = text.trim := by
  have start : text.trim.trimStart = text.trim := by
    unfold trimStart
    cases kept : text.trim with
    | nil => rfl
    | cons char rest =>
      have visible := head?_trim text char (by rw [kept]; rfl)
      rw [List.dropWhile_cons_of_neg (by simp [visible])]
  rw [trim, start, trimEnd_eq, trim, trimEnd_eq, List.rdropWhile_idempotent]

theorem trim_between {first last : Char} (before : isBlank first = false) (behind : isBlank last = false)
    (inner : Text) : trim (first :: inner ++ [last]) = first :: inner ++ [last] := by
  have start : trimStart (first :: inner ++ [last]) = first :: inner ++ [last] :=
    List.dropWhile_cons_of_neg (by simp [before])
  rw [trim, start, trimEnd_eq, List.rdropWhile_concat_neg _ _ _ (by simp [behind])]

end Text

end TerminalSignIn
