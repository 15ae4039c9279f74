import TerminalSignIn.Proofs.Text.Pieces
import TerminalSignIn.Service

/-!
# The end of a base

The text of an endpoint is its base without the slashes at its end, and a path that begins with a slash. The same
base read by itself ends differently: either its slashes stand there, or the blanks and control characters at its end
do not count. `Continues` is what the two texts have in common, and it holds behind their scheme as well.
-/

namespace TerminalSignIn

namespace Url

/-- Blanks and control characters do not count at the ends of a text that is read as a URL. -/
def isMargin (char : Char) : Bool :=
  char.toNat ≤ 0x20

/-- Tabs and line ends do not count anywhere. -/
def isSkipped (char : Char) : Bool :=
  char = '\t' || char = '\n' || char = '\r'

def opened (text : Text) : Text :=
  (text.dropWhile isMargin).filter fun char => !isSkipped char

/-- There are few characters that do not count, so what holds of them can be looked up. -/
theorem of_isMargin (holds : Char → Prop) (each : ∀ code < 0x21, holds (Char.ofNat code)) {char : Char}
    (blank : isMargin char = true) : holds char := by
  rw [← Char.ofNat_toNat char]
  exact each char.toNat (Nat.lt_succ_of_le (of_decide_eq_true blank))

structure Margin (margin : Text) : Prop where
  filled : margin ≠ []
  blank : ∀ char ∈ margin, isMargin char = true

theorem Margin.exists_getLast? {margin : Text} (ending : Margin margin) (text : Text) :
    ∃ last, (text ++ margin).getLast? = some last ∧ isMargin last = true := by
  obtain ⟨last, ends⟩ := Option.ne_none_iff_exists'.mp (mt List.getLast?_eq_none_iff.mp ending.filled)
  refine ⟨last, ?_, ending.blank last (List.mem_of_getLast? ends)⟩
  rw [List.getLast?_append, ends, Option.some_or]

theorem isMargin_of_isSkipped {char : Char} (skipped : isSkipped char = true) : isMargin char = true := by
  simp only [isSkipped, Bool.or_eq_true, decide_eq_true_eq] at skipped
  rcases skipped with (rfl | rfl) | rfl <;> decide

theorem not_isSkipped_of_not_isMargin {char : Char} (kept : isMargin char = false) : isSkipped char = false := by
  by_contra skipped
  rw [Bool.not_eq_false] at skipped
  rw [isMargin_of_isSkipped skipped] at kept
  contradiction

/-- The margin at the end of a text goes before or after the skipped characters do. -/
theorem cleaned_eq (text : Text) : cleaned text = Text.dropEndWhile isMargin (opened text) := by
  obtain ⟨dropped, parts, margin⟩ := Text.exists_dropped isMargin (text.dropWhile isMargin)
  have inner : cleaned text = (Text.dropEndWhile isMargin (text.dropWhile isMargin)).filter
      fun char => !isSkipped char := rfl
  rw [inner, opened]
  conv_rhs => rw [parts, List.filter_append]
  have droppedMargin : ∀ char ∈ dropped.filter (fun char => !isSkipped char), isMargin char = true :=
    fun char member => margin char (List.mem_filter.mp member).1
  generalize kept : Text.dropEndWhile isMargin (text.dropWhile isMargin) = front
  rcases List.eq_nil_or_concat' front with none | ⟨before, last, ends⟩
  · rw [none]
    exact (Text.dropEndWhile_eq_nil droppedMargin).symm
  · have notMargin : isMargin last = false := Text.last_dropEndWhile (kept.trans ends)
    rw [ends, List.filter_append, List.append_assoc]
    simp only [List.filter_cons, not_isSkipped_of_not_isMargin notMargin, Bool.not_false, ↓reduceIte, List.filter_nil]
    rw [List.singleton_append, Text.dropEndWhile_append_cons notMargin, Text.dropEndWhile_eq_nil droppedMargin]

theorem opened_append_cons {char : Char} (kept : isMargin char = false) (text rest : Text) :
    opened (text ++ char :: rest) = opened text ++ char :: rest.filter fun char => !isSkipped char := by
  have starts : (text ++ char :: rest).dropWhile isMargin = text.dropWhile isMargin ++ char :: rest := by
    rw [List.dropWhile_append]
    by_cases all : text.dropWhile isMargin = []
    · simp [all, kept]
    · rw [if_neg (by simpa using all)]
  rw [opened, starts, List.filter_append, List.filter_cons, not_isSkipped_of_not_isMargin kept]
  rfl

/-- A text that is read by itself, and the text that it becomes with a path behind it. Between them stands what does not
count at the end of the first one, and counts in the second one. -/
inductive Continues : Text → Text → Text → Prop where
  /-- The slashes at the end of the first text have made room for the path. -/
  | slashes {stem slashes more : Text} (slash : ∀ char ∈ slashes, char = '/') :
    Continues [] (stem ++ slashes) (stem ++ '/' :: more)
  | margin {stem margin more : Text} (blank : ∀ char ∈ margin, isMargin char = true) :
    Continues margin stem (stem ++ margin ++ '/' :: more)

def EndsPlainly (text : Text) : Prop :=
  ∀ last ∈ text.getLast?, isMargin last = false

theorem exists_margin_of_not_endsPlainly {text : Text} (blank : ¬ EndsPlainly text) :
    ∃ front margin, text = front ++ margin ∧ Margin margin := by
  unfold EndsPlainly at blank
  push Not at blank
  obtain ⟨last, ends, lastBlank⟩ := blank
  refine ⟨text.dropLast, [last], (List.dropLast_append_getLast? last ends).symm, List.cons_ne_nil last [], ?_⟩
  intro char member
  rw [List.mem_singleton.mp member]
  simpa using lastBlank

theorem continues_joined (base : Text) {path : Text} (rooted : path.head? = some '/') :
    ∃ margin, Continues margin (cleaned base) (cleaned (Endpoint.joined base path)) ∧
      (EndsPlainly base → margin = []) := by
  obtain ⟨tail, rfl⟩ := List.head?_eq_some_iff.mp rooted
  obtain ⟨ending, parts, slash⟩ := Text.exists_dropped (· = '/') base
  rw [Endpoint.joined]
  generalize Text.dropEndWhile (· = '/') base = stem at parts ⊢
  subst parts
  have reached : cleaned (stem ++ '/' :: tail) =
      opened stem ++ '/' :: Text.dropEndWhile isMargin (tail.filter fun char => !isSkipped char) := by
    rw [cleaned_eq, opened_append_cons (by decide), Text.dropEndWhile_append_cons (by decide)]
  rw [reached]
  cases ending with
  | nil =>
    obtain ⟨margin, whole, blank⟩ := Text.exists_dropped isMargin (opened stem)
    refine ⟨margin, ?_, ?_⟩
    · rw [List.append_nil, cleaned_eq]
      generalize Text.dropEndWhile isMargin (opened stem) = own at whole ⊢
      rw [whole]
      exact .margin blank
    · intro plain
      rw [List.append_nil] at plain
      rcases List.eq_nil_or_concat' stem with rfl | ⟨front, last, rfl⟩
      · exact (List.append_eq_nil_iff.mp whole.symm).2
      · have kept : isMargin last = false := plain last List.getLast?_concat
        rw [opened_append_cons kept, Text.dropEndWhile_append_cons kept] at whole
        exact List.self_eq_append_right.mp whole
  | cons first others =>
    obtain rfl : first = '/' := by simpa using slash first List.mem_cons_self
    refine ⟨[], ?_, fun _ => rfl⟩
    rw [cleaned_eq, opened_append_cons (by decide), Text.dropEndWhile_append_cons (by decide)]
    apply Continues.slashes
    intro char member
    rw [List.mem_cons] at member
    rcases member with rfl | member
    · rfl
    · have kept := Text.mem_of_mem_dropEndWhile member
      simpa using slash char (List.mem_cons_of_mem _ (List.mem_filter.mp kept).1)

theorem splitScheme?_eq_some {text scheme rest : Text} :
    splitScheme? text = some (scheme, rest) ↔
      ∃ name, text.splitOnce? ':' = some (name, rest) ∧
        (name.head?.any Char.isAlpha && name.all isSchemeChar) = true ∧ name.lowerAscii = scheme := by
  rw [splitScheme?]
  cases text.splitOnce? ':' with
  | none =>
    constructor
    · rintro ⟨⟩
    · rintro ⟨_, ⟨⟩, _⟩
  | some parts =>
    obtain ⟨name, behind⟩ := parts
    dsimp only [Option.bind_eq_bind, Option.bind_some, guard]
    by_cases valid : (name.head?.any Char.isAlpha && name.all isSchemeChar) = true
    · rw [if_pos valid]
      constructor
      · rintro ⟨⟩
        exact ⟨name, rfl, valid, rfl⟩
      · rintro ⟨_, ⟨⟩, _, rfl⟩
        rfl
    · rw [if_neg valid]
      constructor
      · rintro ⟨⟩
      · rintro ⟨_, ⟨⟩, valid', _⟩
        contradiction

theorem splitScheme?_append {text scheme rest : Text} (found : splitScheme? text = some (scheme, rest))
    (more : Text) : splitScheme? (text ++ more) = some (scheme, rest ++ more) := by
  obtain ⟨name, split, valid, lower⟩ := splitScheme?_eq_some.mp found
  exact splitScheme?_eq_some.mpr ⟨name, Text.splitOnce?_append split more, valid, lower⟩

theorem splitScheme?_before {stem more scheme rest : Text} {char : Char} (foreign : isSchemeChar char = false)
    (noColon : char ≠ ':') (found : splitScheme? (stem ++ char :: more) = some (scheme, rest)) :
    ∃ behind, splitScheme? stem = some (scheme, behind) ∧ rest = behind ++ char :: more := by
  obtain ⟨name, split, valid, lower⟩ := splitScheme?_eq_some.mp found
  cases own : stem.splitOnce? ':' with
  | none =>
    exfalso
    rw [Text.splitOnce?_append_of_none own, Text.splitOnce?, if_neg noColon] at split
    rw [Option.map_map] at split
    obtain ⟨later, _, parts⟩ := Option.map_eq_some_iff.mp split
    obtain rfl : stem ++ char :: later.1 = name := congrArg Prod.fst parts
    have member : char ∈ stem ++ char :: later.1 := List.mem_append_right stem List.mem_cons_self
    have allowed := List.all_eq_true.mp (Bool.and_eq_true_iff.mp valid).2 char member
    rw [foreign] at allowed
    exact Bool.false_ne_true allowed
  | some parts =>
    obtain ⟨before, after⟩ := parts
    rw [Text.splitOnce?_append own] at split
    cases split
    exact ⟨after, splitScheme?_eq_some.mpr ⟨name, own, valid, lower⟩, rfl⟩

theorem Continues.behind_scheme {margin own reached scheme rest : Text} (continues : Continues margin own reached)
    (found : splitScheme? reached = some (scheme, rest)) :
    ∃ behind, splitScheme? own = some (scheme, behind) ∧ Continues margin behind rest := by
  cases continues with
  | @slashes stem slashes more slash =>
    obtain ⟨behind, split, rfl⟩ := splitScheme?_before (by decide) (by decide) found
    exact ⟨behind ++ slashes, splitScheme?_append split slashes, .slashes slash⟩
  | @margin _ _ more blank =>
    cases margin with
    | nil =>
      rw [List.append_nil] at found
      obtain ⟨behind, split, rfl⟩ := splitScheme?_before (by decide) (by decide) found
      have plain : Continues [] behind (behind ++ [] ++ '/' :: more) := .margin blank
      rw [List.append_nil] at plain
      exact ⟨behind, split, plain⟩
    | cons first others =>
      have foreign : isSchemeChar first = false :=
        of_isMargin (isSchemeChar · = false) (by decide) (blank first List.mem_cons_self)
      have noColon : first ≠ ':' := of_isMargin (· ≠ ':') (by decide) (blank first List.mem_cons_self)
      rw [List.append_assoc, List.cons_append] at found
      obtain ⟨behind, split, rfl⟩ := splitScheme?_before foreign noColon found
      refine ⟨behind, split, ?_⟩
      rw [← List.cons_append, ← List.append_assoc]
      exact .margin blank

end Url

end TerminalSignIn
