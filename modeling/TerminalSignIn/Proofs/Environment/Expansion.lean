import TerminalSignIn.Proofs.Environment.Template
import TerminalSignIn.Proofs.Text.Utf8

/-!
# What expansion replaces

Expansion fills in a template: every reference with a name gives way to the value of its variable, and all else stays.
The same text comes of a scan that goes from one opening to the next, copies the values as they are, and ends when it
finds no opening any more.
-/

namespace TerminalSignIn

namespace Template

open Environment (opening closing)

def names : Template → List Text
  | literal _ => []
  | unclosed _ _ => []
  | reference _ name rest => if name = [] then rest.names else name :: rest.names

def fill (value : Text → Text) : Template → Text
  | literal text => text
  | unclosed before tail => before ++ (opening ++ tail)
  | reference before name rest =>
    before ++ ((if name = [] then opening ++ [closing] else value name) ++ rest.fill value)

/-- How many openings a scan finds: every reference and an opening that is never closed. -/
def openings : Template → Nat
  | literal _ => 0
  | unclosed _ _ => 1
  | reference _ _ rest => rest.openings + 1

theorem fill_congr {value other : Text → Text} {template : Template}
    (agree : ∀ name ∈ template.names, value name = other name) : template.fill value = template.fill other := by
  induction template with
  | literal text => rfl
  | unclosed before tail => rfl
  | reference before name rest ih =>
    unfold fill
    unfold names at agree
    by_cases unnamed : name = []
    · rw [if_pos unnamed] at agree
      rw [ih agree, if_pos unnamed, if_pos unnamed]
    · rw [if_neg unnamed, List.forall_mem_cons] at agree
      rw [ih agree.2, if_neg unnamed, if_neg unnamed, agree.1]

end Template

namespace Environment

open Template (Opens splitOpening?)

def value (environment : Environment) (name : Text) : Text :=
  (environment.get? name).getD []

variable (environment : Environment)

theorem expand_cons {char : Char} {rest : Text} (not : ¬ Opens char rest) :
    environment.expand (char :: rest) = char :: environment.expand rest := by
  rw [expand]
  rintro _ rfl rfl
  exact not ⟨rfl, rfl⟩

theorem expand_append {before rest : Text} (free : ¬ opening <:+: before) (apart : rest.head? ≠ some '\x7b') :
    environment.expand (before ++ rest) = before ++ environment.expand rest := by
  induction before with
  | nil => rfl
  | cons char before ih =>
    rw [List.cons_append, expand_cons environment (Template.not_opens_append free apart)]
    rw [Template.opening_infix_cons, not_or] at free
    rw [ih free.2, List.cons_append]

theorem expand_unclosed {tail : Text} (lacks : closing ∉ tail) :
    environment.expand (opening ++ tail) = opening ++ tail := by
  have start : opening ++ tail = '$' :: '\x7b' :: tail := rfl
  have unsplit := Text.splitOnce?_eq_none lacks
  rw [start, expand]
  split
  next => rfl
  next found =>
    rw [found] at unsplit
    contradiction
  next found =>
    rw [found] at unsplit
    contradiction

theorem expand_reference {name : Text} (lacks : closing ∉ name) (rest : Text) :
    environment.expand (opening ++ (name ++ closing :: rest)) =
      (if name = [] then opening ++ [closing] else environment.value name) ++ environment.expand rest := by
  have start : opening ++ (name ++ closing :: rest) = '$' :: '\x7b' :: (name ++ closing :: rest) := rfl
  have sides := Template.splitOnce?_closed lacks rest
  rw [start, expand]
  split
  next found =>
    rw [found] at sides
    contradiction
  next found =>
    rw [found] at sides
    cases sides
    simp
  next named found =>
    rw [found] at sides
    cases sides
    rw [if_neg (by simpa using named)]
    rfl

theorem expand_toText {template : Template} (wellFormed : template.WellFormed) :
    environment.expand template.toText = template.fill environment.value := by
  induction template with
  | literal text =>
    have whole := @expand_append environment text [] wellFormed (by decide)
    rw [List.append_nil, expand, List.append_nil] at whole
    exact whole
  | unclosed before tail =>
    have apart : (opening ++ tail).head? ≠ some '\x7b' := by simp [opening]
    rw [Template.toText, expand_append environment wellFormed.1 apart, expand_unclosed environment wellFormed.2]
    rfl
  | reference before name rest ih =>
    have apart : (opening ++ (name ++ closing :: rest.toText)).head? ≠ some '\x7b' := by simp [opening]
    rw [Template.toText, expand_append environment wellFormed.1 apart, expand_reference environment wellFormed.2.1,
      ih wellFormed.2.2]
    rfl

end Environment

/-! ### The scan -/

structure Scan where
  written : Text
  rest : Text

namespace Scan

open Environment (opening closing)

/-- One turn of a scan in an environment: the stretch in front of the next opening is copied, and then the reference is
replaced. A reference without a name is copied, and so is all that is left where nothing closes it. Without an opening
there is no further turn. -/
def turn? (environment : Environment) (scan : Scan) : Option Scan :=
  (Template.splitOpening? scan.rest).map fun (before, after) =>
    match Text.splitOnce? closing after with
    | none => ⟨scan.written ++ before ++ (opening ++ after), []⟩
    | some ([], rest) => ⟨scan.written ++ before ++ (opening ++ [closing]), rest⟩
    | some (name, rest) => ⟨scan.written ++ before ++ environment.value name, rest⟩

/-- After a number of turns no further one is possible, and the text is what was written and what is left. -/
inductive Ends (environment : Environment) : Scan → Nat → Text → Prop where
  | stopped {scan : Scan} : scan.turn? environment = none → Ends environment scan 0 (scan.written ++ scan.rest)
  | turned {scan next : Scan} {turns : Nat} {text : Text} : scan.turn? environment = some next →
      Ends environment next turns text → Ends environment scan (turns + 1) text

variable (environment : Environment) (written : Text)

theorem turn?_literal {text : Text} (free : ¬ opening <:+: text) : turn? environment ⟨written, text⟩ = none := by
  unfold turn?
  rw [Template.splitOpening?_free free, Option.map_none]

theorem turn?_unclosed {before tail : Text} (free : ¬ opening <:+: before) (lacks : closing ∉ tail) :
    turn? environment ⟨written, before ++ (opening ++ tail)⟩ =
      some ⟨written ++ before ++ (opening ++ tail), []⟩ := by
  unfold turn?
  rw [Template.splitOpening?_opened free, Option.map_some]
  simp only [Text.splitOnce?_eq_none lacks]

theorem turn?_reference {before name : Text} (free : ¬ opening <:+: before) (lacks : closing ∉ name) (rest : Text) :
    turn? environment ⟨written, before ++ (opening ++ (name ++ closing :: rest))⟩ =
      some ⟨written ++ before ++ (if name = [] then opening ++ [closing] else environment.value name), rest⟩ := by
  unfold turn?
  rw [Template.splitOpening?_opened free, Option.map_some]
  simp only [Template.splitOnce?_closed lacks]
  cases name <;> rfl

/-- A scan takes a turn for every opening, and what it has written in the end is the filled template. -/
theorem ends_fill {template : Template} (wellFormed : template.WellFormed) :
    Ends environment ⟨written, template.toText⟩ template.openings (written ++ template.fill environment.value) := by
  induction template generalizing written with
  | literal text => exact .stopped (turn?_literal environment written wellFormed)
  | unclosed before tail =>
    have turn := turn?_unclosed environment written wellFormed.1 wellFormed.2
    have stopped : turn? environment ⟨written ++ before ++ (opening ++ tail), []⟩ = none := rfl
    have text : written ++ (before ++ (opening ++ tail)) = written ++ before ++ (opening ++ tail) ++ [] := by simp
    unfold Template.fill
    rw [text]
    exact .turned turn (.stopped stopped)
  | reference before name rest ih =>
    have turn := turn?_reference environment written wellFormed.1 wellFormed.2.1 rest.toText
    have later := ih (written ++ before ++ (if name = [] then opening ++ [closing] else environment.value name))
      wellFormed.2.2
    unfold Template.fill
    rw [← List.append_assoc, ← List.append_assoc]
    exact .turned turn later

theorem Ends.unique {environment : Environment} {scan : Scan} {turns others : Nat} {text other : Text}
    (ends : Ends environment scan turns text) (otherwise : Ends environment scan others other) :
    turns = others ∧ text = other := by
  induction ends generalizing others other with
  | stopped last =>
    cases otherwise with
    | stopped => exact ⟨rfl, rfl⟩
    | turned turn =>
      rw [last] at turn
      contradiction
  | turned turn _ ih =>
    cases otherwise with
    | stopped last =>
      rw [last] at turn
      contradiction
    | turned otherTurn later =>
      rw [turn] at otherTurn
      cases otherTurn
      obtain ⟨sameTurns, sameText⟩ := ih later
      exact ⟨congrArg Nat.succ sameTurns, sameText⟩

end Scan

/-- What a variable holds is what its bytes encode. A name that no variable can have is the name of none. -/
theorem Environment.get?_ofVariables (entries : List (Text × Bytes)) (name value : Text) :
    (ofVariables entries).get? name = some value ↔
      isName name = true ∧ entries.lookup name = some (Utf8.encode value) := by
  unfold ofVariables
  dsimp only
  by_cases valid : isName name = true
  · rw [if_pos valid, Option.bind_eq_some_iff]
    simp [valid, Utf8.decode?_eq_some_iff]
  · simp [valid]

/-- Every text is a template in exactly one way, and its expansion is that template filled in: each reference to a name
gives way to the value of the variable, once, and everything else is copied. The value is what the bytes of the variable
encode, and empty if there is no such variable or its bytes encode nothing. So environments that agree on the names in
the text expand it alike. A scan from opening to opening ends with the same text, after one turn for every opening. -/
theorem expand_fills_template (text : Text) :
    ∃ template : Template, (template.WellFormed ∧ template.toText = text) ∧
      (∀ other : Template, other.WellFormed → other.toText = text → other = template) ∧
      (∀ environment : Environment, environment.expand text = template.fill environment.value) ∧
      (∀ (entries : List (Text × Bytes)) (name value : Text), (Environment.ofVariables entries).get? name = some value ↔
        Environment.isName name = true ∧ entries.lookup name = some (Utf8.encode value)) ∧
      (∀ environment other : Environment, (∀ name ∈ template.names, environment.get? name = other.get? name) →
        environment.expand text = other.expand text) ∧
      ∀ (environment : Environment) (turns : Nat) (result : Text),
        Scan.Ends environment ⟨[], text⟩ turns result ↔
          turns = template.openings ∧ result = environment.expand text := by
  obtain ⟨template, wellFormed, rfl⟩ := Template.exists_template text
  have filled (environment : Environment) := Environment.expand_toText environment wellFormed
  refine ⟨template, ⟨wellFormed, rfl⟩, ?_, filled, Environment.get?_ofVariables, ?_, ?_⟩
  · intro other otherFormed same
    exact Template.eq_of_toText_eq otherFormed wellFormed same
  · intro environment other agree
    rw [filled, filled]
    apply Template.fill_congr
    intro name member
    unfold Environment.value
    rw [agree name member]
  · intro environment turns result
    have ends := Scan.ends_fill environment [] wellFormed
    rw [List.nil_append, ← filled environment] at ends
    constructor
    · intro otherwise
      exact otherwise.unique ends
    · rintro ⟨rfl, rfl⟩
      exact ends

/-- A value that looks like a reference is copied, and so are an empty reference and one that is never closed. -/
theorem expand_fills_template_once :
    let text : Text := "$$\x7bHOST\x7d:$\x7b\x7d$\x7bPORT\x7d/$\x7bHOST".toList
    let template : Template := .reference ['$'] "HOST".toList
      (.reference [':'] [] (.reference [] "PORT".toList (.unclosed ['/'] "HOST".toList)))
    let entries : List (Text × Bytes) := [("PORT".toList, [0xFF]), ("HOST".toList, Utf8.encode "$\x7bPORT\x7d".toList)]
    let environment := Environment.ofVariables entries
    let other : Environment := ⟨fun name => if name = "HOST".toList then some "$\x7bPORT\x7d".toList else none⟩
    let expanded : Text := "$$\x7bPORT\x7d:$\x7b\x7d/$\x7bHOST".toList
    template.WellFormed ∧ template.toText = text ∧ environment.expand text = expanded ∧
    (∀ name ∈ template.names, environment.get? name = other.get? name) ∧ other.expand text = expanded ∧
    Scan.Ends environment ⟨[], text⟩ 4 expanded := by
  intro text template entries environment other expanded
  have wellFormed : template.WellFormed := by decide
  have filled : template.fill environment.value = expanded := by decide
  have agree : ∀ name ∈ template.names, environment.get? name = other.get? name := by decide
  obtain ⟨found, _, unique, expands, _, alike, ends⟩ := expand_fills_template text
  have same := unique template wellFormed rfl
  rw [← same] at expands alike ends
  have expanding : environment.expand text = expanded := (expands environment).trans filled
  refine ⟨wellFormed, rfl, expanding, agree, ?_, ?_⟩
  · rw [← alike environment other agree, expanding]
  · exact (ends environment 4 expanded).mpr ⟨rfl, expanding.symm⟩

end TerminalSignIn
