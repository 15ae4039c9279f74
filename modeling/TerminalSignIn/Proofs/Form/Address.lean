import Mathlib.Data.Bool.AllAny
import TerminalSignIn.Form
import TerminalSignIn.Proofs.Text.Pieces

/-!
# The grammar of email addresses

An address is a local part and a domain around an at sign. The local part is made of atoms and the domain of labels,
both joined by single dots, over alphabets of ASCII characters.
-/

namespace TerminalSignIn

namespace Email

def span (first last : Char) : Text :=
  (List.range' first.toNat (last.toNat + 1 - first.toNat)).map Char.ofNat

def lettersAndDigits : Text := span 'a' 'z' ++ span 'A' 'Z' ++ span '0' '9'

def labelAlphabet : Text := '-' :: lettersAndDigits

def marks : Text :=
  ['-', '!', '#', '$', '%', '&', '\x27', '*', '+', '/', '=', '?', '^', '_', '\x60', '\x7b', '|', '\x7d', '~']

def atomAlphabet : Text := marks ++ lettersAndDigits

structure IsAtom (text : Text) : Prop where
  filled : text ≠ []
  alphabet : ∀ char ∈ text, char ∈ atomAlphabet

structure IsLabel (text : Text) : Prop where
  filled : 1 ≤ text.length
  short : text.length ≤ 63
  alphabet : ∀ char ∈ text, char ∈ labelAlphabet
  start : text.head? ≠ some '-'
  ending : text.getLast? ≠ some '-'

/-- The local part and the domain of an address, without the limits on its length. -/
structure Parts (text name domain : Text) : Prop where
  whole : text = name ++ '@' :: domain
  name : Text.Joined '.' IsAtom name
  domain : Text.Joined '.' IsLabel domain

theorem ascii_of_isLetterOrDigit {char : Char} (accepted : isLetterOrDigit char = true) : char.toNat < 0x80 := by
  simp only [isLetterOrDigit, Bool.or_eq_true, Bool.and_eq_true, decide_eq_true_eq] at accepted
  have bound : char ≤ 'z' := by
    rcases accepted with (⟨_, lower⟩ | ⟨_, upper⟩) | ⟨_, digit⟩
    · exact lower
    · exact Char.le_trans upper (by decide)
    · exact Char.le_trans digit (by decide)
  exact Nat.lt_of_le_of_lt bound (by decide)

/-- Beyond ASCII there is neither a letter nor a digit, so the list is complete if it is on ASCII. -/
theorem mem_lettersAndDigits_iff (char : Char) : char ∈ lettersAndDigits ↔ isLetterOrDigit char = true := by
  constructor
  · have each : lettersAndDigits.all isLetterOrDigit = true := by decide +kernel
    exact List.all_eq_true.mp each char
  · intro accepted
    have each : ∀ code < 0x80, isLetterOrDigit (Char.ofNat code) = true → Char.ofNat code ∈ lettersAndDigits := by
      decide +kernel
    have listed := each char.toNat (ascii_of_isLetterOrDigit accepted)
    rw [Char.ofNat_toNat] at listed
    exact listed accepted

theorem mem_labelAlphabet_iff (char : Char) : char ∈ labelAlphabet ↔ isLetterOrDigit char = true ∨ char = '-' := by
  rw [labelAlphabet, List.mem_cons, mem_lettersAndDigits_iff, or_comm]

theorem mem_atomAlphabet_iff (char : Char) : char ∈ atomAlphabet ↔ isAtomChar char = true := by
  have listed : atomMarks = marks := by decide +kernel
  rw [isAtomChar, Bool.or_eq_true, List.contains_iff_mem, listed, atomAlphabet, List.mem_append,
    mem_lettersAndDigits_iff, or_comm]

theorem ascii_of_mem_alphabets : ∀ char ∈ atomAlphabet ++ labelAlphabet ++ ['.', '@'],
    char.toNat < 0x80 ∧ isBlank char = false ∧ isControl char = false :=
  List.all_iff_forall_prop.mp (by decide +kernel)

theorem isAtom_iff (text : Text) : isAtom text = true ↔ IsAtom text := by
  rw [isAtom, Bool.and_eq_true, List.all_eq_true, Bool.not_eq_true', List.isEmpty_eq_false_iff]
  simp only [← mem_atomAlphabet_iff]
  exact ⟨fun ⟨filled, alphabet⟩ => ⟨filled, alphabet⟩, fun atom => ⟨atom.filled, atom.alphabet⟩⟩

/-- At the ends of a label stand letters or digits exactly if no hyphen does. -/
theorem isLetterOrDigit_of_end {text : Text} (alphabet : ∀ char ∈ text, char ∈ labelAlphabet) {found : Option Char}
    (there : found.isSome = true) (member : ∀ char ∈ found, char ∈ text) :
    found.any isLetterOrDigit = true ↔ found ≠ some '-' := by
  obtain ⟨char, rfl⟩ := Option.isSome_iff_exists.mp there
  have listed := (mem_labelAlphabet_iff char).mp (alphabet char (member char rfl))
  rw [Option.any_some]
  constructor
  · rintro plain same
    cases same
    exact absurd plain (by decide)
  · intro noHyphen
    exact listed.resolve_right fun hyphen => noHyphen (congrArg some hyphen)

theorem isLabel_iff (text : Text) : isLabel text = true ↔ IsLabel text := by
  have alphabet : (text.all fun char => isLetterOrDigit char || char = '-') = true ↔
      ∀ char ∈ text, char ∈ labelAlphabet := by
    simp only [List.all_eq_true, Bool.or_eq_true, decide_eq_true_eq, mem_labelAlphabet_iff]
  rw [isLabel, Bool.and_eq_true, Bool.and_eq_true, Bool.and_eq_true, alphabet, decide_eq_true_eq]
  constructor
  · rintro ⟨⟨⟨alphabet, start⟩, ending⟩, short⟩
    have filled : text ≠ [] := by
      rintro rfl
      exact absurd start (by decide)
    have head := isLetterOrDigit_of_end alphabet (List.isSome_head?.mpr filled) fun _ => List.mem_of_mem_head?
    have last := isLetterOrDigit_of_end alphabet (List.getLast?_isSome.mpr filled) fun _ => List.mem_of_getLast?
    exact ⟨List.length_pos_iff.mpr filled, short, alphabet, head.mp start, last.mp ending⟩
  · rintro ⟨filled, short, alphabet, start, ending⟩
    have filled := List.length_pos_iff.mp filled
    have head := isLetterOrDigit_of_end alphabet (List.isSome_head?.mpr filled) fun _ => List.mem_of_mem_head?
    have last := isLetterOrDigit_of_end alphabet (List.getLast?_isSome.mpr filled) fun _ => List.mem_of_getLast?
    exact ⟨⟨⟨alphabet, head.mpr start⟩, last.mpr ending⟩, short⟩

theorem dot_notMem_of_isAtom (text : Text) (atom : IsAtom text) : '.' ∉ text :=
  fun member => absurd (atom.alphabet '.' member) (by decide)

theorem dot_notMem_of_isLabel (text : Text) (label : IsLabel text) : '.' ∉ text :=
  fun member => absurd (label.alphabet '.' member) (by decide)

theorem isLocalPart_iff (text : Text) :
    isLocalPart text = true ↔ Text.Joined '.' IsAtom text ∧ text.byteLength ≤ 64 := by
  rw [isLocalPart, Bool.and_eq_true, List.all_eq_true, decide_eq_true_eq, Text.joined_iff dot_notMem_of_isAtom]
  simp only [isAtom_iff, localLimit]

theorem isDomain_iff (text : Text) : isDomain text = true ↔ Text.Joined '.' IsLabel text := by
  rw [isDomain, List.all_eq_true, Text.joined_iff dot_notMem_of_isLabel]
  simp only [isLabel_iff]

theorem at_notMem_of_atoms {name : Text} (atoms : Text.Joined '.' IsAtom name) : '@' ∉ name := by
  intro member
  rcases atoms.mem member with dot | ⟨atom, isAtom, inAtom⟩
  · exact absurd dot (by decide)
  · exact absurd (isAtom.alphabet '@' inAtom) (by decide)

theorem at_notMem_of_labels {domain : Text} (labels : Text.Joined '.' IsLabel domain) : '@' ∉ domain := by
  intro member
  rcases labels.mem member with dot | ⟨label, isLabel, inLabel⟩
  · exact absurd dot (by decide)
  · exact absurd (isLabel.alphabet '@' inLabel) (by decide)

/-- Neither atoms nor labels hold an at sign, so the first one is the only one. -/
theorem Parts.splitOnce? {text name domain : Text} (parts : Parts text name domain) :
    text.splitOnce? '@' = some (name, domain) :=
  Text.splitOnce?_eq_some_iff.mpr ⟨parts.whole, at_notMem_of_atoms parts.name⟩

theorem Parts.count_at {text name domain : Text} (parts : Parts text name domain) : text.count '@' = 1 := by
  rw [parts.whole, List.count_append, List.count_cons_self, List.count_eq_zero.mpr (at_notMem_of_atoms parts.name),
    List.count_eq_zero.mpr (at_notMem_of_labels parts.domain)]

theorem Parts.visible {text name domain : Text} (parts : Parts text name domain) {char : Char} (member : char ∈ text) :
    char.toNat < 0x80 ∧ isBlank char = false ∧ isControl char = false := by
  apply ascii_of_mem_alphabets
  rw [parts.whole, List.mem_append, List.mem_cons] at member
  rcases member with inName | rfl | inDomain
  · rcases parts.name.mem inName with rfl | ⟨atom, isAtom, inAtom⟩
    · decide
    · exact List.mem_append_left _ (List.mem_append_left _ (isAtom.alphabet char inAtom))
  · decide
  · rcases parts.domain.mem inDomain with rfl | ⟨label, isLabel, inLabel⟩
    · decide
    · exact List.mem_append_left _ (List.mem_append_right _ (isLabel.alphabet char inLabel))

theorem isAddress_iff (text : Text) : isAddress text = true ↔
    ∃ name domain, Parts text name domain ∧ name.byteLength ≤ 64 ∧ text.byteLength ≤ 254 := by
  rw [isAddress]
  constructor
  · intro accepted
    split at accepted
    · contradiction
    next name domain found =>
      rw [Bool.and_eq_true, Bool.and_eq_true, isLocalPart_iff, isDomain_iff, decide_eq_true_eq] at accepted
      obtain ⟨⟨short, atoms, shortName⟩, labels⟩ := accepted
      exact ⟨name, domain, ⟨(Text.splitOnce?_eq_some_iff.mp found).1, atoms, labels⟩, shortName, short⟩
  · rintro ⟨name, domain, parts, shortName, short⟩
    rw [parts.splitOnce?]
    dsimp only
    rw [Bool.and_eq_true, Bool.and_eq_true, isLocalPart_iff, isDomain_iff, decide_eq_true_eq]
    exact ⟨⟨short, parts.name, shortName⟩, parts.domain⟩

end Email

end TerminalSignIn
