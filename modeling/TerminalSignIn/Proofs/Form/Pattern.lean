import Mathlib.Computability.RegularExpressions
import TerminalSignIn.Proofs.Form.Address

/-!
# The regular expression of email addresses

Addresses are customarily described by a regular expression with nested and bounded repetition. The texts that it
matches are those with the parts of an address, so a text is an address exactly if it matches within the limits on
length.
-/

namespace TerminalSignIn

namespace Email

open RegularExpression

def oneOf (chars : Text) : RegularExpression Char := (chars.map char).sum

def oneOrMore (pattern : RegularExpression Char) : RegularExpression Char := pattern * pattern.star

def optional (pattern : RegularExpression Char) : RegularExpression Char := 1 + pattern

def atMost (count : Nat) (pattern : RegularExpression Char) : RegularExpression Char := optional pattern ^ count

def dotted (part : RegularExpression Char) : RegularExpression Char := part * (char '.' * part).star

def atomPattern : RegularExpression Char := oneOrMore (oneOf atomAlphabet)

/-- A letter or digit, and behind it another one, with up to 61 letters, digits and hyphens between the two. -/
def labelPattern : RegularExpression Char :=
  oneOf lettersAndDigits * optional (atMost 61 (oneOf labelAlphabet) * oneOf lettersAndDigits)

def addressPattern : RegularExpression Char := dotted atomPattern * char '@' * dotted labelPattern

theorem mem_char (char : Char) (text : Text) : text ∈ (RegularExpression.char char).matches' ↔ text = [char] := by
  rw [matches'_char]
  exact Set.mem_singleton_iff

theorem mem_oneOf (chars text : Text) : text ∈ (oneOf chars).matches' ↔ ∃ char ∈ chars, text = [char] := by
  induction chars with
  | nil => simp [oneOf, matches'_zero, Language.notMem_zero]
  | cons first chars ih =>
    rw [oneOf] at ih ⊢
    rw [List.map_cons, List.sum_cons, matches'_add, Language.mem_add, mem_char, ih]
    simp

theorem mem_optional (pattern : RegularExpression Char) (text : Text) :
    text ∈ (optional pattern).matches' ↔ text = [] ∨ text ∈ pattern.matches' := by
  rw [optional, matches'_add, matches'_epsilon, Language.mem_add, Language.mem_one]

theorem mem_star_oneOf (chars text : Text) : text ∈ (oneOf chars).star.matches' ↔ ∀ char ∈ text, char ∈ chars := by
  rw [matches'_star, Language.mem_kstar]
  constructor
  · rintro ⟨pieces, rfl, singles⟩ char member
    obtain ⟨piece, inPieces, inPiece⟩ := List.mem_flatten.mp member
    obtain ⟨single, listed, rfl⟩ := (mem_oneOf chars piece).mp (singles piece inPieces)
    rwa [List.mem_singleton.mp inPiece]
  · intro listed
    refine ⟨text.map fun char => [char], (List.flatMap_singleton' text).symm, fun piece member => ?_⟩
    obtain ⟨char, inText, rfl⟩ := List.mem_map.mp member
    exact (mem_oneOf chars _).mpr ⟨char, listed char inText, rfl⟩

theorem mem_atMost_oneOf (count : Nat) (chars text : Text) :
    text ∈ (atMost count (oneOf chars)).matches' ↔ text.length ≤ count ∧ ∀ char ∈ text, char ∈ chars := by
  rw [atMost, matches'_pow]
  induction count generalizing text with
  | zero =>
    rw [pow_zero, Language.mem_one, Nat.le_zero, List.length_eq_zero_iff]
    constructor
    · rintro rfl
      exact ⟨rfl, by simp⟩
    · exact And.left
  | succ count ih =>
    rw [pow_succ', Language.mem_mul]
    constructor
    · rintro ⟨first, single, rest, more, rfl⟩
      obtain ⟨short, listed⟩ := (ih rest).mp more
      rcases (mem_optional _ first).mp single with rfl | found
      · exact ⟨Nat.le_succ_of_le short, listed⟩
      · obtain ⟨char, inChars, rfl⟩ := (mem_oneOf chars first).mp found
        exact ⟨Nat.succ_le_succ short, List.forall_mem_cons.mpr ⟨inChars, listed⟩⟩
    · rintro ⟨short, listed⟩
      cases text with
      | nil => exact ⟨[], (mem_optional ..).mpr (.inl rfl), [], (ih []).mpr ⟨Nat.zero_le _, by simp⟩, rfl⟩
      | cons char rest =>
        obtain ⟨inChars, listed⟩ := List.forall_mem_cons.mp listed
        exact ⟨[char], (mem_optional ..).mpr (.inr ((mem_oneOf ..).mpr ⟨char, inChars, rfl⟩)), rest,
          (ih rest).mpr ⟨Nat.le_of_succ_le_succ short, listed⟩, rfl⟩

theorem mem_dotted (part : RegularExpression Char) (text : Text) :
    text ∈ (dotted part).matches' ↔ Text.Joined '.' (· ∈ part.matches') text := by
  rw [dotted, matches'_mul, matches'_star, Language.mem_mul]
  constructor
  · rintro ⟨first, isPart, rest, more, rfl⟩
    obtain ⟨dots, rfl, each⟩ := Language.mem_kstar.mp more
    have parts : ∃ pieces : List Text, dots = pieces.map ('.' :: ·) ∧ ∀ piece ∈ pieces, piece ∈ part.matches' := by
      induction dots with
      | nil => exact ⟨[], rfl, by simp⟩
      | cons dot dots ih =>
        obtain ⟨here, later⟩ := List.forall_mem_cons.mp each
        obtain ⟨pieces, rfl, parts⟩ := ih later (Language.join_mem_kstar later)
        obtain ⟨mark, isDot, piece, isPart, rfl⟩ := Language.mem_mul.mp here
        rw [(mem_char '.' mark).mp isDot]
        exact ⟨piece :: pieces, rfl, List.forall_mem_cons.mpr ⟨isPart, parts⟩⟩
    obtain ⟨pieces, rfl, parts⟩ := parts
    exact ⟨first :: pieces, List.cons_ne_nil _ _, List.forall_mem_cons.mpr ⟨isPart, parts⟩, (Text.join_cons ..).symm⟩
  · rintro ⟨pieces, filled, parts, rfl⟩
    obtain ⟨first, pieces, rfl⟩ := List.exists_cons_of_ne_nil filled
    obtain ⟨isPart, parts⟩ := List.forall_mem_cons.mp parts
    refine ⟨first, isPart, _, Language.join_mem_kstar fun dot member => ?_, (Text.join_cons ..).symm⟩
    obtain ⟨piece, inPieces, rfl⟩ := List.mem_map.mp member
    exact Language.mem_mul.mpr ⟨['.'], (mem_char ..).mpr rfl, piece, parts piece inPieces, rfl⟩

theorem mem_atomPattern (text : Text) : text ∈ atomPattern.matches' ↔ IsAtom text := by
  rw [atomPattern, oneOrMore, matches'_mul, Language.mem_mul]
  constructor
  · rintro ⟨first, single, rest, more, rfl⟩
    obtain ⟨char, listed, rfl⟩ := (mem_oneOf ..).mp single
    exact ⟨List.cons_ne_nil _ _, List.forall_mem_cons.mpr ⟨listed, (mem_star_oneOf ..).mp more⟩⟩
  · rintro ⟨filled, alphabet⟩
    obtain ⟨char, rest, rfl⟩ := List.exists_cons_of_ne_nil filled
    obtain ⟨listed, more⟩ := List.forall_mem_cons.mp alphabet
    exact ⟨[char], (mem_oneOf ..).mpr ⟨char, listed, rfl⟩, rest, (mem_star_oneOf ..).mpr more, rfl⟩

theorem mem_labelAlphabet_of_mem {char : Char} (member : char ∈ lettersAndDigits) :
    char ∈ labelAlphabet ∧ char ≠ '-' := by
  refine ⟨List.mem_cons_of_mem _ member, ?_⟩
  rintro rfl
  exact absurd ((mem_lettersAndDigits_iff '-').mp member) (by decide)

theorem mem_lettersAndDigits_of_ne {char : Char} (member : char ∈ labelAlphabet) (noHyphen : char ≠ '-') :
    char ∈ lettersAndDigits :=
  (List.mem_cons.mp member).resolve_left noHyphen

theorem mem_labelPattern (text : Text) : text ∈ labelPattern.matches' ↔ IsLabel text := by
  rw [labelPattern, matches'_mul, Language.mem_mul]
  constructor
  · rintro ⟨start, single, rest, more, rfl⟩
    obtain ⟨first, listed, rfl⟩ := (mem_oneOf ..).mp single
    obtain ⟨inLabel, noHyphen⟩ := mem_labelAlphabet_of_mem listed
    rcases (mem_optional ..).mp more with rfl | behind
    · exact ⟨by simp, by simp, by simpa using inLabel, by simpa using noHyphen, by simpa using noHyphen⟩
    · obtain ⟨middle, between, ending, single, rfl⟩ := Language.mem_mul.mp behind
      obtain ⟨last, listed, rfl⟩ := (mem_oneOf ..).mp single
      obtain ⟨lastInLabel, lastNoHyphen⟩ := mem_labelAlphabet_of_mem listed
      obtain ⟨short, alphabet⟩ := (mem_atMost_oneOf ..).mp between
      refine ⟨by simp, by simp; omega, ?_, by simpa using noHyphen, ?_⟩
      · simp only [List.singleton_append, List.mem_cons, List.mem_append, List.not_mem_nil, or_false]
        rintro char (rfl | inMiddle | rfl)
        · exact inLabel
        · exact alphabet char inMiddle
        · exact lastInLabel
      · rw [← List.append_assoc, List.getLast?_concat]
        simpa using lastNoHyphen
  · rintro ⟨filled, short, alphabet, start, ending⟩
    obtain ⟨first, rest, rfl⟩ := List.exists_cons_of_ne_nil (List.length_pos_iff.mp filled)
    obtain ⟨inLabel, alphabet⟩ := List.forall_mem_cons.mp alphabet
    have firstListed := mem_lettersAndDigits_of_ne inLabel (by simpa using start)
    refine ⟨[first], (mem_oneOf ..).mpr ⟨first, firstListed, rfl⟩, rest, (mem_optional ..).mpr ?_, rfl⟩
    rcases List.eq_nil_or_concat' rest with rfl | ⟨middle, last, rfl⟩
    · exact .inl rfl
    · rw [← List.cons_append, List.getLast?_concat] at ending
      obtain ⟨alphabet, lastInLabel⟩ := List.forall_mem_append.mp alphabet
      have lastListed := mem_lettersAndDigits_of_ne (lastInLabel last List.mem_cons_self) (by simpa using ending)
      have between : middle.length ≤ 61 := by
        simp only [List.length_cons, List.length_append, List.length_nil] at short
        omega
      exact .inr (Language.mem_mul.mpr ⟨middle, (mem_atMost_oneOf ..).mpr ⟨between, alphabet⟩, [last],
        (mem_oneOf ..).mpr ⟨last, lastListed, rfl⟩, rfl⟩)

theorem mem_addressPattern (text : Text) :
    text ∈ addressPattern.matches' ↔ ∃ name domain, Parts text name domain := by
  have atoms : (· ∈ atomPattern.matches') = IsAtom := funext fun text => propext (mem_atomPattern text)
  have labels : (· ∈ labelPattern.matches') = IsLabel := funext fun text => propext (mem_labelPattern text)
  rw [addressPattern, matches'_mul, matches'_mul, Language.mem_mul]
  constructor
  · rintro ⟨front, before, domain, after, rfl⟩
    obtain ⟨name, ofAtoms, mark, isAt, rfl⟩ := Language.mem_mul.mp before
    rw [mem_dotted, atoms] at ofAtoms
    rw [mem_dotted, labels] at after
    rw [(mem_char '@' mark).mp isAt]
    exact ⟨name, domain, by simp, ofAtoms, after⟩
  · rintro ⟨name, domain, rfl, ofAtoms, ofLabels⟩
    rw [← atoms, ← mem_dotted] at ofAtoms
    rw [← labels, ← mem_dotted] at ofLabels
    exact ⟨name ++ ['@'], Language.append_mem_mul ofAtoms ((mem_char ..).mpr rfl), domain, ofLabels, by simp⟩

/-- A text is an address exactly if it consists of a local part of at most 64 bytes, an at sign and a domain, in at most
254 bytes together; and exactly if it matches the regular expression as a whole within these limits, the local part
being what stands before the first at sign. So no address holds a second at sign, or a character that is blank, a
control character or beyond ASCII. -/
theorem isAddress_exact (text : Text) :
    (isAddress text = true ↔
      ∃ name domain, Parts text name domain ∧ name.byteLength ≤ 64 ∧ text.byteLength ≤ 254) ∧
    (isAddress text = true ↔ ∃ name domain, text.splitOnce? '@' = some (name, domain) ∧
      text.byteLength ≤ 254 ∧ name.byteLength ≤ 64 ∧ text ∈ addressPattern.matches') ∧
    (isAddress text = true → text.count '@' = 1 ∧ text.getLast? ≠ some '\n' ∧
      ∀ char ∈ text, char.toNat < 0x80 ∧ isBlank char = false ∧ isControl char = false) := by
  refine ⟨isAddress_iff text, ?_, fun accepted => ?_⟩
  · rw [isAddress_iff]
    constructor
    · rintro ⟨name, domain, parts, shortName, short⟩
      exact ⟨name, domain, parts.splitOnce?, short, shortName, (mem_addressPattern text).mpr ⟨name, domain, parts⟩⟩
    · rintro ⟨name, domain, split, short, shortName, matched⟩
      obtain ⟨before, after, parts⟩ := (mem_addressPattern text).mp matched
      -- What stands before the first at sign is the local part of any match.
      cases split.symm.trans parts.splitOnce?
      exact ⟨name, domain, parts, shortName, short⟩
  · obtain ⟨name, domain, parts, _⟩ := (isAddress_iff text).mp accepted
    refine ⟨parts.count_at, fun lineEnd => ?_, fun char => parts.visible⟩
    exact absurd (parts.visible (List.mem_of_getLast? lineEnd)).2.1 (by decide)

/-- A label of 63 characters with hyphens next to both of its ends is accepted. With one more character it does not
match, and neither does the address with a line end behind it. -/
theorem isAddress_exact_at_limits :
    let name : Text := "first.last+tag".toList
    let domain : Text := 'a' :: List.replicate 61 '-' ++ ['b']
    let text : Text := name ++ '@' :: domain
    isAddress text = true ∧ (∃ name domain, Parts text name domain ∧ name.byteLength ≤ 64 ∧ text.byteLength ≤ 254) ∧
    text ∈ addressPattern.matches' ∧ text.count '@' = 1 ∧ (∀ char ∈ text, isBlank char = false) ∧
    text ++ ['c'] ∉ addressPattern.matches' ∧ text ++ ['\n'] ∉ addressPattern.matches' := by
  intro name domain text
  obtain ⟨grammar, pattern, consequences⟩ := isAddress_exact text
  have fits : isAddress text = true := by decide +kernel
  obtain ⟨single, _, visible⟩ := consequences fits
  obtain ⟨_, _, _, _, _, matched⟩ := pattern.mp fits
  have tooLong : text ++ ['c'] ∉ addressPattern.matches' := by
    intro matched
    have accepted := (isAddress_exact (text ++ ['c'])).2.1.mpr
      ⟨name, domain ++ ['c'], by decide +kernel, by decide +kernel, by decide +kernel, matched⟩
    exact absurd accepted (by decide +kernel)
  have broken : text ++ ['\n'] ∉ addressPattern.matches' := by
    intro matched
    have accepted := (isAddress_exact (text ++ ['\n'])).2.1.mpr
      ⟨name, domain ++ ['\n'], by decide +kernel, by decide +kernel, by decide +kernel, matched⟩
    exact absurd accepted (by decide +kernel)
  exact ⟨fits, grammar.mp fits, matched, single, fun char member => (visible char member).2.1, tooLong, broken⟩

end Email

end TerminalSignIn
