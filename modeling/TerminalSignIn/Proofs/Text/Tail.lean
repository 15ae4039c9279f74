import TerminalSignIn.Proofs.Text.Pieces
import TerminalSignIn.Text.Width
import TerminalSignIn.Theme

/-!
# The visible end of a text

A field shows the end of its text. What is kept of a text that is too wide is the longest ending whose characters fit
one by one, and the width of a text is not the sum of theirs: a control character takes a column in a text and none
alone, and joined emoji take fewer columns than apart. The main statement says, whatever the library of widths measures,
exactly when what is kept is the longest ending that fits, as a text, into the columns.
-/

namespace TerminalSignIn

namespace CodeSet

theorem contains_of_lt {first : Nat} {changes : CodeSet} {char : Char} (below : char.toNat < first) :
    contains (first :: changes) char = false := if_pos below

theorem containsFrom_of_ge {first last code : Nat} {changes : CodeSet} (rising : first ≤ last) (above : last ≤ code)
    (inside : Bool) : containsFrom inside (first :: last :: changes) code = containsFrom inside changes code := by
  rw [containsFrom, if_neg (by omega), containsFrom, if_neg (by omega), Bool.not_not]

end CodeSet

/-- From a space to a tilde, or the sign that masks a password. -/
def isPlain (char : Char) : Bool :=
  0x20 ≤ char.toNat && char.toNat ≤ 0x7E || char = '•'

/-- What is documented of the widths of plain characters and of control characters. -/
structure Widths.Documented (widths : Widths) : Prop where
  plainChar {char : Char} : isPlain char = true → widths.char? char = some 1
  plainText {text : Text} : (∀ char ∈ text, isPlain char = true) → widths.text text = text.length
  controlChar {char : Char} : isControl char = true → widths.char? char = none
  /-- In a text a control character takes a column, and what stands before it does not join what is behind it. -/
  control {front rest : Text} {char : Char} : isControl char = true → ¬ (char = '\r' ∧ rest.head? = some '\n') →
    ¬ (char = '\n' ∧ front.getLast? = some '\r') →
      widths.text (front ++ char :: rest) = widths.text front + (widths.text rest + 1)
  /-- The two characters of a line break take one column. -/
  lineBreak {front rest : Text} :
    widths.text (front ++ '\r' :: '\n' :: rest) = widths.text front + (widths.text rest + 1)

namespace Text

structure IsLongestEnding (measure : Text → Nat) (columns : Nat) (text kept : Text) : Prop where
  ending : kept <:+ text
  fits : measure kept ≤ columns
  longest : ∀ ending, ending <:+ text → measure ending ≤ columns → ending.length ≤ kept.length

theorem IsLongestEnding.ending_of_fits {measure : Text → Nat} {columns : Nat} {text kept ending : Text}
    (longest : IsLongestEnding measure columns text kept) (isEnding : ending <:+ text)
    (fits : measure ending ≤ columns) : ending <:+ kept :=
  List.suffix_of_suffix_length_le isEnding longest.ending (longest.longest ending isEnding fits)

theorem isLongestEnding_of_fits {measure : Text → Nat} {columns : Nat} {text : Text} (fits : measure text ≤ columns) :
    IsLongestEnding measure columns text text :=
  ⟨List.suffix_rfl, fits, fun _ isEnding _ => isEnding.length_le⟩

section

variable (widths : Widths)

def columnsAlone (char : Char) : Nat :=
  (widths.char? char).getD 0

def columnsApart : Text → Nat
  | [] => 0
  | char :: rest => columnsAlone widths char + columnsApart rest

/-! ### Character by character -/

theorem columnsApart_cons (char : Char) (text : Text) :
    columnsApart widths (char :: text) = columnsAlone widths char + columnsApart widths text := rfl

theorem columnsApart_append (front back : Text) :
    columnsApart widths (front ++ back) = columnsApart widths front + columnsApart widths back := by
  induction front with
  | nil => exact (Nat.zero_add _).symm
  | cons char front ih => rw [List.cons_append, columnsApart_cons, columnsApart_cons, ih, Nat.add_assoc]

theorem columnsApart_reverse (text : Text) : columnsApart widths text.reverse = columnsApart widths text := by
  induction text with
  | nil => rfl
  | cons char text ih =>
    rw [List.reverse_cons, columnsApart_append, ih, columnsApart_cons, columnsApart_cons, Nat.add_comm]
    rfl

theorem columnsApart_le_of_suffix {ending text : Text} (isEnding : ending <:+ text) :
    columnsApart widths ending ≤ columnsApart widths text := by
  obtain ⟨front, rfl⟩ := isEnding
  rw [columnsApart_append]
  omega

theorem takeFitting_cons (columns : Nat) (char : Char) (rest : Text) :
    tailFitting.takeFitting widths columns (char :: rest) =
      if columnsAlone widths char ≤ columns then
        char :: tailFitting.takeFitting widths (columns - columnsAlone widths char) rest
      else [] :=
  rfl

theorem takeFitting_prefix (columns : Nat) (text : Text) : tailFitting.takeFitting widths columns text <+: text := by
  induction text generalizing columns with
  | nil => exact List.prefix_rfl
  | cons char rest ih =>
    rw [takeFitting_cons]
    split
    · exact List.cons_prefix_cons.mpr ⟨rfl, ih _⟩
    · exact List.nil_prefix

theorem columnsApart_takeFitting_le (columns : Nat) (text : Text) :
    columnsApart widths (tailFitting.takeFitting widths columns text) ≤ columns := by
  induction text generalizing columns with
  | nil => exact Nat.zero_le _
  | cons char rest ih =>
    rw [takeFitting_cons]
    split
    next fits =>
      have behind := ih (columns - columnsAlone widths char)
      rw [columnsApart_cons]
      omega
    · exact Nat.zero_le _

variable {widths}

theorem length_le_takeFitting {columns : Nat} {beginning text : Text} (begins : beginning <+: text)
    (fits : columnsApart widths beginning ≤ columns) :
    beginning.length ≤ (tailFitting.takeFitting widths columns text).length := by
  induction text generalizing columns beginning with
  | nil => rw [List.prefix_nil.mp begins]; exact Nat.zero_le _
  | cons char rest ih =>
    cases beginning with
    | nil => exact Nat.zero_le _
    | cons first more =>
      obtain ⟨rfl, continues⟩ := List.cons_prefix_cons.mp begins
      rw [columnsApart_cons] at fits
      rw [takeFitting_cons, if_pos (by omega), List.length_cons, List.length_cons]
      exact Nat.succ_le_succ (ih continues (by omega))

theorem tailFitting_of_fits {columns : Nat} {text : Text} (fits : widths.text text ≤ columns) :
    text.tailFitting widths columns = text := by
  rw [tailFitting, if_pos fits]

theorem tailFitting_of_lt {columns : Nat} {text : Text} (wide : columns < widths.text text) :
    IsLongestEnding (columnsApart widths) columns text (text.tailFitting widths columns) := by
  rw [tailFitting, if_neg (Nat.not_le.mpr wide)]
  refine ⟨?_, ?_, ?_⟩
  · rw [← List.reverse_prefix, List.reverse_reverse]
    exact takeFitting_prefix widths columns text.reverse
  · rw [columnsApart_reverse]
    exact columnsApart_takeFitting_le widths columns text.reverse
  · intro ending isEnding fits
    rw [← columnsApart_reverse] at fits
    have reached := length_le_takeFitting (List.reverse_prefix.mpr isEnding) fits
    rwa [List.length_reverse] at reached ⊢

/-! ### As a text -/

theorem isLongestEnding_tailFitting_iff {columns : Nat} {text : Text} :
    IsLongestEnding widths.text columns text (text.tailFitting widths columns) ↔ widths.text text ≤ columns ∨
      widths.text (text.tailFitting widths columns) ≤ columns ∧
        ∀ ending : Text, ending <:+ text → widths.text ending ≤ columns → columnsApart widths ending ≤ columns := by
  rcases Nat.lt_or_ge columns (widths.text text) with wide | fits
  · have apart := tailFitting_of_lt wide
    rw [or_iff_right (Nat.not_le.mpr wide)]
    constructor
    · intro longest
      refine ⟨longest.fits, ?_⟩
      intro ending isEnding fits
      exact (columnsApart_le_of_suffix widths (longest.ending_of_fits isEnding fits)).trans apart.fits
    · rintro ⟨fits, agree⟩
      exact ⟨apart.ending, fits, fun ending isEnding fitsText =>
        apart.longest ending isEnding (agree ending isEnding fitsText)⟩
  · rw [tailFitting_of_fits fits]
    exact iff_of_true (isLongestEnding_of_fits fits) (.inl fits)

/-- Where both measures of the endings are the same, what is kept is the longest ending by either. -/
theorem isLongestEnding_of_eq {text : Text}
    (same : ∀ ending, ending <:+ text → widths.text ending = columnsApart widths ending) (columns : Nat) :
    IsLongestEnding widths.text columns text (text.tailFitting widths columns) := by
  rw [isLongestEnding_tailFitting_iff]
  rcases Nat.lt_or_ge columns (widths.text text) with wide | fits
  · have apart := tailFitting_of_lt wide
    exact .inr ⟨same _ apart.ending ▸ apart.fits, fun ending isEnding fits => same ending isEnding ▸ fits⟩
  · exact .inl fits

variable (documented : widths.Documented)
include documented

theorem columnsApart_of_plain {text : Text} (plain : ∀ char ∈ text, isPlain char = true) :
    columnsApart widths text = text.length := by
  induction text with
  | nil => rfl
  | cons char rest ih =>
    obtain ⟨here, later⟩ := List.forall_mem_cons.mp plain
    rw [columnsApart_cons, ih later, columnsAlone, documented.plainChar here, List.length_cons, Nat.add_comm]
    rfl

theorem isLongestEnding_of_plain {text : Text} (plain : ∀ char ∈ text, isPlain char = true) (columns : Nat) :
    IsLongestEnding widths.text columns text (text.tailFitting widths columns) := by
  apply isLongestEnding_of_eq
  intro ending isEnding
  have plain' : ∀ char ∈ ending, isPlain char = true := fun char member => plain char (isEnding.subset member)
  rw [documented.plainText plain', columnsApart_of_plain documented plain']

theorem columnsAlone_of_isControl {char : Char} (control : isControl char = true) : columnsAlone widths char = 0 := by
  rw [columnsAlone, documented.controlChar control, Option.getD_none]

/-- With a control character in front an ending gets wider, whatever else stands before it. -/
theorem lt_width_of_isControl {char : Char} (control : isControl char = true) (front : Text) {rest : Text}
    (separate : ¬ (char = '\r' ∧ rest.head? = some '\n')) :
    widths.text rest < widths.text (front ++ char :: rest) := by
  by_cases broken : char = '\n' ∧ front.getLast? = some '\r'
  · obtain ⟨rfl, ends⟩ := broken
    rw [← List.dropLast_append_getLast? '\r' ends, List.append_assoc, List.singleton_append, documented.lineBreak]
    omega
  · rw [documented.control control separate broken]
    omega

/-- With the columns that are behind a control character, that is where the longest ending begins; the character itself
fits if one asks it alone. -/
theorem tailFitting_of_isControl {char : Char} (control : isControl char = true) (front : Text) {rest : Text}
    (separate : ¬ (char = '\r' ∧ rest.head? = some '\n')) :
    IsLongestEnding widths.text (widths.text rest) (front ++ char :: rest) rest ∧
      (front ++ char :: rest).tailFitting widths (widths.text rest) ≠ rest := by
  have whole : char :: rest <:+ front ++ char :: rest := List.suffix_append ..
  have inside : rest <:+ front ++ char :: rest := (List.suffix_cons char rest).trans whole
  constructor
  · refine ⟨inside, Nat.le_refl _, ?_⟩
    intro ending isEnding fits
    by_contra longer
    have beyond : char :: rest <:+ ending :=
      List.suffix_of_suffix_length_le whole isEnding (by rw [List.length_cons]; omega)
    obtain ⟨before, rfl⟩ := beyond
    exact absurd (lt_width_of_isControl documented control before separate) (Nat.not_lt.mpr fits)
  · intro kept
    have longest := tailFitting_of_lt (lt_width_of_isControl documented control front separate)
    rw [kept] at longest
    have fits : columnsApart widths (char :: rest) ≤ widths.text rest := by
      rw [columnsApart_cons, columnsAlone_of_isControl documented control, Nat.zero_add]
      exact longest.fits
    have impossible := longest.longest (char :: rest) whole fits
    rw [List.length_cons] at impossible
    omega

end

/-! ### The table -/

theorem widthWithContext_cons (char : Char) (rest : Text) :
    widthWithContext (char :: rest) = ((widthBefore char rest.widthWithContext.2).1 + rest.width,
      (widthBefore char rest.widthWithContext.2).2) := rfl

theorem toNat_of_isPlain {char : Char} (plain : isPlain char = true) :
    0x20 ≤ char.toNat ∧ char.toNat ≤ 0x7E ∨ char = '•' := by
  simpa [isPlain] using plain

theorem plainWidth_of_isPlain {char : Char} (plain : isPlain char = true) : plainWidth char = (1, .ordinary) := by
  rcases toNat_of_isPlain plain with ⟨above, below⟩ | rfl
  · have notFeed : char ≠ '\n' := by
      rintro rfl
      exact absurd above (by decide)
    rw [plainWidth, if_neg notFeed, if_pos (by omega)]
  · decide +kernel

theorem charWidth?_of_isPlain {char : Char} (plain : isPlain char = true) : charWidth? char = some 1 := by
  rcases toNat_of_isPlain plain with ⟨above, below⟩ | rfl
  · have printed : isControl char = false := by
      simp [isControl]
      omega
    rw [charWidth?, printed, if_neg Bool.false_ne_true, graphicWidth, if_pos (by omega)]
  · decide +kernel

theorem widthWithContext_of_plain {text : Text} (plain : ∀ char ∈ text, isPlain char = true) :
    text.widthWithContext = (text.length, .ordinary) := by
  induction text with
  | nil => rfl
  | cons char rest ih =>
    obtain ⟨here, later⟩ := List.forall_mem_cons.mp plain
    rw [widthWithContext, ih later, List.length_cons, Nat.add_comm]
    simp only [widthBefore, plainWidth_of_isPlain here]

theorem toNat_of_isControl {char : Char} (control : isControl char = true) :
    char.toNat < 0x20 ∨ 0x7F ≤ char.toNat ∧ char.toNat ≤ 0x9F := by
  simpa [isControl] using control

theorem plainWidth_of_isControl {char : Char} (control : isControl char = true) :
    plainWidth char = (1, if char = '\n' then .lineFeed else .ordinary) := by
  have range := toNat_of_isControl control
  rw [plainWidth]
  split
  · rfl
  · rw [if_pos (by omega)]

/-- The digits are emoji, and the control characters stand on both sides of them. -/
theorem emoji_of_isControl {char : Char} (control : isControl char = true) : CodeSet.emoji.contains char = false := by
  rcases toNat_of_isControl control with low | ⟨high, below⟩
  · exact CodeSet.contains_of_lt (by omega)
  · rw [CodeSet.contains, CodeSet.emoji, CodeSet.containsFrom_of_ge (by decide) (by omega),
      CodeSet.containsFrom_of_ge (by decide) (by omega), CodeSet.containsFrom_of_ge (by decide) (by omega)]
    exact if_pos (by omega)

/-- No text behind a control character takes its column away, unless both are one line break. -/
theorem widthBefore_of_isControl {char : Char} (control : isControl char = true) {context : WidthContext}
    (separate : context = .lineFeed → char ≠ '\r') : widthBefore char context = plainWidth char := by
  have range := toNat_of_isControl control
  have differs (other : Char) (above : 0x9F < other.toNat) : char ≠ other := by
    rintro rfl
    omega
  have notJoiner := differs zeroWidthJoiner (by decide)
  have notSelector := differs '\uFE0F' (by decide)
  have notSkinTone : isSkinTone char = false := by
    simp [isSkinTone]
    omega
  have notLam : isLam char = false := by
    simp [isLam]
    omega
  have notEmoji := emoji_of_isControl control
  have notPresented : CodeSet.emojiPresentation.contains char = false := CodeSet.contains_of_lt (by omega)
  have notBase : CodeSet.emojiModifierBase.contains char = false := CodeSet.contains_of_lt (by omega)
  have notMark : CodeSet.graphemeExtend.contains char = false := CodeSet.contains_of_lt (by omega)
  cases context with
  | ordinary => rfl
  | lineFeed => simp only [widthBefore, if_neg (separate rfl)]
  | emojiSelector joined => simp [widthBefore, notEmoji]
  | textSelector => simp [widthBefore, notPresented]
  | emoji => simp [widthBefore, notJoiner]
  | joinedEmoji => simp [widthBefore, notSelector, notSkinTone, notPresented]
  | skinTone => simp [widthBefore, notBase, notJoiner]
  | regional => simp [widthBefore, notJoiner]
  | alef => simp [widthBefore, notLam, notMark]

theorem plainWidth_lineFeed {char : Char} (feeds : (plainWidth char).2 = .lineFeed) : char = '\n' := by
  by_contra differs
  rw [plainWidth, if_neg differs] at feeds
  grind

theorem widthBefore_lineFeed {char : Char} {context : WidthContext} (feeds : (widthBefore char context).2 = .lineFeed) :
    char = '\n' := by
  apply plainWidth_lineFeed
  cases context <;> simp only [widthBefore] at feeds <;> grind

theorem widthWithContext_of_isControl {char : Char} (control : isControl char = true) {rest : Text}
    (separate : ¬ (char = '\r' ∧ rest.head? = some '\n')) :
    widthWithContext (char :: rest) = (rest.width + 1, if char = '\n' then .lineFeed else .ordinary) := by
  have apart : rest.widthWithContext.2 = .lineFeed → char ≠ '\r' := by
    rintro feeds rfl
    apply separate
    refine ⟨rfl, ?_⟩
    cases rest with
    | nil => contradiction
    | cons next rest => rw [widthBefore_lineFeed feeds, List.head?_cons]
  rw [widthWithContext_cons, widthBefore_of_isControl control apart, plainWidth_of_isControl control, Nat.add_comm]

/-- A text in front of one that means nothing to it is as wide as alone. -/
theorem widthWithContext_append {front back : Text} (filled : front ≠ [])
    (apart : back.widthWithContext.2 = .ordinary ∨
      back.widthWithContext.2 = .lineFeed ∧ front.getLast? ≠ some '\r') :
    (front ++ back).widthWithContext = (front.width + back.width, front.widthWithContext.2) := by
  induction front with
  | nil => contradiction
  | cons char front ih =>
    cases front with
    | nil =>
      have same : widthBefore char back.widthWithContext.2 = plainWidth char := by
        rcases apart with ordinary | ⟨feeds, differs⟩
        · rw [ordinary]
          rfl
        · rw [feeds, widthBefore, if_neg]
          rintro rfl
          exact differs rfl
      rw [List.singleton_append, widthWithContext_cons, same]
      rfl
    | cons next front =>
      have behind := ih (List.cons_ne_nil next front) apart
      have wide : width (next :: front ++ back) = width (next :: front) + back.width := congrArg Prod.fst behind
      rw [List.cons_append, widthWithContext_cons, behind, wide, ← Nat.add_assoc]
      rfl

theorem width_append {front back : Text} (apart : back.widthWithContext.2 = .ordinary ∨
      back.widthWithContext.2 = .lineFeed ∧ front.getLast? ≠ some '\r') :
    (front ++ back).width = front.width + back.width := by
  by_cases filled : front = []
  · rw [filled, List.nil_append]
    exact (Nat.zero_add _).symm
  · exact congrArg Prod.fst (widthWithContext_append filled apart)

theorem documented_standard : Widths.standard.Documented where
  plainChar plain := charWidth?_of_isPlain plain
  plainText plain := congrArg Prod.fst (widthWithContext_of_plain plain)
  controlChar control := if_pos control
  control {front rest char} control separate unbroken := by
    have back := widthWithContext_of_isControl control separate
    have apart : (widthWithContext (char :: rest)).2 = .ordinary ∨
        (widthWithContext (char :: rest)).2 = .lineFeed ∧ front.getLast? ≠ some '\r' := by
      rw [back]
      by_cases feed : char = '\n'
      · exact .inr ⟨if_pos feed, fun ends => unbroken ⟨feed, ends⟩⟩
      · exact .inl (if_neg feed)
    exact (width_append apart).trans (congrArg (front.width + ·) (congrArg Prod.fst back))
  lineBreak {front rest} := by
    have feed : widthWithContext ('\n' :: rest) = (rest.width + 1, .lineFeed) :=
      widthWithContext_of_isControl rfl nofun
    have back : widthWithContext ('\r' :: '\n' :: rest) = (rest.width + 1, .ordinary) := by
      rw [widthWithContext, feed]
      exact congrArg (·, WidthContext.ordinary) (Nat.zero_add _)
    exact (width_append (.inl (congrArg Prod.snd back))).trans (congrArg (front.width + ·) (congrArg Prod.fst back))

/-- What is kept of a text is an ending of it: the whole text if that fits, else the longest ending whose characters fit
one by one. It is the longest ending that fits as a text exactly when the whole text fits, or what is kept fits as a
text and no ending fits as a text that does not fit one by one. By what is documented of the widths, so it is for every
text of plain characters and for every masked password, and for no text with a control character, in the columns that
the text behind that character takes. -/
theorem tailFitting_longest_iff (widths : Widths) (columns : Nat) (text : Text) :
    let kept := text.tailFitting widths columns
    (widths.text text ≤ columns ∧ kept = text ∨
      columns < widths.text text ∧ IsLongestEnding (columnsApart widths) columns text kept) ∧
    (IsLongestEnding widths.text columns text kept ↔ widths.text text ≤ columns ∨
      widths.text kept ≤ columns ∧
        ∀ ending : Text, ending <:+ text → widths.text ending ≤ columns → columnsApart widths ending ≤ columns) ∧
    (widths.Documented →
      ((∀ char ∈ text, isPlain char = true) → IsLongestEnding widths.text columns text kept) ∧
      (∀ options count, text = List.replicate count (Glyphs.ofOptions options).mask →
        IsLongestEnding widths.text columns text kept) ∧
      ∀ (front : Text) (char : Char) (rest : Text), text = front ++ char :: rest → isControl char = true →
        ¬ (char = '\r' ∧ rest.head? = some '\n') → columns = widths.text rest →
          IsLongestEnding widths.text columns text rest ∧ kept ≠ rest) := by
  intro kept
  refine ⟨?_, isLongestEnding_tailFitting_iff, ?_⟩
  · rcases Nat.lt_or_ge columns (widths.text text) with wide | fits
    · exact .inr ⟨wide, tailFitting_of_lt wide⟩
    · exact .inl ⟨fits, tailFitting_of_fits fits⟩
  · intro documented
    refine ⟨?_, ?_, ?_⟩
    · intro plain
      exact isLongestEnding_of_plain documented plain columns
    · rintro options count rfl
      refine isLongestEnding_of_plain documented ?_ columns
      intro char member
      rw [List.eq_of_mem_replicate member, Glyphs.ofOptions]
      split <;> rfl
    · rintro front char rest rfl control separate rfl
      exact tailFitting_of_isControl documented control front separate

/-- A tab among three letters. In three columns all of it is kept, although it takes four and fits without the first
letter; in one column the tab is kept in front of the last letter. Letters alone and mask signs are cut as they should.
-/
theorem tailFitting_longest_iff_at_tab :
    let text : Text := ['a', 'b', '\t', 'c']
    let masked : Text := List.replicate 5 (Glyphs.ofOptions ⟨false, false⟩).mask
    (text.tailFitting .standard 3 = text ∧ ¬ IsLongestEnding width 3 text (text.tailFitting .standard 3)) ∧
    (isControl '\t' = true ∧ text.tailFitting .standard 1 = ['\t', 'c'] ∧ IsLongestEnding width 1 text ['c']) ∧
    IsLongestEnding width 2 ['a', 'b', 'c'] ['b', 'c'] ∧
    IsLongestEnding width 3 masked (masked.tailFitting .standard 3) := by
  intro text masked
  have all : text.tailFitting .standard 3 = text := by decide
  have wide : ¬ text.width ≤ 3 := by decide
  have letters : tailFitting .standard 2 ['a', 'b', 'c'] = ['b', 'c'] := by decide
  have atThree := (tailFitting_longest_iff .standard 3 text).2.1
  obtain ⟨_, _, atOne⟩ := (tailFitting_longest_iff .standard 1 text).2.2 documented_standard
  obtain ⟨atLetters, _⟩ := (tailFitting_longest_iff .standard 2 ['a', 'b', 'c']).2.2 documented_standard
  obtain ⟨_, atMasked, _⟩ := (tailFitting_longest_iff .standard 3 masked).2.2 documented_standard
  have cut := atLetters (List.all_eq_true.mp (by decide))
  rw [all] at atThree
  rw [letters] at cut
  refine ⟨⟨all, ?_⟩, ⟨rfl, by decide, (atOne ['a', 'b'] '\t' ['c'] rfl rfl nofun (by decide)).1⟩, cut,
    atMasked _ 5 rfl⟩
  rw [all]
  intro longest
  rcases atThree.mp longest with fits | ⟨fits, _⟩ <;> exact wide fits

end Text

end TerminalSignIn
