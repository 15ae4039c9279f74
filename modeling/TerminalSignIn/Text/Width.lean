import TerminalSignIn.Text.Basic
import TerminalSignIn.Text.Property

/-!
# Columns

How many columns a terminal gives to a character and to a text is for a library to say, and its two measures differ: a
control character has no width alone and counts one column in a text, a selector widens the character before it, and an
emoji sequence takes the two columns of one emoji. The library that runs is a table of these rules, without the
ligatures that single scripts have.

A reader sees clusters: a character with the marks that attach to it. `Text.clusters` cuts a text into its extended
grapheme clusters, and nothing is lost on the way.
-/

namespace TerminalSignIn

/-- The columns of a text, and of a character that stands alone, if it has any. -/
structure Widths where
  text : Text → Nat
  char? : Char → Option Nat

/-- The longest ending of a text whose characters, each measured alone, fit into `columns`; the whole text
if its width as a text is no more than that. -/
def Text.tailFitting (widths : Widths) (columns : Nat) (text : Text) : Text :=
  if widths.text text ≤ columns then text
  else (takeFitting columns text.reverse).reverse
where
  /-- The characters from the front of a reversed text, as long as they fit. -/
  takeFitting (columns : Nat) : Text → Text
    | [] => []
    | char :: rest =>
      let width := (widths.char? char).getD 0
      if width ≤ columns then char :: takeFitting (columns - width) rest else []

/-! ### The table -/

def isTrailingJamo (char : Char) : Bool :=
  let code := char.toNat
  (0x1160 ≤ code && code < 0x1200) || (0xD7B0 ≤ code && code < 0xD7C7) || (0xD7CB ≤ code && code < 0xD7FC)

def graphicWidth (char : Char) : Nat :=
  if char.toNat < 0xA0 then 1
  else if char.toNat = 0x115F then 2
  else if CodeSet.graphemeExtend.contains char || CodeSet.defaultIgnorable.contains char
      || isTrailingJamo char then 0
  else if char.toNat = 0x2E3A then 2
  else if char.toNat = 0x2E3B then 3
  else if CodeSet.wide.contains char then 2
  else 1

def charWidth? (char : Char) : Option Nat :=
  if isControl char then none else some (graphicWidth char)

/-- What is known, reading a text from its end, of the characters that follow. -/
inductive WidthContext where
  | ordinary
  | lineFeed
  /-- A selector for the emoji form; `joined` if an emoji is joined behind it. -/
  | emojiSelector (joined : Bool)
  /-- A selector for the text form. -/
  | textSelector
  | emoji
  | joinedEmoji
  | skinTone
  /-- A regional indicator, and whether it is the second of a pair. -/
  | regional
  /-- The Arabic letter alef, which fuses with a lam before it. -/
  | alef
deriving DecidableEq

def zeroWidthJoiner : Char := '\u200D'

def isRegional (char : Char) : Bool :=
  0x1F1E6 ≤ char.toNat && char.toNat ≤ 0x1F1FF

def isSkinTone (char : Char) : Bool :=
  0x1F3FB ≤ char.toNat && char.toNat ≤ 0x1F3FF

def isAlef (char : Char) : Bool :=
  [0x622, 0x623, 0x625, 0x627, 0x671, 0x672, 0x673, 0x675, 0x773, 0x774].contains char.toNat

def isLam (char : Char) : Bool :=
  [0x644, 0x6B5, 0x6B6, 0x6B7, 0x6B8, 0x76A, 0x8A6, 0x8C7].contains char.toNat

def plainWidth (char : Char) : Nat × WidthContext :=
  if char = '\n' then (1, .lineFeed)
  else if char.toNat ≤ 0xA0 then (1, .ordinary)
  else if char = '\uFE0F' then (0, .emojiSelector false)
  else if char = '\uFE0E' then (0, .textSelector)
  else if isRegional char then (1, .regional)
  else if isSkinTone char then (2, .skinTone)
  else if isAlef char then (1, .alef)
  else if CodeSet.emojiPresentation.contains char then (2, .emoji)
  else (graphicWidth char, .ordinary)

def widthBefore (char : Char) : WidthContext → Nat × WidthContext
  | .ordinary => plainWidth char
  | .lineFeed => if char = '\r' then (0, .ordinary) else plainWidth char
  | .emojiSelector joined =>
    if CodeSet.emoji.contains char then (if joined then 0 else 2, .emoji) else plainWidth char
  | .textSelector =>
    if CodeSet.emojiPresentation.contains char then (1, .ordinary) else plainWidth char
  | .emoji => if char = zeroWidthJoiner then (0, .joinedEmoji) else plainWidth char
  | .joinedEmoji =>
    if char = '\uFE0F' then (0, .emojiSelector true)
    else if isSkinTone char then (0, .skinTone)
    else if CodeSet.emojiPresentation.contains char then (0, .emoji)
    else plainWidth char
  | .skinTone =>
    if CodeSet.emojiModifierBase.contains char then (0, .emoji)
    else if char = zeroWidthJoiner then (0, .joinedEmoji)
    else plainWidth char
  | .regional => if char = zeroWidthJoiner then (0, .joinedEmoji) else plainWidth char
  | .alef =>
    if isLam char then (0, .ordinary)
    else if char.toNat ≠ 0x200D && CodeSet.graphemeExtend.contains char then (0, .alef)
    else plainWidth char

namespace Text

def widthWithContext : Text → Nat × WidthContext
  | [] => (0, .ordinary)
  | char :: rest =>
    let (behind, context) := widthWithContext rest
    let (columns, context) := widthBefore char context
    (columns + behind, context)

def width (text : Text) : Nat :=
  text.widthWithContext.1

end Text

def Widths.standard : Widths := ⟨Text.width, charWidth?⟩

/-! ### Clusters -/

inductive ClusterClass where
  | carriageReturn
  | lineFeed
  | control
  | extend
  | joiner
  | regional
  | prepended
  | spacing
  /-- A leading consonant of the Korean script. -/
  | leading
  /-- A vowel, or a syllable that ends in one. -/
  | vowel
  | openSyllable
  /-- A final consonant, or a syllable that ends in one. -/
  | final
  | closedSyllable
  | other
deriving DecidableEq

namespace ClusterClass

def ofChar (char : Char) : ClusterClass :=
  let code := char.toNat
  if char = '\r' then .carriageReturn
  else if char = '\n' then .lineFeed
  else if code < 0x20 || code = 0x7F then .control
  else if code < 0x7F then .other
  else if char = zeroWidthJoiner then .joiner
  else if CodeSet.clusterControl.contains char then .control
  else if isSkinTone char || CodeSet.graphemeExtend.contains char then .extend
  else if isRegional char then .regional
  else if CodeSet.prepended.contains char then .prepended
  else if CodeSet.spacingMark.contains char then .spacing
  else if (0x1100 ≤ code && code < 0x1160) || (0xA960 ≤ code && code < 0xA97D) then .leading
  else if (0x1160 ≤ code && code < 0x11A8) || (0xD7B0 ≤ code && code < 0xD7C7) then .vowel
  else if (0x11A8 ≤ code && code < 0x1200) || (0xD7CB ≤ code && code < 0xD7FC) then .final
  else if 0xAC00 ≤ code && code < 0xD7A4 then
    if (code - 0xAC00) % 28 = 0 then .openSyllable else .closedSyllable
  else .other

def isBreaking (cls : ClusterClass) : Bool :=
  cls = .control || cls = .carriageReturn || cls = .lineFeed

end ClusterClass

inductive ConjunctState where
  | outside
  /-- After a consonant and marks, none of them a linking sign. -/
  | consonant
  /-- After a consonant and marks, a linking sign among them. -/
  | linked
deriving DecidableEq

def isLinkingSign (char : Char) : Bool :=
  [0x94D, 0x9CD, 0xACD, 0xB4D, 0xC4D, 0xD4D].contains char.toNat

/-- What the next boundary depends on: the class of the last character, whether a pictograph with marks
(and a joiner) ends there, whether an unpaired regional indicator does, and the state of a conjunct. -/
structure ClusterState where
  last : ClusterClass
  pictograph : Bool
  joinedPictograph : Bool
  unpairedRegional : Bool
  conjunct : ConjunctState

namespace ClusterState

def start (char : Char) : ClusterState where
  last := .ofChar char
  pictograph := CodeSet.pictographic.contains char
  joinedPictograph := false
  unpairedRegional := isRegional char
  conjunct := if CodeSet.conjunctConsonant.contains char then .consonant else .outside

def joins (state : ClusterState) (char : Char) : Bool :=
  let following := ClusterClass.ofChar char
  if state.last = .carriageReturn && following = .lineFeed then true
  else if state.last.isBreaking || following.isBreaking then false
  else if state.last = .leading && (following = .leading || following = .vowel || following = .openSyllable
      || following = .closedSyllable) then true
  else if (state.last = .vowel || state.last = .openSyllable) && (following = .vowel || following = .final) then
    true
  else if (state.last = .final || state.last = .closedSyllable) && following = .final then true
  else if following = .extend || following = .joiner || following = .spacing then true
  else if state.last = .prepended then true
  else if state.conjunct = .linked && CodeSet.conjunctConsonant.contains char then true
  else if state.joinedPictograph && CodeSet.pictographic.contains char then true
  else state.unpairedRegional && following = .regional

def next (state : ClusterState) (char : Char) : ClusterState where
  last := .ofChar char
  pictograph := CodeSet.pictographic.contains char
    || (state.pictograph && decide (ClusterClass.ofChar char = .extend))
  joinedPictograph := state.pictograph && char = zeroWidthJoiner
  unpairedRegional := isRegional char && !state.unpairedRegional
  conjunct :=
    if CodeSet.conjunctConsonant.contains char then .consonant
    else if state.conjunct = .outside then .outside
    else if isLinkingSign char then .linked
    else if ClusterClass.ofChar char = .extend || char = zeroWidthJoiner then state.conjunct
    else .outside

end ClusterState

namespace Text

def clustersFrom (state : ClusterState) (cluster : Text) : Text → List Text
  | [] => [cluster.reverse]
  | char :: rest =>
    if state.joins char then clustersFrom (state.next char) (char :: cluster) rest
    else cluster.reverse :: clustersFrom (.start char) [char] rest

/-- The extended grapheme clusters of a text, in order. -/
def clusters : Text → List Text
  | [] => []
  | char :: rest => clustersFrom (.start char) [char] rest

end Text

end TerminalSignIn
