import TerminalSignIn.Proofs.Json.Margin
import TerminalSignIn.Proofs.Text.Pieces

/-!
# Written JSON

What is written is read back: a string literal is one token with the string in it, whatever characters the string is
made of, and an object of strings is read with the members that were written, in their order.
-/

namespace TerminalSignIn

namespace Json

/-! ### Strings -/

theorem digit?_digitChar : ∀ digit < 16, Text.digit? 16 (Nat.digitChar digit) = some digit := by
  decide

/-- The last two digits of the number of a control character say which one it is, and the others are zero. -/
theorem fourDigits_control : ∀ code < 0x20,
    fourDigits code = ['0', '0', Nat.digitChar (code / 16), Nat.digitChar (code % 16)] := by
  decide

theorem advance_inString {state : StringState} {char : Char} (inside : state = .plain → char ≠ Text.quote)
    (tokens : List Token) (chars : Text) : advance (tokens, .inString state chars) char =
      (state.next char).map fun (added, later) => (tokens, .inString later (added.reverse ++ chars)) := by
  have goes : (decide (state = .plain) && decide (char = Text.quote)) = false := by
    rw [Bool.and_eq_false_iff, decide_eq_false_iff_not, decide_eq_false_iff_not]
    exact Decidable.not_or_of_imp inside
  unfold advance Reading.next
  simp only [goes, Bool.false_eq_true, if_false]
  cases state.next char <;> rfl

theorem next_numbered {char : Char} {digit : Nat} (read : Text.digit? 16 char = some digit) (count value : Nat) :
    StringState.next char (.numbered none count value) =
      if count < 3 then some ([], .numbered none (count + 1) (value * 16 + digit))
      else finishNumbered none (value * 16 + digit) := by
  simp only [StringState.next, read]
  rfl

theorem finishNumbered_control {code : Nat} (control : code < 0x20) :
    finishNumbered none code = some ([Char.ofNat code], .plain) := by
  have high : isHighSurrogate code = false := by
    simp only [isHighSurrogate, Bool.and_eq_false_iff, decide_eq_false_iff_not]
    omega
  have low : isLowSurrogate code = false := by
    simp only [isLowSurrogate, Bool.and_eq_false_iff, decide_eq_false_iff_not]
    omega
  simp only [finishNumbered, high, low, Bool.false_eq_true, if_false]

theorem foldlM_numbered (tokens : List Token) (chars : Text) {char : Char} (control : char.toNat < 0x20) :
    ("\\u".toList ++ fourDigits char.toNat).foldlM advance (tokens, .inString .plain chars) =
      some (tokens, .inString .plain (char :: chars)) := by
  have zero : Text.digit? 16 '0' = some 0 := by decide
  have high : Text.digit? 16 (Nat.digitChar (char.toNat / 16)) = some (char.toNat / 16) :=
    digit?_digitChar _ (by omega)
  have low : Text.digit? 16 (Nat.digitChar (char.toNat % 16)) = some (char.toNat % 16) :=
    digit?_digitChar _ (by omega)
  have code : char.toNat / 16 * 16 + char.toNat % 16 = char.toNat := Nat.div_add_mod' _ _
  have begun : ("\\u".toList ++ fourDigits char.toNat).foldlM advance (tokens, .inString .plain chars) =
      (fourDigits char.toNat).foldlM advance (tokens, .inString (.numbered none 0 0) chars) := rfl
  rw [begun, fourDigits_control _ control]
  simp [advance_inString, next_numbered zero, next_numbered high, next_numbered low, code,
    finishNumbered_control control]

theorem foldlM_escapedChar (tokens : List Token) (chars : Text) (char : Char) :
    (escapedChar char).foldlM advance (tokens, .inString .plain chars) =
      some (tokens, .inString .plain (char :: chars)) := by
  unfold escapedChar
  split
  next quote =>
    subst quote
    rfl
  next other =>
    split
    · rfl
    · rfl
    · rfl
    · rfl
    · rfl
    · rfl
    next backslash _ _ _ _ _ =>
      split
      next control => exact foldlM_numbered tokens chars control
      next printed =>
        have goes : StringState.next char .plain = some ([char], .plain) := by
          unfold StringState.next
          dsimp only
          rw [if_neg backslash, if_neg printed]
        rw [List.foldlM_cons, advance_inString (fun _ => other), goes]
        rfl

theorem foldlM_escaped (tokens : List Token) (chars value : Text) :
    (value.flatMap escapedChar).foldlM advance (tokens, .inString .plain chars) =
      some (tokens, .inString .plain (value.reverse ++ chars)) := by
  induction value generalizing chars with
  | nil => rfl
  | cons char value ih =>
    rw [List.flatMap_cons, List.foldlM_append, foldlM_escapedChar]
    simpa using ih (char :: chars)

theorem foldlM_stringLiteral (tokens : List Token) (value : Text) :
    (stringLiteral value).foldlM advance (tokens, .between) = some (.text value :: tokens, .between) := by
  have opened : advance (tokens, .between) Text.quote = some (tokens, .inString .plain []) := rfl
  have closed (chars : Text) :
      advance (tokens, .inString .plain chars) Text.quote = some (.text chars.reverse :: tokens, .between) := rfl
  unfold stringLiteral
  simp [opened, closed, foldlM_escaped]

/-! ### Objects -/

def writtenMember (member : Text × Text) : Text :=
  stringLiteral member.1 ++ ':' :: stringLiteral member.2

def memberTokens (member : Text × Text) : List Token :=
  [.text member.1, .colon, .text member.2]

theorem foldlM_writtenMember (tokens : List Token) (member : Text × Text) :
    (writtenMember member).foldlM advance (tokens, .between) =
      some ((memberTokens member).reverse ++ tokens, .between) := by
  have colon (tokens : List Token) : advance (tokens, .between) ':' = some (.colon :: tokens, .between) := rfl
  unfold writtenMember memberTokens
  simp [foldlM_stringLiteral, colon]

theorem foldlM_writtenMembers (tokens : List Token) (members : List (Text × Text)) :
    (members.flatMap fun member => ',' :: writtenMember member).foldlM advance (tokens, .between) =
      some ((members.flatMap fun member => .comma :: memberTokens member).reverse ++ tokens, .between) := by
  have comma (tokens : List Token) : advance (tokens, .between) ',' = some (.comma :: tokens, .between) := rfl
  induction members generalizing tokens with
  | nil => rfl
  | cons member members ih => simp [comma, foldlM_writtenMember, ih]

def innerTokens : List (Text × Text) → List Token
  | [] => []
  | member :: members => memberTokens member ++ members.flatMap fun member => .comma :: memberTokens member

theorem tokens?_stringObject (members : List (Text × Text)) :
    tokens? (stringObject members) = some (.openObject :: innerTokens members ++ [.closeObject]) := by
  have opened : advance ([], .between) '\x7b' = some ([.openObject], .between) := rfl
  have closed (tokens : List Token) :
      advance (tokens, .between) '\x7d' = some (.closeObject :: tokens, .between) := rfl
  have inner : (Text.join [','] (members.map writtenMember)).foldlM advance ([.openObject], .between) =
      some ((innerTokens members).reverse ++ [.openObject], .between) := by
    cases members with
    | nil => rfl
    | cons member members =>
      have joined : ((members.map writtenMember).map (',' :: ·)).flatten =
          members.flatMap fun member => ',' :: writtenMember member := by
        rw [List.map_map, List.flatMap_def]
        rfl
      rw [List.map_cons, Text.join_cons, joined, List.foldlM_append, foldlM_writtenMember]
      simpa [innerTokens] using foldlM_writtenMembers ((memberTokens member).reverse ++ [.openObject]) members
  have written : stringObject members = '\x7b' :: Text.join [','] (members.map writtenMember) ++ ['\x7d'] := rfl
  rw [tokens?_eq, written]
  unfold tokensFrom?
  simp [opened, inner, closed, complete, Reading.finish]

def readMember (member : Text × Text) : Text × Json :=
  (member.1, string member.2)

theorem foldlM_members (read : List (Text × Json)) (members : List (Text × Text)) :
    (members.flatMap fun member => .comma :: memberTokens member).foldlM Parsing.next
      ⟨.comma, [.object read none]⟩ =
      some ⟨.comma, [.object ((members.map readMember).reverse ++ read) none]⟩ := by
  induction members generalizing read with
  | nil => rfl
  | cons member members ih =>
    rw [List.flatMap_cons, List.foldlM_append]
    have step : (Token.comma :: memberTokens member).foldlM Parsing.next ⟨.comma, [.object read none]⟩ =
        some ⟨.comma, [.object (readMember member :: read) none]⟩ := rfl
    rw [step]
    simpa using ih (readMember member :: read)

theorem parse?_stringObject (members : List (Text × Text)) :
    parse? (stringObject members) = some (.object (members.map readMember)) := by
  unfold parse?
  rw [tokens?_stringObject]
  cases members with
  | nil => rfl
  | cons member members =>
    have first : (Token.openObject :: memberTokens member).foldlM Parsing.next .start =
        some ⟨.comma, [.object [readMember member] none]⟩ := rfl
    have closed (read : List (Text × Json)) : Parsing.next ⟨.comma, [.object read none]⟩ .closeObject =
        some ⟨.ending (.object read.reverse), []⟩ := rfl
    have tokens : Token.openObject :: innerTokens (member :: members) ++ [.closeObject] =
        (Token.openObject :: memberTokens member) ++
          ((members.flatMap fun member => .comma :: memberTokens member) ++ [.closeObject]) := by
      simp [innerTokens]
    have all : (Token.openObject :: innerTokens (member :: members) ++ [Token.closeObject]).foldlM Parsing.next .start =
        some ⟨.ending (.object ((member :: members).map readMember)), []⟩ := by
      rw [tokens, List.foldlM_append, first, Option.bind_eq_bind, Option.bind_some, List.foldlM_append, foldlM_members,
        Option.bind_eq_bind, Option.bind_some, List.foldlM_cons, closed]
      simp
    rw [Option.bind_eq_bind, Option.bind_some, all]
    rfl

end Json

end TerminalSignIn
