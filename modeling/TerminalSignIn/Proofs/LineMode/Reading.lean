import TerminalSignIn.LineMode
import TerminalSignIn.Proofs.Text.Pieces
import TerminalSignIn.Proofs.Text.Utf8

/-!
# Lines of input

A line has a content and an end, which is a line feed or the end of the input, with any carriage returns before it. The
content is read as it is, spaces and all. Reading goes by bytes, but no byte of a line feed stands inside the encoding
of another character, so a line can be read exactly if its bytes are an encoded text.
-/

namespace TerminalSignIn

namespace LineMode

/-- The content of a line has no line feed, and no carriage return at its end. -/
structure IsContent (content : Text) : Prop where
  single : '\n' ∉ content
  bare : content.getLast? ≠ some '\r'

def returns (count : Nat) : Text :=
  List.replicate count '\r'

/-- The content of the next line of a text, unless there is no line left, and what follows the line. -/
inductive NextLine : Text → Option Text → Text → Prop where
  | none : NextLine [] none []
  | ended {content : Text} (is : IsContent content) (count : Nat) (rest : Text) :
    NextLine (content ++ returns count ++ '\n' :: rest) (some content) rest
  | last {content : Text} (is : IsContent content) (count : Nat) (filled : content ++ returns count ≠ []) :
    NextLine (content ++ returns count) (some content) []

/-- What is entered by the lines of a text: the password, and the email before it unless that is known. -/
inductive Entered : Option Text → Text → Credentials → Prop where
  | password {email text rest : Text} {password : Option Text} : NextLine text password rest →
    Entered (some email) text ⟨some email, password⟩
  | both {text between rest : Text} {email password : Option Text} : NextLine text email between →
    NextLine between password rest → Entered none text ⟨email, password⟩

def neededLines (email : Option Text) (input : Bytes) : List Bytes :=
  (List.splitOn 0x0A input).take (if email.isSome then 1 else 2)

/-! ### Splitting -/

theorem splitLine?_ended {line : Bytes} (single : 0x0A ∉ line) (rest : Bytes) :
    splitLine? (line ++ 0x0A :: rest) = some (line ++ [0x0A], rest) := by
  induction line with
  | nil => rw [List.nil_append, splitLine?, if_pos rfl, List.nil_append]
  | cons byte line ih =>
    rw [List.mem_cons, not_or] at single
    rw [List.cons_append, splitLine?, if_neg (Ne.symm single.1), ih single.2]
    rfl

theorem splitLine?_last {line : Bytes} (single : 0x0A ∉ line) (filled : line ≠ []) :
    splitLine? line = some (line, []) := by
  induction line with
  | nil => contradiction
  | cons byte line ih =>
    rw [List.mem_cons, not_or] at single
    rw [splitLine?, if_neg (Ne.symm single.1)]
    cases line with
    | nil => rfl
    | cons next line => rw [ih single.2 (List.cons_ne_nil next line)]

theorem encode_feed (rest : Text) : Utf8.encode ('\n' :: rest) = 0x0A :: Utf8.encode rest :=
  Utf8.encode_cons_of_ascii (by decide) rest

theorem feed_mem_encode {text : Text} : 0x0A ∈ Utf8.encode text ↔ '\n' ∈ text :=
  Utf8.mem_encode_of_ascii (by decide)

/-- The line feed at the end of a line has no part in whether its bytes are an encoded text. -/
theorem exists_encode_ended (line : Bytes) :
    (∃ text, line ++ [0x0A] = Utf8.encode text) ↔ ∃ text, line = Utf8.encode text := by
  constructor
  · rintro ⟨text, encoded⟩
    rcases List.eq_nil_or_concat text with rfl | ⟨front, char, rfl⟩
    · exact absurd encoded (List.append_ne_nil_of_right_ne_nil _ (List.cons_ne_nil _ _))
    · rw [List.concat_eq_append, Utf8.encode_append] at encoded
      have final : (0x0A : UInt8) ∈ Utf8.encode [char] := by
        have filled : Utf8.encode [char] ≠ [] := by
          rw [Utf8.encode, List.flatMap_singleton]
          exact Utf8.encodeChar_ne_nil char
        have last := congrArg List.getLast? encoded
        rw [List.getLast?_append_of_ne_nil _ (List.cons_ne_nil _ _), List.getLast?_append_of_ne_nil _ filled] at last
        exact List.mem_of_getLast? last.symm
      have feed : '\n' = char := List.mem_singleton.mp (feed_mem_encode.mp final)
      rw [← feed, encode_feed] at encoded
      exact ⟨front, List.append_cancel_right encoded⟩
  · rintro ⟨text, rfl⟩
    exact ⟨text ++ ['\n'], by rw [Utf8.encode_append, encode_feed]; rfl⟩

/-! ### Reading a field -/

theorem lineText?_encode (text : Text) : lineText? (Utf8.encode text) = some (text.dropEndWhile isLineEnd) := by
  rw [lineText?, Utf8.decode?_eq_some_iff.mpr rfl]
  rfl

theorem lineText?_eq_none {line : Bytes} (broken : ∀ text, line ≠ Utf8.encode text) : lineText? line = none := by
  rw [lineText?, Option.map_eq_none_iff]
  refine Option.eq_none_iff_forall_ne_some.mpr fun text decoded => ?_
  exact broken text (Utf8.decode?_eq_some_iff.mp decoded)

theorem dropEndWhile_content {content : Text} (is : IsContent content) (count : Nat) :
    (content ++ returns count).dropEndWhile isLineEnd = content := by
  have ends : ∀ char ∈ returns count, isLineEnd char = true := by
    intro char member
    rw [List.eq_of_mem_replicate member]
    rfl
  rw [Text.dropEndWhile_append ends]
  refine List.rdropWhile_eq_self_iff.mpr fun filled => ?_
  have here : content.getLast filled ∈ content := List.getLast_mem filled
  have last : content.getLast? = some (content.getLast filled) := List.getLast?_eq_some_getLast filled
  intro ending
  rw [isLineEnd, Bool.or_eq_true, decide_eq_true_eq, decide_eq_true_eq] at ending
  rcases ending with feed | ret
  · exact is.single (feed ▸ here)
  · exact is.bare (last.trans (congrArg some ret))

theorem single_content {content : Text} (is : IsContent content) (count : Nat) : '\n' ∉ content ++ returns count := by
  rw [List.mem_append, not_or]
  exact ⟨is.single, fun member => absurd (List.eq_of_mem_replicate member) (by decide)⟩

theorem readField_ended (field : Field) {line : Text} (single : '\n' ∉ line) (rest : Bytes) :
    readField field (Utf8.encode line ++ 0x0A :: rest) = .ok (some (line.dropEndWhile isLineEnd), rest) := by
  have whole : Utf8.encode line ++ [0x0A] = Utf8.encode (line ++ ['\n']) := by
    rw [Utf8.encode_append, encode_feed]
    rfl
  rw [readField, splitLine?_ended (mt feed_mem_encode.mp single), whole]
  dsimp only
  rw [lineText?_encode, Text.dropEndWhile_append (List.forall_mem_singleton.mpr rfl)]

theorem readField_last (field : Field) {line : Text} (single : '\n' ∉ line) (filled : line ≠ []) :
    readField field (Utf8.encode line) = .ok (some (line.dropEndWhile isLineEnd), []) := by
  have some : Utf8.encode line ≠ [] := by
    obtain ⟨char, rest, rfl⟩ := List.exists_cons_of_ne_nil filled
    exact List.append_ne_nil_of_left_ne_nil (Utf8.encodeChar_ne_nil char) _
  rw [readField, splitLine?_last (mt feed_mem_encode.mp single) some]
  dsimp only
  rw [lineText?_encode]

theorem readField_nextLine (field : Field) {text rest : Text} {value : Option Text} (line : NextLine text value rest) :
    readField field (Utf8.encode text) = .ok (value, Utf8.encode rest) := by
  cases line with
  | none => rfl
  | ended is count =>
    rw [Utf8.encode_append, encode_feed, readField_ended field (single_content is count), dropEndWhile_content is]
  | last is count filled =>
    rw [readField_last field (single_content is count) filled, dropEndWhile_content is]
    rfl

theorem readField_broken (field : Field) {input line : Bytes} (first : (List.splitOn 0x0A input).head? = some line)
    (broken : ∀ text, line ≠ Utf8.encode text) : readField field input = .error (.unreadable field) := by
  by_cases ends : 0x0A ∈ input
  · obtain ⟨front, rest, rfl, single⟩ := List.eq_append_cons_of_mem ends
    rw [List.splitOn_append_cons_self_of_not_mem single] at first
    obtain rfl : front = line := Option.some.inj first
    have unreadable : lineText? (front ++ [0x0A]) = none := by
      refine lineText?_eq_none fun text encoded => ?_
      obtain ⟨other, same⟩ := (exists_encode_ended front).mp ⟨text, encoded⟩
      exact broken other same
    rw [readField, splitLine?_ended single]
    dsimp only
    rw [unreadable]
  · rw [List.splitOn_eq_singleton ends] at first
    obtain rfl : input = line := Option.some.inj first
    have filled : input ≠ [] := broken []
    rw [readField, splitLine?_last ends filled]
    dsimp only
    rw [lineText?_eq_none broken]

/-! ### Everything that is entered -/

theorem exists_isContent {line : Text} (single : '\n' ∉ line) :
    ∃ content count, IsContent content ∧ line = content ++ returns count := by
  obtain ⟨dropped, split, all⟩ := Text.exists_dropped (fun char => char = '\r') line
  have repeated : dropped = returns dropped.length :=
    List.eq_replicate_of_mem fun char member => of_decide_eq_true (all char member)
  refine ⟨_, dropped.length, ⟨fun member => single (Text.mem_of_mem_dropEndWhile member), ?_⟩, repeated ▸ split⟩
  intro last
  have other := Text.last_dropEndWhile (List.dropLast_append_getLast? _ last).symm
  exact absurd rfl (of_decide_eq_false other)

theorem exists_nextLine (text : Text) : ∃ value rest, NextLine text value rest := by
  by_cases ends : '\n' ∈ text
  · obtain ⟨line, rest, rfl, single⟩ := List.eq_append_cons_of_mem ends
    obtain ⟨content, count, is, rfl⟩ := exists_isContent single
    exact ⟨some content, rest, .ended is count rest⟩
  · rcases eq_or_ne text [] with rfl | filled
    · exact ⟨none, [], .none⟩
    · obtain ⟨content, count, is, rfl⟩ := exists_isContent ends
      exact ⟨some content, [], .last is count filled⟩

theorem readCredentials_behind {email : Option Text} {input rest : Bytes}
    (first : readField .email input = .ok (email, rest)) :
    readCredentials none input = (readField .password rest).map fun second => ⟨email, second.1⟩ := by
  rw [readCredentials, first]
  dsimp only [bind, Except.bind]
  cases readField .password rest <;> rfl

theorem readCredentials_entered {email : Option Text} {text : Text} {credentials : Credentials}
    (entered : Entered email text credentials) : readCredentials email (Utf8.encode text) = .ok credentials := by
  cases entered with
  | password line =>
    rw [readCredentials, readField_nextLine .password line]
    rfl
  | both first second =>
    rw [readCredentials_behind (readField_nextLine .email first), readField_nextLine .password second]
    rfl

theorem existsUnique_entered (email : Option Text) (text : Text) : ∃! credentials, Entered email text credentials := by
  have some : ∃ credentials, Entered email text credentials := by
    obtain ⟨first, between, line⟩ := exists_nextLine text
    cases email with
    | some email => exact ⟨_, .password line⟩
    | none =>
      obtain ⟨second, rest, next⟩ := exists_nextLine between
      exact ⟨_, .both line next⟩
  obtain ⟨credentials, entered⟩ := some
  refine ⟨credentials, entered, fun other enteredToo => ?_⟩
  have read := readCredentials_entered entered
  rw [readCredentials_entered enteredToo] at read
  exact Except.ok.inj read

theorem readCredentials_broken {email : Option Text} {input line : Bytes} (needed : line ∈ neededLines email input)
    (broken : ∀ text, line ≠ Utf8.encode text) : ∃ field, readCredentials email input = .error (.unreadable field) := by
  obtain ⟨first, more, lines⟩ := List.exists_cons_of_ne_nil (List.splitOn_ne_nil 0x0A input)
  rw [neededLines, lines] at needed
  cases email with
  | some email =>
    obtain rfl : line = first := List.mem_singleton.mp needed
    have failed := readField_broken .password (congrArg List.head? lines) broken
    exact ⟨.password, by rw [readCredentials, failed]; rfl⟩
  | none =>
    by_cases readable : ∃ text, first = Utf8.encode text
    · -- The email can be read, so the line in question is the one after it.
      obtain ⟨text, rfl⟩ := readable
      have later : line ∈ more.take 1 := (List.mem_cons.mp needed).resolve_left (broken text)
      have ends : 0x0A ∈ input := by
        by_contra single
        rw [List.splitOn_eq_singleton single] at lines
        rw [← (List.cons.inj lines).2] at later
        contradiction
      obtain ⟨front, rest, rfl, single⟩ := List.eq_append_cons_of_mem ends
      rw [List.splitOn_append_cons_self_of_not_mem single] at lines
      obtain ⟨rfl, rfl⟩ := List.cons.inj lines
      have first : (List.splitOn 0x0A rest).head? = some line := by
        obtain ⟨second, others, split⟩ := List.exists_cons_of_ne_nil (List.splitOn_ne_nil 0x0A rest)
        rw [split] at later
        rw [split, List.mem_singleton.mp later]
        rfl
      refine ⟨.password, ?_⟩
      rw [readCredentials_behind (readField_ended .email (mt feed_mem_encode.mpr single) rest),
        readField_broken .password first broken]
      rfl
    · have failed := readField_broken .email (congrArg List.head? lines) fun text same => readable ⟨text, same⟩
      exact ⟨.email, by rw [readCredentials, failed]; rfl⟩

end LineMode

end TerminalSignIn
