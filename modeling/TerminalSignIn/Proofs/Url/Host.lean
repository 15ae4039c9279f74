import TerminalSignIn.Proofs.Text.Utf8
import TerminalSignIn.Proofs.Url.Margin

/-!
# Names without blanks

A blank or a control character goes through all that is done to the name of a server: it is not decoded, it is not
mapped to anything else, and its label keeps it. So the name it is in holds a character that no name may hold, and the
web refuses a host with a margin at its end.
-/

namespace TerminalSignIn

theorem exists_mem_of_mapM {α β : Type} {value? : α → Option β} {elements : List α} {values : List β}
    (all : elements.mapM value? = some values) {element : α} (member : element ∈ elements) :
    ∃ value ∈ values, value? element = some value := by
  induction elements generalizing values with
  | nil => contradiction
  | cons first others ih =>
    rw [List.mapM_cons] at all
    obtain ⟨value, found, rest⟩ := Option.bind_eq_some_iff.mp all
    obtain ⟨later, foundLater, same⟩ := Option.bind_eq_some_iff.mp rest
    cases same
    rw [List.mem_cons] at member
    rcases member with rfl | member
    · exact ⟨value, List.mem_cons_self, found⟩
    · obtain ⟨other, inLater, foundOther⟩ := ih foundLater member
      exact ⟨other, List.mem_cons_of_mem _ inLater, foundOther⟩

namespace Percent

/-- A character that does not count at the ends of a URL is no part of an encoded byte. -/
theorem mem_decode_of_isMargin {text : Text} {char : Char} (member : char ∈ text)
    (blank : Url.isMargin char = true) : UInt8.ofNat char.toNat ∈ decode text := by
  have noDigit : Text.digit? 16 char = none := Url.of_isMargin (Text.digit? 16 · = none) (by decide) blank
  have small : char.toNat ≤ 0x20 := of_decide_eq_true blank
  have plain : Utf8.encodeChar char = [UInt8.ofNat char.toNat] := Utf8.encodeChar_of_ascii (by omega)
  fun_induction decode text with
  | case1 => contradiction
  | case2 first second rest high low foundLow foundHigh ih =>
    have later : char ∈ rest := by
      simp only [List.mem_cons] at member
      rcases member with rfl | rfl | rfl | later
      · contradiction
      · rw [noDigit] at foundHigh
        contradiction
      · rw [noDigit] at foundLow
        contradiction
      · exact later
    exact List.mem_cons_of_mem _ (ih later)
  | case3 first second rest notBoth ih =>
    rw [List.mem_cons] at member
    rcases member with rfl | later
    · contradiction
    · exact List.mem_append_right _ (ih later)
  | case4 first rest noByte ih =>
    rw [List.mem_cons] at member
    rcases member with rfl | later
    · exact List.mem_append_left _ (plain ▸ List.mem_singleton_self _)
    · exact List.mem_append_right _ (ih later)

theorem encode_eq_nil {part : Part} {text : Text} : encode part text = [] ↔ text = [] := by
  constructor
  · intro nothing
    cases text with
    | nil => rfl
    | cons char text =>
      have first : encodeChar part char = [] := (List.append_eq_nil_iff.mp nothing).1
      unfold encodeChar Utf8.encodeChar at first
      grind [encodeByte]
  · rintro rfl
    rfl

end Percent

namespace Text

theorem exists_mem_splitOn {separator char : Char} {text : List Char} (member : char ∈ text)
    (differs : char ≠ separator) : ∃ piece ∈ text.splitOn separator, char ∈ piece := by
  induction text with
  | nil => contradiction
  | cons first rest ih =>
    obtain ⟨piece, others, pieces⟩ := List.exists_cons_of_ne_nil (List.splitOn_ne_nil separator rest)
    rw [List.splitOn_cons_eq_if_modifyHead, pieces, List.modifyHead_cons]
    rw [pieces] at ih
    rw [List.mem_cons] at member
    split
    · next same =>
      have later : char ∈ rest := member.resolve_left fun isFirst => differs (isFirst.trans (beq_iff_eq.mp same))
      obtain ⟨found, inPieces, inPiece⟩ := ih later
      exact ⟨found, List.mem_cons_of_mem _ inPieces, inPiece⟩
    · rcases member with rfl | later
      · exact ⟨char :: piece, List.mem_cons_self, List.mem_cons_self⟩
      · obtain ⟨found, inPieces, inPiece⟩ := ih later
        rcases List.mem_cons.mp inPieces with rfl | inOthers
        · exact ⟨first :: found, List.mem_cons_self, List.mem_cons_of_mem _ inPiece⟩
        · exact ⟨found, List.mem_cons_of_mem _ inOthers, inPiece⟩

theorem mem_join {separator : Text} {pieces : List Text} {piece : Text} {char : Char}
    (inPieces : piece ∈ pieces) (inPiece : char ∈ piece) : char ∈ join separator pieces := by
  fun_induction join separator pieces <;> grind

end Text

namespace DomainName

theorem mapChar_of_isMargin {char : Char} (blank : Url.isMargin char = true) : mapChar char = some [char] :=
  Url.of_isMargin (fun char => mapChar char = some [char]) (by decide) blank

theorem mem_of_label? {label written : Text} (named : label? label = some written) {char : Char}
    (member : char ∈ label) (basic : Punycode.isBasic char = true) : char ∈ written := by
  have encoded : char ∈ Punycode.encode label := by
    rw [Punycode.encode]
    apply List.mem_append_left
    apply List.mem_append_left
    exact List.mem_filter.mpr ⟨member, basic⟩
  unfold label? at named
  split at named
  · have same : label = written := by
      split at named
      · exact Option.some.inj named
      · split at named
        · exact Option.some.inj named
        · contradiction
    exact same ▸ member
  · split at named
    · contradiction
    · rw [← Option.some.inj named]
      exact List.mem_append_right _ encoded

theorem ofText?_of_isMargin {text : Text} {char : Char} (member : char ∈ text) (blank : Url.isMargin char = true) :
    ofText? text = none := by
  by_contra named
  obtain ⟨name, found⟩ := Option.ne_none_iff_exists'.mp named
  rw [ofText?] at found
  obtain ⟨mapped, mappedAll, found⟩ := Option.bind_eq_some_iff.mp found
  obtain ⟨labels, labelled, found⟩ := Option.bind_eq_some_iff.mp found
  obtain ⟨_, allowed, _⟩ := Option.bind_eq_some_iff.mp found
  have inMapped : char ∈ mapped.flatten := by
    obtain ⟨piece, inPieces, image⟩ := exists_mem_of_mapM mappedAll member
    rw [mapChar_of_isMargin blank] at image
    cases image
    exact List.mem_flatten.mpr ⟨[char], inPieces, List.mem_singleton_self _⟩
  have noDot : char ≠ '.' := Url.of_isMargin (· ≠ '.') (by decide) blank
  obtain ⟨label, inLabels, inLabel⟩ := Text.exists_mem_splitOn inMapped noDot
  obtain ⟨written, inWritten, labelName⟩ := exists_mem_of_mapM labelled inLabels
  have basic : Punycode.isBasic char = true := Url.of_isMargin (Punycode.isBasic · = true) (by decide) blank
  have inName : char ∈ Text.join ['.'] labels := Text.mem_join inWritten (mem_of_label? labelName inLabel basic)
  have forbidden : isForbidden char = true := Url.of_isMargin (isForbidden · = true) (by decide) blank
  have some' : (Text.join ['.'] labels).any isForbidden = true := List.any_eq_true.mpr ⟨char, inName, forbidden⟩
  rw [some'] at allowed
  contradiction

end DomainName

namespace Host

theorem bracketed_of_isMargin {rest : Text} {char : Char} (ends : ('[' :: rest).getLast? = some char)
    (blank : Url.isMargin char = true) (host : Host) : bracketed rest ≠ .ok host := by
  have open' : char ≠ ']' := Url.of_isMargin (· ≠ ']') (by decide) blank
  have inner : rest.getLast? ≠ some ']' := by
    intro closed
    rw [List.getLast?_cons, closed] at ends
    exact open' (Option.some.inj ends).symm
  unfold bracketed
  split
  · contradiction
  · exact nofun

/-- A host with a margin at its end is refused by the schemes of the web. -/
theorem ofWebText_append_margin {margin : Text} (ending : Url.Margin margin) (text : Text) (host : Host) :
    ofWebText (text ++ margin) ≠ .ok host := by
  obtain ⟨last, ends, lastBlank⟩ := ending.exists_getLast? text
  generalize text ++ margin = whole at ends
  unfold ofWebText
  split
  · exact bracketed_of_isMargin ends lastBlank host
  · have none : (Utf8.decode? (Percent.decode whole)).bind DomainName.ofText? = none := by
      cases decoded : Utf8.decode? (Percent.decode whole) with
      | none => rfl
      | some name =>
        have inName := Percent.mem_decode_of_isMargin (List.mem_of_getLast? ends) lastBlank
        have small : last.toNat ≤ 0x20 := of_decide_eq_true lastBlank
        have value : (UInt8.ofNat last.toNat).toNat = last.toNat :=
          UInt8.toNat_ofNat_of_lt' (Nat.lt_of_le_of_lt small (by decide))
        rw [Utf8.decode?_eq_some_iff.mp decoded, Utf8.mem_encode_of_ascii (by omega), value, Char.ofNat_toNat] at inName
        exact DomainName.ofText?_of_isMargin inName lastBlank
    rw [none]
    exact nofun

theorem ofWebText_named {text : Text} {host : Host} (read : ofWebText text = .ok host) : host ≠ .domain [] := by
  rintro rfl
  unfold ofWebText at read
  split at read
  · unfold bracketed at read
    split at read <;> cases read
  · split at read
    · cases read
    · next name _ =>
      split at read
      · cases read
      · next filled =>
        split at read
        · split at read <;> cases read
        · cases read
          exact filled rfl

theorem ofOtherText_named {text : Text} {host : Host} (read : ofOtherText text = .ok host) (filled : text ≠ []) :
    host ≠ .domain [] := by
  rintro rfl
  unfold ofOtherText at read
  split at read
  · unfold bracketed at read
    split at read <;> cases read
  · split at read
    · cases read
    · have encoded : Percent.encode .whole text = [] := Host.domain.inj (Except.ok.inj read)
      exact filled (Percent.encode_eq_nil.mp encoded)

end Host

end TerminalSignIn
