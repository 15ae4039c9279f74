import Mathlib.Algebra.Group.Nat.Defs
import Mathlib.Data.List.Basic
import TerminalSignIn.Text.Basic

/-!
# Encoded text

Strict reading undoes encoding, and no other bytes are read strictly. A character is one byte, or a leading byte that
says what is due and then six bits a byte; `Due.Allows` ties the two readings of the leading byte together.
-/

namespace TerminalSignIn

namespace Utf8

theorem toNat_of_valid {code : Nat} (valid : code.isValidChar) : (Char.ofNat code).toNat = code := by
  rw [Char.ofNat, dif_pos valid]
  rfl

theorem valid_toNat (char : Char) : char.toNat < 0xD800 ∨ 0xDFFF < char.toNat ∧ char.toNat < 0x110000 :=
  char.valid

/-! ### What is due -/

/-- The leading bytes by the number of bytes that follow. The bounds keep out what has a shorter form, surrogates, and
what is no character. -/
inductive Leads : Nat → Due → Prop where
  | one {byte : Nat} : 0xC2 ≤ byte → byte < 0xE0 → Leads byte ⟨byte - 0xC0, 1, 0x80, 0xBF⟩
  | two {byte : Nat} : 0xE0 ≤ byte → byte < 0xF0 →
    Leads byte ⟨byte - 0xE0, 2, if byte = 0xE0 then 0xA0 else 0x80, if byte = 0xED then 0x9F else 0xBF⟩
  | three {byte : Nat} : 0xF0 ≤ byte → byte < 0xF5 →
    Leads byte ⟨byte - 0xF0, 3, if byte = 0xF0 then 0x90 else 0x80, if byte = 0xF4 then 0x8F else 0xBF⟩

theorem Leads.lead {byte : Nat} {due : Due} (leads : Leads byte due) : lead byte = .due due := by
  cases leads <;> grind [Utf8.lead]

theorem lead_cases (byte : Nat) :
    (byte < 0x80 ∧ lead byte = .complete (Char.ofNat byte)) ∨ (∃ due, Leads byte due) ∨ lead byte = .fault := by
  by_cases ascii : byte < 0x80
  · exact .inl ⟨ascii, by rw [lead, if_pos ascii]⟩
  by_cases low : byte < 0xC2
  · exact .inr (.inr (by rw [lead, if_neg ascii, if_pos low]))
  by_cases one : byte < 0xE0
  · exact .inr (.inl ⟨_, .one (by omega) one⟩)
  by_cases two : byte < 0xF0
  · exact .inr (.inl ⟨_, .two (by omega) two⟩)
  by_cases three : byte < 0xF5
  · exact .inr (.inl ⟨_, .three (by omega) three⟩)
  · right; right
    rw [lead, if_neg ascii, if_neg low, if_neg one, if_neg (by omega), if_neg (by omega), if_neg two, if_neg (by omega),
      if_neg (by omega), if_neg (by omega)]

def continuation (code : Nat) : Nat → Bytes
  | 0 => []
  | count + 1 => UInt8.ofNat (0x80 + code / 64 ^ count % 64) :: continuation code count

theorem toNat_continued (bits : Nat) : (UInt8.ofNat (0x80 + bits % 64)).toNat = 0x80 + bits % 64 := by
  rw [UInt8.toNat_ofNat']
  omega

structure Due.Allows (due : Due) (code : Nat) : Prop where
  more : 0 < due.bytes
  bits : due.bits = code / 64 ^ due.bytes
  low : due.low ≤ 0x80 + code / 64 ^ (due.bytes - 1) % 64
  high : 0x80 + code / 64 ^ (due.bytes - 1) % 64 ≤ due.high

structure Due.Sound (due : Due) : Prop where
  more : 0 < due.bytes
  low : 0x80 ≤ due.low
  high : due.high ≤ 0xBF

theorem Leads.sound {front : Nat} {due : Due} (leads : Leads front due) : due.Sound := by
  cases leads <;> constructor <;> dsimp only <;> grind

theorem Leads.toNat_front {front : Nat} {due : Due} (leads : Leads front due) : (UInt8.ofNat front).toNat = front := by
  rw [UInt8.toNat_ofNat']
  cases leads <;> omega

theorem Leads.encodeChar {front : Nat} {due : Due} (leads : Leads front due) {code : Nat} (allowed : due.Allows code) :
    Utf8.encodeChar (Char.ofNat code) = UInt8.ofNat front :: continuation code due.bytes := by
  obtain ⟨_, bits, low, high⟩ := allowed
  have valid : code.isValidChar := by
    unfold Nat.isValidChar
    cases leads <;> grind
  rw [Utf8.encodeChar, toNat_of_valid valid]
  cases leads <;> grind [continuation]

theorem exists_leads (char : Char) (wide : 0x80 ≤ char.toNat) :
    ∃ front due, Leads front due ∧ due.Allows char.toNat ∧
      encodeChar char = UInt8.ofNat front :: continuation char.toNat due.bytes := by
  have valid := valid_toNat char
  unfold encodeChar
  generalize char.toNat = code at *
  by_cases one : code < 0x800
  · refine ⟨0xC0 + code / 64, _, .one (by omega) (by omega), ⟨?_, ?_, ?_, ?_⟩, ?_⟩ <;> grind [continuation]
  by_cases two : code < 0x10000
  · refine ⟨0xE0 + code / 4096, _, .two (by omega) (by omega), ⟨?_, ?_, ?_, ?_⟩, ?_⟩ <;> grind [continuation]
  · refine ⟨0xF0 + code / 262144, _, .three (by omega) (by omega), ⟨?_, ?_, ?_, ?_⟩, ?_⟩ <;> grind [continuation]

/-! ### Reading -/

theorem readFrom_continuation {code : Nat} {due : Due} (allowed : due.Allows code) (rest : Bytes) :
    readFrom (some due) (continuation code due.bytes ++ rest) = some (Char.ofNat code) :: readFrom none rest := by
  obtain ⟨bits, count, low, high⟩ := due
  obtain ⟨more, ofBits, above, below⟩ := allowed
  dsimp only at *
  induction count generalizing bits low high with
  | zero => contradiction
  | succ count ih =>
    rw [Nat.add_sub_cancel] at above below
    rw [continuation, List.cons_append, readFrom, toNat_continued, if_pos ⟨above, below⟩]
    have next : bits * 64 + (0x80 + code / 64 ^ count % 64 - 0x80) = code / 64 ^ count := by
      rw [ofBits, Nat.pow_succ, ← Nat.div_div_eq_div_mul]
      omega
    dsimp only
    rw [next]
    rcases Nat.eq_zero_or_pos count with rfl | more
    · rw [if_pos rfl, continuation, Nat.pow_zero, Nat.div_one, List.nil_append]
    · rw [if_neg (by omega), Nat.add_sub_cancel]
      exact ih _ _ _ more rfl (by omega) (by omega)

/-- A byte within the bounds is the first of what is due of every code whose higher bits are now known to be these. -/
theorem Due.Sound.next {due : Due} (sound : due.Sound) {byte : UInt8} {code : Nat}
    (within : due.low ≤ byte.toNat ∧ byte.toNat ≤ due.high)
    (bits : code / 64 ^ (due.bytes - 1) = due.bits * 64 + (byte.toNat - 0x80)) :
    due.Allows code ∧ continuation code due.bytes = byte :: continuation code (due.bytes - 1) := by
  obtain ⟨more, low, high⟩ := sound
  obtain ⟨count, more⟩ := Nat.exists_eq_add_of_le' more
  rw [more, Nat.add_sub_cancel] at bits
  have here : 0x80 + code / 64 ^ count % 64 = byte.toNat := by omega
  refine ⟨⟨by omega, ?_, ?_, ?_⟩, ?_⟩ <;> rw [more]
  · rw [Nat.pow_succ, ← Nat.div_div_eq_div_mul]
    omega
  · rw [Nat.add_sub_cancel, here]
    exact within.1
  · rw [Nat.add_sub_cancel, here]
    exact within.2
  · rw [continuation, here, UInt8.ofNat_toNat, Nat.add_sub_cancel]

theorem exists_continuation {due : Due} (sound : due.Sound) {bytes : Bytes}
    (strict : none ∉ readFrom (some due) bytes) :
    ∃ code rest, due.Allows code ∧ bytes = continuation code due.bytes ++ rest := by
  induction bytes generalizing due with
  | nil => simp [readFrom] at strict
  | cons byte bytes ih =>
    rw [readFrom] at strict
    by_cases within : due.low ≤ byte.toNat ∧ byte.toNat ≤ due.high
    · rw [if_pos within] at strict
      dsimp only at strict
      by_cases last : due.bytes = 1
      · have bits : (due.bits * 64 + (byte.toNat - 0x80)) / 64 ^ (due.bytes - 1) =
            due.bits * 64 + (byte.toNat - 0x80) := by rw [last, Nat.sub_self, Nat.pow_zero, Nat.div_one]
        obtain ⟨allowed, continued⟩ := sound.next within bits
        rw [last] at continued
        exact ⟨_, bytes, allowed, by rw [last, continued]; rfl⟩
      · rw [if_neg last] at strict
        have more := sound.more
        obtain ⟨code, rest, allowed, rfl⟩ := ih ⟨by dsimp only; omega, Nat.le_refl _, Nat.le_refl _⟩ strict
        obtain ⟨allowed, continued⟩ := sound.next within allowed.bits.symm
        exact ⟨code, rest, allowed, by rw [continued]; rfl⟩
    · rw [if_neg within] at strict
      cases found : lead byte.toNat <;> rw [found] at strict <;> simp at strict

theorem encodeChar_of_ascii {char : Char} (ascii : char.toNat < 0x80) : encodeChar char = [UInt8.ofNat char.toNat] := by
  rw [encodeChar, if_pos ascii, List.map_singleton]

theorem encodeChar_ne_nil (char : Char) : encodeChar char ≠ [] := by
  rcases Nat.lt_or_ge char.toNat 0x80 with ascii | wide
  · rw [encodeChar_of_ascii ascii]
    exact List.cons_ne_nil _ _
  · obtain ⟨front, due, _, _, encoded⟩ := exists_leads char wide
    rw [encoded]
    exact List.cons_ne_nil _ _

theorem readFrom_encodeChar (char : Char) (rest : Bytes) :
    readFrom none (encodeChar char ++ rest) = some char :: readFrom none rest := by
  rcases Nat.lt_or_ge char.toNat 0x80 with ascii | wide
  · have complete : lead char.toNat = .complete char := by
      rw [lead, if_pos ascii, Char.ofNat_toNat]
    rw [encodeChar_of_ascii ascii, List.singleton_append, readFrom, UInt8.toNat_ofNat', Nat.mod_eq_of_lt (by omega),
      complete]
  · obtain ⟨front, due, leads, allowed, encoded⟩ := exists_leads char wide
    rw [encoded, List.cons_append, readFrom, leads.toNat_front, leads.lead]
    dsimp only
    rw [readFrom_continuation allowed, Char.ofNat_toNat]

theorem exists_encodeChar {byte : UInt8} {bytes : Bytes} (strict : none ∉ read (byte :: bytes)) :
    ∃ char rest, byte :: bytes = encodeChar char ++ rest := by
  rw [read, readFrom] at strict
  rcases lead_cases byte.toNat with ⟨ascii, _⟩ | ⟨due, leads⟩ | fault
  · have same : (Char.ofNat byte.toNat).toNat = byte.toNat := toNat_of_valid (Or.inl (by omega))
    refine ⟨Char.ofNat byte.toNat, bytes, ?_⟩
    rw [encodeChar_of_ascii (by omega), same, UInt8.ofNat_toNat, List.singleton_append]
  · rw [leads.lead] at strict
    obtain ⟨code, rest, allowed, rfl⟩ := exists_continuation leads.sound strict
    refine ⟨Char.ofNat code, rest, ?_⟩
    rw [leads.encodeChar allowed, UInt8.ofNat_toNat, List.cons_append]
  · rw [fault] at strict
    exact absurd List.mem_cons_self strict

theorem read_encode (text : Text) : read (encode text) = text.map some := by
  induction text with
  | nil => rfl
  | cons char text ih =>
    rw [encode, List.flatMap_cons, read, readFrom_encodeChar, ← read, ← encode, ih, List.map_cons]

theorem exists_encode (bytes : Bytes) (strict : none ∉ read bytes) : ∃ text, bytes = encode text := by
  match bytes with
  | [] => exact ⟨[], rfl⟩
  | byte :: bytes =>
    obtain ⟨char, rest, split⟩ := exists_encodeChar strict
    have shorter : rest.length < (byte :: bytes).length := by
      rw [split, List.length_append]
      have := List.length_pos_of_ne_nil (encodeChar_ne_nil char)
      omega
    rw [split, read, readFrom_encodeChar] at strict
    obtain ⟨text, rfl⟩ := exists_encode rest fun fault => strict (List.mem_cons_of_mem _ fault)
    exact ⟨char :: text, split⟩
termination_by bytes.length
decreasing_by exact shorter

theorem mapM_id_eq_some {items : List (Option Char)} {text : Text} :
    items.mapM id = some text ↔ items = text.map some := by
  induction items generalizing text with
  | nil => cases text <;> simp
  | cons item items ih =>
    rw [List.mapM_cons]
    cases item with
    | none => cases text <;> simp
    | some char =>
      have step : (do pure (char :: (← items.mapM id))) = some text ↔
          ∃ rest, items.mapM id = some rest ∧ char :: rest = text := by
        simp [Option.bind_eq_some_iff]
      refine step.trans ?_
      cases text with
      | nil => simp
      | cons first text => simp [ih, and_comm]

/-- Strict reading takes the encodings of texts and nothing else. -/
theorem decode?_eq_some_iff {bytes : Bytes} {text : Text} : decode? bytes = some text ↔ bytes = encode text := by
  rw [decode?, mapM_id_eq_some]
  constructor
  · intro readAs
    obtain ⟨other, rfl⟩ := exists_encode bytes (by rw [readAs]; simp)
    rw [read_encode] at readAs
    rw [List.map_injective_iff.mpr (fun _ _ => Option.some.inj) readAs]
  · rintro rfl
    exact read_encode text

@[simp]
theorem encode_append (text more : Text) : encode (text ++ more) = encode text ++ encode more :=
  List.flatMap_append

theorem encode_cons_of_ascii {char : Char} (ascii : char.toNat < 0x80) (text : Text) :
    encode (char :: text) = UInt8.ofNat char.toNat :: encode text := by
  rw [encode, List.flatMap_cons, encodeChar_of_ascii ascii, List.singleton_append, ← encode]

theorem mem_continuation {code count : Nat} {byte : UInt8} (member : byte ∈ continuation code count) :
    0x80 ≤ byte.toNat := by
  induction count with
  | zero => contradiction
  | succ count ih =>
    rcases List.mem_cons.mp member with rfl | later
    · rw [toNat_continued]
      omega
    · exact ih later

/-- A byte of ASCII stands in an encoding only where its character stands in the text. -/
theorem mem_encode_of_ascii {text : Text} {byte : UInt8} (ascii : byte.toNat < 0x80) :
    byte ∈ encode text ↔ Char.ofNat byte.toNat ∈ text := by
  rw [encode, List.mem_flatMap]
  constructor
  · rintro ⟨char, member, within⟩
    rcases Nat.lt_or_ge char.toNat 0x80 with narrow | wide
    · rw [encodeChar_of_ascii narrow, List.mem_singleton] at within
      rw [within, UInt8.toNat_ofNat', Nat.mod_eq_of_lt (by omega), Char.ofNat_toNat]
      exact member
    · obtain ⟨front, due, leads, _, encoded⟩ := exists_leads char wide
      rw [encoded] at within
      rcases List.mem_cons.mp within with rfl | later
      · rw [leads.toNat_front] at ascii
        cases leads <;> omega
      · exact absurd (mem_continuation later) (by omega)
  · intro member
    have same : (Char.ofNat byte.toNat).toNat = byte.toNat := toNat_of_valid (Or.inl (by omega))
    refine ⟨_, member, ?_⟩
    rw [encodeChar_of_ascii (by omega), same, UInt8.ofNat_toNat]
    exact List.mem_singleton_self byte

end Utf8

end TerminalSignIn
