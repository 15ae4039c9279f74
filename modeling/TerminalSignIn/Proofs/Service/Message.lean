import TerminalSignIn.Proofs.Json.Written
import TerminalSignIn.Service

/-!
# The message of a body

A body of JSON may hold several strings at the places where a message is looked for. The first of them is the message,
also if it is blank: then the body counts as one without a message, and a string at a later place is lost. In all other
bodies the first string that is not blank is the message.
-/

namespace TerminalSignIn

namespace RejectionBody

/-- The strings at the places where a message may be: the value itself, and its members `message`, `error` with a
`message` inside it, `error`, and `data`. -/
def strings (value : Json) : List Text :=
  [value.string?,
    (value.member? "message".toList).bind Json.string?,
    ((value.member? "error".toList).bind (Json.member? "message".toList)).bind Json.string?,
    (value.member? "error".toList).bind Json.string?,
    (value.member? "data".toList).bind Json.string?].reduceOption

/-- The first string that says something, trimmed. -/
def usable? (value : Json) : Option Text :=
  ((strings value).find? fun text => text.trim ≠ []).map Text.trim

/-- The first string is blank, and another one is not. -/
def IsMasked (value : Json) : Prop :=
  ∃ blank others, strings value = blank :: others ∧ blank.trim = [] ∧ ∃ text ∈ others, text.trim ≠ []

theorem strings_eq (value : Json) :
    strings value = places.filterMap fun place => (value.at? place).bind Json.string? := by
  have inner (found : Option Json) : (found.bind fun inner => some inner) = found := by
    cases found <;> rfl
  calc strings value = (places.map fun place => (value.at? place).bind Json.string?).reduceOption := by
        unfold strings places
        simp only [List.map_cons, List.map_nil, Json.at?, Option.bind_some, inner, Option.bind_assoc]
    _ = places.filterMap fun place => (value.at? place).bind Json.string? := List.filterMap_map

theorem firstString?_eq (value : Json) : firstString? value = (strings value).head? := by
  rw [strings_eq, List.head?_filterMap]
  rfl

theorem message?_of_json {body : Text} {value : Json} (json : Json.parse? body.trim = some value) :
    message? body = ((strings value).head?.map Text.trim).filter fun message => !message.isEmpty := by
  have filled : body.trim.isEmpty = false := by
    rw [List.isEmpty_eq_false_iff]
    intro nothing
    rw [nothing] at json
    contradiction
  unfold message?
  simp only [filled, Bool.false_eq_true, if_false, json, firstString?_eq]

theorem message?_of_text {body : Text} (filled : body.trim ≠ []) (text : Json.parse? body.trim = none) :
    message? body = some body.trim := by
  unfold message?
  simp only [List.isEmpty_iff, filled, if_false, text]

theorem message?_of_blank {body : Text} (blank : body.trim = []) : message? body = none := by
  unfold message?
  simp only [blank, List.isEmpty_nil, if_true]

theorem message?_eq_some {body message : Text} (found : message? body = some message) :
    message ≠ [] ∧ message.trim = message := by
  by_cases blank : body.trim = []
  · rw [message?_of_blank blank] at found
    contradiction
  · cases json : Json.parse? body.trim with
    | none =>
      rw [message?_of_text blank json] at found
      cases found
      exact ⟨blank, Text.trim_trim body⟩
    | some value =>
      rw [message?_of_json json, Option.filter_eq_some_iff, Option.map_eq_some_iff] at found
      obtain ⟨⟨text, _, rfl⟩, filled⟩ := found
      exact ⟨by simpa using filled, Text.trim_trim text⟩

theorem usable?_of_visible {value : Json} {first : Text} {others : List Text} (held : strings value = first :: others)
    (visible : first.trim ≠ []) : usable? value = some first.trim := by
  unfold usable?
  rw [held, List.find?_cons_of_pos (by simpa using visible)]
  rfl

theorem usable?_of_blank {value : Json} {first : Text} {others : List Text} (held : strings value = first :: others)
    (blank : first.trim = []) : usable? value ≠ none ↔ ∃ text ∈ others, text.trim ≠ [] := by
  unfold usable?
  rw [held, List.find?_cons_of_neg (by simpa using blank), ne_eq, Option.map_eq_none_iff, ← ne_eq,
    Option.ne_none_iff_isSome, List.find?_isSome]
  simp

/-- In a body of JSON the first string that says something is the message, unless a blank one masks it. -/
theorem message?_or_masked {body : Text} {value : Json} (json : Json.parse? body.trim = some value) :
    (¬ IsMasked value ∧ message? body = usable? value) ∨
      (IsMasked value ∧ message? body = none ∧ usable? value ≠ none) := by
  rw [message?_of_json json]
  cases held : strings value with
  | nil =>
    left
    constructor
    · rintro ⟨_, _, masked, _⟩
      rw [held] at masked
      contradiction
    · unfold usable?
      rw [held]
      rfl
  | cons first others =>
    by_cases blank : first.trim = []
    · have silent : (some first.trim).filter (fun message => !message.isEmpty) = none := by simp [blank]
      by_cases usable : ∃ text ∈ others, text.trim ≠ []
      · right
        exact ⟨⟨first, others, held, blank, usable⟩, silent, (usable?_of_blank held blank).mpr usable⟩
      · left
        constructor
        · rintro ⟨_, _, masked, _, text⟩
          rw [held] at masked
          cases masked
          exact usable text
        · have nothing := mt (usable?_of_blank held blank).mp usable
          rw [ne_eq, not_not] at nothing
          rw [nothing]
          exact silent
    · left
      constructor
      · rintro ⟨_, _, masked, nothing, _⟩
        rw [held] at masked
        cases masked
        exact blank nothing
      · rw [usable?_of_visible held blank]
        simp [blank]

/-- Whatever the reason is, behind a blank message it is lost. -/
theorem message?_behind_blank {blank reason : Text} (nothing : blank.trim = []) (something : reason.trim ≠ []) :
    let body := Json.stringObject [("message".toList, blank), ("error".toList, reason)]
    message? body = none ∧ ∃ value, Json.parse? body = some value ∧ usable? value = some reason.trim := by
  intro body
  have trimmed : body.trim = body := Text.trim_between (by decide) (by decide) _
  have json : Json.parse? body = some (.object [("message".toList, .string blank), ("error".toList, .string reason)]) :=
    Json.parse?_stringObject _
  have held : strings (.object [("message".toList, .string blank), ("error".toList, .string reason)]) =
      [blank, reason] := rfl
  refine ⟨?_, _, json, ?_⟩
  · rw [message?_of_json (by rw [trimmed, json]), held]
    simp [nothing]
  · unfold usable?
    rw [held]
    simp [nothing, something]

/-- The message of a body is none if the body is blank, the trimmed body if that is no JSON, and in JSON the first
string that says something, unless a blank string stands at an earlier place: then, and then only, a message is lost, as
`Locked` is in `{"message": "", "error": "Locked"}`, and the body counts as one without a message. A body that is JSON
with its margins is the same JSON without them. What is found is trimmed and is not blank. -/
theorem message_kept_iff (body : Text) :
    (body.trim = [] → message? body = none) ∧
    (body.trim ≠ [] → Json.parse? body.trim = none → message? body = some body.trim) ∧
    (∀ value, Json.parse? body.trim = some value →
      (message? body = usable? value ↔ ¬ IsMasked value) ∧
      (IsMasked value → message? body = none ∧ usable? value ≠ none)) ∧
    (∀ value, Json.parse? body = some value → Json.parse? body.trim = some value) ∧
    (∀ message, message? body = some message → message ≠ [] ∧ message.trim = message) ∧
    ∀ blank reason, blank.trim = [] → reason.trim ≠ [] →
      body = Json.stringObject [("message".toList, blank), ("error".toList, reason)] →
      message? body = none ∧ ∃ value, Json.parse? body = some value ∧ usable? value = some reason.trim := by
  refine ⟨message?_of_blank, message?_of_text, ?_, ?_, fun _ => message?_eq_some, ?_⟩
  · intro value json
    rcases message?_or_masked json with ⟨kept, same⟩ | ⟨masked, silent, usable⟩
    · exact ⟨⟨fun _ => kept, fun _ => same⟩, fun masked => absurd masked kept⟩
    · have lost : message? body ≠ usable? value := fun same => usable (same.symm.trans silent)
      exact ⟨⟨fun same => absurd same lost, fun kept => absurd masked kept⟩, fun _ => ⟨silent, usable⟩⟩
  · intro value json
    obtain ⟨front, back, split, before, behind⟩ := Text.exists_margins body
    rw [split, Json.parse?_margins before behind] at json
    split at json
    · exact json
    · contradiction
  · intro blank reason nothing something written
    rw [written]
    exact message?_behind_blank nothing something

/-- Blanks, a plain text, and an empty `message` in front of a reason, between spaces and as it is written. -/
theorem message_kept_iff_behind_empty :
    let plain : Text := "\tAccount locked\n".toList
    let body : Text := " \x7b\"message\": \"\", \"error\": \"Locked\"\x7d\n".toList
    let written : Text := Json.stringObject [("message".toList, []), ("error".toList, "Locked".toList)]
    let value : Json := .object [("message".toList, .string []), ("error".toList, .string "Locked".toList)]
    (Text.trim "\u00a0 ".toList = [] ∧ message? "\u00a0 ".toList = none) ∧
    (Json.parse? plain.trim = none ∧ message? plain = some "Account locked".toList ∧
      Text.trim "Account locked".toList = "Account locked".toList) ∧
    (Json.parse? body = some value ∧ Json.parse? body.trim = some value ∧ IsMasked value ∧
      usable? value = some "Locked".toList ∧ message? body = none ∧ message? body ≠ usable? value) ∧
    message? written = none := by
  intro plain body written value
  have blank : Text.trim "\u00a0 ".toList = [] := by decide
  have text : Json.parse? plain.trim = none := by rfl
  have json : Json.parse? body = some value := by rfl
  have masked : IsMasked value :=
    ⟨[], ["Locked".toList], rfl, rfl, "Locked".toList, List.mem_singleton_self _, by decide⟩
  obtain ⟨_, _, ofJson, trimmed, _, _⟩ := message_kept_iff body
  have inside := trimmed value json
  have silent := ((ofJson value inside).2 masked).1
  have said := (message_kept_iff plain).2.1 (by decide) text
  refine ⟨⟨blank, (message_kept_iff _).1 blank⟩, ⟨text, said, ?_⟩, ⟨json, inside, masked, rfl, silent, ?_⟩, ?_⟩
  · exact ((message_kept_iff plain).2.2.2.2.1 _ said).2
  · exact fun same => (ofJson value inside).1.mp same masked
  · exact ((message_kept_iff written).2.2.2.2.2 [] "Locked".toList rfl (by decide) rfl).1

end RejectionBody

end TerminalSignIn
