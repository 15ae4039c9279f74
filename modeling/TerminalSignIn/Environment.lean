import TerminalSignIn.Text.Basic

/-!
# The environment

Variables by name. A reference to a variable in a text is written with a dollar sign and braces around the
name; `Environment.expand` replaces every reference by what the variable holds.
-/

namespace TerminalSignIn

/-- What each variable holds; a variable that is not set, or holds no text, counts as unset. -/
structure Environment where
  get? : Text → Option Text

namespace Environment

def isName (name : Text) : Bool :=
  !name.isEmpty && !name.contains '=' && !name.contains '\x00'

def ofVariables (entries : List (Text × Bytes)) : Environment :=
  ⟨fun name => if isName name then (entries.lookup name).bind Utf8.decode? else none⟩

def opening : Text := "$\x7b".toList

def closing : Char := '\x7d'

end Environment

theorem Text.length_of_splitOnce? {separator : Char} {text before after : Text}
    (found : text.splitOnce? separator = some (before, after)) : after.length < text.length := by
  induction text generalizing before with
  | nil => simp [Text.splitOnce?] at found
  | cons char rest ih =>
    rw [Text.splitOnce?] at found
    split at found
    · cases found
      simp
    · cases inner : Text.splitOnce? separator rest with
      | none => simp [inner] at found
      | some sides =>
        obtain ⟨start, ending⟩ := sides
        simp only [inner, Option.map_some, Option.some.injEq, Prod.mk.injEq] at found
        obtain ⟨-, rfl⟩ := found
        have shorter := ih inner
        simp only [List.length_cons]
        omega

namespace Environment

/-- A text with every reference replaced by the value of its variable, which is empty for an unset one. A
reference without a name, and one that is never closed, stay as they are. Values are not looked at again. -/
def expand (environment : Environment) : Text → Text
  | [] => []
  | '$' :: '\x7b' :: rest =>
    match _found : Text.splitOnce? closing rest with
    | none => opening ++ rest
    | some ([], after) => opening ++ closing :: environment.expand after
    | some (name, after) => (environment.get? name).getD [] ++ environment.expand after
  | char :: rest => char :: environment.expand rest
termination_by text => text.length
decreasing_by
  · have shorter := Text.length_of_splitOnce? _found
    simp only [List.length_cons]
    omega
  · have shorter := Text.length_of_splitOnce? _found
    simp only [List.length_cons]
    omega
  · simp

end Environment

end TerminalSignIn
