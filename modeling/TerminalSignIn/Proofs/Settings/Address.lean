import TerminalSignIn.Proofs.Environment.Expansion
import TerminalSignIn.Settings

/-!
# Normal addresses

The address of the service is resolved in three stages: its source is trimmed, the references in it are replaced, and
the slashes at its end are taken off. Nothing is trimmed after the first stage, so a blank that a value brings to an
end, or that stood in front of the slashes, stays there. Without such a blank the address is normal.
-/

namespace TerminalSignIn

namespace Text

def BlankFront (text : Text) : Prop :=
  ∃ blank rest, text = blank :: rest ∧ isBlank blank = true

/-- Behind a blank stands nothing but slashes. -/
def BlankBack (text : Text) : Prop :=
  ∃ front blank slashes, text = front ++ [blank] ++ slashes ∧ isBlank blank = true ∧ ∀ char ∈ slashes, char = '/'

theorem not_blank_of_visible {text : Text} (visible : ∀ char ∈ text, isBlank char = false) :
    ¬ text.BlankFront ∧ ¬ text.BlankBack := by
  constructor
  · rintro ⟨blank, rest, rfl, isBlank⟩
    exact absurd ((visible blank List.mem_cons_self).symm.trans isBlank) Bool.false_ne_true
  · rintro ⟨front, blank, slashes, rfl, isBlank, _⟩
    exact absurd ((visible blank (by simp)).symm.trans isBlank) Bool.false_ne_true

end Text

/-- What a substitution writes comes from the text itself or from a value. -/
theorem Template.mem_fill {value : Text → Text} {template : Template} {char : Char}
    (member : char ∈ template.fill value) :
    char ∈ template.toText ∨ ∃ name ∈ template.names, char ∈ value name := by
  induction template with
  | literal text => exact .inl member
  | unclosed before tail => exact .inl member
  | reference before name rest ih =>
    unfold fill at member
    unfold toText names
    rw [List.mem_append, List.mem_append] at member
    rcases member with inside | replaced | behind
    · exact .inl (List.mem_append_left _ inside)
    · by_cases unnamed : name = []
      · rw [if_pos unnamed, List.mem_append] at replaced
        refine .inl (List.mem_append_right _ ?_)
        rcases replaced with opens | closes
        · exact List.mem_append_left _ opens
        · rw [List.mem_singleton.mp closes]
          simp
      · rw [if_neg unnamed] at replaced
        rw [if_neg unnamed]
        exact .inr ⟨name, List.mem_cons_self, replaced⟩
    · rcases ih behind with inside | ⟨other, listed, held⟩
      · exact .inl (by simp [inside])
      · refine .inr ⟨other, ?_, held⟩
        split
        · exact listed
        · exact List.mem_cons_of_mem _ listed

theorem Environment.head?_expand (environment : Environment) {text : Text} (free : ¬ opening <+: text) :
    (environment.expand text).head? = text.head? := by
  cases text with
  | nil => rw [expand]
  | cons char rest =>
    rw [Template.opening_prefix_cons] at free
    rw [expand_cons environment free]
    rfl

namespace Settings

open Environment (opening closing)

/-- Something can be seen of an address, no blank stands at either end of it, and it does not end in a slash. -/
structure IsNormal (address : Text) : Prop where
  visible : address.trim ≠ []
  front : ∀ char ∈ address.head?, isBlank char = false
  back : ∀ char ∈ address.getLast?, isBlank char = false ∧ char ≠ '/'

def baseUrlSource? (settings : Settings) (environment : Environment) : Option Text :=
  ((environment.get? baseUrlVariable).filter fun value => !isBlankText value).or
    (settings.auth.bind AuthSettings.baseUrl)

theorem baseUrl_of_source {settings : Settings} {environment : Environment} {source : Text}
    (given : settings.baseUrlSource? environment = some source) :
    settings.baseUrl environment = withoutSlashes? (environment.expand source.trim) := by
  show (settings.baseUrlSource? environment).bind (resolveBaseUrl environment) = _
  rw [given]
  rfl

theorem baseUrl_of_no_source {settings : Settings} {environment : Environment}
    (absent : settings.baseUrlSource? environment = Option.none) : settings.baseUrl environment = Option.none := by
  show (settings.baseUrlSource? environment).bind (resolveBaseUrl environment) = _
  rw [absent]
  rfl

/-! ### Without the slashes -/

theorem withoutSlashes?_eq_none_iff {text : Text} : withoutSlashes? text = Option.none ↔ ∀ char ∈ text, char = '/' := by
  have nothing : Text.dropEndWhile (· = '/') text = [] ↔ ∀ char ∈ text, char = '/' :=
    List.rdropWhile_eq_nil_iff.trans (by simp)
  unfold withoutSlashes?
  dsimp only
  split
  next empty => exact iff_of_true rfl (nothing.mp (List.isEmpty_iff.mp empty))
  next filled => exact iff_of_false nofun (fun slashes => filled (List.isEmpty_iff.mpr (nothing.mpr slashes)))

theorem withoutSlashes?_eq_some_iff {text address : Text} :
    withoutSlashes? text = some address ↔
      (∃ front last, address = front ++ [last] ∧ last ≠ '/') ∧
        ∃ slashes, text = address ++ slashes ∧ ∀ char ∈ slashes, char = '/' := by
  constructor
  · intro left
    unfold withoutSlashes? at left
    dsimp only at left
    split at left
    · contradiction
    next filled =>
      cases left
      obtain ⟨slashes, split, dropped⟩ := Text.exists_dropped (· = '/') text
      refine ⟨?_, slashes, split, by simpa using dropped⟩
      rcases List.eq_nil_or_concat' (Text.dropEndWhile (· = '/') text) with nothing | ⟨front, last, ends⟩
      · exact absurd (List.isEmpty_iff.mpr nothing) filled
      · exact ⟨front, last, ends, by simpa using Text.last_dropEndWhile ends⟩
  · rintro ⟨⟨front, last, rfl, other⟩, slashes, rfl, dropped⟩
    have trimmed : Text.dropEndWhile (· = '/') (front ++ [last] ++ slashes) = front ++ [last] := by
      rw [Text.dropEndWhile_append (by simpa using dropped), Text.dropEndWhile_append_cons (by simpa using other),
        Text.dropEndWhile_eq_nil (by simp)]
    unfold withoutSlashes?
    rw [trimmed]
    simp

section

variable {text address : Text}

theorem unslashed (left : withoutSlashes? text = some address) : address ≠ [] ∧ address.getLast? ≠ some '/' := by
  obtain ⟨⟨front, last, rfl, other⟩, _⟩ := withoutSlashes?_eq_some_iff.mp left
  simpa using other

theorem blankFront_iff (left : withoutSlashes? text = some address) :
    text.BlankFront ↔ ∃ char ∈ address.head?, isBlank char = true := by
  obtain ⟨⟨front, last, rfl, _⟩, slashes, rfl, _⟩ := withoutSlashes?_eq_some_iff.mp left
  unfold Text.BlankFront
  cases front <;> simp

theorem blankBack_iff (left : withoutSlashes? text = some address) :
    text.BlankBack ↔ ∃ char ∈ address.getLast?, isBlank char = true := by
  constructor
  · rintro ⟨front, blank, slashes, split, isBlank, dropped⟩
    have other : blank ≠ '/' := by
      rintro rfl
      contradiction
    have same := withoutSlashes?_eq_some_iff.mpr ⟨⟨front, blank, rfl, other⟩, slashes, split, dropped⟩
    rw [left] at same
    cases same
    exact ⟨blank, List.getLast?_concat, isBlank⟩
  · rintro ⟨blank, last, isBlank⟩
    obtain ⟨⟨front, char, rfl, _⟩, slashes, split, dropped⟩ := withoutSlashes?_eq_some_iff.mp left
    rw [List.getLast?_concat, Option.mem_some_iff] at last
    subst last
    exact ⟨front, char, slashes, split, isBlank, dropped⟩

theorem isNormal_iff (left : withoutSlashes? text = some address) :
    IsNormal address ↔ ¬ text.BlankFront ∧ ¬ text.BlankBack := by
  rw [blankFront_iff left, blankBack_iff left]
  constructor
  · intro normal
    constructor
    · rintro ⟨char, first, isBlank⟩
      exact absurd ((normal.front char first).symm.trans isBlank) Bool.false_ne_true
    · rintro ⟨char, last, isBlank⟩
      exact absurd ((normal.back char last).1.symm.trans isBlank) Bool.false_ne_true
  · rintro ⟨front, back⟩
    obtain ⟨filled, slash⟩ := unslashed left
    have visible : ∀ char ∈ address.head?, isBlank char = false := by
      intro char first
      exact Bool.eq_false_iff.mpr fun isBlank => front ⟨char, first, isBlank⟩
    refine ⟨?_, visible, ?_⟩
    · rw [ne_eq, Text.trim_eq_nil_iff]
      intro blanks
      obtain ⟨first, rest, rfl⟩ := List.exists_cons_of_ne_nil filled
      exact absurd ((visible first rfl).symm.trans (blanks first List.mem_cons_self)) Bool.false_ne_true
    · intro char last
      refine ⟨Bool.eq_false_iff.mpr fun isBlank => back ⟨char, last, isBlank⟩, ?_⟩
      rintro rfl
      exact slash last

end

theorem resolved_normal_iff (text : Text) : (∀ address, withoutSlashes? text = some address → IsNormal address) ↔
    ¬ text.BlankFront ∧ ¬ text.BlankBack := by
  cases left : withoutSlashes? text with
  | none =>
    -- Nothing but slashes is left to resolve, and those are not blank.
    have visible : ∀ char ∈ text, isBlank char = false := by
      intro char member
      rw [withoutSlashes?_eq_none_iff.mp left char member]
      rfl
    exact iff_of_true nofun (Text.not_blank_of_visible visible)
  | some address =>
    rw [← isNormal_iff left]
    exact ⟨fun normal => normal address rfl, fun normal _ same => Option.some.inj same ▸ normal⟩

section

variable (environment : Environment)

/-- Only a reference at the beginning of a trimmed source can bring a blank there. -/
theorem not_blankFront_expand {source : Text} (free : ¬ opening <+: source.trim) :
    ¬ (environment.expand source.trim).BlankFront := by
  rintro ⟨blank, rest, split, isBlank⟩
  have first : source.trim.head? = some blank := by
    rw [← environment.head?_expand free, split]
    rfl
  exact absurd ((Text.head?_trim source blank first).symm.trans isBlank) Bool.false_ne_true

theorem not_blank_expand {template : Template} (wellFormed : template.WellFormed)
    (visible : ∀ char ∈ template.toText, isBlank char = false)
    (values : ∀ name ∈ template.names, ∀ char ∈ environment.value name, isBlank char = false) :
    ¬ (environment.expand template.toText).BlankFront ∧ ¬ (environment.expand template.toText).BlankBack := by
  apply Text.not_blank_of_visible
  intro char member
  rw [environment.expand_toText wellFormed] at member
  rcases Template.mem_fill member with inside | ⟨name, listed, held⟩
  · exact visible char inside
  · exact values name listed char held

end

/-- A variable that holds blanks is an address, if the source is nothing but a reference to it. -/
theorem resolveBaseUrl_of_blanks (environment : Environment) {name : Text} (named : name ≠ []) (lacks : closing ∉ name)
    (held : environment.value name ≠ []) (blanks : (environment.value name).trim = []) :
    resolveBaseUrl environment (opening ++ (name ++ [closing])) = some (environment.value name) := by
  have trimmed : Text.trim (opening ++ (name ++ [closing])) = opening ++ (name ++ [closing]) :=
    Text.trim_between (by decide) (by decide) ('\x7b' :: name)
  have expanded : environment.expand (opening ++ (name ++ [closing])) = environment.value name := by
    rw [Environment.expand_reference environment lacks [], if_neg named, Environment.expand, List.append_nil]
  unfold resolveBaseUrl
  rw [trimmed, expanded, withoutSlashes?_eq_some_iff]
  refine ⟨⟨_, _, (List.dropLast_append_getLast held).symm, ?_⟩, [], (List.append_nil _).symm, by simp⟩
  intro slash
  have isBlank := Text.trim_eq_nil_iff.mp blanks _ (List.getLast_mem held)
  rw [slash] at isBlank
  contradiction

/-- An address is never empty and never ends in a slash. It is normal exactly when the expanded source neither begins
with a blank nor has one in front of the slashes at its end. A blank front comes of a reference at the beginning of the
source only; a source without references can only have a blank in front of its last slashes; and where neither the
source nor a value that it refers to has a blank in it, the address is normal. But whatever blanks a variable holds, a
source that is a reference to it is resolved to them. -/
theorem baseUrl_normal_iff (settings : Settings) (environment : Environment) :
    (∀ address, settings.baseUrl environment = some address → address ≠ [] ∧ address.getLast? ≠ some '/') ∧
    (settings.baseUrlSource? environment = Option.none → settings.baseUrl environment = Option.none) ∧
    ∀ source, settings.baseUrlSource? environment = some source →
      let text := environment.expand source.trim
      (settings.baseUrl environment = Option.none ↔ ∀ char ∈ text, char = '/') ∧
      ((∀ address, settings.baseUrl environment = some address → IsNormal address) ↔
        ¬ text.BlankFront ∧ ¬ text.BlankBack) ∧
      (¬ opening <+: source.trim → ¬ text.BlankFront) ∧
      (¬ opening <:+: source.trim → text = source.trim) ∧
      (∀ template : Template, template.WellFormed → template.toText = source.trim →
        (∀ char ∈ source.trim, isBlank char = false) →
        (∀ name ∈ template.names, ∀ char ∈ environment.value name, isBlank char = false) →
        ¬ text.BlankFront ∧ ¬ text.BlankBack) ∧
      ∀ name, name ≠ [] → closing ∉ name → source = opening ++ (name ++ [closing]) →
        environment.value name ≠ [] → (environment.value name).trim = [] →
        settings.baseUrl environment = some (environment.value name) := by
  have ends (address : Text) (resolved : settings.baseUrl environment = some address) :
      address ≠ [] ∧ address.getLast? ≠ some '/' := by
    obtain ⟨source, _, left⟩ := Option.bind_eq_some_iff.mp resolved
    exact unslashed left
  refine ⟨ends, baseUrl_of_no_source, fun source given => ?_⟩
  have resolves := baseUrl_of_source given
  intro text
  refine ⟨?_, ?_, not_blankFront_expand environment, ?_, ?_, ?_⟩
  · rw [resolves, withoutSlashes?_eq_none_iff]
  · rw [resolves]
    exact resolved_normal_iff text
  · intro free
    exact @Environment.expand_toText environment (.literal source.trim) free
  · intro template wellFormed same visible values
    unfold text
    rw [← same] at visible ⊢
    exact not_blank_expand environment wellFormed visible values
  · rintro name named lacks rfl held blanks
    exact resolves.trans (resolveBaseUrl_of_blanks environment named lacks held blanks)

/-- A source that is normal as it stands, one with a blank in front of its last slash, and a reference to a variable
that holds a blank. -/
theorem baseUrl_normal_iff_at_blanks :
    let environment : Environment := ⟨fun name => if name = "CONSOLE".toList then some [' '] else Option.none⟩
    let within (source : Text) : Settings := ⟨some ⟨some source, Option.none, Option.none, false⟩, Option.none⟩
    let normal : Settings := within " https://desk.test/ ".toList
    let spaced : Settings := within "https://desk.test /".toList
    let referred : Settings := within "$\x7bCONSOLE\x7d".toList
    (∀ address, normal.baseUrl environment = some address → IsNormal address) ∧
    ¬ (∀ address, spaced.baseUrl environment = some address → IsNormal address) ∧
    referred.baseUrl environment = some [' '] := by
  intro environment within normal spaced referred
  have given (source : Text) : (within source).baseUrlSource? environment = some source := rfl
  have free (text : Text) (lacks : '$' ∉ text) : ¬ opening <:+: text := fun inside => lacks (inside.subset (by decide))
  refine ⟨?_, ?_, ?_⟩
  · obtain ⟨_, exact, _, _, visible, _⟩ := (baseUrl_normal_iff normal environment).2.2 _ (given _)
    have noBlank : (Text.trim " https://desk.test/ ".toList).all (fun char => !isBlank char) = true := by decide
    refine exact.mpr (visible (.literal _) (free _ (by decide)) rfl ?_ nofun)
    simpa using noBlank
  · obtain ⟨_, exact, _, literal, _, _⟩ := (baseUrl_normal_iff spaced environment).2.2 _ (given _)
    intro normal
    apply (exact.mp normal).2
    rw [literal (free _ (by decide))]
    exact ⟨"https://desk.test".toList, ' ', ['/'], by decide, by decide, fun _ => List.mem_singleton.mp⟩
  · obtain ⟨_, _, _, _, _, blanks⟩ := (baseUrl_normal_iff referred environment).2.2 _ (given _)
    exact blanks "CONSOLE".toList (by decide) (by decide) rfl (by decide) (by decide)

end Settings

end TerminalSignIn
