import TerminalSignIn.Proofs.Url.Host
import TerminalSignIn.Proofs.Url.Reading

/-!
# The server of a URL

How the server is read that a text names: the user before the last at sign, the host, and the port behind the first
colon outside brackets. A margin at the end of a server is never read as part of a port, so it is the host that takes it
along, and the web reads no such server at all.
-/

namespace TerminalSignIn

section

variable {α β : Type} (error : UrlError)

theorem throw_eq : (throw error : Except UrlError α) = .error error := rfl

theorem error_bind (next : α → Except UrlError β) : (.error error : Except UrlError α) >>= next = .error error := rfl

theorem ok_bind (value : α) (next : α → Except UrlError β) : (.ok value : Except UrlError α) >>= next = next value :=
  rfl

end

namespace Text

theorem number?_eq_none {base : Nat} {text : Text} {char : Char} (member : char ∈ text)
    (noDigit : digit? base char = none) : number? base text = none := by
  have every (total : Nat) :
      text.foldlM (fun total char => (digit? base char).map (total * base + ·)) total = none := by
    induction text generalizing total with
    | nil => contradiction
    | cons first rest ih =>
      rw [List.foldlM_cons]
      rcases List.mem_cons.mp member with rfl | later
      · rw [noDigit]
        rfl
      · cases digit? base first with
        | none => rfl
        | some value => exact ih later _
  unfold number?
  split
  · rfl
  · exact every 0

end Text

namespace Url

def userOf (named : Text) : UserInfo :=
  match splitUser? named with
  | none => .none
  | some (userText, _) => readUser userText

def hostAndPort (named : Text) : Text :=
  match splitUser? named with
  | none => named
  | some (_, server) => server

theorem splitUser?_append {named more : Text} (lacks : '@' ∉ more) :
    splitUser? (named ++ more) = (splitUser? named).map fun (user, server) => (user, server ++ more) := by
  have turned : '@' ∉ more.reverse := by rwa [List.mem_reverse]
  rw [splitUser?, List.reverse_append, Text.splitOnce?_append_of_none (Text.splitOnce?_eq_none turned), splitUser?]
  cases Text.splitOnce? '@' named.reverse with
  | none => rfl
  | some parts => simp

theorem hostAndPort_append {named more : Text} (lacks : '@' ∉ more) :
    hostAndPort (named ++ more) = hostAndPort named ++ more := by
  rw [hostAndPort, hostAndPort, splitUser?_append lacks]
  cases splitUser? named <;> rfl

theorem mem_of_mem_hostAndPort {named : Text} {char : Char} (member : char ∈ hostAndPort named) : char ∈ named := by
  unfold hostAndPort splitUser? at member
  cases split : Text.splitOnce? '@' named.reverse with
  | none =>
    rw [split] at member
    exact member
  | some parts =>
    obtain ⟨before, after⟩ := parts
    rw [split] at member
    exact List.mem_reverse.mp (Text.mem_of_splitOnce? split (List.mem_reverse.mp member))

/-- Behind an at sign there has to be a server: always if a user stands before it, and without one if something
follows. -/
def refusesServer (named : Text) (last : Bool) : Bool :=
  match splitUser? named with
  | none => false
  | some (userText, server) =>
    server.isEmpty && ((userText.isEmpty && !last) || !(readUser userText).toText.isEmpty)

theorem refusesServer_last {named : Text} (allowed : refusesServer named false = false) (last : Bool) :
    refusesServer named last = false := by
  unfold refusesServer at *
  cases found : splitUser? named with
  | none => rfl
  | some parts =>
    rw [found] at allowed
    grind

theorem readAuthority_eq_ok {scheme text : Text} {authority : Authority} :
    (∃ left, readAuthority scheme text = .ok (authority, left)) ↔
      refusesServer (serverName (.ofScheme scheme) text)
          (splitBefore (endsAuthority (.ofScheme scheme)) text).2.isEmpty = false ∧
        ∃ left, readServer scheme (userOf (serverName (.ofScheme scheme) text))
          (hostAndPort (serverName (.ofScheme scheme) text)) = .ok (authority, left) := by
  rw [readAuthority, serverName]
  generalize splitBefore (endsAuthority (.ofScheme scheme)) text = parts
  obtain ⟨named, rest⟩ := parts
  unfold refusesServer userOf hostAndPort
  dsimp only
  cases splitUser? named with
  | none =>
    dsimp only
    cases readServer scheme .none named with
    | error => simp
    | ok result =>
      obtain ⟨found, left⟩ := result
      simp
  | some parts =>
    obtain ⟨userText, server⟩ := parts
    dsimp only
    generalize userText.isEmpty = userless
    generalize (readUser userText).toText.isEmpty = unnamed
    generalize server.isEmpty = hostless
    generalize rest.isEmpty = last
    cases readServer scheme (readUser userText) server with
    | error => cases userless <;> cases unnamed <;> cases hostless <;> cases last <;> simp [throw_eq, error_bind]
    | ok result =>
      obtain ⟨found, left⟩ := result
      cases userless <;> cases unnamed <;> cases hostless <;> cases last <;> simp [throw_eq, error_bind, ok_bind]

theorem splitHost_rest {inBrackets : Bool} {text : Text} (ported : (splitHost inBrackets text).2 ≠ []) :
    ∃ digits, (splitHost inBrackets text).2 = ':' :: digits := by
  induction text generalizing inBrackets with
  | nil => contradiction
  | cons char text ih =>
    rw [splitHost] at *
    split at ported
    · next colon =>
      simp only [Bool.and_eq_true, decide_eq_true_eq] at colon
      exact ⟨text, by simp [colon]⟩
    · next noColon =>
      rw [if_neg noColon]
      exact ih ported

theorem mem_of_mem_splitHost {inBrackets : Bool} {text : Text} {char : Char}
    (member : char ∈ (splitHost inBrackets text).2) : char ∈ text := by
  induction text generalizing inBrackets with
  | nil => contradiction
  | cons first text ih =>
    rw [splitHost] at member
    split at member
    · exact member
    · exact List.mem_cons_of_mem _ (ih member)

theorem splitHost_append_ported {inBrackets : Bool} {text : Text} (ported : (splitHost inBrackets text).2 ≠ [])
    (more : Text) : splitHost inBrackets (text ++ more) =
      ((splitHost inBrackets text).1, (splitHost inBrackets text).2 ++ more) := by
  induction text generalizing inBrackets with
  | nil => contradiction
  | cons char text ih =>
    rw [List.cons_append, splitHost, splitHost] at *
    split at ported
    · next colon => rw [if_pos colon, if_pos colon]; rfl
    · next noColon =>
      rw [if_neg noColon, if_neg noColon, ih ported]

theorem splitHost_of_notMem {inBrackets : Bool} {text : Text} (noColon : ':' ∉ text) :
    splitHost inBrackets text = (text, []) := by
  induction text generalizing inBrackets with
  | nil => rfl
  | cons char text ih =>
    rw [List.mem_cons, not_or] at noColon
    have differs : (decide (char = ':') && !inBrackets) = false := by simp [Ne.symm noColon.1]
    rw [splitHost, differs, ih noColon.2]
    rfl

theorem splitHost_append_portless {inBrackets : Bool} {text more : Text}
    (portless : (splitHost inBrackets text).2 = []) (noColon : ':' ∉ more) :
    splitHost inBrackets (text ++ more) = (text ++ more, []) := by
  induction text generalizing inBrackets with
  | nil => exact splitHost_of_notMem noColon
  | cons char text ih =>
    rw [splitHost] at portless
    split at portless
    · contradiction
    · next inHost =>
      rw [List.cons_append, splitHost, if_neg inHost, ih portless]

def hostOf (scheme text : Text) : Except UrlError Host :=
  if SchemeKind.ofScheme scheme = .other then Host.ofOtherText text else Host.ofWebText text

def portOf (scheme hostText : Text) : Text → Except UrlError (Option Nat × Text)
  | ':' :: rest =>
    if hostText.isEmpty then .error .emptyHost
    else (readPort (SchemeKind.webPorts.lookup scheme) (splitBefore (· = '\\') rest).1).map
      (·, (splitBefore (· = '\\') rest).2)
  | _ => .ok (none, [])

theorem readServer_eq (scheme : Text) (user : UserInfo) (text : Text) :
    readServer scheme user text =
      if SchemeKind.ofScheme scheme = .web && (splitHost false text).1.isEmpty then .error .emptyHost
      else do
        let host ← hostOf scheme (splitHost false text).1
        let (port, left) ← portOf scheme (splitHost false text).1 (splitHost false text).2
        return (⟨user, host, port⟩, left) := by
  unfold readServer hostOf
  generalize splitHost false text = parts
  obtain ⟨hostText, rest⟩ := parts
  dsimp only
  have server (host : Host) : (match rest with
      | ':' :: rest => do
        if hostText.isEmpty then throw UrlError.emptyHost
        let port ← readPort (SchemeKind.webPorts.lookup scheme) (splitBefore (· = '\\') rest).1
        return ((⟨user, host, port⟩ : Authority), (splitBefore (· = '\\') rest).2)
      | _ => return (⟨user, host, none⟩, [])) = (do
        let (port, left) ← portOf scheme hostText rest
        return (⟨user, host, port⟩, left)) := by
    unfold portOf
    split
    · next digits =>
      generalize splitBefore (· = '\\') digits = parts
      obtain ⟨number, left⟩ := parts
      dsimp only
      cases hostText.isEmpty with
      | true => rfl
      | false => cases readPort (SchemeKind.webPorts.lookup scheme) number <;> rfl
    · rfl
  split
  · rfl
  · split
    · cases Host.ofOtherText hostText with
      | error => rfl
      | ok host => exact server host
    · cases Host.ofWebText hostText with
      | error => rfl
      | ok host => exact server host

theorem readServer_eq_ok {scheme text : Text} {user : UserInfo} {authority : Authority} :
    (∃ left, readServer scheme user text = .ok (authority, left)) ↔
      (SchemeKind.ofScheme scheme = .web → (splitHost false text).1 ≠ []) ∧ authority.user = user ∧
        hostOf scheme (splitHost false text).1 = .ok authority.host ∧
          ∃ left, portOf scheme (splitHost false text).1 (splitHost false text).2 = .ok (authority.port, left) := by
  rw [readServer_eq]
  obtain ⟨named, host, port⟩ := authority
  generalize splitHost false text = parts
  obtain ⟨hostText, rest⟩ := parts
  dsimp only
  by_cases nameless : SchemeKind.ofScheme scheme = .web ∧ hostText = []
  · simp [nameless]
  · have named' : (decide (SchemeKind.ofScheme scheme = .web) && hostText.isEmpty) = false := by simpa using nameless
    rw [named']
    cases hostOf scheme hostText with
    | error => simp [error_bind]
    | ok found =>
      cases portOf scheme hostText rest with
      | error => simp [ok_bind]
      | ok result =>
        obtain ⟨number, left⟩ := result
        constructor
        · rintro ⟨_, ⟨⟩⟩
          exact ⟨fun web nothing => nameless ⟨web, nothing⟩, rfl, rfl, left, rfl⟩
        · rintro ⟨_, rfl, ⟨⟩, _, ⟨⟩⟩
          exact ⟨left, rfl⟩

theorem readPort_of_isMargin {customary : Option Nat} {text : Text} {char : Char} (member : char ∈ text)
    (blank : isMargin char = true) : readPort customary text = .error .port := by
  have noDigit : Text.digit? 10 char = none := of_isMargin (Text.digit? 10 · = none) (by decide) blank
  have filled : text.isEmpty = false := by
    rw [List.isEmpty_eq_false_iff]
    exact List.ne_nil_of_mem member
  rw [readPort, filled, Text.number?_eq_none member noDigit]
  rfl

/-- A port with a margin at its end is read only if a backslash ends it before. -/
theorem portOf_append_margin {scheme hostText digits margin left : Text} {port : Option Nat} (ending : Margin margin)
    (read : portOf scheme hostText (':' :: (digits ++ margin)) = .ok (port, left)) : '\\' ∈ digits := by
  by_contra noBackslash
  have whole : (splitBefore (· = '\\') (digits ++ margin)).1 = digits ++ margin := by
    apply List.takeWhile_eq_self_iff.mpr
    intro char member
    rcases List.mem_append.mp member with inDigits | inMargin
    · simpa using ne_of_mem_of_not_mem inDigits noBackslash
    · exact of_isMargin (fun char => (!decide (char = '\\')) = true) (by decide) (ending.blank char inMargin)
  obtain ⟨char, member⟩ := List.exists_mem_of_ne_nil margin ending.filled
  rw [portOf, whole, readPort_of_isMargin (List.mem_append_right digits member) (ending.blank char member)] at read
  split at read <;> cases read

def hostText (kind : SchemeKind) (text : Text) : Text :=
  (splitHost false (hostAndPort (serverName kind text))).1

theorem readAuthority_host {scheme text left : Text} {authority : Authority}
    (read : readAuthority scheme text = .ok (authority, left)) :
    hostOf scheme (hostText (.ofScheme scheme) text) = .ok authority.host ∧
      (SchemeKind.ofScheme scheme = .web → hostText (.ofScheme scheme) text ≠ []) ∧
        (hostText (.ofScheme scheme) text = [] → authority.port = none) := by
  obtain ⟨_, server⟩ := readAuthority_eq_ok.mp ⟨left, read⟩
  obtain ⟨hosted, _, host, rest, port⟩ := readServer_eq_ok.mp server
  refine ⟨host, hosted, ?_⟩
  intro nothing
  rw [hostText] at nothing
  rw [nothing] at port
  unfold portOf at port
  split at port
  · rw [if_pos List.isEmpty_nil] at port
    contradiction
  · exact (congrArg Prod.fst (Except.ok.inj port)).symm

theorem readAuthority_of_serverName_eq {scheme own reached left : Text} {authority : Authority}
    (same : serverName (.ofScheme scheme) own = serverName (.ofScheme scheme) reached)
    (ended : ∃ char ∈ reached, endsAuthority (.ofScheme scheme) char = true)
    (read : readAuthority scheme reached = .ok (authority, left)) :
    ∃ left', readAuthority scheme own = .ok (authority, left') := by
  have followed : (splitBefore (endsAuthority (.ofScheme scheme)) reached).2.isEmpty = false := by
    rw [List.isEmpty_eq_false_iff]
    intro nothing
    obtain ⟨char, member, ends⟩ := ended
    have kept := List.dropWhile_eq_nil_iff.mp nothing char member
    rw [ends] at kept
    contradiction
  obtain ⟨allowed, server⟩ := readAuthority_eq_ok.mp ⟨left, read⟩
  rw [followed, ← same] at allowed
  rw [← same] at server
  exact readAuthority_eq_ok.mpr ⟨refusesServer_last allowed _, server⟩

/-- The web does not read a server that ends in a margin: the host takes it along, or the port. -/
theorem readAuthority_blank {scheme text server margin : Text} (web : SchemeKind.ofScheme scheme = .web)
    (name : serverName .web text = server ++ margin) (ending : Margin margin) (result : Authority × Text) :
    readAuthority scheme text ≠ .ok result := by
  intro read
  obtain ⟨authority, left⟩ := result
  -- No character of the margin splits a server, so the margin goes to the last part that there is.
  have noAt : '@' ∉ margin := fun member => absurd (ending.blank _ member) (by decide)
  have noColon : ':' ∉ margin := fun member => absurd (ending.blank _ member) (by decide)
  obtain ⟨_, reads⟩ := readAuthority_eq_ok.mp ⟨left, read⟩
  rw [web, name, hostAndPort_append noAt] at reads
  obtain ⟨_, _, host, rest, port⟩ := readServer_eq_ok.mp reads
  by_cases portless : (splitHost false (hostAndPort server)).2 = []
  · rw [splitHost_append_portless portless noColon, hostOf, if_neg (by rw [web]; decide)] at host
    exact Host.ofWebText_append_margin ending _ _ host
  · obtain ⟨digits, ported⟩ := splitHost_rest portless
    rw [splitHost_append_ported portless, ported] at port
    have inDigits : '\\' ∈ digits := portOf_append_margin ending port
    have inServer : '\\' ∈ server := by
      apply mem_of_mem_hostAndPort
      apply mem_of_mem_splitHost
      rw [ported]
      exact List.mem_cons_of_mem _ inDigits
    have bare : endsAuthority .web '\\' = false := by
      apply endsAuthority_of_mem_serverName
      rw [name]
      exact List.mem_append_left _ inServer
    contradiction

end Url

end TerminalSignIn
