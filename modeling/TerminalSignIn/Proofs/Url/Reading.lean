import TerminalSignIn.Proofs.Url.Margin

/-!
# What is asked of a reader of URLs

Texts are read as URLs by a library, so what is proved about endpoints is proved for every reader that keeps to some
rules of the URL standard. `ReadsSchemes` says where a scheme comes from, `ReadsServers` what the server in a text
decides: the server stands before the first character that ends it, and texts that name the same server have the same
origin. A text and the one that continues it name the same server, unless nothing ends it in the first text and the
second one counts the margin as part of it.
-/

namespace TerminalSignIn

namespace Text

theorem takeWhile_append_of_mem {keeps : Char → Bool} {text : Text} {char : Char} (member : char ∈ text)
    (stops : keeps char = false) (more : Text) : (text ++ more).takeWhile keeps = text.takeWhile keeps := by
  induction text with
  | nil => contradiction
  | cons first rest ih =>
    rw [List.cons_append, List.takeWhile_cons, List.takeWhile_cons]
    rcases List.mem_cons.mp member with rfl | later
    · rw [stops]
      rfl
    · rw [ih later]

end Text

/-- The scheme, host and port of a URL. A host with the empty name is none. -/
structure Origin where
  scheme : Text
  host : Option Host
  port : Option Nat
deriving DecidableEq

namespace Host

def named? (host : Host) : Option Host :=
  if host = .domain [] then none else some host

theorem named?_eq_none {host : Host} : host.named? = none ↔ host = .domain [] := by
  unfold named?
  split <;> simp [*]

end Host

namespace SchemeKind

def isSlash (kind : SchemeKind) (char : Char) : Bool :=
  char = '/' || (kind.readsBackslash && char = '\\')

end SchemeKind

namespace Url

def origin (url : Url) : Origin :=
  ⟨url.scheme, url.host.bind Host.named?, url.port⟩

/-! ### The server in a text -/

/-- The text that begins with a server: behind all slashes in the web, else behind two slashes if these stand
there. -/
def serverBehind? (kind : SchemeKind) (text : Text) : Option Text :=
  if kind = .web then some (text.dropWhile kind.isSlash)
  else match text with
    | first :: second :: rest => if kind.isSlash first && kind.isSlash second then some rest else none
    | _ => none

def serverName (kind : SchemeKind) (text : Text) : Text :=
  (splitBefore (endsAuthority kind) text).1

/-- The scheme of a text, and the text behind it that begins with the server, if there is one. -/
def outline? (text : Text) : Option (Text × Option Text) :=
  (splitScheme? (cleaned text)).map fun (scheme, rest) => (scheme, serverBehind? (.ofScheme scheme) rest)

theorem serverBehind?_web (text : Text) :
    serverBehind? .web text = some (text.dropWhile (SchemeKind.isSlash .web)) := rfl

theorem serverBehind?_eq_some {kind : SchemeKind} (noWeb : kind ≠ .web) {text rest : Text} :
    serverBehind? kind text = some rest ↔
      ∃ first second, text = first :: second :: rest ∧ kind.isSlash first = true ∧ kind.isSlash second = true := by
  unfold serverBehind?
  rw [if_neg noWeb]
  split
  · next first second rest =>
    by_cases slashes : (kind.isSlash first && kind.isSlash second) = true
    · rw [if_pos slashes]
      grind
    · rw [if_neg slashes]
      grind
  · grind

theorem serverBehind?_eq_none {kind : SchemeKind} (noWeb : kind ≠ .web) {first : Char} {rest : Text}
    (noSlash : kind.isSlash first = false ∨ ∀ second ∈ rest.head?, kind.isSlash second = false) :
    serverBehind? kind (first :: rest) = none := by
  by_contra server
  obtain ⟨found, server⟩ := Option.ne_none_iff_exists'.mp server
  obtain ⟨_, second, same, isFirst, isSecond⟩ := (serverBehind?_eq_some noWeb).mp server
  cases same
  rcases noSlash with noSlash | noSlash
  · rw [noSlash] at isFirst
    contradiction
  · rw [noSlash second rfl] at isSecond
    contradiction

theorem endsAuthority_of_isSlash {kind : SchemeKind} {char : Char} (slash : kind.isSlash char = true) :
    endsAuthority kind char = true := by
  simp only [SchemeKind.isSlash, Bool.or_eq_true, decide_eq_true_eq] at slash
  unfold endsAuthority
  rcases slash with rfl | slash
  · rfl
  · rw [slash, Bool.or_true]

theorem endsAuthority_of_isMargin (kind : SchemeKind) {char : Char} (blank : isMargin char = true) :
    endsAuthority kind char = false := by
  cases kind <;> exact of_isMargin (endsAuthority _ · = false) (by decide) blank

theorem endsAuthority_of_mem_serverName {kind : SchemeKind} {text : Text} {char : Char}
    (member : char ∈ serverName kind text) : endsAuthority kind char = false := by
  simpa using List.mem_takeWhile_imp member

theorem serverName_of_bare {kind : SchemeKind} {server more : Text}
    (bare : ∀ char ∈ server, endsAuthority kind char = false)
    (ends : ∀ char ∈ more.head?, endsAuthority kind char = true) : serverName kind (server ++ more) = server := by
  have nothing : more.takeWhile (fun char => !endsAuthority kind char) = [] := by
    cases more with
    | nil => rfl
    | cons first rest => rw [List.takeWhile_cons, ends first rfl]; rfl
  have whole : ∀ char ∈ server, (!endsAuthority kind char) = true := by
    intro char member
    rw [bare char member]
    rfl
  rw [serverName, splitBefore, List.takeWhile_append_of_pos whole, nothing, List.append_nil]

theorem serverName_of_bare_slash {kind : SchemeKind} {server : Text}
    (bare : ∀ char ∈ server, endsAuthority kind char = false) (more : Text) :
    serverName kind (server ++ '/' :: more) = server := by
  apply serverName_of_bare bare
  rintro char ⟨⟩
  rfl

theorem serverName_of_ended {kind : SchemeKind} {text : Text} {char : Char} (member : char ∈ text)
    (ends : endsAuthority kind char = true) (more : Text) :
    serverName kind (text ++ more) = serverName kind text :=
  Text.takeWhile_append_of_mem member (by rw [ends]; rfl) more

theorem serverName_of_slashes {kind : SchemeKind} {text : Text} (slashes : ∀ char ∈ text, kind.isSlash char = true) :
    serverName kind text = [] := by
  have nothing : serverName kind ([] ++ text) = [] := by
    apply serverName_of_bare (fun _ member => absurd member List.not_mem_nil)
    intro char first
    exact endsAuthority_of_isSlash (slashes char (List.mem_of_head? first))
  exact nothing

theorem serverName_behind_slashes {kind : SchemeKind} {text server : Text}
    (slashes : ∀ char ∈ text, kind.isSlash char = true) (behind : serverBehind? kind text = some server) :
    serverName kind server = [] := by
  by_cases web : kind = .web
  · subst web
    have nothing : text.dropWhile (SchemeKind.isSlash .web) = [] := List.dropWhile_eq_nil_iff.mpr slashes
    rw [serverBehind?_web, nothing] at behind
    cases behind
    rfl
  · obtain ⟨first, second, rfl, _⟩ := (serverBehind?_eq_some web).mp behind
    exact serverName_of_slashes fun char member => slashes char (List.mem_cons_of_mem _ (List.mem_cons_of_mem _ member))

/-! ### The server in a continued text -/

/-- A text and one that continues it name the same server, unless the second one counts the margin. -/
theorem Continues.serverName_eq {margin own reached : Text} (continues : Continues margin own reached)
    (kind : SchemeKind) :
    serverName kind own = serverName kind reached ∨ Margin margin ∧ serverName kind reached = own ++ margin := by
  cases continues with
  | @slashes stem slashes more slash =>
    left
    by_cases ended : ∃ char ∈ stem, endsAuthority kind char = true
    · obtain ⟨char, member, ends⟩ := ended
      rw [serverName_of_ended member ends, serverName_of_ended member ends]
    · have bare : ∀ char ∈ stem, endsAuthority kind char = false := by simpa using ended
      have short : serverName kind (stem ++ slashes) = stem :=
        serverName_of_bare bare fun char first => slash char (List.mem_of_head? first) ▸ rfl
      rw [short, serverName_of_bare_slash bare]
  | @margin _ _ more blank =>
    by_cases ended : ∃ char ∈ own, endsAuthority kind char = true
    · obtain ⟨char, member, ends⟩ := ended
      left
      rw [List.append_assoc, serverName_of_ended member ends]
    · have bare : ∀ char ∈ own, endsAuthority kind char = false := by simpa using ended
      have long : serverName kind (own ++ margin ++ '/' :: more) = own ++ margin := by
        apply serverName_of_bare_slash
        intro char member
        rcases List.mem_append.mp member with inOwn | inMargin
        · exact bare char inOwn
        · exact endsAuthority_of_isMargin kind (blank char inMargin)
      by_cases nothing : margin = []
      · left
        have whole : serverName kind (own ++ []) = own := serverName_of_bare bare nofun
        rw [List.append_nil] at whole
        rw [long, whole, nothing, List.append_nil]
      · exact .inr ⟨⟨nothing, blank⟩, long⟩

theorem Continues.ended {margin own reached : Text} (continues : Continues margin own reached) (kind : SchemeKind) :
    ∃ char ∈ reached, endsAuthority kind char = true := by
  refine ⟨'/', ?_, rfl⟩
  cases continues <;> simp

theorem Continues.exists_stem {margin own reached : Text} (continues : Continues margin own reached) :
    ∃ stem back front, own = stem ++ back ∧ reached = stem ++ front ∧ (∀ char ∈ back, char = '/') ∧
      ∀ start, Continues margin (start ++ back) (start ++ front) := by
  cases continues with
  | @slashes stem slashes more slash => exact ⟨stem, slashes, '/' :: more, rfl, rfl, slash, fun _ => .slashes slash⟩
  | @margin _ _ more blank =>
    refine ⟨own, [], margin ++ '/' :: more, (List.append_nil own).symm, List.append_assoc _ _ _, nofun, ?_⟩
    intro start
    rw [List.append_nil, ← List.append_assoc]
    exact .margin blank

theorem serverBehind?_append {kind : SchemeKind} {stem : Text} {char : Char} (member : char ∈ stem)
    (noSlash : kind.isSlash char = false) :
    (∀ more, serverBehind? kind (stem ++ more) = none) ∨
      ∃ server, ∀ more, serverBehind? kind (stem ++ more) = some (server ++ more) := by
  by_cases web : kind = .web
  · subst web
    refine .inr ⟨stem.dropWhile (SchemeKind.isSlash .web), fun more => ?_⟩
    have kept : stem.dropWhile (SchemeKind.isSlash .web) ≠ [] := by
      intro nothing
      rw [List.dropWhile_eq_nil_iff.mp nothing char member] at noSlash
      contradiction
    rw [serverBehind?_web, List.dropWhile_append, if_neg (by simpa using kept)]
  · match stem with
    | [] => contradiction
    | [first] =>
      cases List.mem_singleton.mp member
      exact .inl fun _ => serverBehind?_eq_none web (.inl noSlash)
    | first :: second :: rest =>
      cases isFirst : kind.isSlash first with
      | false => exact .inl fun _ => serverBehind?_eq_none web (.inl isFirst)
      | true =>
        cases isSecond : kind.isSlash second with
        | false =>
          refine .inl fun more => serverBehind?_eq_none web (.inr ?_)
          rintro char ⟨⟩
          exact isSecond
        | true =>
          exact .inr ⟨rest, fun _ => (serverBehind?_eq_some web).mpr ⟨first, second, rfl, isFirst, isSecond⟩⟩

/-- If the first text has more than slashes, both texts have a server, and the second one continues the first from
there, or neither of them has one. -/
theorem Continues.serverBehind? {margin own reached : Text} (continues : Continues margin own reached)
    (kind : SchemeKind) (filled : ¬ ∀ char ∈ own, kind.isSlash char = true) :
    (Url.serverBehind? kind own = none ∧ Url.serverBehind? kind reached = none) ∨
      ∃ server further, Url.serverBehind? kind own = some server ∧ Url.serverBehind? kind reached = some further ∧
        Continues margin server further := by
  obtain ⟨stem, back, front, rfl, rfl, slash, anywhere⟩ := continues.exists_stem
  -- What the texts do not share begins with slashes or with a margin, so the shared part decides how they are read.
  have inStem : ∃ char ∈ stem, kind.isSlash char = false := by
    by_contra slashes
    apply filled
    intro char member
    rcases List.mem_append.mp member with inStem | inBack
    · by_contra noSlash
      exact slashes ⟨char, inStem, by simpa using noSlash⟩
    · rw [slash char inBack]
      rfl
  obtain ⟨char, member, noSlash⟩ := inStem
  rcases serverBehind?_append member noSlash with none | ⟨server, some⟩
  · exact .inl ⟨none back, none front⟩
  · exact .inr ⟨server ++ back, server ++ front, some back, some front, anywhere server⟩

/-! ### Readers -/

/-- How a scheme is read. -/
structure ReadsSchemes (read : Text → Except UrlError Url) : Prop where
  /-- A text without a scheme is no absolute URL. -/
  relative {text : Text} : splitScheme? (cleaned text) = none → read text = .error .relative
  /-- The scheme stands before the first colon. Its letters become small, and what does not count is passed over. -/
  scheme {text : Text} {url : Url} : read text = .ok url →
    ∃ rest, splitScheme? (cleaned text) = some (url.scheme, rest)

/-- How a server is read. -/
structure ReadsServers (read : Text → Except UrlError Url) : Prop extends ReadsSchemes read where
  /-- There is no URL of the web without a server. -/
  nameless {text scheme server : Text} : outline? text = some (scheme, some server) →
    SchemeKind.ofScheme scheme = .web → serverName .web server = [] → ∀ url, read text ≠ .ok url
  /-- Schemes that interpret their hosts refuse a server that ends in a blank or a control character. -/
  blank {text scheme server : Text} : outline? text = some (scheme, some server) →
    SchemeKind.ofScheme scheme ≠ .other → ¬ EndsPlainly (serverName (.ofScheme scheme) server) →
      ∀ url, read text ≠ .ok url
  /-- Host and port are those of the server, whatever follows it, and what follows is read in any case. Only a drive in
  the path of a local file does away with the host. -/
  server {own reached scheme server further : Text} {url : Url} : outline? own = some (scheme, some server) →
    outline? reached = some (scheme, some further) →
    serverName (.ofScheme scheme) server = serverName (.ofScheme scheme) further →
    (∃ char ∈ further, endsAuthority (.ofScheme scheme) char = true) → read reached = .ok url →
    ∃ url', read own = .ok url' ∧ (url'.origin = url.origin ∨
      SchemeKind.ofScheme scheme = .file ∧ (url'.origin.host = none ∨ url.origin.host = none))
  /-- Outside the web a server need not be named; there is no host and no port then. -/
  serverless {text scheme : Text} {server? : Option Text} : outline? text = some (scheme, server?) →
    SchemeKind.ofScheme scheme ≠ .web → (∀ server ∈ server?, serverName (.ofScheme scheme) server = []) →
      ∃ url, read text = .ok url ∧ url.origin = ⟨scheme, none, none⟩
  /-- Without a host there is no port. -/
  portless {text : Text} {url : Url} : read text = .ok url → url.origin.host = none → url.origin.port = none

section

variable {read : Text → Except UrlError Url}

theorem outline?_eq_some {text scheme rest : Text} (split : splitScheme? (cleaned text) = some (scheme, rest)) :
    outline? text = some (scheme, serverBehind? (.ofScheme scheme) rest) := by
  rw [outline?, split]
  rfl

theorem ReadsServers.hostless {text : Text} {url : Url} (reads : ReadsServers read) (found : read text = .ok url)
    (hostless : url.origin.host = none) : url.origin = ⟨url.scheme, none, none⟩ := by
  have portless := reads.portless found hostless
  rw [origin] at *
  exact congrArg₂ (Origin.mk url.scheme) hostless portless

variable {margin text further scheme own reached : Text} {url : Url}

/-- A text that names no server is no URL in the web, and one without a host elsewhere. -/
theorem ReadsServers.of_slashes (reads : ReadsServers read) (split : splitScheme? (cleaned text) = some (scheme, own))
    (slashes : ∀ char ∈ own, (SchemeKind.ofScheme scheme).isSlash char = true) :
    (SchemeKind.ofScheme scheme = .web → ∀ url, read text ≠ .ok url) ∧
      (SchemeKind.ofScheme scheme ≠ .web → ∃ url, read text = .ok url ∧ url.origin = ⟨scheme, none, none⟩) := by
  have outline := outline?_eq_some split
  constructor
  · intro web
    rw [web, serverBehind?_web] at outline
    rw [web] at slashes
    exact reads.nameless outline web (serverName_behind_slashes slashes (serverBehind?_web own))
  · intro noWeb
    exact reads.serverless outline noWeb fun server behind => serverName_behind_slashes slashes behind

/-- A text that names more than slashes behind its scheme has the origin of the text that continues it. Left open is a
host that is not interpreted and takes the margin along, and which of two local files is on a drive. -/
theorem ReadsServers.of_continues (reads : ReadsServers read) (continues : Continues margin own reached)
    (split : splitScheme? (cleaned text) = some (scheme, own))
    (split' : splitScheme? (cleaned further) = some (scheme, reached)) (found : read further = .ok url)
    (filled : ¬ ∀ char ∈ own, (SchemeKind.ofScheme scheme).isSlash char = true)
    (plain : SchemeKind.ofScheme scheme = .other → margin = []) :
    ∃ url', read text = .ok url' ∧ (url'.origin = url.origin ∨
      SchemeKind.ofScheme scheme = .file ∧ (url'.origin.host = none ∨ url.origin.host = none)) := by
  have outline := outline?_eq_some split
  have outline' := outline?_eq_some split'
  rcases continues.serverBehind? (.ofScheme scheme) filled with ⟨none, none'⟩ | ⟨server, server', some', some'', behind⟩
  · rw [none] at outline
    rw [none'] at outline'
    have noWeb : SchemeKind.ofScheme scheme ≠ .web := by
      intro web
      rw [web, serverBehind?_web] at none
      contradiction
    obtain ⟨url', found', origin⟩ := reads.serverless outline noWeb nofun
    obtain ⟨_, again, origin'⟩ := reads.serverless outline' noWeb nofun
    rw [found] at again
    cases again
    exact ⟨url', found', .inl (origin.trans origin'.symm)⟩
  · rw [some'] at outline
    rw [some''] at outline'
    rcases behind.serverName_eq (.ofScheme scheme) with same | ⟨ending, name⟩
    · exact reads.server outline outline' same (behind.ended _) found
    · -- A margin that counts is refused where hosts are interpreted.
      have blank : ¬ EndsPlainly (serverName (.ofScheme scheme) server') := by
        rw [name]
        obtain ⟨last, ends, lastBlank⟩ := ending.exists_getLast? server
        intro plainly
        rw [plainly last ends] at lastBlank
        contradiction
      by_cases other : SchemeKind.ofScheme scheme = .other
      · exact absurd (plain other) ending.filled
      · exact absurd found (reads.blank outline' other blank url)

end

end Url

end TerminalSignIn
