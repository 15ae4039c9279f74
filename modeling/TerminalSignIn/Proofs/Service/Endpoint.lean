import TerminalSignIn.Proofs.Url.Parser
import TerminalSignIn.Settings

/-!
# Where a password goes

The endpoint is put together from texts and read only then, so it is not clear that it leads to the server that the
address of the service names, nor by which scheme. Both are decided by how the joined text begins. In the web the
endpoint leads to the server of its base, unless the base names none: the server is then taken from the path. And its
scheme is the one in front of the first colon, which is not looked at where the secure one is not required.
-/

namespace TerminalSignIn

namespace Settings

theorem signInPath_rooted (settings : Settings) : settings.signInPath.head? = some '/' := by
  unfold signInPath
  dsimp only
  split
  · next rooted => exact rooted
  · rfl

end Settings

namespace Endpoint

open Url

variable {read : Text → Except UrlError Url} {base path : Text} {allowInsecure : Bool} {endpoint : Endpoint}

theorem ofService_eq_ok_iff :
    ofService base path allowInsecure read = .ok endpoint ↔
      read (joined base path) = .ok endpoint.url ∧ (endpoint.url.scheme = secureScheme ∨ allowInsecure = true) := by
  unfold ofService
  dsimp only
  cases read (joined base path) with
  | error => exact ⟨nofun, nofun⟩
  | ok url =>
    dsimp only
    split
    next insecure =>
      obtain ⟨differs, required⟩ : url.scheme ≠ secureScheme ∧ allowInsecure = false := by simpa using insecure
      refine ⟨nofun, ?_⟩
      rintro ⟨⟨⟩, secure | allowed⟩
      · exact absurd secure differs
      · rw [required] at allowed
        contradiction
    next secure =>
      have admitted : url.scheme = secureScheme ∨ allowInsecure = true := by
        rw [Bool.and_eq_true, not_and_or] at secure
        simpa using secure
      constructor
      · rintro ⟨⟩
        exact ⟨rfl, admitted⟩
      · rintro ⟨⟨⟩, _⟩
        rfl

theorem ofService_secure (made : ofService base path false read = .ok endpoint) :
    SchemeKind.ofScheme endpoint.url.scheme = .web := by
  rw [(ofService_eq_ok_iff.mp made).2.resolve_right Bool.false_ne_true]
  decide

/-! ### The server -/

/-- There is nothing but slashes behind the scheme of the base. -/
def IsNameless (base : Text) : Prop :=
  ∃ scheme own, splitScheme? (cleaned base) = some (scheme, own) ∧
    ∀ char ∈ own, (SchemeKind.ofScheme scheme).isSlash char = true

theorem exists_continues (reads : ReadsSchemes read) (rooted : path.head? = some '/')
    (made : ofService base path allowInsecure read = .ok endpoint) :
    ∃ margin own reached, splitScheme? (cleaned base) = some (endpoint.url.scheme, own) ∧
      splitScheme? (cleaned (joined base path)) = some (endpoint.url.scheme, reached) ∧
        Continues margin own reached ∧ (EndsPlainly base → margin = []) := by
  obtain ⟨reached, split⟩ := reads.scheme (ofService_eq_ok_iff.mp made).1
  obtain ⟨margin, continues, plain⟩ := continues_joined base rooted
  obtain ⟨own, splitOwn, behind⟩ := continues.behind_scheme split
  exact ⟨margin, own, reached, splitOwn, split, behind, plain⟩

theorem isNameless_iff {scheme own : Text} (split : splitScheme? (cleaned base) = some (scheme, own)) :
    IsNameless base ↔ ∀ char ∈ own, (SchemeKind.ofScheme scheme).isSlash char = true := by
  constructor
  · rintro ⟨_, _, split', slashes⟩
    rw [split] at split'
    cases split'
    exact slashes
  · intro slashes
    exact ⟨scheme, own, split, slashes⟩

/-- A nameless base is no URL of the web. Elsewhere it has the origin of the endpoint if that has no host either. -/
theorem origin_of_nameless (reads : ReadsServers read) (rooted : path.head? = some '/')
    (made : ofService base path allowInsecure read = .ok endpoint) (nameless : IsNameless base) :
    (SchemeKind.ofScheme endpoint.url.scheme = .web → ∀ url, read base ≠ .ok url) ∧
      (SchemeKind.ofScheme endpoint.url.scheme ≠ .web →
        ((∃ url, read base = .ok url ∧ url.origin = endpoint.url.origin) ↔ endpoint.url.origin.host = none)) := by
  obtain ⟨_, own, _, split, _⟩ := exists_continues reads.toReadsSchemes rooted made
  obtain ⟨inWeb, elsewhere⟩ := reads.of_slashes split ((isNameless_iff split).mp nameless)
  refine ⟨inWeb, ?_⟩
  intro noWeb
  obtain ⟨url, found, origin⟩ := elsewhere noWeb
  constructor
  · rintro ⟨_, again, same⟩
    rw [found] at again
    cases again
    rw [← same, origin]
  · intro hostless
    refine ⟨url, found, ?_⟩
    rw [origin, reads.hostless (ofService_eq_ok_iff.mp made).1 hostless]

theorem origin_of_named (reads : ReadsServers read) (rooted : path.head? = some '/')
    (made : ofService base path allowInsecure read = .ok endpoint) (named : ¬ IsNameless base)
    (plain : SchemeKind.ofScheme endpoint.url.scheme = .other → EndsPlainly base) :
    ∃ url, read base = .ok url ∧ (url.origin = endpoint.url.origin ∨
      SchemeKind.ofScheme endpoint.url.scheme = .file ∧
        (url.origin.host = none ∨ endpoint.url.origin.host = none)) := by
  obtain ⟨margin, own, reached, split, split', continues, plainly⟩ :=
    exists_continues reads.toReadsSchemes rooted made
  rw [isNameless_iff split] at named
  exact reads.of_continues continues split split' (ofService_eq_ok_iff.mp made).1 named
    fun other => plainly (plain other)

theorem origin_of_web (reads : ReadsServers read) (rooted : path.head? = some '/')
    (made : ofService base path allowInsecure read = .ok endpoint)
    (web : SchemeKind.ofScheme endpoint.url.scheme = .web) :
    ((∃ url, read base = .ok url ∧ url.origin = endpoint.url.origin) ↔ ¬ IsNameless base) ∧
      ((∃ url, read base = .ok url) ↔ ¬ IsNameless base) := by
  have named (filled : ¬ IsNameless base) : ∃ url, read base = .ok url ∧ url.origin = endpoint.url.origin := by
    obtain ⟨url, found, same | ⟨file, _⟩⟩ := origin_of_named reads rooted made filled fun other => by
      cases web.symm.trans other
    · exact ⟨url, found, same⟩
    · cases web.symm.trans file
  have unnamed (nameless : IsNameless base) : ∀ url, read base ≠ .ok url :=
    (origin_of_nameless reads rooted made nameless).1 web
  refine ⟨⟨?_, named⟩, ⟨?_, fun filled => ?_⟩⟩
  · rintro ⟨url, found, _⟩ nameless
    exact unnamed nameless url found
  · rintro ⟨url, found⟩ nameless
    exact unnamed nameless url found
  · obtain ⟨url, found, _⟩ := named filled
    exact ⟨url, found⟩

/-- The path of a sign-in begins with a slash. With such a path an endpoint of the web, which a secure one is, leads to
the server that its base names by itself, unless the base has nothing but slashes behind its scheme: the base is then no
URL, and the server comes from the path. Outside the web a nameless base agrees with an endpoint without a host only;
any other base does agree with its endpoint, as long as it does not end in a blank or a control character, and but for
the host of a local file, which a drive does away with. -/
theorem same_origin_iff (reads : ReadsServers read) (rooted : path.head? = some '/')
    (made : ofService base path allowInsecure read = .ok endpoint) :
    let kind := SchemeKind.ofScheme endpoint.url.scheme
    let agrees := ∃ url, read base = .ok url ∧ url.origin = endpoint.url.origin
    (∀ settings : Settings, settings.signInPath.head? = some '/') ∧
    (allowInsecure = false → kind = .web) ∧
    (kind = .web → (agrees ↔ ¬ IsNameless base) ∧ ((∃ url, read base = .ok url) ↔ ¬ IsNameless base)) ∧
    (kind ≠ .web → IsNameless base → (agrees ↔ endpoint.url.origin.host = none)) ∧
    (kind = .other → ¬ IsNameless base → EndsPlainly base → agrees) ∧
    (kind = .file → ¬ IsNameless base → agrees ∨
      ∃ url, read base = .ok url ∧ (url.origin.host = none ∨ endpoint.url.origin.host = none)) := by
  intro kind agrees
  refine ⟨Settings.signInPath_rooted, ?_, origin_of_web reads rooted made, ?_, ?_, ?_⟩
  · rintro rfl
    exact ofService_secure made
  · intro noWeb nameless
    exact (origin_of_nameless reads rooted made nameless).2 noWeb
  · intro other named plain
    obtain ⟨url, found, same | ⟨file, _⟩⟩ := origin_of_named reads rooted made named fun _ => plain
    · exact ⟨url, found, same⟩
    · cases other.symm.trans file
  · intro file named
    obtain ⟨url, found, same | ⟨_, hostless⟩⟩ := origin_of_named reads rooted made named fun other => by
      cases file.symm.trans other
    · exact .inl ⟨url, found, same⟩
    · exact .inr ⟨url, found, hostless⟩

/-- A base with a server leads to that server; one without leads to the first name in the path. -/
theorem same_origin_iff_at_bases :
    (∃ endpoint, ofService "https://desk.test:8443/".toList "/api/v1/signin".toList false parse = .ok endpoint ∧
      ∃ url, parse "https://desk.test:8443/".toList = .ok url ∧ url.origin = endpoint.url.origin) ∧
    ∃ endpoint, ofService "https://".toList "/api/v1/signin".toList false parse = .ok endpoint ∧
      endpoint.url.host = some (.domain "api".toList) ∧
        ¬ ∃ url, parse "https://".toList = .ok url ∧ url.origin = endpoint.url.origin := by
  constructor
  · have made : ofService "https://desk.test:8443/".toList "/api/v1/signin".toList false parse =
        .ok ⟨⟨"https".toList, some ⟨.none, .domain "desk.test".toList, some 8443⟩,
          .segments ["api".toList, "v1".toList, "signin".toList], none, none⟩⟩ := by decide
    refine ⟨_, made, ?_⟩
    obtain ⟨_, web, agrees, _⟩ := same_origin_iff parse_readsServers (by decide) made
    have split : splitScheme? (cleaned "https://desk.test:8443/".toList) =
        some ("https".toList, "//desk.test:8443/".toList) := by decide
    rw [(agrees (web rfl)).1, isNameless_iff split]
    intro slashes
    exact absurd (slashes 'd' (by decide)) (by decide)
  · have made : ofService "https://".toList "/api/v1/signin".toList false parse =
        .ok ⟨⟨"https".toList, some ⟨.none, .domain "api".toList, none⟩,
          .segments ["v1".toList, "signin".toList], none, none⟩⟩ := by decide
    refine ⟨_, made, rfl, ?_⟩
    obtain ⟨_, web, agrees, _⟩ := same_origin_iff parse_readsServers (by decide) made
    have split : splitScheme? (cleaned "https://".toList) = some ("https".toList, "//".toList) := by decide
    rw [(agrees (web rfl)).1, not_not, isNameless_iff split]
    exact List.all_eq_true.mp (by decide)

/-! ### The scheme -/

def plainScheme : Text := "http".toList

def NamesOther (base path : Text) : Prop :=
  ∃ scheme rest, splitScheme? (cleaned (joined base path)) = some (scheme, rest) ∧
    scheme ≠ secureScheme ∧ scheme ≠ plainScheme

theorem namesOther_iff (reads : ReadsSchemes read) {url : Url} (found : read (joined base path) = .ok url) :
    NamesOther base path ↔ url.scheme ≠ secureScheme ∧ url.scheme ≠ plainScheme := by
  obtain ⟨rest, split⟩ := reads.scheme found
  constructor
  · rintro ⟨scheme, rest', split', others⟩
    rw [split] at split'
    cases split'
    exact others
  · intro others
    exact ⟨url.scheme, rest, split, others⟩

/-- An endpoint has the secure scheme, or the plain one where that is allowed, exactly if its text does not name another
scheme where the plain one is allowed. With any scheme that is then let through, a text becomes an endpoint as soon as
it is a URL, and a text without a scheme never becomes one. -/
theorem scheme_admitted_iff (reads : ReadsSchemes read) (base path : Text) (allowInsecure : Bool) :
    (∀ endpoint, ofService base path allowInsecure read = .ok endpoint →
      ((endpoint.url.scheme = secureScheme ∨ endpoint.url.scheme = plainScheme ∧ allowInsecure = true) ↔
        ¬ (allowInsecure = true ∧ NamesOther base path))) ∧
    (∀ scheme, (∃ endpoint, ofService base path allowInsecure read = .ok endpoint ∧ endpoint.url.scheme = scheme) ↔
      (scheme = secureScheme ∨ allowInsecure = true) ∧
        (∃ rest, splitScheme? (cleaned (joined base path)) = some (scheme, rest)) ∧
          ∃ url, read (joined base path) = .ok url) ∧
    (splitScheme? (cleaned (joined base path)) = none →
      ofService base path allowInsecure read = .error (.invalid (joined base path) .relative)) := by
  refine ⟨?_, ?_, ?_⟩
  · intro endpoint made
    obtain ⟨found, admitted⟩ := ofService_eq_ok_iff.mp made
    rw [namesOther_iff reads found]
    by_cases secure : endpoint.url.scheme = secureScheme
    · simp [secure]
    · have allowed := admitted.resolve_left secure
      simp [secure, allowed]
  · intro scheme
    constructor
    · rintro ⟨endpoint, made, rfl⟩
      obtain ⟨found, admitted⟩ := ofService_eq_ok_iff.mp made
      exact ⟨admitted, reads.scheme found, endpoint.url, found⟩
    · rintro ⟨admitted, ⟨rest, split⟩, url, found⟩
      obtain ⟨rest', split'⟩ := reads.scheme found
      rw [split] at split'
      cases split'
      exact ⟨⟨url⟩, ofService_eq_ok_iff.mpr ⟨found, admitted⟩, rfl⟩
  · intro schemeless
    rw [ofService, reads.relative schemeless]

/-- A machine and a port without a scheme are taken for a scheme and a path. -/
theorem scheme_admitted_iff_at_port :
    ∃ endpoint, ofService "localhost:8080".toList "/api/v1/signin".toList true parse = .ok endpoint ∧
      endpoint.url.scheme = "localhost".toList ∧
      ¬ (endpoint.url.scheme = secureScheme ∨ endpoint.url.scheme = plainScheme ∧ true = true) := by
  have split : splitScheme? (cleaned (joined "localhost:8080".toList "/api/v1/signin".toList)) =
      some ("localhost".toList, "8080/api/v1/signin".toList) := by decide
  obtain ⟨admitted, reached, _⟩ := scheme_admitted_iff parse_readsServers.toReadsSchemes "localhost:8080".toList
    "/api/v1/signin".toList true
  obtain ⟨endpoint, made, scheme⟩ := (reached "localhost".toList).mpr ⟨.inr rfl, ⟨_, split⟩, _, rfl⟩
  refine ⟨endpoint, made, scheme, ?_⟩
  rw [admitted endpoint made, not_not]
  exact ⟨rfl, _, _, split, by decide, by decide⟩

end Endpoint

end TerminalSignIn
