import TerminalSignIn.Proofs.Url.Authority

/-!
# The parser as a reader

`Url.parse` keeps to the rules that are asked of a reader. What it reads of the origin is told apart from the rest:
schemes of the web take the origin from the server behind all slashes, local files and other schemes from the server
behind two slashes, where a drive in the path of a file does away with its host.
-/

namespace TerminalSignIn

theorem map_eq_ok_iff {α β : Type} {result : Except UrlError α} {change : α → β} {found : β} :
    result.map change = .ok found ↔ ∃ value, result = .ok value ∧ change value = found := by
  cases result <;> simp [Except.map]

def Authority.origin (authority : Authority) (scheme : Text) : Origin :=
  ⟨scheme, authority.host.named?, authority.port⟩

namespace Url

def readBehind (scheme text : Text) : Except UrlError Url :=
  match SchemeKind.ofScheme scheme with
  | .web => readWeb scheme (text.dropWhile (SchemeKind.isSlash .web))
  | .file => readFile text
  | .other => readOther scheme text

theorem readWeb_origin (scheme text : Text) :
    (readWeb scheme text).map origin =
      (readAuthority scheme text).map fun (authority, _) => authority.origin scheme := by
  unfold readWeb
  cases readAuthority scheme text <;> rfl

theorem readOther_origin_server {text rest : Text} (scheme : Text) (server : serverBehind? .other text = some rest) :
    (readOther scheme text).map origin =
      (readAuthority scheme rest).map fun (authority, _) => authority.origin scheme := by
  obtain ⟨first, second, rfl, isFirst, isSecond⟩ := (serverBehind?_eq_some (by decide)).mp server
  obtain rfl : first = '/' := by simpa [SchemeKind.isSlash, SchemeKind.readsBackslash] using isFirst
  obtain rfl : second = '/' := by simpa [SchemeKind.isSlash, SchemeKind.readsBackslash] using isSecond
  unfold readOther
  split
  · next same =>
    cases same
    cases readAuthority scheme rest <;> rfl
  · next serverless same =>
    cases same
    exact absurd rfl (serverless rest)
  · next serverless _ => exact absurd rfl (serverless rest)

theorem readOther_origin_serverless {text : Text} (scheme : Text) (serverless : serverBehind? .other text = none) :
    (readOther scheme text).map origin = .ok ⟨scheme, none, none⟩ := by
  unfold readOther
  split
  · contradiction
  · rfl
  · rfl

def fileHost (text : Text) : Except UrlError Host :=
  if PathReading.isDrive (serverName .file text) then .ok (.domain []) else readLocalHost (serverName .file text)

def leadsToDrive (text : Text) : Bool :=
  let (hostText, behind) := splitBefore (endsAuthority .file) text
  let isDrive := PathReading.isDrive hostText
  (readPath SchemeKind.file.pathRules isDrive (splitBefore endsPath (if isDrive then text else behind)).1).2

def fileOrigin (drive : Bool) (host : Host) : Origin :=
  ⟨"file".toList, if drive then none else host.named?, none⟩

theorem readFile_origin_server {text rest : Text} (server : serverBehind? .file text = some rest) :
    (readFile text).map origin = (fileHost rest).map (fileOrigin (leadsToDrive rest)) := by
  obtain ⟨first, second, rfl, isFirst, isSecond⟩ := (serverBehind?_eq_some (by decide)).mp server
  have opens : (decide (first = '/') || decide (first = '\\')) = true := isFirst
  have opens' : (decide (second = '/') || decide (second = '\\')) = true := isSecond
  unfold readFile fileHost leadsToDrive serverName
  dsimp only
  rw [if_pos (Bool.and_eq_true_iff.mpr ⟨opens, opens'⟩)]
  generalize splitBefore (endsAuthority .file) rest = parts
  obtain ⟨hostText, behind⟩ := parts
  dsimp only
  cases PathReading.isDrive hostText with
  | true =>
    rw [if_pos rfl, if_pos rfl, if_pos rfl]
    generalize readPath SchemeKind.file.pathRules true (splitBefore endsPath rest).1 = reading
    obtain ⟨segments, drive⟩ := reading
    cases drive <;> rfl
  | false =>
    cases readLocalHost hostText with
    | error => rfl
    | ok host =>
      generalize reading : readPath SchemeKind.file.pathRules false
        (splitBefore endsPath (if false = true then rest else behind)).1 = parts
      obtain ⟨segments, drive⟩ := parts
      cases drive <;> rfl

theorem readFile_origin_serverless {text : Text} (serverless : serverBehind? .file text = none) :
    (readFile text).map origin = .ok ⟨"file".toList, none, none⟩ := by
  unfold readFile
  split
  · next first second rest =>
    have closed : ¬ ((decide (first = '/') || decide (first = '\\')) &&
        (decide (second = '/') || decide (second = '\\'))) = true := by
      intro opens
      have slashes := Bool.and_eq_true_iff.mp opens
      have server : serverBehind? .file (first :: second :: rest) = some rest :=
        (serverBehind?_eq_some (by decide)).mpr ⟨first, second, rfl, slashes⟩
      rw [serverless] at server
      contradiction
    dsimp only
    rw [if_neg closed]
    rfl
  · rfl

def readOrigin (scheme : Text) : Option Text → Except UrlError Origin
  | none => .ok ⟨scheme, none, none⟩
  | some text =>
    if SchemeKind.ofScheme scheme = .file then (fileHost text).map (fileOrigin (leadsToDrive text))
    else (readAuthority scheme text).map fun (authority, _) => authority.origin scheme

theorem ofScheme_eq_file {scheme : Text} (file : SchemeKind.ofScheme scheme = .file) : scheme = "file".toList := by
  unfold SchemeKind.ofScheme at file
  split at file
  · contradiction
  · split at file
    · assumption
    · contradiction

theorem readBehind_origin (scheme text : Text) :
    (readBehind scheme text).map origin = readOrigin scheme (serverBehind? (.ofScheme scheme) text) := by
  unfold readBehind
  cases kind : SchemeKind.ofScheme scheme with
  | web =>
    dsimp only
    rw [readWeb_origin, serverBehind?_web, readOrigin, kind]
    rfl
  | file =>
    dsimp only
    cases server : serverBehind? .file text with
    | none =>
      rw [readFile_origin_serverless server, readOrigin, ofScheme_eq_file kind]
    | some rest => rw [readFile_origin_server server, readOrigin, if_pos kind]
  | other =>
    dsimp only
    cases server : serverBehind? .other text with
    | none => rw [readOther_origin_serverless scheme server, readOrigin]
    | some rest =>
      rw [readOther_origin_server scheme server, readOrigin, kind]
      rfl

theorem parse_origin {text : Text} {found : Origin} :
    (∃ url, parse text = .ok url ∧ url.origin = found) ↔
      ∃ scheme server?, outline? text = some (scheme, server?) ∧ readOrigin scheme server? = .ok found := by
  rw [← map_eq_ok_iff, parse, outline?]
  cases splitScheme? (cleaned text) with
  | none =>
    constructor
    · rintro ⟨⟩
    · rintro ⟨_, _, ⟨⟩, _⟩
  | some parts =>
    obtain ⟨scheme, rest⟩ := parts
    change (readBehind scheme rest).map origin = .ok found ↔ _
    rw [readBehind_origin]
    constructor
    · intro read
      exact ⟨scheme, _, rfl, read⟩
    · rintro ⟨_, _, ⟨⟩, read⟩
      exact read

theorem readOrigin_of_parse {text scheme : Text} {server? : Option Text} {url : Url} (parsed : parse text = .ok url)
    (outline : outline? text = some (scheme, server?)) : readOrigin scheme server? = .ok url.origin := by
  obtain ⟨_, _, outline', read⟩ := parse_origin.mp ⟨url, parsed, rfl⟩
  rw [outline] at outline'
  cases outline'
  exact read

theorem readOrigin_of_authority {scheme text : Text} {found : Origin} (noFile : SchemeKind.ofScheme scheme ≠ .file) :
    readOrigin scheme (some text) = .ok found ↔
      ∃ authority left, readAuthority scheme text = .ok (authority, left) ∧ authority.origin scheme = found := by
  rw [readOrigin, if_neg noFile, map_eq_ok_iff, Prod.exists]

theorem readOrigin_of_file {scheme text : Text} {found : Origin} (file : SchemeKind.ofScheme scheme = .file) :
    readOrigin scheme (some text) = .ok found ↔
      ∃ host, fileHost text = .ok host ∧ fileOrigin (leadsToDrive text) host = found := by
  rw [readOrigin, if_pos file, map_eq_ok_iff]

theorem readOrigin_scheme {scheme : Text} {server : Option Text} {found : Origin}
    (read : readOrigin scheme server = .ok found) : found.scheme = scheme := by
  cases server with
  | none =>
    cases read
    rfl
  | some text =>
    by_cases file : SchemeKind.ofScheme scheme = .file
    · obtain ⟨host, _, rfl⟩ := (readOrigin_of_file file).mp read
      exact (ofScheme_eq_file file).symm
    · obtain ⟨authority, left, _, rfl⟩ := (readOrigin_of_authority file).mp read
      rfl

theorem readOrigin_hostless {scheme : Text} {server : Option Text} {found : Origin}
    (read : readOrigin scheme server = .ok found) (hostless : found.host = none) : found = ⟨scheme, none, none⟩ := by
  cases server with
  | none => exact (Except.ok.inj read).symm
  | some text =>
    by_cases file : SchemeKind.ofScheme scheme = .file
    · obtain ⟨host, _, rfl⟩ := (readOrigin_of_file file).mp read
      rw [ofScheme_eq_file file]
      exact congrArg (Origin.mk "file".toList · none) hostless
    · obtain ⟨authority, left, server, rfl⟩ := (readOrigin_of_authority file).mp read
      obtain ⟨host, _, portless⟩ := readAuthority_host server
      have unnamed : authority.host = .domain [] := Host.named?_eq_none.mp hostless
      have blank : hostText (.ofScheme scheme) text = [] := by
        by_contra filled
        unfold hostOf at host
        split at host
        · exact Host.ofOtherText_named host filled unnamed
        · exact Host.ofWebText_named host unnamed
      rw [Authority.origin, portless blank, unnamed]
      rfl

theorem readOrigin_nameless {scheme text : Text} (web : SchemeKind.ofScheme scheme = .web)
    (nameless : serverName .web text = []) (found : Origin) : readOrigin scheme (some text) ≠ .ok found := by
  intro read
  have noFile : SchemeKind.ofScheme scheme ≠ .file := by
    rw [web]
    decide
  obtain ⟨authority, left, server, _⟩ := (readOrigin_of_authority noFile).mp read
  obtain ⟨_, hosted, _⟩ := readAuthority_host server
  apply hosted web
  rw [web, hostText, nameless]
  rfl

theorem fileHost_blank {text server margin : Text} (name : serverName .file text = server ++ margin)
    (ending : Margin margin) (host : Host) : fileHost text ≠ .ok host := by
  obtain ⟨last, ends, lastBlank⟩ := ending.exists_getLast? server
  have noDrive : PathReading.isDrive (server ++ margin) = false := by
    by_contra drive
    rw [Bool.not_eq_false] at drive
    unfold PathReading.isDrive at drive
    split at drive
    · next letter mark whole =>
      rw [whole] at ends
      cases ends
      have noMark : (mark = ':' || mark = '|') = false :=
        of_isMargin (fun char => (char = ':' || char = '|') = false) (by decide) lastBlank
      rw [noMark, Bool.and_false] at drive
      contradiction
    · contradiction
  have named : (server ++ margin).isEmpty = false := by
    rw [List.isEmpty_eq_false_iff]
    exact List.append_ne_nil_of_right_ne_nil server ending.filled
  rw [fileHost, name, noDrive, if_neg Bool.false_ne_true, readLocalHost, named, if_neg Bool.false_ne_true]
  cases read : Host.ofWebText (server ++ margin) with
  | error => exact nofun
  | ok found => exact absurd read (Host.ofWebText_append_margin ending server found)

theorem readOrigin_blank {scheme text : Text} (interpreted : SchemeKind.ofScheme scheme ≠ .other)
    (blank : ¬ EndsPlainly (serverName (.ofScheme scheme) text)) (found : Origin) :
    readOrigin scheme (some text) ≠ .ok found := by
  intro read
  obtain ⟨server, margin, name, ending⟩ := exists_margin_of_not_endsPlainly blank
  cases kind : SchemeKind.ofScheme scheme with
  | web =>
    have noFile : SchemeKind.ofScheme scheme ≠ .file := by
      rw [kind]
      decide
    obtain ⟨authority, left, reads, _⟩ := (readOrigin_of_authority noFile).mp read
    rw [kind] at name
    exact readAuthority_blank kind name ending _ reads
  | file =>
    obtain ⟨host, reads, _⟩ := (readOrigin_of_file kind).mp read
    rw [kind] at name
    exact fileHost_blank name ending host reads
  | other => exact interpreted kind

theorem readOrigin_same_server {scheme server further : Text} {found : Origin}
    (same : serverName (.ofScheme scheme) server = serverName (.ofScheme scheme) further)
    (ended : ∃ char ∈ further, endsAuthority (.ofScheme scheme) char = true)
    (read : readOrigin scheme (some further) = .ok found) :
    ∃ found', readOrigin scheme (some server) = .ok found' ∧ (found' = found ∨
      SchemeKind.ofScheme scheme = .file ∧ (found'.host = none ∨ found.host = none)) := by
  by_cases file : SchemeKind.ofScheme scheme = .file
  · obtain ⟨host, reads, rfl⟩ := (readOrigin_of_file file).mp read
    rw [file] at same
    have reads' : fileHost server = .ok host := by rwa [fileHost, same]
    refine ⟨_, (readOrigin_of_file file).mpr ⟨host, reads', rfl⟩, ?_⟩
    unfold fileOrigin
    cases leadsToDrive server <;> cases leadsToDrive further <;> simp [file]
  · obtain ⟨authority, left, reads, rfl⟩ := (readOrigin_of_authority file).mp read
    obtain ⟨left', reads'⟩ := readAuthority_of_serverName_eq same ended reads
    exact ⟨_, (readOrigin_of_authority file).mpr ⟨authority, left', reads', rfl⟩, .inl rfl⟩

theorem readAuthority_nameless {scheme text : Text} (other : SchemeKind.ofScheme scheme = .other)
    (nameless : serverName .other text = []) :
    ∃ left, readAuthority scheme text = .ok (⟨.none, .domain [], none⟩, left) := by
  rw [readAuthority_eq_ok, other, nameless]
  refine ⟨rfl, readServer_eq_ok.mpr ⟨?_, rfl, ?_, [], rfl⟩⟩
  · rw [other]
    exact nofun
  · rw [hostOf, if_pos other]
    rfl

theorem readOrigin_serverless {scheme : Text} {server? : Option Text} (noWeb : SchemeKind.ofScheme scheme ≠ .web)
    (nameless : ∀ server ∈ server?, serverName (.ofScheme scheme) server = []) :
    readOrigin scheme server? = .ok ⟨scheme, none, none⟩ := by
  cases server? with
  | none => rfl
  | some server =>
    have unnamed := nameless server rfl
    cases kind : SchemeKind.ofScheme scheme with
    | web => exact absurd kind noWeb
    | file =>
      rw [kind] at unnamed
      have host : fileHost server = .ok (.domain []) := by
        rw [fileHost, unnamed]
        rfl
      refine (readOrigin_of_file kind).mpr ⟨_, host, ?_⟩
      rw [ofScheme_eq_file kind]
      cases leadsToDrive server <;> rfl
    | other =>
      have noFile : SchemeKind.ofScheme scheme ≠ .file := by
        rw [kind]
        decide
      rw [kind] at unnamed
      obtain ⟨left, reads⟩ := readAuthority_nameless kind unnamed
      exact (readOrigin_of_authority noFile).mpr ⟨_, left, reads, rfl⟩

theorem parse_readsSchemes : ReadsSchemes parse where
  relative {text} schemeless := by
    rw [parse, schemeless]
  scheme {text url} parsed := by
    obtain ⟨scheme, server?, outline, read⟩ := parse_origin.mp ⟨url, parsed, rfl⟩
    obtain ⟨⟨_, rest⟩, split, same⟩ := Option.map_eq_some_iff.mp outline
    cases same
    have named : url.scheme = scheme := readOrigin_scheme read
    exact ⟨rest, by rw [split, named]⟩

theorem parse_readsServers : ReadsServers parse where
  toReadsSchemes := parse_readsSchemes
  nameless outline web unnamed url parsed := readOrigin_nameless web unnamed _ (readOrigin_of_parse parsed outline)
  blank outline interpreted blank url parsed :=
    readOrigin_blank interpreted blank _ (readOrigin_of_parse parsed outline)
  server outline outline' same ended parsed := by
    obtain ⟨_, read, agrees⟩ := readOrigin_same_server same ended (readOrigin_of_parse parsed outline')
    obtain ⟨url, parsed', rfl⟩ := parse_origin.mpr ⟨_, _, outline, read⟩
    exact ⟨url, parsed', agrees⟩
  serverless outline noWeb nameless := parse_origin.mpr ⟨_, _, outline, readOrigin_serverless noWeb nameless⟩
  portless parsed hostless := by
    obtain ⟨_, _, _, read⟩ := parse_origin.mp ⟨_, parsed, rfl⟩
    rw [readOrigin_hostless read hostless]

end Url

end TerminalSignIn
