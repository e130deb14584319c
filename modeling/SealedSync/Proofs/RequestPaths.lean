import SealedSync.Proofs.UrlPaths

/-!
# Where requests go

A request goes to the URL that its text is read as, and reading resolves segments that are made of
dots. So a request stays with its account as long as neither the account nor the collection nor the
record is named by dots: then its path is the one of the base, with the account and what is asked
for behind it. A name of dots is not encoded, and leads out of the account.
-/
namespace SealedSync.Http.Url

variable {base : Url} {scheme : String} {server : Server}

/-- Only the front of a text that ends visibly is tidied. -/
theorem exists_tidy (front : List Char) :
    ∃ clean, ∀ tail : List Char, tail ≠ [] → (∀ c ∈ tail, 0x20 < c.toNat) →
      tidy (front ++ tail) = clean ++ tail := by
  let isOuter := fun (c : Char) => decide (c.toNat ≤ 0x20)
  let isKept := fun (c : Char) => c != '\t' && c != '\n' && c != '\r'
  refine ⟨(front.dropWhile isOuter).filter isKept, fun tail nonempty visible => ?_⟩
  have shown : ∀ c ∈ tail, isOuter c = false := fun c member =>
    decide_eq_false (Nat.not_le_of_lt (visible c member))
  have kept : ∀ c ∈ tail, isKept c = true := by
    intro c member
    have above := visible c member
    have apart {d : Char} (low : d.toNat ≤ 0x20) : (c != d) = true :=
      bne_iff_ne.mpr fun same => Nat.not_le_of_lt above (same ▸ low)
    simp [isKept, apart]
  have first (list : List Char) (shown : ∀ c ∈ list, isOuter c = false) (nonempty : list ≠ [])
      (rest : List Char) : (list ++ rest).dropWhile isOuter = list ++ rest := by
    obtain ⟨c, list, rfl⟩ := List.exists_cons_of_ne_nil nonempty
    simp [shown c List.mem_cons_self]
  have fronted : (front ++ tail).dropWhile isOuter = front.dropWhile isOuter ++ tail := by
    rw [List.dropWhile_append]
    split
    · rename_i none
      rw [List.isEmpty_iff.mp none, List.nil_append]
      simpa using first tail shown nonempty []
    · rfl
  have backed := first tail.reverse (by simpa using shown) (by simpa using nonempty)
    (front.dropWhile isOuter).reverse
  change (((front ++ tail).dropWhile isOuter).reverse.dropWhile isOuter).reverse.filter isKept = _
  rw [fronted, List.reverse_append, backed, List.reverse_append, List.reverse_reverse,
    List.reverse_reverse, List.filter_append, List.filter_eq_self.mpr kept]

theorem splitScheme_append (front : List Char) {tail : List Char} (free : ':' ∉ tail) :
    splitScheme (front ++ tail) =
      (splitScheme front).map fun split => (split.1, split.2 ++ tail) := by
  rcases Split.before_cases (· == ':') front with
    unstopped | ⟨name, c, rest, rfl, stops, unstopped⟩
  · have whole : ∀ c ∈ front ++ tail, (c == ':') = false := by
      intro c member
      rcases List.mem_append.mp member with member | member
      · exact unstopped c member
      · exact beq_false_of_ne fun colon => free (colon ▸ member)
    rw [splitScheme, splitScheme, Split.before_free unstopped, Split.before_free whole]
    cases front with
    | nil => cases tail <;> rfl
    | cons => rfl
  · obtain rfl := eq_of_beq stops
    rw [List.append_assoc, List.cons_append, splitScheme, splitScheme,
      Split.before_cut unstopped stops, Split.before_cut unstopped stops]
    cases name with
    | nil => rfl
    | cons c name =>
        simp only
        split <;> rfl

theorem splitTail_free {text : List Char} (noFragment : '#' ∉ text) (noQuery : '?' ∉ text) :
    splitTail text = (text, none, none) := by
  have whole {c : Char} (free : c ∉ text) : Split.before (· == c) text = (text, []) :=
    Split.before_free fun d member => beq_false_of_ne fun same => free (same ▸ member)
  simp only [splitTail, whole noFragment, whole noQuery]

theorem ofServer_free (special : isSpecial scheme = true) {text : List Char}
    (noFragment : '#' ∉ text) (noQuery : '?' ∉ text) :
    ofServer scheme server text =
      ⟨scheme, server.username, server.password, some server.host, server.port,
        .segments (readPath true text), none, none⟩ := by
  rw [ofServer, splitTail_free noFragment noQuery, special]
  rfl

/-- A URL that has neither a query nor a fragment was read of a text without their marks. -/
theorem ofServer_bare {text : List Char} (query : (ofServer scheme server text).query = none)
    (fragment : (ofServer scheme server text).fragment = none) : '#' ∉ text ∧ '?' ∉ text := by
  simp only [ofServer, splitTail, readTail, Option.map_eq_none_iff] at query fragment
  rcases Split.before_cases (· == '#') text with
    noFragment | ⟨front, c, rest, rfl, stops, noFragment⟩
  · rw [Split.before_free noFragment] at query
    rcases Split.before_cases (· == '?') text with
      noQuery | ⟨front, c, rest, rfl, stops, noQuery⟩
    · exact ⟨fun member => absurd (noFragment _ member) (by simp),
        fun member => absurd (noQuery _ member) (by simp)⟩
    · rw [Split.before_cut noQuery stops] at query
      cases query
  · rw [Split.before_cut noFragment stops] at fragment
    cases fragment

/-- The URL of the same server with another path. -/
def atPath (u : Url) (segments : List String) : Url := { u with path := .segments segments }

theorem readAuthority_continued {front : List Char} (special : isSpecial scheme = true)
    (read : readAuthority scheme (front ++ ['/']) = some base) (query : base.query = none)
    (fragment : base.fragment = none) :
    ∃ path, ∀ rest, '#' ∉ rest → '?' ∉ rest →
      readAuthority scheme (front ++ '/' :: rest) =
        some (base.atPath (readPath true (path ++ '/' :: rest))) := by
  have slash : isAuthorityEnd true '/' = true := rfl
  have more (list rest : List Char) : (list ++ '/' :: rest).isEmpty = false := by
    cases list <;> rfl
  simp only [readAuthority, special, Split.before_continued front slash, more, Bool.not_false,
    Option.bind_eq_bind, Option.bind_eq_some_iff, Option.pure_def, Option.some.injEq] at read ⊢
  obtain ⟨⟨server, inner⟩, named, rfl⟩ := read
  refine ⟨inner ++ front.dropWhile fun d => !isAuthorityEnd true d,
    fun rest noFragment noQuery => ?_⟩
  have bare := ofServer_bare query fragment
  simp only [List.mem_append, List.mem_cons, List.not_mem_nil, or_false, not_or] at bare
  refine ⟨(server, inner), named, ?_⟩
  rw [ofServer_free special (by simp [bare, noFragment]) (by simp [bare, noQuery]),
    ofServer_free special (by simp [bare]) (by simp [bare]), List.append_assoc]
  rfl

theorem readAuthority_scheme {text : List Char} (read : readAuthority scheme text = some base) :
    base.scheme = scheme := by
  simp only [readAuthority, Option.bind_eq_bind, Option.bind_eq_some_iff, Option.pure_def,
    Option.some.injEq] at read
  obtain ⟨named, _, rfl⟩ := read
  rfl

theorem readFileUrl_scheme {text : List Char} (read : readFileUrl text = some base) :
    base.scheme = "file" := by
  unfold readFileUrl at read
  split at read
  · split at read
    · simp only at read
      split at read
      · cases read
        rfl
      · obtain ⟨host, _, read⟩ := Option.bind_eq_some_iff.mp read
        split at read
        · cases read
          rfl
        · cases read
          rfl
    · cases read
      rfl
  · cases read
    rfl

theorem isSpecial_of_web (web : scheme = "http" ∨ scheme = "https") :
    isSpecial scheme = true ∧ scheme ≠ "file" := by
  rcases web with rfl | rfl
  · decide
  · decide

/-- A URL of the web was read of an authority, behind any number of slashes. -/
theorem parse_web {text : String} (read : parse text = some base)
    (web : base.scheme = "http" ∨ base.scheme = "https") :
    ∃ rest, splitScheme (tidy text.toList) = some (base.scheme, rest) ∧
      readAuthority base.scheme (rest.dropWhile isSlash) = some base := by
  simp only [parse, Option.bind_eq_bind, Option.bind_eq_some_iff] at read
  obtain ⟨⟨scheme, rest⟩, split, read⟩ := read
  obtain ⟨special, other⟩ := isSpecial_of_web web
  simp only at read
  split at read
  · exact absurd (readFileUrl_scheme read) other
  · split at read
    · obtain rfl := readAuthority_scheme read
      exact ⟨rest, split, read⟩
    · rename_i plain
      refine absurd ?_ plain
      split at read
      · exact readAuthority_scheme read ▸ special
      · cases read
        exact special

theorem readAuthority_nil (special : isSpecial scheme = true) : readAuthority scheme [] = none := by
  have unnamed : Host.read [] = none := rfl
  simp [readAuthority, readServer, splitUserInfo, splitHost, Split.before, special, unnamed]

/-- The characters of segments behind a slash. -/
def isInPath (c : Char) : Bool := c == '/' || isPlain c

theorem isInPath_apart {c : Char} (inPath : isInPath c = true) :
    0x20 < c.toNat ∧ ∀ d ∈ [':', '#', '?'], c ≠ d := by
  rcases Bool.or_eq_true_iff.mp inPath with slash | plain
  · rw [eq_of_beq slash]
    exact ⟨by decide, by simp⟩
  · have apart := isPlain_apart plain
    have marks : [':', '#', '?'] ⊆ ['/', ':', '\\', '#', '?'] := by simp
    exact ⟨apart.1, fun d member => apart.2 d (marks member)⟩

/-- What follows a base of the web that ends in a slash is read as a part of its path. -/
theorem parse_continued {front : String} (read : parse (front ++ "/") = some base)
    (web : base.scheme = "http" ∨ base.scheme = "https") (query : base.query = none)
    (fragment : base.fragment = none) :
    ∃ path, ∀ rest, (∀ c ∈ rest, isInPath c = true) →
      parse (front ++ String.ofList ('/' :: rest)) =
        some (base.atPath (readPath true (path ++ '/' :: rest))) := by
  obtain ⟨special, other⟩ := isSpecial_of_web web
  obtain ⟨clean, tidied⟩ := exists_tidy front.toList
  have split (rest : List Char) (inPath : ∀ c ∈ rest, isInPath c = true) :
      splitScheme (tidy (front ++ String.ofList ('/' :: rest)).toList) =
        (splitScheme clean).map fun split => (split.1, split.2 ++ '/' :: rest) := by
    have inPath : ∀ c ∈ '/' :: rest, isInPath c = true := fun c member =>
      (List.mem_cons.mp member).elim (· ▸ rfl) (inPath c)
    rw [String.toList_append, String.toList_ofList,
      tidied _ (List.cons_ne_nil '/' rest) fun c member => (isInPath_apart (inPath c member)).1,
      splitScheme_append clean fun member =>
        (isInPath_apart (inPath _ member)).2 ':' (by decide) rfl]
  obtain ⟨text, named, read⟩ := parse_web read web
  have bare : front ++ "/" = front ++ String.ofList ['/'] := rfl
  rw [bare, split [] fun c member => absurd member List.not_mem_nil] at named
  obtain ⟨⟨scheme, after⟩, cut, same⟩ := Option.map_eq_some_iff.mp named
  obtain ⟨rfl, rfl⟩ := Prod.mk.inj same
  rw [List.dropWhile_append] at read
  split at read
  · rw [show ['/'].dropWhile isSlash = [] from rfl, readAuthority_nil special] at read
    cases read
  · rename_i named
    obtain ⟨path, continued⟩ := readAuthority_continued special read query fragment
    refine ⟨path, fun rest inPath => ?_⟩
    have noFragment : '#' ∉ rest := fun member =>
      (isInPath_apart (inPath _ member)).2 '#' (by decide) rfl
    have noQuery : '?' ∉ rest := fun member =>
      (isInPath_apart (inPath _ member)).2 '?' (by decide) rfl
    rw [parse, split rest inPath, cut]
    simp only [Option.map_some, Option.bind_eq_bind, Option.bind_some, if_neg other, special,
      if_true]
    rw [List.dropWhile_append, if_neg named, continued rest noFragment noQuery]

/-- The pieces of a path stay in front of those of the segments behind it. -/
theorem readPath_segments (path : List Char) :
    ∃ front, (∀ s ∈ front, '/' ∉ s) ∧ ∀ segments, segments ≠ [] →
      (∀ s ∈ segments, ∀ c ∈ s, isPlain c = true) →
        readPath true (path ++ segments.flatMap fun s => '/' :: s) =
          (Trail.walk false {} (front ++ segments)).done.reverse := by
  have slash : isSeparator true '/' = true := rfl
  have read (text : List Char) :
      readPath true text = (readTrail false true (dropSlash true text)).done.reverse := by
    simp [readPath]
  have free {segments : List (List Char)} (plain : ∀ s ∈ segments, ∀ c ∈ s, isPlain c = true) :
      ∀ s ∈ segments, ∀ c ∈ s, isSeparator true c = false := fun s member c inside =>
    isSeparator_of_isPlain (plain s member c inside)
  cases path with
  | nil =>
      refine ⟨[], fun s member => absurd member List.not_mem_nil, fun segments nonempty plain => ?_⟩
      obtain ⟨s, segments, rfl⟩ := List.exists_cons_of_ne_nil nonempty
      have pieces := Split.pieces_segments slash
        (fun t member => free plain t (List.mem_cons_of_mem s member)) s
      rw [Split.pieces_free (free plain s List.mem_cons_self)] at pieces
      rw [read, List.nil_append, List.flatMap_cons, List.cons_append, dropSlash, if_pos slash,
        readTrail, pieces]
      rfl
  | cons c path =>
      refine ⟨Split.pieces (isSeparator true) (dropSlash true (c :: path)),
        fun s member inside => ?_, fun segments _ plain => ?_⟩
      · exact absurd (Split.pieces_separated member '/' inside) (by simp [slash])
      · have dropped (rest : List Char) :
            dropSlash true (c :: path ++ rest) = dropSlash true (c :: path) ++ rest := by
          rw [List.cons_append, dropSlash, dropSlash]
          split <;> rfl
        rw [read, dropped, readTrail, Split.pieces_segments slash (free plain)]

theorem pathText_cons (s : String) (segments : List String) :
    pathText (.segments (s :: segments)) =
      String.ofList ('/' :: (s.toList ++ segments.flatMap fun t => '/' :: t.toList)) := by
  rw [← String.toList_inj, pathText_toList, String.toList_ofList]
  rfl

theorem isInPath_segments {s : String} {segments : List String}
    (plain : ∀ t ∈ s :: segments, ∀ c ∈ t.toList, isPlain c = true) :
    ∀ c ∈ s.toList ++ segments.flatMap fun t => '/' :: t.toList, isInPath c = true := by
  intro c member
  rcases List.mem_append.mp member with member | member
  · simp [isInPath, plain s List.mem_cons_self c member]
  · obtain ⟨t, listed, member⟩ := List.mem_flatMap.mp member
    rcases List.mem_cons.mp member with rfl | member
    · rfl
    · simp [isInPath, plain t (List.mem_cons_of_mem s listed) c member]

/-- Plain segments behind a base of the web are walked through behind the pieces of the base. -/
theorem parse_pieces {front : String} (read : parse (front ++ "/") = some base)
    (web : base.scheme = "http" ∨ base.scheme = "https") (query : base.query = none)
    (fragment : base.fragment = none) :
    ∃ pieces : List (List Char), (∀ s ∈ pieces, '/' ∉ s) ∧
      ∀ segments : List String, segments ≠ [] → (∀ s ∈ segments, ∀ c ∈ s.toList, isPlain c = true) →
        parse (front ++ pathText (.segments segments)) =
          some (base.atPath (Trail.walk false ⟨pieces.foldl Trail.pass [], false⟩
            (segments.map String.toList)).done.reverse) := by
  obtain ⟨path, continued⟩ := parse_continued read web query fragment
  obtain ⟨pieces, free, walked⟩ := readPath_segments path
  refine ⟨pieces, free, fun segments nonempty plain => ?_⟩
  have mapped : ∀ s ∈ segments.map String.toList, ∀ c ∈ s, isPlain c = true := by
    intro s member
    obtain ⟨t, listed, rfl⟩ := List.mem_map.mp member
    exact plain t listed
  have walked := walked (segments.map String.toList) (by simpa using nonempty) mapped
  obtain ⟨s, segments, rfl⟩ := List.exists_cons_of_ne_nil nonempty
  rw [Trail.walk_append _ _ (by simp), List.flatMap_map] at walked
  rw [pathText_cons, continued _ (isInPath_segments plain)]
  exact congrArg (fun list => some (base.atPath list)) walked

/-- Plain segments behind a base of the web are walked through behind the segments of the base. -/
theorem parse_segments {front : String} (read : parse (front ++ "/") = some base)
    (web : base.scheme = "http" ∨ base.scheme = "https") (query : base.query = none)
    (fragment : base.fragment = none) :
    ∃ done, (∀ s ∈ done, IsResolved s) ∧ base.path = .segments (done.reverse ++ [""]) ∧
      ∀ segments : List String, segments ≠ [] → (∀ s ∈ segments, ∀ c ∈ s.toList, isPlain c = true) →
        parse (front ++ pathText (.segments segments)) =
          some (base.atPath
            (Trail.walk false ⟨done, false⟩ (segments.map String.toList)).done.reverse) := by
  obtain ⟨pieces, free, parsed⟩ := parse_pieces read web query fragment
  have bare := parsed [""] (List.cons_ne_nil "" []) (by simp)
  rw [show pathText (.segments [""]) = "/" from rfl, read] at bare
  have based : base.path = .segments ((pieces.foldl Trail.pass []).reverse ++ [""]) := by
    rw [congrArg Url.path (Option.some.inj bare)]
    simp [atPath, Trail.walk, Trail.push, undotted]
    rfl
  refine ⟨_, fun s member => ?_, based, parsed⟩
  have resolved : ∀ s ∈ (Trail.walk false {} (pieces ++ [[]])).done, IsResolved s :=
    Trail.walk_resolved (fun t none => absurd none List.not_mem_nil) fun t member => by
      rcases List.mem_append.mp member with member | member
      · exact free t member
      · rw [List.mem_singleton.mp member]
        exact List.not_mem_nil
  rw [Trail.walk_append _ _ (List.cons_ne_nil _ _)] at resolved
  exact resolved s (List.mem_cons_of_mem "" member)

/-- Encoded names stay as they are behind segments that were read, unless they are made of dots. -/
theorem walk_encoded_iff {done : List String} (resolved : ∀ s ∈ done, IsResolved s)
    (names : List String) :
    (∀ s ∈ (Trail.walk false ⟨done, false⟩
        ((names.map Percent.encode).map String.toList)).done, IsResolved s) ∧
      ((Trail.walk false ⟨done, false⟩
          ((names.map Percent.encode).map String.toList)).done.reverse =
        done.reverse ++ names.map Percent.encode ↔ ∀ name ∈ names, name ∉ [".", ".."]) := by
  have free : ∀ text ∈ (names.map Percent.encode).map String.toList, '/' ∉ text := by
    intro text member
    obtain ⟨segment, listed, rfl⟩ := List.mem_map.mp member
    obtain ⟨name, -, rfl⟩ := List.mem_map.mp listed
    exact Percent.slash_notMem_encode name
  have walked := Trail.walk_resolved (t := ⟨done, false⟩) resolved free
  refine ⟨walked, fun kept name member dots => ?_, fun others => ?_⟩
  · have unchanged : Percent.encode name = name := by
      rcases List.mem_cons.mp dots with rfl | dots
      · decide
      · rw [List.mem_singleton.mp dots]
        decide
    refine (walked name ?_).1 dots
    rw [← List.mem_reverse, kept, ← unchanged]
    exact List.mem_append_right _ (List.mem_map_of_mem member)
  · simp only [Trail.walk_encoded ⟨done, false⟩ others, List.reverse_append, List.reverse_reverse]

theorem target_eq {u : Url} {segments : List String} (path : u.path = .segments segments)
    (nonempty : segments ≠ []) (query : u.query = none) :
    u.target = pathText (.segments segments) := by
  obtain ⟨s, segments, rfl⟩ := List.exists_cons_of_ne_nil nonempty
  have shown : (pathText (.segments (s :: segments))).isEmpty = false := by
    rw [Bool.eq_false_iff, ne_eq, String.isEmpty_iff, ← String.toList_inj, pathText_toList]
    exact List.cons_ne_nil _ _
  simp [target, path, query, shown]

theorem withoutUserInfo_fields (u : Url) :
    u.withoutUserInfo.scheme = u.scheme ∧ u.withoutUserInfo.host = u.host ∧
      u.withoutUserInfo.port = u.port ∧ u.withoutUserInfo.path = u.path ∧
        u.withoutUserInfo.query = u.query := by
  unfold withoutUserInfo
  split
  · split
    · exact ⟨rfl, rfl, rfl, rfl, rfl⟩
    · exact ⟨rfl, rfl, rfl, rfl, rfl⟩
  · exact ⟨rfl, rfl, rfl, rfl, rfl⟩

end SealedSync.Http.Url

namespace SealedSync.Http.Backend

/-- The segments that a call adds behind the account. -/
def callSegments : RemoteCall → List String
  | .index => ["info", "collections"]
  | .fetch collection id => ["storage", collection, id]
  | .store collection record => ["storage", collection, record.id]
  | .wipe => ["storage"]

/-- What a network makes of a request to a URL. -/
def sendTo (connect : Url → HttpRequest → Option HttpReply) (url : Url) (r : HttpRequest) :
    Exchange :=
  if url.isRequestable then
    match connect url r with
    | some reply => .answered reply
    | none => .noConnection url.text
  else .unsupportedUrl url.text

variable {config : BackendConfig} {credentials : Credentials} {b : Backend} {base : Url}

/-- The URL of a request is the base with the account and the segments of the call behind it. -/
theorem request_url (made : ofConfig config credentials = .ok b) (call : RemoteCall) :
    (b.request call).url = trimBase config.baseUrl ++ Url.pathText (.segments
      ("1.1" :: (credentials.account :: callSegments call).map Percent.encode)) := by
  have root : b.root = rootOf config.baseUrl credentials.account := by
    unfold ofConfig at made
    split at made
    · cases made
    · cases made
      rfl
  have fixed : Percent.encode "info" = "info" ∧ Percent.encode "collections" = "collections" ∧
      Percent.encode "storage" = "storage" := by decide
  cases call <;> apply String.toList_inj.mp <;>
    simp [request, infoUrl, recordUrl, storageUrl, root, rootOf, callSegments, Url.pathText_toList,
      fixed]

/-- The path of every request is the base's, followed by the account and what the call asks for, if
and only if none of these is made of dots. -/
theorem target_iff_undotted (made : ofConfig config credentials = .ok b)
    (read : Url.parse (trimBase config.baseUrl ++ "/") = some base)
    (web : base.scheme = "http" ∨ base.scheme = "https") (query : base.query = none)
    (fragment : base.fragment = none) (call : RemoteCall) :
    ∃ url : Url, (∀ connect, send connect (b.request call) = sendTo connect url (b.request call)) ∧
      url.scheme = base.scheme ∧ url.host = base.host ∧ url.port = base.port ∧
      (url.target = base.target ++ "1.1" ++
          Url.pathText (.segments ((credentials.account :: callSegments call).map Percent.encode)) ↔
        ∀ part ∈ credentials.account :: callSegments call, part ∉ [".", ".."]) := by
  obtain ⟨done, resolved, based, parsed⟩ := Url.parse_segments read web query fragment
  let parts := credentials.account :: callSegments call
  let encoded := ("1.1" :: parts).map Percent.encode
  have version : Percent.encode "1.1" = "1.1" := by decide
  have plain : ∀ s ∈ encoded, ∀ c ∈ s.toList, Url.isPlain c = true := by
    intro s member
    obtain ⟨part, _, rfl⟩ := List.mem_map.mp member
    exact fun c => Percent.plain_encode
  have free : ∀ s ∈ encoded, '/' ∉ s.toList := fun s member slash =>
    (Url.isPlain_apart (plain s member '/' slash)).2 '/' (by decide) rfl
  let walked := (Url.Trail.walk false ⟨done, false⟩ (encoded.map String.toList)).done.reverse
  obtain ⟨walkedResolved, kept⟩ := Url.walk_encoded_iff resolved ("1.1" :: parts)
  obtain ⟨scheme, host, port, path, unasked⟩ := Url.withoutUserInfo_fields (base.atPath walked)
  have nonempty : walked ≠ [] := by
    simpa [walked] using Url.Trail.walk_ne_nil ⟨done, false⟩ (by simp [encoded])
  have received := Url.target_eq path nonempty (unasked.trans query)
  have expected : base.target ++ "1.1" ++ Url.pathText (.segments (parts.map Percent.encode)) =
      Url.pathText (.segments (done.reverse ++ encoded)) := by
    rw [Url.target_eq based (by simp) query, Url.pathText_append, Url.pathText_append]
    apply String.toList_inj.mp
    simp [Url.pathText_toList, encoded, version]
  refine ⟨(base.atPath walked).withoutUserInfo, fun connect => ?_, scheme, host, port, ?_⟩
  · have url : (b.request call).url =
        trimBase config.baseUrl ++ Url.pathText (.segments encoded) := by
      rw [request_url made call, ← version]
      rfl
    rw [send, url, parsed encoded (by simp [encoded]) plain]
    rfl
  · have injective : Url.pathText (.segments walked) =
        Url.pathText (.segments (done.reverse ++ encoded)) ↔
          walked = done.reverse ++ encoded := by
      refine ⟨Url.pathText_injective ?_ ?_, fun same => by rw [same]⟩
      · exact fun s member => (walkedResolved s (List.mem_reverse.mp member)).2
      · exact fun s member => (List.mem_append.mp member).elim
          (fun member => (resolved s (List.mem_reverse.mp member)).2) (free s)
    have numbered : "1.1" ∉ [".", ".."] := by decide
    rw [received, expected, injective, kept, List.forall_mem_cons, and_iff_right numbered]

/-- A web server with a path of its own. -/
def sampleConfig : BackendConfig := .ofBase "http://[::1]:8000/p"

def sampleBase : Url :=
  ⟨"http", "", "", some "[::1]", some 8000, .segments ["p", ""], none, none⟩

theorem parse_sampleBase : Url.parse (trimBase sampleConfig.baseUrl ++ "/") = some sampleBase := by
  decide +kernel

/-- The client of an account on that server. -/
def sampleBackend (account : String) : Backend :=
  ⟨rootOf sampleConfig.baseUrl account, account, ""⟩

theorem ofConfig_sample (account : String) :
    ofConfig sampleConfig ⟨account, "", ""⟩ = .ok (sampleBackend account) := rfl

theorem johndoe_target_iff :
    ∃ url : Url, (∀ connect, send connect ((sampleBackend "johndoe").request .wipe) =
        sendTo connect url ((sampleBackend "johndoe").request .wipe)) ∧
      url.scheme = sampleBase.scheme ∧ url.host = sampleBase.host ∧ url.port = sampleBase.port ∧
      (url.target = sampleBase.target ++ "1.1" ++
          Url.pathText (.segments (("johndoe" :: callSegments .wipe).map Percent.encode)) ↔
        ∀ part ∈ "johndoe" :: callSegments .wipe, part ∉ [".", ".."]) :=
  target_iff_undotted (ofConfig_sample "johndoe") parse_sampleBase (.inl rfl) rfl rfl .wipe

/-- The account `..` wipes the storage beside all accounts, and not the one of its own path. -/
theorem parent_account_wipes_beside :
    send (fun url _ => some ⟨204, Utf8.encode url.target, true⟩)
        ((sampleBackend "..").request .wipe) =
      .answered ⟨204, Utf8.encode "/p/storage", true⟩ ∧
    sampleBase.target ++ "1.1" ++
        Url.pathText (.segments ((".." :: callSegments .wipe).map Percent.encode)) =
      "/p/1.1/../storage" := by
  constructor
  · rfl
  · decide +kernel

end SealedSync.Http.Backend
