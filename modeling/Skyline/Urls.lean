import Mathlib.Data.List.Basic

/-!
URLs as `urllib.parse` takes them apart and puts them together. The checks that it makes of the
host are no part of this: what is taken apart here is what they have let pass.
-/
namespace Skyline.Urls

abbrev Text : Type := List Char

/-- What `urlparse` returns. -/
structure ParseResult where
  scheme : Text
  netloc : Text
  path : Text
  params : Text
  query : Text
  fragment : Text
  deriving DecidableEq, Repr

/-! ## Taking apart -/

/-- `text.split(c, 1)`: what comes before the character, and what comes after it. -/
def cut (c : Char) (text : Text) : Text × Text := (text.takeWhile (· != c), (text.dropWhile (· != c)).tail)

/-- `scheme_chars`. -/
def schemeChar (c : Char) : Bool := c.isAlphanum || c == '+' || c == '-' || c == '.'

/-- The scheme, if there is one, and the rest. -/
def splitScheme (url : Text) : Text × Text :=
  let scheme := url.takeWhile (· != ':')
  if (scheme.head?.any Char.isAlpha && scheme.all schemeChar) && url.contains ':' then
    (scheme.map Char.toLower, (cut ':' url).2)
  else ([], url)

def hostEnds (c : Char) : Bool := c == '/' || c == '?' || c == '#'

/-- `_splitnetloc`, where there is a host. -/
def splitNetloc : Text → Text × Text
  | '/' :: '/' :: url => (url.takeWhile fun c => !hostEnds c, url.dropWhile fun c => !hostEnds c)
  | url => ([], url)

def usesParams : List Text := ["", "ftp", "hdl", "prospero", "http", "https", "shttp", "rtsp", "rtsps", "rtspu", "sip",
  "sips", "mms", "sftp", "tel"].map String.toList

/-- The text up to the last slash, and the text after it. -/
def atLastSlash (url : Text) : Text × Text :=
  ((url.reverse.dropWhile (· != '/')).reverse, (url.reverse.takeWhile (· != '/')).reverse)

/-- `_splitparams`. -/
def splitParams (url : Text) : Text × Text :=
  let (directory, last) := atLastSlash url
  (directory ++ (cut ';' last).1, (cut ';' last).2)

/-- The characters that are removed from a URL. -/
def unsafeChar (c : Char) : Bool := c == '\t' || c == '\r' || c == '\n'

def urlparse (url : Text) : ParseResult :=
  let url := (url.dropWhile fun c => c.toNat ≤ 32).filter fun c => !unsafeChar c
  let (scheme, url) := splitScheme url
  let (netloc, url) := splitNetloc url
  let (url, fragment) := cut '#' url
  let (url, query) := cut '?' url
  let (path, params) := if usesParams.contains scheme then splitParams url else (url, [])
  { scheme, netloc, path, params, query, fragment }

/-! ## Putting together -/

def usesNetloc : List Text := ["", "ftp", "http", "gopher", "nntp", "telnet", "imap", "wais", "file", "mms", "https", "shttp",
  "snews", "prospero", "rtsp", "rtsps", "rtspu", "rsync", "svn", "svn+ssh", "sftp", "nfs", "git", "git+ssh", "ws", "wss",
  "itms-services"].map String.toList

/-- A part after its mark, where there is one. -/
def marked (mark : Char) (part : Text) : Text := if part.isEmpty then [] else mark :: part

/-- The path and its parameters, after the host. -/
def located (r : ParseResult) : Text :=
  let url := r.path ++ marked ';' r.params
  if !r.netloc.isEmpty || (!r.scheme.isEmpty && usesNetloc.contains r.scheme && url.take 2 != ['/', '/']) then
    ['/', '/'] ++ r.netloc ++ if url.isEmpty || url.head? == some '/' then url else '/' :: url
  else url

/-- `urlunparse`. -/
def ParseResult.geturl (r : ParseResult) : Text :=
  (if r.scheme.isEmpty then [] else r.scheme ++ [':']) ++ located r ++ marked '?' r.query ++ marked '#' r.fragment

/-! ## Absolute URLs -/

/-- The URL has a scheme and a host. -/
def Absolute (r : ParseResult) : Prop := r.scheme ≠ [] ∧ r.netloc ≠ []

instance : DecidablePred Absolute := fun _ => inferInstanceAs (Decidable (_ ∧ _))

/-- The path begins with a slash, if there is one. -/
def Rooted (path : Text) : Prop := ∀ c, path.head? = some c → c = '/'

/-- What comes before a character begins as the text does, and not with the character. -/
theorem head_cut {c d : Char} {text : Text} (head : (cut c text).1.head? = some d) : text.head? = some d ∧ d ≠ c := by
  cases text with
  | nil => cases head
  | cons e text =>
    by_cases same : e = c
    · simp [cut, same] at head
    · simp only [cut, List.takeWhile_cons, bne_iff_ne, ne_eq, same, not_false_eq_true, if_true, List.head?_cons,
        Option.some.injEq] at head
      exact ⟨congrArg some head, head ▸ same⟩

theorem atLastSlash_append (url : Text) : (atLastSlash url).1 ++ (atLastSlash url).2 = url := by
  rw [atLastSlash, ← List.reverse_append, List.takeWhile_append_dropWhile, List.reverse_reverse]

/-- A path without its parameters begins as it does with them. -/
theorem head_splitParams {c : Char} {url : Text} (head : (splitParams url).1.head? = some c) : url.head? = some c := by
  have parts := atLastSlash_append url
  rw [← parts]
  show ((atLastSlash url).1 ++ _).head? = some c
  change ((atLastSlash url).1 ++ (cut ';' (atLastSlash url).2).1).head? = some c at head
  rw [List.head?_append] at head ⊢
  cases directory : (atLastSlash url).1.head? with
  | some d =>
    rw [directory] at head
    exact head
  | none =>
    rw [directory, Option.none_or] at head
    exact (head_cut head).1

/-- After the host there is nothing, or a character that ends a host. -/
theorem head_splitNetloc {c : Char} {url : Text} (host : (splitNetloc url).1 ≠ []) (head : (splitNetloc url).2.head? = some c) :
    hostEnds c = true := by
  rw [splitNetloc.eq_def] at host head
  split at host
  · next rest =>
    have ended := List.head?_dropWhile_not (fun c => !hostEnds c) rest
    change (rest.dropWhile fun c => !hostEnds c).head? = some c at head
    rw [head] at ended
    simpa using ended
  · exact absurd rfl host

/-- The path of a URL with a host begins with a slash, if there is one. -/
theorem urlparse_rooted {url : Text} (host : (urlparse url).netloc ≠ []) : Rooted (urlparse url).path := by
  intro c head
  rw [urlparse] at host head
  generalize (url.dropWhile fun c => c.toNat ≤ 32).filter (fun c => !unsafeChar c) = url at host head
  have begins : (cut '?' (cut '#' (splitNetloc (splitScheme url).2).2).1).1.head? = some c := by
    dsimp only at head
    split at head
    · exact head_splitParams head
    · exact head
  obtain ⟨query, notQuery⟩ := head_cut begins
  obtain ⟨located, notFragment⟩ := head_cut query
  have ends := head_splitNetloc host located
  simpa [hostEnds, notQuery, notFragment] using ends

/-! ## Another path -/

/-- A URL with another path that begins with a slash is another URL. -/
theorem geturl_path_injective {r : ParseResult} (absolute : Absolute r) {path path' : Text}
    (same : ParseResult.geturl { r with path := '/' :: path } = ParseResult.geturl { r with path := '/' :: path' }) :
    path = path' := by
  have host : r.netloc.isEmpty = false := by simpa using absolute.2
  have expanded (path : Text) : ParseResult.geturl { r with path := '/' :: path } =
      r.scheme ++ [':'] ++ (['/', '/'] ++ r.netloc ++ ('/' :: path ++ marked ';' r.params)) ++ marked '?' r.query ++
        marked '#' r.fragment := by
    have scheme : r.scheme.isEmpty = false := by simpa using absolute.1
    simp [ParseResult.geturl, located, host, scheme]
  rw [expanded, expanded, List.append_cancel_right_eq, List.append_cancel_right_eq, List.append_cancel_left_eq,
    List.append_cancel_left_eq, List.append_cancel_right_eq] at same
  exact List.tail_eq_of_cons_eq same

end Skyline.Urls
