import Skein.Value

/-!
The string functions of Python's standard library that the code calls, on ASCII text and
POSIX paths: `str.upper`, `str.title`, `str.split`, `str.endswith`, slicing off a suffix,
the last component of `os.path.split`, the extension of `os.path.splitext`, and the
`path` of `urllib.parse.urlparse` as CPython 3.12 computes it (without the IDNA and
bracketed-host checks, which only raise).
All of them recurse on the list of characters, so they evaluate by `decide`.
-/

namespace Skein

namespace Py

/-- `s.upper()`. -/
def upper (s : String) : String := ⟨s.toList.map Char.toUpper⟩

/-- The letters of `s.title()`: a letter right after a letter is lowered, any other
raised. -/
def titleChars : List Char → Bool → List Char
  | [], _ => []
  | c :: cs, afterLetter =>
      (if afterLetter then c.toLower else c.toUpper) :: titleChars cs c.isAlpha

/-- `s.title()`. -/
def title (s : String) : String := ⟨titleChars s.toList false⟩

/-- The pieces of `s.split(sep)`, the current piece kept reversed. -/
def splitChars (sep : Char) : List Char → List Char → List (List Char)
  | cur, [] => [cur.reverse]
  | cur, c :: cs => if c = sep then cur.reverse :: splitChars sep [] cs
      else splitChars sep (c :: cur) cs

/-- `s.split(sep)` for a one-character separator. -/
def split (s : String) (sep : Char) : List String :=
  (splitChars sep [] s.toList).map String.mk

/-- `s.endswith(suffix)`. -/
def endswith (s suffix : String) : Bool := suffix.toList.isSuffixOf s.toList

/-- `s[:-n]` for `n ≥ 1`. -/
def dropLast (s : String) (n : Nat) : String := ⟨s.toList.take (s.length - n)⟩

/-- `os.path.split(p)[1]`: what follows the last `/`. -/
def basename (p : String) : String :=
  ⟨(p.toList.reverse.takeWhile (· ≠ '/')).reverse⟩

/-- `os.path.splitext(p)[1]`: the last component's suffix from its last `.`, unless only
dots come before that `.`. -/
def splitextExt (p : String) : String :=
  let base := (basename p).toList
  let k := base.length - 1 - base.reverse.indexOf '.'
  if '.' ∈ base ∧ (base.take k).any (· ≠ '.') then ⟨base.drop k⟩ else ""

/-- The characters `urlsplit` accepts in a scheme. -/
def isSchemeChar (c : Char) : Bool :=
  c.isAlphanum || c = '+' || c = '-' || c = '.'

/-- The schemes whose paths `urlparse` splits at `;` (`uses_params`). -/
def usesParams : List String :=
  ["", "ftp", "hdl", "prospero", "http", "imap", "https", "shttp", "rtsp", "rtspu", "sip",
    "sips", "mms", "sftp", "tel"]

/-- `url` with its scheme taken off: the scheme (lowered) and the rest. -/
def splitScheme (url : List Char) : String × List Char :=
  let i := url.indexOf ':'
  match url with
  | c :: _ =>
      if 0 < i ∧ i < url.length ∧ c.isAlpha ∧ (url.take i).all isSchemeChar then
        (⟨(url.take i).map Char.toLower⟩, url.drop (i + 1))
      else ("", url)
  | [] => ("", url)

/-- `_splitparams(url)[0]`: the path before the parameters of its last segment. -/
def dropParams (url : List Char) : List Char :=
  if '/' ∈ url then
    let k := url.length - 1 - url.reverse.indexOf '/'
    let after := url.drop k
    if ';' ∈ after then url.take (k + after.indexOf ';') else url
  else url.takeWhile (· ≠ ';')

/-- `urlparse(url).path`. -/
def urlPath (url : String) : Except Error String := do
  let u := (url.toList.dropWhile (·.toNat ≤ 0x20)).filter
    fun c => c ≠ '\t' ∧ c ≠ '\r' ∧ c ≠ '\n'
  let (scheme, rest) := splitScheme u
  let (netloc, rest) :=
    if rest.take 2 = ['/', '/'] then
      let r := rest.drop 2
      let delim := r.findIdx (fun c => c = '/' ∨ c = '?' ∨ c = '#')
      (r.take delim, r.drop delim)
    else ([], rest)
  throwIf (('[' ∈ netloc) ≠ (']' ∈ netloc)) .invalidIPv6
  let rest := (rest.takeWhile (· ≠ '#')).takeWhile (· ≠ '?')
  let rest := if scheme ∈ usesParams ∧ ';' ∈ rest then dropParams rest else rest
  pure ⟨rest⟩

theorem basename_no_slash (p : String) : '/' ∉ (basename p).toList := by
  intro h
  simpa using List.mem_takeWhile_imp (List.mem_reverse.mp h)

end Py

end Skein
