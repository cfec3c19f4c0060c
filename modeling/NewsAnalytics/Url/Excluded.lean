/-!
# Characters that parts of a URL cannot hold

Every part of a URL is kept in percent encoding, and each part has its own
set of characters to encode. The sets grow from part to part: what a
fragment cannot hold, a path cannot hold either, and what a path cannot
hold is encoded in a user name too.

## Main definitions

* `fragment`, `query`, `path`, `user` — the set of each part.
-/

namespace NewsAnalytics.Url.Excluded

/-- Controls, and every character beyond ASCII. -/
def control (c : Char) : Bool := c < ' ' || '~' < c

/-- What a fragment cannot hold. -/
def fragment (c : Char) : Bool :=
  control c || c = ' ' || c = '"' || c = '<' || c = '>' || c = '\x60'

/-- What a query cannot hold. The schemes of the web exclude the apostrophe
too. -/
def query (special : Bool) (c : Char) : Bool :=
  control c || c = ' ' || c = '"' || c = '#' || c = '<' || c = '>'
    || (special && c = '\'')

/-- What a path cannot hold. -/
def path (c : Char) : Bool :=
  fragment c || c = '#' || c = '?' || c = '\x7b' || c = '\x7d'

/-- What a user name or a password cannot hold. -/
def user (c : Char) : Bool :=
  path c || c = '/' || c = ':' || c = ';' || c = '=' || c = '@' || c = '['
    || c = '\\' || c = ']' || c = '^' || c = '|'

end NewsAnalytics.Url.Excluded
