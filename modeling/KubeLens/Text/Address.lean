/-!
# Addresses

The grammar of the addresses that requests are sent to: an optional scheme, the name and port
of a host, a path and a query.
-/

namespace KubeLens
namespace Text

/-- Letters and digits of ASCII. -/
def isAlphanumeric (c : Char) : Bool :=
  ('0' ≤ c && c ≤ '9') || ('A' ≤ c && c ≤ 'Z') || ('a' ≤ c && c ≤ 'z')

/-- Characters of a path. -/
def isPathChar (c : Char) : Bool :=
  0x20 < c.toNat && !(['#', '<', '>', '?', '\x60'].contains c)

/-- Characters of a query. -/
def isQueryChar (c : Char) : Bool :=
  0x20 < c.toNat && !(['"', '#', '<', '>'].contains c)

/-- A path, and the query after it if there is one.  What follows a number sign does not
count. -/
def splitPath (cs : List Char) : List Char × Option (List Char) :=
  let cs := cs.takeWhile (· != '#')
  (cs.takeWhile (· != '?'), (cs.dropWhile (· != '?')).tail?)

/-- Whether a text is a path and an optional query. -/
def isPathText (cs : List Char) : Bool :=
  let (path, query?) := splitPath cs
  path.all isPathChar && query?.all (·.all isQueryChar)

/-- Characters of a scheme. -/
def isSchemeChar (c : Char) : Bool :=
  isAlphanumeric c || ['+', '-', '.'].contains c

/-- What follows a scheme and its mark, if there is a scheme. -/
def afterScheme? (cs : List Char) : Option (List Char) :=
  match cs.dropWhile isSchemeChar with
  | ':' :: '/' :: '/' :: rest => some rest
  | _ => none

/-- Characters of a host with its port and its user. -/
def isHostChar (c : Char) : Bool :=
  isAlphanumeric c ||
    ['!', '$', '%', '&', '\'', '(', ')', '*', '+', ',', '-', '.', ':', ';', '=', '@', '[', ']',
      '_', '~'].contains c

/-- What was seen of a host. -/
structure HostScan where
  /-- The colons that count. -/
  colons : Nat := 0
  opened : Bool := false
  closed : Bool := false
  /-- Whether a percent sign counts. -/
  percent : Bool := false
  deriving DecidableEq, Repr

namespace HostScan

/-- The scan after one more character; none when it may not stand there. -/
def step (scan : HostScan) (c : Char) : Option HostScan :=
  if c == ':' then if scan.colons < 8 then some { scan with colons := scan.colons + 1 } else none
  else if c == '[' then
    if scan.percent || scan.opened then none else some { scan with opened := true }
  else if c == ']' then
    if !scan.opened || scan.closed then none
    else some { scan with closed := true, colons := 0, percent := false }
  else if c == '@' then some { scan with colons := 0, percent := false }
  else if c == '%' then some { scan with percent := true }
  else if isHostChar c then some scan
  else none

/-- Whether a host may end here. -/
def isComplete (scan : HostScan) : Bool :=
  scan.opened == scan.closed && scan.colons ≤ 1 && !scan.percent

end HostScan

/-- Whether a text is a host with an optional port and an optional user. -/
def isHost (cs : List Char) : Bool :=
  cs.getLast? != some '@' && ((cs.foldlM HostScan.step {}).any HostScan.isComplete)

/-- Characters that end a host. -/
def endsHost (c : Char) : Bool :=
  c == '/' || c == '?' || c == '#'

/-- Whether a text is an address: a path, a host, or a scheme, a host and an optional path. -/
def isAddress (cs : List Char) : Bool :=
  match cs with
  | [] => false
  | ['*'] => true
  | '/' :: _ => isPathText cs
  | _ =>
    match afterScheme? cs with
    | some rest =>
      let host := rest.takeWhile (!endsHost ·)
      !host.isEmpty && isHost host && isPathText (rest.dropWhile (!endsHost ·))
    | none => isHost cs && !cs.any endsHost

end Text
end KubeLens
