import PodNetwork.Text.Blank

/-! Which texts are addresses of pages on the web. -/
namespace PodNetwork.Text.Url

def isForbidden (c : Char) : Bool :=
  c.toNat ≤ 0x20 || c.toNat == 0x7F || "#/<>?@[\\]^|%:".toList.contains c

def isSlash (c : Char) : Bool := c == '/' || c == '\\'

def isPort (cs : List Char) : Bool :=
  cs.all Char.isDigit && cs.foldl (fun n c => 10 * n + (c.toNat - 48)) 0 < 65536

def afterLast (c : Char) (cs : List Char) : List Char :=
  (cs.reverse.takeWhile (· != c)).reverse

/-- Whether a text is a host, and perhaps a port. Addresses in brackets are not looked into. -/
def isHostPort (cs : List Char) : Bool :=
  match cs with
  | '[' :: r =>
    match cutAt? ']' r with
    | some (address, []) => !address.isEmpty
    | some (address, ':' :: port) => !address.isEmpty && isPort port
    | _ => false
  | _ =>
    let host := cs.takeWhile (· != ':')
    !host.isEmpty && !host.any isForbidden && isPort (cs.drop (host.length + 1))

/-- Whether a text is the address of a page: its scheme, a colon, any number of slashes, and a
host. -/
def isWebAddress (s : String) : Bool :=
  let cs := dropAround (fun c => c.toNat ≤ 0x20) s.toList
  match cutAt? ':' cs with
  | some (scheme, rest) =>
    let scheme := scheme.map Char.toLower
    let authority := (rest.dropWhile isSlash).takeWhile fun c => !isSlash c && c != '?' && c != '#'
    (scheme == "http".toList || scheme == "https".toList) && isHostPort (afterLast '@' authority)
  | none => false

end PodNetwork.Text.Url
