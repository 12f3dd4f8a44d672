/-! Image references: repository and tag, and the name that carries a cache key.

The tag begins at the last colon, if no slash follows it; a colon before the last slash belongs
to the port of a registry. -/
namespace PodNetwork.Image

/-- Whether a character ends the tag, seen from the end of the reference. -/
def isBoundary (c : Char) : Bool := c == ':' || c == '/'

def splitTag (image : List Char) : List Char × Option (List Char) :=
  let tail := image.reverse.takeWhile (!isBoundary ·)
  match image.reverse.dropWhile (!isBoundary ·) with
  | ':' :: repository => (repository.reverse, some tail.reverse)
  | _ => (image, none)

/-- The reference with a key in its tag: behind an existing tag, or as the tag. -/
def keyedTag (image key : List Char) : List Char :=
  match splitTag image with
  | (repository, some tag) => repository ++ ':' :: tag ++ '-' :: key
  | (repository, none) => repository ++ ':' :: key

def cachedName (image key : String) : String := .ofList (keyedTag image.toList key.toList)

end PodNetwork.Image
