import Mathlib.Logic.Function.Basic
import PodNetwork.Proofs.Digest.Collisions
import PodNetwork.Proofs.Image.Providing

/-! The name that carries a cache key gives back the reference and the key.

A reference is cut at the last colon after its last slash. The key always ends up in the tag, so the
repository stays as it is, and as all keys have one length, a tag that is a key alone is never
mistaken for a tag with a key behind it. -/
namespace PodNetwork

namespace Text

def EndsIn (mark : Char) (text : List Char) : Prop := ∀ c ∈ text.getLast?, c = mark

/-- Every text is cut behind the last place of a mark. -/
theorem exists_lastCut (mark : Char) (text : List Char) :
    ∃ lead tail, text = lead ++ tail ∧ EndsIn mark lead ∧ mark ∉ tail := by
  obtain ⟨tail, whole, plain⟩ := exists_dropLast (· != mark) text
  refine ⟨_, tail, whole, ?_, fun h => by simpa using plain mark h⟩
  intro c hc
  rw [dropLast, List.getLast?_reverse] at hc
  have stop := List.head?_dropWhile_not (p := (· != mark)) (l := text.reverse)
  rw [Option.mem_def.mp hc] at stop
  simpa using stop

end Text

namespace Image

open Text (EndsIn)

/-- The repository and the tag of a reference: the tag stands behind the last colon after the last
slash. -/
inductive Parts : List Char → List Char → Option (List Char) → Prop where
  | tagged {path name tag : List Char} (path_ends : EndsIn '/' path) (name_plain : '/' ∉ name)
      (tag_plain : '/' ∉ tag) (last : ':' ∉ tag) :
      Parts (path ++ (name ++ ':' :: tag)) (path ++ name) (some tag)
  | untagged {path name : List Char} (path_ends : EndsIn '/' path) (name_plain : '/' ∉ name)
      (bare : ':' ∉ name) :
      Parts (path ++ name) (path ++ name) none

/-- Every reference has its parts. -/
theorem exists_parts (image : List Char) : ∃ repository tag, Parts image repository tag := by
  obtain ⟨path, rest, rfl, path_ends, plain⟩ := Text.exists_lastCut '/' image
  obtain ⟨lead, tag, rfl, lead_ends, last⟩ := Text.exists_lastCut ':' rest
  rw [List.mem_append, not_or] at plain
  rcases List.eq_nil_or_concat lead with rfl | ⟨name, colon, rfl⟩
  · exact ⟨_, _, .untagged path_ends plain.2 last⟩
  · obtain rfl : colon = ':' := lead_ends colon (by simp)
    have name_plain : '/' ∉ name := by simpa using plain.1
    have whole := Parts.tagged path_ends name_plain plain.2 last
    exact ⟨_, _, by simpa using whole⟩

section

variable {image repository key : List Char} {tag : Option (List Char)}

theorem not_isBoundary_of_notMem {text : List Char} (slash : '/' ∉ text) (colon : ':' ∉ text) :
    ∀ c ∈ text.reverse, (!isBoundary c) = true := by
  intro c hc
  have hc := List.mem_reverse.mp hc
  have slash : c ≠ '/' := fun h => slash (h ▸ hc)
  have colon : c ≠ ':' := fun h => colon (h ▸ hc)
  simp [isBoundary, slash, colon]

theorem splitTag_of_parts (h : Parts image repository tag) :
    splitTag image = (repository, tag) := by
  cases h with
  | @tagged path name tag _ _ tag_plain last =>
    have shape : (path ++ (name ++ ':' :: tag)).reverse =
        tag.reverse ++ ':' :: (path ++ name).reverse := by simp
    have stop : ∀ c ∈ (':' :: (path ++ name).reverse).head?, (!isBoundary c) = false := by
      simp [isBoundary]
    obtain ⟨hrun, hrest⟩ := Text.span_append (not_isBoundary_of_notMem tag_plain last) stop
    simp only [splitTag, shape, hrun, hrest, List.reverse_reverse]
  | @untagged path name path_ends name_plain bare =>
    have stop : ∀ c ∈ path.reverse.head?, (!isBoundary c) = false := by
      intro c hc
      rw [List.head?_reverse] at hc
      rw [path_ends c hc]
      rfl
    obtain ⟨hrun, hrest⟩ :=
      Text.span_append (not_isBoundary_of_notMem name_plain bare) stop
    simp only [splitTag, List.reverse_append, hrun, hrest]
    split
    · next colon =>
      have first := path_ends ':'
      rw [← List.head?_reverse, colon] at first
      exact absurd (first rfl) (by decide)
    · rfl

/-- A reference is put together again from its parts. -/
theorem Parts.eq_of_parts {other : List Char} (h : Parts image repository tag)
    (h' : Parts other repository tag) : image = other := by
  have rebuilt {image} (h : Parts image repository tag) :
      image = repository ++ (tag.elim [] fun tag => ':' :: tag) := by
    cases h <;> simp
  rw [rebuilt h, rebuilt h']

/-- A tag with a key behind it, or the key alone where there is no tag. -/
def tagWith (key : List Char) : Option (List Char) → List Char
  | some tag => tag ++ '-' :: key
  | none => key

/-- Tags with keys of one length are told apart, and so are the keys. -/
theorem tagWith_inj {otherKey : List Char} {otherTag : Option (List Char)}
    (hlength : key.length = otherKey.length) :
    tagWith key tag = tagWith otherKey otherTag ↔ key = otherKey ∧ tag = otherTag := by
  refine ⟨fun h => ?_, fun ⟨hkey, htag⟩ => hkey ▸ htag ▸ rfl⟩
  have lengths := congrArg List.length h
  cases tag with
  | none =>
    cases otherTag with
    | none => exact ⟨h, rfl⟩
    | some otherTag =>
      simp only [tagWith, List.length_append, List.length_cons] at lengths
      omega
  | some tag =>
    cases otherTag with
    | none =>
      simp only [tagWith, List.length_append, List.length_cons] at lengths
      omega
    | some otherTag =>
      obtain ⟨rfl, hkeys⟩ := List.append_inj' h (by simp [hlength])
      exact ⟨(List.cons.inj hkeys).2, rfl⟩

/-- The key goes into the tag, and the repository stays as it is. -/
theorem parts_keyedTag (slash : '/' ∉ key) (colon : ':' ∉ key) (h : Parts image repository tag) :
    Parts (keyedTag image key) repository (some (tagWith key tag)) := by
  rw [keyedTag, splitTag_of_parts h]
  cases h with
  | @tagged path name tag path_ends name_plain tag_plain last =>
    have plain : '/' ∉ tagWith key (some tag) := by simp [tagWith, tag_plain, slash]
    have bare : ':' ∉ tagWith key (some tag) := by simp [tagWith, last, colon]
    simpa [tagWith] using Parts.tagged path_ends name_plain plain bare
  | untagged path_ends name_plain bare =>
    simpa [tagWith] using Parts.tagged path_ends name_plain slash colon

end

@[ext] structure Key where
  text : String
  length_eq : text.toList.length = 16
  digits : ∀ c ∈ text.toList, c ∈ Sha256.hexDigits

def Inputs.key (inputs : Inputs) : Key where
  text := inputs.cacheKey
  length_eq := Sha256.length_hexPrefix _ _
  digits _ := Sha256.mem_hexDigits_of_mem_hexPrefix

theorem Key.notMem_text (key : Key) {c : Char} (h : c ∉ Sha256.hexDigits) : c ∉ key.text.toList :=
  fun hc => h (key.digits c hc)

/-- The name of a cached image has the repository of the reference and a tag that ends in the
key. -/
theorem parts_cachedName (image : String) (key : Key) {repository : List Char}
    {tag : Option (List Char)} (h : Parts image.toList repository tag) :
    Parts (cachedName image key.text).toList repository (some (tagWith key.text.toList tag)) := by
  rw [cachedName, String.toList_ofList]
  exact parts_keyedTag (key.notMem_text (by decide)) (key.notMem_text (by decide)) h

/-- Images that are kept for different references or under different keys have different names. The
repository of a name is that of the reference, and the key is all of its tag or follows the tag of
the reference. -/
theorem cachedName_injective :
    (∀ inputs : Inputs, ∃ key : Key, inputs.cacheKey = key.text) ∧
      (∀ (image : String) (key : Key), cachedName image key.text ≠ image ∧
        ∃ repository tag, Parts image.toList repository tag ∧
          Parts (cachedName image key.text).toList repository
            (some (tagWith key.text.toList tag))) ∧
      Function.Injective fun named : String × Key => cachedName named.1 named.2.text := by
  refine ⟨fun inputs => ⟨inputs.key, rfl⟩, fun image key => ?_, ?_⟩
  · obtain ⟨repository, tag, parts⟩ := exists_parts image.toList
    exact ⟨cachedName_ne _ _, repository, tag, parts, parts_cachedName image key parts⟩
  · rintro ⟨image, key⟩ ⟨other, otherKey⟩ (same : cachedName _ _ = cachedName _ _)
    obtain ⟨repository, tag, parts⟩ := exists_parts image.toList
    obtain ⟨otherRepository, otherTag, otherParts⟩ := exists_parts other.toList
    have named := splitTag_of_parts (parts_cachedName image key parts)
    rw [same, splitTag_of_parts (parts_cachedName other otherKey otherParts)] at named
    obtain ⟨rfl, tags⟩ := Prod.mk.inj named
    obtain ⟨keys, rfl⟩ :=
      (tagWith_inj (otherKey.length_eq.trans key.length_eq.symm)).mp (Option.some.inj tags)
    exact Prod.ext (String.toList_inj.mp (parts.eq_of_parts otherParts))
      (Key.ext (String.toList_inj.mp keys.symm))

/-- The port of a registry is no tag. -/
example :
    cachedName "localhost:5000/ovn" "0123456789abcdef" =
      "localhost:5000/ovn:0123456789abcdef" := by
  decide +kernel

end Image
end PodNetwork
