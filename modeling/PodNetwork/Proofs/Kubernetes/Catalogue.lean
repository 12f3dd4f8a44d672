import Mathlib.Data.List.TakeWhile
import PodNetwork.Proofs.Text.Cuts
import PodNetwork.Rehearsal.ApiServer

/-! What is read off the catalogue of a server.

A server tells of its kinds of resource in a list of groups and in one list for each version of a
group. Read back, the lists name every kind offered, with a resource that stands where the objects
of the kind are. -/
namespace PodNetwork

theorem Json.string_beq (a b : String) : (Json.string a == Json.string b) = (a == b) := rfl

namespace Kubernetes

def isPart (s : String) : Bool :=
  !s.isEmpty && s.utf8ByteSize ≤ 253 && s.toList.all fun c => Request.isPathChar c && c != '/'

theorem isPart_iff {s : String} : isPart s = true ↔ s ≠ "" ∧ s.utf8ByteSize ≤ 253 ∧
    ∀ c ∈ s.toList, Request.isPathChar c = true ∧ c ≠ '/' := by
  simp [isPart, and_assoc]

namespace Request

variable {method : Method} {path : String} {query : Option (List (String × String))}
  {payload : Option Payload} {r : Request}

theorem ne_of_isPathChar {c : Char} (h : isPathChar c = true) : c ≠ '#' ∧ c ≠ '?' := by
  constructor <;> (rintro rfl; revert h; decide)

def Fits (size : Nat) (s : String) : Prop :=
  s.utf8ByteSize ≤ size ∧ ∀ c ∈ s.toList, isPathChar c = true

-- Deciding the quantifier as it stands would go through all characters there are.
instance (size : Nat) (s : String) : Decidable (Fits size s) :=
  decidable_of_iff (s.utf8ByteSize ≤ size ∧ s.toList.all isPathChar = true) <| by
    rw [List.all_eq_true, Fits]

theorem Fits.append {size more : Nat} {s t : String} (hs : Fits size s) (ht : Fits more t) :
    Fits (size + more) (s ++ t) := by
  refine ⟨?_, fun c hc => ?_⟩
  · rw [String.utf8ByteSize_append]
    exact Nat.add_le_add hs.1 ht.1
  · rw [String.toList_append] at hc
    exact (List.mem_append.mp hc).elim (hs.2 c) (ht.2 c)

theorem Fits.mono {size more : Nat} {s : String} (h : Fits size s) (hle : size ≤ more) :
    Fits more s := ⟨Nat.le_trans h.1 hle, h.2⟩

theorem fits_of_isPart {s : String} (h : isPart s = true) : Fits 253 s := by
  obtain ⟨_, hsize, hchars⟩ := isPart_iff.mp h
  exact ⟨hsize, fun c hc => (hchars c hc).1⟩

/-- What may follow a path: nothing, or a mark and a query. -/
theorem cut?_append (hpath : ∀ c ∈ path.toList, isPathChar c = true) {tail : List Char}
    (hhash : tail.takeWhile (· != '#') = tail) (hmark : tail.takeWhile (· != '?') = [])
    (hquery : ∀ c ∈ tail.drop 1, isQueryChar c = true) :
    cut? (path.toList ++ tail) = some (path, Text.Query.pairs (tail.drop 1)) := by
  have whole : (path.toList ++ tail).takeWhile (· != '#') = path.toList ++ tail := by
    rw [List.takeWhile_append_of_pos fun c hc => by simpa using (ne_of_isPathChar (hpath c hc)).1,
      hhash]
  have lead : (path.toList ++ tail).takeWhile (· != '?') = path.toList := by
    rw [List.takeWhile_append_of_pos fun c hc => by simpa using (ne_of_isPathChar (hpath c hc)).2,
      hmark, List.append_nil]
  have rest : (path.toList ++ tail).drop (path.toList.length + 1) = tail.drop 1 :=
    List.drop_length_add_append ..
  have fits : (path.toList.all isPathChar && (tail.drop 1).all isQueryChar) = true := by
    rw [List.all_eq_true.mpr hpath, List.all_eq_true.mpr hquery]
    rfl
  simp only [cut?, whole, lead, rest, fits, if_true, String.ofList_toList]

/-- A path that fits into a request stands in it as it is. -/
theorem at?_plain (hpath : Fits targetLimit path) :
    at? method path none payload = some ⟨method, path, [], payload⟩ := by
  have short : ¬targetLimit < (String.ofList (path.toList ++ [])).utf8ByteSize := by
    simpa using hpath.1
  simp only [at?]
  rw [if_neg short, cut?_append hpath.2 rfl rfl (by simp)]
  rfl

/-- A path and a query that fit into a request stand in it as they are. -/
theorem at?_query {size : Nat} {pairs : List (String × String)} (hpath : Fits size path)
    (hquery : ∀ c ∈ Text.Query.ofPairs pairs, isQueryChar c = true)
    (hsize : size + (String.ofList ('?' :: Text.Query.ofPairs pairs)).utf8ByteSize ≤
      targetLimit) :
    at? method path (some pairs) payload =
      some ⟨method, path, Text.Query.pairs (Text.Query.ofPairs pairs), payload⟩ := by
  have short : ¬targetLimit <
      (String.ofList (path.toList ++ '?' :: Text.Query.ofPairs pairs)).utf8ByteSize := by
    rw [String.ofList_append, String.utf8ByteSize_append, String.ofList_toList]
    have := hpath.1
    omega
  have noHash : ('?' :: Text.Query.ofPairs pairs).takeWhile (· != '#') =
      '?' :: Text.Query.ofPairs pairs := by
    refine List.takeWhile_eq_self_iff.mpr fun c hc => ?_
    rcases List.mem_cons.mp hc with rfl | hc
    · decide
    · have := hquery c hc
      rw [bne_iff_ne]
      rintro rfl
      revert this
      decide
  simp only [at?]
  rw [if_neg short, cut?_append hpath.2 noHash rfl hquery]
  rfl

/-- A request keeps its method and what it carries, and the beginning of its path. -/
theorem at?_eq_some (h : at? method path query payload = some r) {lead rest : List Char}
    (hpath : path.toList = lead ++ rest) (hlead : ∀ c ∈ lead, isPathChar c = true) :
    r.method = method ∧ r.payload = payload ∧ lead <+: r.path.toList := by
  obtain ⟨tail, unfolded⟩ : ∃ tail, at? method path query payload =
      if targetLimit < (String.ofList (path.toList ++ tail)).utf8ByteSize then none
      else (cut? (path.toList ++ tail)).bind fun c => some ⟨method, c.1, c.2, payload⟩ := ⟨_, rfl⟩
  rw [unfolded] at h
  split at h
  · cases h
  obtain ⟨⟨path', query'⟩, hcut, hr⟩ := Option.bind_eq_some_iff.mp h
  cases hr
  refine ⟨rfl, rfl, ?_⟩
  simp only [cut?, Option.ite_none_right_eq_some, Option.some.injEq, Prod.mk.injEq] at hcut
  obtain ⟨_, rfl, _⟩ := hcut
  rw [hpath, List.append_assoc, List.takeWhile_append_of_pos, List.takeWhile_append_of_pos,
    String.toList_ofList]
  · exact List.prefix_append _ _
  · exact fun c hc => by simpa using (ne_of_isPathChar (hlead c hc)).2
  · exact fun c hc => by simpa using (ne_of_isPathChar (hlead c hc)).1

end Request

theorem parseApiVersion_append {group : String} (version : String) (h : isPart group = true) :
    parseApiVersion (group ++ "/" ++ version) = (group, version) := by
  have clean : '/' ∉ group.toList := fun hm => ((isPart_iff.mp h).2.2 _ hm).2 rfl
  have letters : (group ++ "/" ++ version).toList = group.toList ++ '/' :: version.toList := by
    simp
  simp [parseApiVersion, letters, Text.cutAt?_append_cons clean]

end Kubernetes

namespace Rehearsal

open Kubernetes

namespace Offer

/-- Whether the names of a kind can stand in the paths of its objects. The core group has only
the version that a server lists for it. -/
def isValid (o : Offer) : Bool :=
  isPart o.plural &&
    if o.group = "" then o.version == "v1" else isPart o.group && isPart o.version

/-- Whether a resource is one for the objects of a kind. -/
structure Allows (o : Offer) (r : Resource) : Prop where
  group : r.group = o.group
  apiVersion : r.apiVersion = o.groupVersion
  kind : r.kind = o.kind
  plural : isPart r.plural = true

variable {o : Offer}

theorem plural_of_isValid (h : o.isValid = true) : isPart o.plural = true := by
  simp only [isValid, Bool.and_eq_true] at h
  exact h.1

theorem isValid_cases (h : o.isValid = true) : (o.group = "" ∧ o.version = "v1") ∨
    (o.group ≠ "" ∧ isPart o.group = true ∧ isPart o.version = true) := by
  simp only [isValid, Bool.and_eq_true] at h
  obtain ⟨_, h⟩ := h
  split at h
  · next core => exact .inl ⟨core, by simpa using h⟩
  · next named => exact .inr ⟨named, by simpa using h⟩

theorem groupVersion_core (hg : o.group = "") : o.groupVersion = o.version := by
  simp [groupVersion, hg]

theorem groupVersion_named (hg : o.group ≠ "") :
    o.groupVersion = o.group ++ "/" ++ o.version := by
  simp [groupVersion, hg]

/-- The names of a kind fit into paths. -/
theorem fits_groupVersion (h : o.isValid = true) : Request.Fits 507 o.groupVersion := by
  rcases isValid_cases h with ⟨hg, hv⟩ | ⟨hg, hpart, hversion⟩
  · rw [groupVersion_core hg, hv]
    decide
  · have slash : Request.Fits 1 "/" := by decide
    rw [groupVersion_named hg]
    exact ((Request.fits_of_isPart hpart).append slash).append (Request.fits_of_isPart hversion)

theorem json_eq (o : Offer) : o.json = .object [
    ("kind", .string o.kind), ("name", .string o.plural), ("namespaced", .bool o.namespaced),
    ("singularName", .string ""), ("verbs", .array [])] := rfl

theorem text?_json_name (o : Offer) : text? o.json ["name"] = some o.plural := by
  simp [json_eq, text?, Json.path?, Json.get?, Json.string?]

theorem text?_json_kind (o : Offer) : text? o.json ["kind"] = some o.kind := by
  simp [json_eq, text?, Json.path?, Json.get?, Json.string?]

end Offer
end Rehearsal

namespace Kubernetes.Discovery

open Rehearsal

/-! ### What lists have to say -/

/-- The versions of a group as they are listed, under which roots their lists are. -/
inductive IsListed : (root group version groupVersion : String) → Prop where
  | core : IsListed "/api/" "" "v1" "v1"
  | named {group version : String} (hg : isPart group = true) (hv : isPart version = true) :
    IsListed "/apis/" group version (group ++ "/" ++ version)

variable {root group version groupVersion : String}

theorem IsListed.parse (h : IsListed root group version groupVersion) :
    (parseApiVersion groupVersion).1 = group := by
  cases h with
  | core => decide
  | named hg _ => rw [parseApiVersion_append _ hg]

/-- A kind belongs to the version of the group and version that it names. -/
theorem IsListed.groupVersion_eq (h : IsListed root group version groupVersion) {o : Offer}
    (hg : o.group = group) (hv : o.version = version) : o.groupVersion = groupVersion := by
  cases h with
  | core => rw [Offer.groupVersion_core hg, hv]
  | named hpart _ =>
    have named : o.group ≠ "" := by
      rw [hg]
      exact (isPart_iff.mp hpart).1
    rw [Offer.groupVersion_named named, hg, hv]

/-- What the list of a version says of some kinds. -/
structure Lists (group groupVersion : String) (offers : List Offer) (resources : List Resource) :
    Prop where
  sound : ∀ r ∈ resources,
    r.group = group ∧ r.apiVersion = groupVersion ∧ isPart r.plural = true
  complete : ∀ o ∈ offers, o.groupVersion = groupVersion → ∃ r ∈ resources, r.kind = o.kind

/-- What the listing of a group has to say for its kinds to be found: it has versions, their lists
are not refused, and those of its kinds are among them. -/
structure Serves (root : String) (offers : List Offer) (group : Group) : Prop where
  nonempty : group.versions ≠ []
  listed : ∀ p ∈ group.versions, IsListed root group.name p.1 p.2
  offered : ∀ p ∈ group.versions, p.2 = "v1" ∨ ∃ o ∈ offers, o.groupVersion = p.2
  complete : ∀ o ∈ offers, o.group = group.name → ∃ p ∈ group.versions, p.1 = o.version

end Kubernetes.Discovery

namespace Rehearsal

open Kubernetes

namespace ApiServer

theorem mem_distinct {s : String} {ls : List String} : s ∈ distinct ls ↔ s ∈ ls := by
  suffices general : ∀ seen, s ∈ ls.foldl
      (fun seen s => if seen.contains s then seen else seen ++ [s]) seen ↔ s ∈ seen ∨ s ∈ ls by
    simpa [distinct] using general []
  induction ls with
  | nil => simp
  | cons l ls ih =>
    intro seen
    rw [List.foldl_cons, ih]
    split
    · next hc =>
      have hl : l ∈ seen := by simpa using hc
      constructor
      · rintro (h | h)
        · exact .inl h
        · exact .inr (List.mem_cons_of_mem _ h)
      · rintro (h | h)
        · exact .inl h
        · rcases List.mem_cons.mp h with rfl | h
          · exact .inl hl
          · exact .inr h
    · simp [or_assoc]

variable {offers : List Offer}

/-- The list of the kinds of a version, with its members in their order. -/
theorem resourceList_eq (groupVersion : String) (listed : List Offer) :
    Json.ofMembers [
      ("kind", .string "APIResourceList"), ("apiVersion", .string "v1"),
      ("groupVersion", .string groupVersion), ("resources", .array (listed.map Offer.json))] =
    .object [
      ("apiVersion", .string "v1"), ("groupVersion", .string groupVersion),
      ("kind", .string "APIResourceList"), ("resources", .array (listed.map Offer.json))] := rfl

theorem accepts_resourceList (groupVersion : String) (listed : List Offer) :
    Discovery.resourceList.accepts (.object [
      ("apiVersion", .string "v1"), ("groupVersion", .string groupVersion),
      ("kind", .string "APIResourceList"), ("resources", .array (listed.map Offer.json))]) =
      true := by
  simp [Discovery.resourceList, Shape.accepts, Shape.acceptsMembers, Shape.saysOnly, Shape.each,
    Shape.texts, Offer.json_eq, Json.string_beq]

/-- The resources that are read off the list of a version: one for each kind of the version, and
each with the names of some kind of the version. -/
theorem resources?_resourceList {groupVersion : String} {v : Json}
    (h : resourceList? ⟨offers, [], [], []⟩ groupVersion = some v) :
    ∃ resources, Discovery.resources? v = some resources ∧
      (∀ r ∈ resources, ∃ o ∈ offers, o.groupVersion = groupVersion ∧
        r.group = (parseApiVersion groupVersion).1 ∧ r.apiVersion = groupVersion ∧
        r.plural = o.plural ∧ r.kind = o.kind) ∧
      ∀ o ∈ offers, o.groupVersion = groupVersion → '/' ∉ o.plural.toList →
        ∃ r ∈ resources, r.kind = o.kind := by
  simp only [resourceList?, Option.ite_none_left_eq_some, Option.some.injEq] at h
  obtain ⟨_, rfl⟩ := h
  generalize hlisted : offers.filter (fun o => o.groupVersion = groupVersion) = listed
  have mem_listed {o : Offer} : o ∈ listed ↔ o ∈ offers ∧ o.groupVersion = groupVersion := by
    simp [← hlisted]
  rw [resourceList_eq, Discovery.resources?, if_pos (accepts_resourceList _ _)]
  refine ⟨_, rfl, ?_, ?_⟩
  · intro r hr
    obtain ⟨row, hrow, rfl⟩ := List.mem_map.mp hr
    have hlist : row ∈ listed.map Offer.json := by
      have := (List.mem_filter.mp hrow).1
      simpa [itemsAt, Json.path?, Json.get?] using this
    obtain ⟨o, ho, rfl⟩ := List.mem_map.mp hlist
    obtain ⟨hmem, hgv⟩ := mem_listed.mp ho
    refine ⟨o, hmem, hgv, ?_, ?_, ?_, ?_⟩ <;>
      simp [text?, Json.path?, Json.get?, Json.string?, Offer.json_eq]
  · intro o hmem hgv hplural
    refine ⟨_, List.mem_map_of_mem (a := o.json) (List.mem_filter.mpr ⟨?_, ?_⟩), ?_⟩
    · have := List.mem_map_of_mem (f := Offer.json) (mem_listed.mpr ⟨hmem, hgv⟩)
      simpa [itemsAt, Json.path?, Json.get?] using this
    · simpa [Offer.text?_json_name] using hplural
    · simp [Offer.text?_json_kind]

/-- The groups that are listed for some kinds: those that have a name. -/
def listedNames (offers : List Offer) : List String :=
  distinct ((offers.filter fun o => !o.group.isEmpty).map Offer.group)

/-- The versions that are listed for a group, each with the name of the group. -/
def listedVersions (offers : List Offer) (name : String) : List (String × String) :=
  (distinct (((offers.filter fun o => !o.group.isEmpty).filter fun o =>
    o.group = name).map Offer.version)).map fun v => (v, name ++ "/" ++ v)

theorem mem_listedNames {name : String} :
    name ∈ listedNames offers ↔ name ≠ "" ∧ ∃ o ∈ offers, o.group = name := by
  simp only [listedNames, mem_distinct, List.mem_map, List.mem_filter]
  constructor
  · rintro ⟨o, ⟨ho, hg⟩, rfl⟩
    exact ⟨by simpa using hg, o, ho, rfl⟩
  · rintro ⟨hname, o, ho, rfl⟩
    exact ⟨o, ⟨ho, by simpa using hname⟩, rfl⟩

theorem mem_listedVersions {name : String} (hname : name ≠ "") {p : String × String} :
    p ∈ listedVersions offers name ↔
      ∃ o ∈ offers, o.group = name ∧ (o.version, o.groupVersion) = p := by
  simp only [listedVersions, List.mem_map, mem_distinct, List.mem_filter, decide_eq_true_eq]
  constructor
  · rintro ⟨_, ⟨o, ⟨⟨ho, _⟩, rfl⟩, rfl⟩, rfl⟩
    exact ⟨o, ho, rfl, by rw [Offer.groupVersion_named hname]⟩
  · rintro ⟨o, ho, rfl, rfl⟩
    refine ⟨_, ⟨o, ⟨⟨ho, by simpa using hname⟩, rfl⟩, rfl⟩, ?_⟩
    rw [Offer.groupVersion_named hname]

/-- The list of the groups, with its members in their order. -/
theorem groupList_eq : groupList ⟨offers, [], [], []⟩ = .object [
    ("apiVersion", .string "v1"),
    ("groups", .array ((listedNames offers).map fun name => .object [
      ("name", .string name),
      ("versions", .array ((listedVersions offers name).map fun p => .object [
        ("groupVersion", .string p.2), ("version", .string p.1)]))])),
    ("kind", .string "APIGroupList")] := by
  simp only [listedVersions, List.map_map]
  rfl

theorem accepts_groupList :
    Discovery.groupList.accepts (groupList ⟨offers, [], [], []⟩) = true := by
  simp [groupList_eq, Discovery.groupList, Discovery.groupList.groupShape,
    Discovery.groupList.version, Discovery.groupList.clients, Shape.accepts,
    Shape.acceptsMembers, Shape.saysOnly, Shape.each, Json.string_beq]

/-- The groups that are read off the list of groups. -/
theorem groups?_groupList : Discovery.groups? (groupList ⟨offers, [], [], []⟩) =
    some ((listedNames offers).map fun name => ⟨name, listedVersions offers name⟩) := by
  rw [Discovery.groups?, if_pos accepts_groupList, groupList_eq]
  simp [itemsAt, text?, Json.path?, Json.get?, Json.string?, Function.comp_def]

theorem coreVersions?_versionList : Discovery.coreVersions? versionList = some ["v1"] := by
  decide

theorem catalogue?_named (server : ApiServer) {group version : String}
    (hg : isPart group = true) (hv : isPart version = true) :
    server.catalogue? ("/apis/" ++ (group ++ "/" ++ version)) =
      server.resourceList? (group ++ "/" ++ version) := by
  have clean {s : String} (hs : isPart s = true) : ∀ c ∈ s.toList, (c == '/') = false :=
    fun c hc => by simpa using ((isPart_iff.mp hs).2.2 c hc).2
  have letters : ("/apis/" ++ (group ++ "/" ++ version)).toList =
      [] ++ '/' :: ("apis".toList ++ '/' :: (group.toList ++ '/' :: version.toList)) := by
    simp
  have parts : (Text.segments (· == '/') ("/apis/" ++ (group ++ "/" ++ version)).toList).map
      String.ofList = ["", "apis", group, version] := by
    rw [letters, Text.segments_append_cons (by simp) (by simp),
      Text.segments_append_cons (by simp) (by simp),
      Text.segments_append_cons (clean hg) (by simp), Text.segments_of_none (clean hv)]
    simp
  have other {path : String} (hlength : ((Text.segments (· == '/') path.toList).map
      String.ofList).length ≠ 4) : "/apis/" ++ (group ++ "/" ++ version) ≠ path := by
    rintro rfl
    exact hlength (by rw [parts]; rfl)
  rw [catalogue?, if_neg (other (by decide)), if_neg (other (by decide)),
    if_neg (other (by decide)), parts]
  rfl

/-! ### The catalogue as lists -/

section

open Discovery

variable (valid : ∀ o ∈ offers, o.isValid = true)

include valid

theorem serves_named {name : String} (hname : name ∈ listedNames offers) :
    Serves "/apis/" offers ⟨name, listedVersions offers name⟩ := by
  obtain ⟨hne, o, ho, hg⟩ := mem_listedNames.mp hname
  constructor
  · exact List.ne_nil_of_mem ((mem_listedVersions hne).mpr ⟨o, ho, hg, rfl⟩)
  · intro p hp
    obtain ⟨o', ho', hsame, rfl⟩ := (mem_listedVersions hne).mp hp
    rcases Offer.isValid_cases (valid o' ho') with ⟨hcore, _⟩ | ⟨hnamed, hpart, hversion⟩
    · exact absurd (hsame.symm.trans hcore) hne
    · rw [Offer.groupVersion_named hnamed, ← hsame]
      exact .named hpart hversion
  · intro p hp
    obtain ⟨o', ho', _, rfl⟩ := (mem_listedVersions hne).mp hp
    exact .inr ⟨o', ho', rfl⟩
  · intro o' ho' hsame
    exact ⟨_, (mem_listedVersions hne).mpr ⟨o', ho', hsame, rfl⟩, rfl⟩

theorem serves_core : Serves "/api/" offers ⟨"", ["v1"].map fun v => (v, v)⟩ := by
  constructor
  · simp
  · simpa using IsListed.core
  · simp
  · intro o ho hg
    rcases Offer.isValid_cases (valid o ho) with ⟨_, hv⟩ | ⟨hnamed, _⟩
    · simp [hv]
    · exact absurd hg hnamed

/-- What the list of groups says. -/
theorem groups_catalogue : ∃ groups,
    (catalogue? ⟨offers, [], [], []⟩ "/apis").bind groups? = some groups ∧
      (∀ group ∈ groups, Serves "/apis/" offers group) ∧
      ∀ o ∈ offers, o.group ≠ "" → ∃ group ∈ groups, group.name = o.group := by
  refine ⟨_, groups?_groupList, List.forall_mem_map.mpr fun _ => serves_named valid, ?_⟩
  intro o ho hg
  exact ⟨_, List.mem_map_of_mem (mem_listedNames.mpr ⟨hg, o, ho, rfl⟩), rfl⟩

/-- What the list of the versions of the core group says. -/
theorem versions_catalogue : ∃ versions,
    (catalogue? ⟨offers, [], [], []⟩ "/api").bind coreVersions? = some versions ∧
      Serves "/api/" offers ⟨"", versions.map fun v => (v, v)⟩ :=
  ⟨_, coreVersions?_versionList, serves_core valid⟩

/-- What the lists of resources say. -/
theorem resources_catalogue {root group version groupVersion : String}
    (h : IsListed root group version groupVersion)
    (hsome : groupVersion = "v1" ∨ ∃ o ∈ offers, o.groupVersion = groupVersion) : ∃ resources,
      (catalogue? ⟨offers, [], [], []⟩ (root ++ groupVersion)).bind resources? = some resources ∧
        Lists group groupVersion offers resources := by
  have nonempty : ¬((offers.filter fun o => o.groupVersion = groupVersion).isEmpty &&
      groupVersion ≠ "v1") = true := by
    rcases hsome with hcore | ⟨o, ho, hgv⟩
    · simp [hcore]
    · have kept : o ∈ offers.filter fun o => o.groupVersion = groupVersion :=
        List.mem_filter.mpr ⟨ho, by simpa using hgv⟩
      simp [List.ne_nil_of_mem kept]
  have listed : ∃ v, resourceList? ⟨offers, [], [], []⟩ groupVersion = some v :=
    ⟨_, if_neg nonempty⟩
  obtain ⟨v, hv⟩ := listed
  obtain ⟨resources, hread, hsound, hcomplete⟩ := resources?_resourceList hv
  have told : catalogue? ⟨offers, [], [], []⟩ (root ++ groupVersion) = some v := by
    cases h with
    | core => exact hv
    | named hg hversion => exact (catalogue?_named _ hg hversion).trans hv
  refine ⟨resources, by rw [told, Option.bind_some, hread], ?_, ?_⟩
  · intro r hr
    obtain ⟨o, ho, _, hg, hapi, hplural, _⟩ := hsound r hr
    refine ⟨by rw [hg, h.parse], hapi, ?_⟩
    rw [hplural]
    exact Offer.plural_of_isValid (valid o ho)
  · intro o ho hgv
    have part := Offer.plural_of_isValid (valid o ho)
    exact hcomplete o ho hgv fun hm => ((isPart_iff.mp part).2.2 _ hm).2 rfl

end

end ApiServer
end Rehearsal
end PodNetwork
