import PodNetwork.Proofs.Kubernetes.KindServer

/-! A round of discovery at a server of kinds.

The kinds known at the beginning of a round are found by it. Kinds that are defined during the
round may be found or not: the list of a version is asked for after the list of the groups. -/
namespace PodNetwork.Kubernetes

open Rehearsal

/-- Entries of which there is one with a key, and each with that key is as it should be. -/
theorem find?_key {β : Type} {entries : List (String × β)} {key : String} (good : β → Prop)
    (hsome : ∃ e ∈ entries, e.1 = key) (hall : ∀ e ∈ entries, e.1 = key → good e.2) :
    ∃ b, entries.find? (fun e => e.1 = key) = some (key, b) ∧ good b := by
  obtain ⟨e, he, hkey⟩ := hsome
  cases found : entries.find? (fun e => e.1 = key) with
  | none => exact absurd hkey (by simpa using List.find?_eq_none.mp found e he)
  | some e' =>
    have hkey' : e'.1 = key := by simpa using List.find?_some found
    exact ⟨e'.2, by rw [← hkey'], hall e' (List.mem_of_find?_eq_some found) hkey'⟩

namespace Discovery

/-- Whether every kind of some is found, with a resource for its objects. -/
def Knows (discovery : Discovery) (offers : List Offer) : Prop :=
  ∀ o ∈ offers, ∃ r, discovery.resolve? o.group o.version o.kind = some r ∧ o.Allows r

variable {root group version groupVersion : String}

theorem IsListed.request (h : IsListed root group version groupVersion) :
    Request.at? .get (root ++ groupVersion) none none =
      some ⟨.get, root ++ groupVersion, [], none⟩ := by
  refine Request.at?_plain ?_
  cases h with
  | core => decide
  | named hg hv =>
    have root : Request.Fits 6 "/apis/" := by decide
    have slash : Request.Fits 1 "/" := by decide
    have whole := root.append (((Request.fits_of_isPart hg).append slash).append
      (Request.fits_of_isPart hv))
    exact whole.mono (by decide)

theorem IsListed.opensRound_eq_false (h : IsListed root group version groupVersion) :
    Request.opensRound ⟨.get, root ++ groupVersion, [], none⟩ = false := by
  have longer : "/apis".toList.length < (root ++ groupVersion).toList.length := by
    cases h with
    | core => decide
    | named hg _ =>
      simp only [String.toList_append, List.length_append]
      have : "/apis/".toList.length = 6 := by decide
      have : "/apis".toList.length = 5 := by decide
      omega
  have other : root ++ groupVersion ≠ "/apis" := by
    intro same
    rw [same] at longer
    exact absurd longer (Nat.lt_irrefl _)
  simp [Request.opensRound, other]

section Round

variable {σ : Type} {server : KindServer σ} {s : σ × List (Procedure.Event Wire)}

theorem achieves_resourcesAt (h : IsListed root group version groupVersion)
    (hsome : groupVersion = "v1" ∨ ∃ o ∈ server.offers s.1, o.groupVersion = groupVersion) :
    Bounded.Achieves server.world (resourcesAt (root ++ groupVersion)) s fun resources s' =>
      Lists group groupVersion (server.offers s.1) resources ∧ server.Progress [] 0 s s' := by
  rw [resourcesAt, h.request]
  refine Bounded.Achieves.mono (KindServer.achieves_request
    (Lists group groupVersion (server.offers s.1)) fun within reply told =>
      server.resources_told within s.1 reply root group version groupVersion h hsome told) ?_
  rintro resources s' ⟨lists, hprogress⟩
  rw [h.opensRound_eq_false] at hprogress
  exact ⟨lists, hprogress⟩

/-- An entry of a group whose kinds are all found in it. -/
def Covers (offers : List Offer) (entry : String × List (String × List Resource)) : Prop :=
  ∀ o ∈ offers, o.group = entry.1 → ∃ resources r,
    entry.2.find? (fun v => v.1 = o.version) = some (o.version, resources) ∧
      resources.find? (fun r => r.kind = o.kind) = some r ∧ o.Allows r

theorem Lists.find?_kind {group groupVersion : String} {offers : List Offer}
    {resources : List Resource} (h : Lists group groupVersion offers resources) {o : Offer}
    (ho : o ∈ offers) (hg : o.group = group) (hgv : o.groupVersion = groupVersion) :
    ∃ r, resources.find? (fun r => r.kind = o.kind) = some r ∧ o.Allows r := by
  obtain ⟨r, hr, hkind⟩ := h.complete o ho hgv
  cases found : resources.find? (fun r => r.kind = o.kind) with
  | none => exact absurd hkind (by simpa using List.find?_eq_none.mp found r hr)
  | some r' =>
    obtain ⟨hg', hgv', hplural⟩ := h.sound r' (List.mem_of_find?_eq_some found)
    have hkind' : r'.kind = o.kind := by simpa using List.find?_some found
    exact ⟨r', rfl, hg'.trans hg.symm, hgv'.trans hgv.symm, hkind', hplural⟩

theorem achieves_groupResources {group : Group} {known : List Offer} (h : Serves root known group)
    (hknown : known ⊆ server.offers s.1) :
    Bounded.Achieves server.world (groupResources root group) s fun entry s' =>
      (entry.1 = group.name ∧ Covers known entry) ∧ server.Progress [] 0 s s' := by
  have asked : Bounded.Achieves server.world (group.versions.mapM fun p => do
      return (p.1, ← resourcesAt (root ++ p.2))) s fun entries s' => server.Progress [] 0 s s' ∧
        (∀ p ∈ group.versions, ∃ e ∈ entries, e.1 = p.1 ∧ Lists group.name p.2 known e.2) ∧
        ∀ e ∈ entries, ∃ p ∈ group.versions, e.1 = p.1 ∧ Lists group.name p.2 known e.2 := by
    refine Bounded.achieves_mapM .refl fun p hp s₁ h₁ => ?_
    have offered : p.2 = "v1" ∨ ∃ o ∈ server.offers s₁.1, o.groupVersion = p.2 :=
      (h.offered p hp).imp_right fun ⟨o, ho, hgv⟩ => ⟨o, h₁.kept (hknown ho), hgv⟩
    refine Bounded.Achieves.bind (achieves_resourcesAt (h.listed p hp) offered) ?_
    intro resources s₂ ⟨lists, h₂⟩
    refine Bounded.achieves_pure ⟨h₁.trans h₂, rfl, lists.sound, fun o ho => ?_⟩
    exact lists.complete o (h₁.kept (hknown ho))
  rw [groupResources, if_neg (by simpa using h.nonempty)]
  refine Bounded.Achieves.bind asked ?_
  intro entries s' ⟨hprogress, hfound, hentries⟩
  refine Bounded.achieves_pure ⟨⟨rfl, fun o ho hg => ?_⟩, hprogress⟩
  obtain ⟨p, hp, hv⟩ := h.complete o ho hg
  obtain ⟨e, he, hkey, _⟩ := hfound p hp
  obtain ⟨resources, hfind, r, hr⟩ := find?_key
    (fun resources => ∃ r, resources.find? (fun r => r.kind = o.kind) = some r ∧ o.Allows r)
    ⟨e, he, hkey.trans hv⟩ fun e he hkey => by
      obtain ⟨p, hp, hsame, lists⟩ := hentries e he
      exact lists.find?_kind ho hg ((h.listed p hp).groupVersion_eq hg (hkey.symm.trans hsame))
  exact ⟨resources, r, hfind, hr⟩

/-- The lists of some groups, one group after the other, for kinds known at the beginning. -/
theorem achieves_groups {s₀ : σ × List (Procedure.Event Wire)} {groups : List Group}
    (h : server.Progress [] 1 s₀ s)
    (serves : ∀ group ∈ groups, Serves "/apis/" (server.offers s₀.1) group) :
    Bounded.Achieves server.world (groups.mapM (groupResources "/apis/")) s fun listed s' =>
      server.Progress [] 1 s₀ s' ∧
        (∀ group ∈ groups, ∃ e ∈ listed, e.1 = group.name ∧ Covers (server.offers s₀.1) e) ∧
        ∀ e ∈ listed, ∃ group ∈ groups, e.1 = group.name ∧ Covers (server.offers s₀.1) e := by
  refine Bounded.achieves_mapM h fun group hgroup s₁ h₁ => ?_
  refine Bounded.Achieves.mono (achieves_groupResources (serves group hgroup) h₁.kept) ?_
  intro entry s₂ ⟨hentry, h₂⟩
  exact ⟨h₁.trans h₂, hentry⟩

theorem knows_of_covers {offers : List Offer}
    {entries : List (String × List (String × List Resource))}
    (covered : ∀ e ∈ entries, Covers offers e)
    (present : ∀ o ∈ offers, ∃ e ∈ entries, e.1 = o.group) : Knows ⟨entries⟩ offers := by
  intro o ho
  obtain ⟨versions, hfind, resources, r, hversion, hkind, hallows⟩ := find?_key
    (fun versions => ∃ resources r, versions.find? (fun v => v.1 = o.version) =
      some (o.version, resources) ∧ resources.find? (fun r => r.kind = o.kind) = some r ∧
        o.Allows r) (present o ho) fun e he hkey => covered e he o ho hkey.symm
  refine ⟨r, ?_, hallows⟩
  simp only [resolve?, hfind, hversion, hkind, Option.bind_eq_bind, Option.bind_some]

/-- What a round of discovery finds. -/
theorem achieves_once : Bounded.Achieves server.world once s fun discovery s' =>
    discovery.Knows (server.offers s.1) ∧ server.Progress [] 1 s s' := by
  have groupsRequest : Request.at? .get "/apis" none none = some ⟨.get, "/apis", [], none⟩ := rfl
  have versionsRequest : Request.at? .get "/api" none none = some ⟨.get, "/api", [], none⟩ := rfl
  rw [once, groupsRequest, versionsRequest]
  refine Bounded.Achieves.bind (KindServer.achieves_request _ fun within reply told =>
    server.groups_told within s.1 reply told) ?_
  intro groups s₁ ⟨⟨serves, present⟩, h₁⟩
  refine Bounded.Achieves.bind (achieves_groups h₁ serves) ?_
  intro listed s₂ ⟨h₂, hfound, hlisted⟩
  refine Bounded.Achieves.bind (KindServer.achieves_request _ fun within reply told =>
    server.versions_told within s₂.1 reply told) ?_
  intro versions s₃ ⟨serves_core, h₃⟩
  refine Bounded.Achieves.bind (achieves_groupResources serves_core h₃.kept) ?_
  intro core s₄ ⟨⟨hcore, hcovers⟩, h₄⟩
  refine Bounded.achieves_pure ⟨knows_of_covers ?_ ?_, (h₂.trans h₃).trans h₄⟩
  · intro e he
    rcases List.mem_append.mp (List.mem_reverse.mp he) with he | he
    · obtain ⟨_, _, _, covers⟩ := hlisted e he
      exact covers
    · rw [List.mem_singleton.mp he]
      exact fun o ho => hcovers o (h₂.kept ho)
  · intro o ho
    by_cases hg : o.group = ""
    · exact ⟨core, by simp, by rw [hcore, hg]⟩
    · obtain ⟨group, hgroup, hname⟩ := present o ho hg
      obtain ⟨e, he, hkey, _⟩ := hfound group hgroup
      exact ⟨e, by simp [he], hkey.trans hname⟩

/-- Discovery is done in a single round if that goes well. -/
theorem achieves_fetch : Bounded.Achieves server.world fetch s fun discovery s' =>
    discovery.Knows (server.offers s.1) ∧ server.Progress [] 1 s s' := by
  unfold fetch
  cases delays with
  | nil => exact achieves_once
  | cons delay delays => exact achieves_once.tryCatch

end Round
end Discovery
end PodNetwork.Kubernetes
