import PodNetwork.Corefile.Patch
import PodNetwork.Proofs.Corefile.Repatching
import PodNetwork.Proofs.Kubernetes.ConfigMaps
import PodNetwork.Proofs.Procedure.Passages

/-! What patching the DNS does to the config map in which a cluster keeps its Corefile.

The Corefile is read, rewritten and sent back alone, so the rest of the config map is kept. As the
offline table makes no difference to what it has rewritten, a second patch changes nothing. -/
namespace PodNetwork.Corefile

open Kubernetes Routine
open Procedure (Event Moment)

/-- A cluster by its states, as far as the config map of its DNS goes. What is read is what is
there, and what is written is merged into it. Of calls that fail nothing is known. -/
structure DnsKeeper (σ : Type) where
  step : σ → Event Site → σ → Prop
  dns : σ → Option Json
  read_told : ∀ {s s' : σ} {data : Labels},
    step s ⟨.cluster (.getConfigMap systemNamespace configMap), .ok data⟩ s' →
    dns s' = dns s ∧ (dns s).bind configData? = some data
  write_told : ∀ {s s' : σ} {data : Labels},
    step s ⟨.cluster (.updateConfigMap systemNamespace configMap data), .ok ()⟩ s' →
    ∃ v, dns s = some v ∧ dns s' = some (v.mergePatch (dataPatch data))

def reading (answer : Attempt Labels) : Event Site :=
  ⟨.cluster (.getConfigMap systemNamespace configMap), answer⟩

def writing (corefile : String) (answer : Attempt Unit) : Event Site :=
  ⟨.cluster (.updateConfigMap systemNamespace configMap [(key, corefile)]), answer⟩

/-- The ways in which a patch fails, with the calls that are made and the message. Only where the
writing itself fails is anything written. -/
inductive Failure (policy : Policy) (server : String) : List (Event Site) → String → Prop where
  | unread (e : Error) :
      Failure policy server [reading (.error e)] ("failed to read configmap: " ++ e.text)
  | missing {data : Labels} (absent : data.get? key = none) :
      Failure policy server [reading (.ok data)] "Corefile not found in configmap"
  | unwritten {data : Labels} {corefile : String} (there : data.get? key = some corefile)
      (e : Error) :
      Failure policy server
        [reading (.ok data), writing (policy.apply corefile server) (.error e)]
        ("failed to update configmap: " ++ e.text)

/-- A config map before and after its Corefile is rewritten, with all the rest kept. -/
structure Rewritten (policy : Policy) (server : String) (before after : Json) : Prop where
  corefile : ∃ text, before.path? (dataPath key) = some (.string text) ∧
    after.path? (dataPath key) = some (.string (policy.apply text server))
  rest : ∀ path, Apart path (dataPath key) → after.path? path = before.path? path

section

variable {σ : Type} {step : σ → Event Site → σ → Prop} {policy : Policy} {server : String}
  {s s' : σ} {log : List (Moment Site σ)} {result : Attempt Unit}

/-- A patch fails as a failed patch, or what it has read is written back rewritten. -/
theorem patch_passes (h : Passes step (patch policy server) s log s' result) :
    (∃ message, result = .error (.dnsUnpatched message) ∧
      Failure policy server (log.map Moment.event) message) ∨
    ∃ data corefile mid, result = .ok () ∧ data.get? key = some corefile ∧
      step s (reading (.ok data)) mid ∧
      step mid (writing (policy.apply corefile server) (.ok ())) s' := by
  rcases passes_bind_iff.mp h with ⟨_, hread, rfl⟩ | ⟨before, data, mid, after, rfl, hread, hrest⟩
  · obtain ⟨answer, hcall, he⟩ := passes_mapError_iff.mp hread
    obtain ⟨rfl, -⟩ := Procedure.passes_call_iff.mp hcall
    cases answer with
    | ok data => cases he
    | error e =>
      cases he
      exact .inl ⟨_, rfl, .unread e⟩
  obtain ⟨rfl, hstep⟩ := Procedure.passes_call_iff.mp (passes_mapError_ok_iff.mp hread)
  cases hkey : data.get? key with
  | none =>
    rw [hkey] at hrest
    obtain ⟨rfl, -, rfl⟩ := passes_throw_iff.mp hrest
    exact .inl ⟨_, rfl, .missing hkey⟩
  | some corefile =>
    rw [hkey] at hrest
    obtain ⟨answer, hcall, rfl⟩ := passes_mapError_iff.mp hrest
    obtain ⟨rfl, hstep'⟩ := Procedure.passes_call_iff.mp hcall
    cases answer with
    | error e => exact .inl ⟨_, rfl, .unwritten hkey e⟩
    | ok => exact .inr ⟨data, corefile, mid, rfl, hkey, hstep, hstep'⟩

end

section

variable {σ : Type} {keeper : DnsKeeper σ} {policy : Policy} {server : String}
  {s s' s'' : σ} {log : List (Moment Site σ)}

def corefilePatch (corefile : String) : Json := Client.nested (dataPath key) (.string corefile)

/-- A patch that succeeds merges the rewritten Corefile into the config map. -/
theorem merged_of_patch (h : Passes keeper.step (patch policy server) s log s' (.ok ())) :
    ∃ v corefile, keeper.dns s = some v ∧ v.path? (dataPath key) = some (.string corefile) ∧
      keeper.dns s' = some (v.mergePatch (corefilePatch (policy.apply corefile server))) := by
  rcases patch_passes h with ⟨_, he, -⟩ | ⟨data, corefile, mid, -, hkey, hread, hwrite⟩
  · cases he
  obtain ⟨same, told⟩ := keeper.read_told hread
  obtain ⟨v, hv, hmerged⟩ := keeper.write_told hwrite
  rw [same] at hv
  rw [hv] at told
  exact ⟨v, corefile, hv, path?_of_configData? told hkey, hmerged⟩

theorem path?_corefilePatch (v : Json) (corefile : String) :
    (v.mergePatch (corefilePatch corefile)).path? (dataPath key) = some (.string corefile) := by
  have given : Json.string corefile ≠ .null := nofun
  rw [corefilePatch, Json.path?_mergePatch_nested given]
  rfl

theorem rewritten_of_merged {v : Json} {corefile : String}
    (h : v.path? (dataPath key) = some (.string corefile)) :
    Rewritten policy server v (v.mergePatch (corefilePatch (policy.apply corefile server))) where
  corefile := ⟨corefile, h, path?_corefilePatch v _⟩
  rest _ apart := Json.path?_mergePatch_of_apart nofun apart.1 apart.2

/-- Where rewriting a Corefile again makes no difference, neither does patching again. -/
theorem dns_eq_of_patch_twice
    (again : ∀ corefile, policy.apply (policy.apply corefile server) server =
      policy.apply corefile server)
    (first : Passes keeper.step (patch policy server) s log s' (.ok ()))
    {later : List (Moment Site σ)}
    (second : Passes keeper.step (patch policy server) s' later s'' (.ok ())) :
    keeper.dns s'' = keeper.dns s' := by
  obtain ⟨v, corefile, -, -, hfirst⟩ := merged_of_patch first
  obtain ⟨_, patched, hthere, hpath, hsecond⟩ := merged_of_patch second
  obtain rfl := Option.some.inj (hfirst.symm.trans hthere)
  have same : patched = policy.apply corefile server := by
    simpa using hpath.symm.trans (path?_corefilePatch v _)
  rw [hsecond, hfirst, same, again, corefilePatch, Json.mergePatch_mergePatch_nested]

/-- The offline table with a domain of one word, and a name server that is part of a line and opens
no block. -/
inductive IsOffline : Policy → String → Prop where
  | intro {topLevelDomain server : String} (given : topLevelDomain ≠ "")
      (solid : ∀ x ∈ topLevelDomain.toList, Text.isBlank x = false)
      (single : '\n' ∉ server.toList)
      (plain : (Text.trimEnd server.toList).getLast? ≠ some '\x7b') :
      IsOffline (.offline topLevelDomain) server

theorem IsOffline.again (h : IsOffline policy server) (corefile : String) :
    policy.apply (policy.apply corefile server) server = policy.apply corefile server := by
  cases h with
  | intro given solid single plain =>
    have given := mt String.toList_eq_nil_iff.mp given
    simp only [Policy.apply, Policy.applyLines_offline, String.toList_ofList]
    rw [Offline.joinWith_rewriteLines given solid single plain]

/-- A patch rewrites the Corefile and keeps the rest of the config map, or it fails as a failed
patch and nothing has been written before. With the offline table, patching a second time changes
nothing at all. -/
theorem patch_kept {result : Attempt Unit}
    (h : Passes keeper.step (patch policy server) s log s' result) :
    ((result = .ok () ∧ ∃ before after, keeper.dns s = some before ∧ keeper.dns s' = some after ∧
        Rewritten policy server before after) ∨
      ∃ message, result = .error (.dnsUnpatched message) ∧
        Failure policy server (log.map Moment.event) message) ∧
    (IsOffline policy server → result = .ok () → ∀ later s'',
      Passes keeper.step (patch policy server) s' later s'' (.ok ()) →
        keeper.dns s'' = keeper.dns s') := by
  refine ⟨?_, fun offline hok later s'' second => ?_⟩
  · rcases patch_passes h with failed | ⟨_, _, _, rfl, -⟩
    · exact .inr failed
    · obtain ⟨v, corefile, hv, hpath, hmerged⟩ := merged_of_patch h
      exact .inl ⟨rfl, v, _, hv, hmerged, rewritten_of_merged hpath⟩
  · subst hok
    exact dns_eq_of_patch_twice offline.again h second

end

/-! A cluster whose API is the client of a server that keeps the config map. -/
namespace DnsKeeper

def ofServer {σ : Type} (server : ConfigServer σ systemNamespace configMap) :
    DnsKeeper (Client × σ) where
  step d e d' := match e with
    | ⟨.cluster call, answer⟩ => ∃ log,
      Procedure.Passes server.step (d.1.answer call) d.2 log d'.2 (answer, d'.1)
    | _ => d' = d
  dns d := server.configMap d.2
  read_told := fun ⟨_, h⟩ => ConfigServer.data_of_read (by decide) h
  write_told := fun ⟨_, h⟩ => ConfigServer.patched_of_update (by decide) h

end DnsKeeper

/-- A site whose cluster is a store of the config map. -/
def storeSite : (c : SiteCall) → Client × Json → c.Answer × (Client × Json)
  | .cluster call, d =>
    let passed := (d.1.answer call).passage (I := Wire)
      (ConfigStore.answer (configMapPath systemNamespace configMap)) d.2
    (passed.2.2.1, (passed.2.2.2, passed.2.1))
  | call, d => (Site.obliging call, d)

def storePatch (d : Client × Json) : List (Moment Site (Client × Json)) × (Client × Json) ×
    Attempt Unit :=
  (ExceptT.run (patch (.offline "net") "8.8.8.8")).passage (I := Site) storeSite d

theorem passes_storePatch (d : Client × Json) :
    Passes (DnsKeeper.ofServer (ConfigStore.server systemNamespace configMap)).step
      (patch (.offline "net") "8.8.8.8") d (storePatch d).1 (storePatch d).2.1
      (storePatch d).2.2 := by
  refine (Procedure.passes_passage (I := Site) storeSite _ d).mono ?_
  rintro d ⟨call, answer⟩ d' h
  cases call with
  | cluster call =>
    cases h
    exact ⟨_, Procedure.passes_passage (I := Wire) _ _ _⟩
  | _ => exact (Prod.mk.inj h).2.symm

def zoneMap : Json := .object [("data", .object [("Corefile", .string (".:53 \x7b\n    loop\n" ++
  "    kubernetes cluster.local\n    forward . /etc/resolv.conf\n\x7d\n")),
    ("hosts", .string "10.0.0.1 one\n")]), ("kind", .string "ConfigMap")]

theorem patch_kept_zone :
    let first := storePatch ({}, zoneMap)
    let second := storePatch first.2.1
    first.2.2 = .ok () ∧ Rewritten (.offline "net") "8.8.8.8" zoneMap first.2.1.2 ∧
      second.2.2 = .ok () ∧ second.2.1.2 = first.2.1.2 := by
  intro first second
  have ok : first.2.2 = .ok () := by decide +kernel
  have ok' : second.2.2 = .ok () := by decide +kernel
  have solid : ∀ x ∈ "net".toList, Text.isBlank x = false := by
    simp only [← Bool.not_eq_true', ← List.all_eq_true]
    decide
  have offline : IsOffline (.offline "net") "8.8.8.8" :=
    .intro (by decide) solid (by decide) (by decide)
  obtain ⟨outcome, again⟩ := patch_kept (ok ▸ passes_storePatch ({}, zoneMap))
  have same := again offline rfl second.1 second.2.1 (ok' ▸ passes_storePatch first.2.1)
  rcases outcome with ⟨-, _, _, ⟨⟩, ⟨⟩, rewritten⟩ | ⟨_, failed, -⟩
  · exact ⟨ok, rewritten, ok', Option.some.inj same⟩
  · cases failed

end PodNetwork.Corefile
