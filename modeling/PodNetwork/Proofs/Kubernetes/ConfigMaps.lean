import PodNetwork.Proofs.Kubernetes.Completing
import PodNetwork.Proofs.Kubernetes.NodeChanges

/-! Servers that keep a config map, and what the calls of a client do to it.

A merge patch sets the text of a key and leaves the texts of the other keys, and all the rest of the
object, as they are. Setting the same text again changes nothing. -/
namespace PodNetwork

namespace Json

open Kubernetes.Client (nested)

variable {v value : Json} {key : String} {keys : List String}

/-- Of two values that are put under one key the later one stays. -/
theorem put_put (key : String) (first second : Json) (ms : List (String × Json)) :
    put key second (put key first ms) = put key second ms := by
  induction ms with
  | nil => simp [put]
  | cons m ms ih =>
    obtain ⟨k, old⟩ := m
    by_cases hkey : key = k
    · simp [put, hkey]
    · by_cases hlt : key < k
      · simp [put, hkey, hlt]
      · simp [put, hkey, hlt, ih]

theorem path?_singleton (v : Json) (key : String) : v.path? [key] = v.get? key := by
  rw [path?]
  cases v.get? key <;> rfl

theorem mergePatch_object (h : value ≠ .null) : v.mergePatch (.object [(key, value)]) =
    .object (put key (((v.get? key).getD .null).mergePatch value) v.members) := by
  rw [mergePatch, mergeMembers_cons h, mergeMembers, get?_object_members]

/-- Setting a text at the end of a path for the second time changes nothing. -/
theorem mergePatch_mergePatch_nested (text : String) :
    (v.mergePatch (nested keys (.string text))).mergePatch (nested keys (.string text)) =
      v.mergePatch (nested keys (.string text)) := by
  induction keys generalizing v with
  | nil => rfl
  | cons key keys ih =>
    have inner : nested keys (.string text) ≠ .null := nested_ne_null nofun
    rw [nested, mergePatch_object inner, get?_mergePatch inner, if_pos rfl, Option.getD_some, ih,
      mergePatch_object inner, members, put_put]

end Json

namespace Kubernetes

open Procedure (Event Moment)

namespace Shape

variable {members : List (String × Shape)} {ms : List (String × Json)} {name : String}
  {shape : Shape} {v : Json}

/-- A member of an object of some shape is null or has its own shape. -/
theorem accepts_of_acceptsMembers (h : acceptsMembers members ms = true)
    (hmem : (name, shape) ∈ members) (hv : (name, v) ∈ ms) :
    (v == .null) = true ∨ accepts shape v = true := by
  induction members with
  | nil => cases hmem
  | cons member members ih =>
    rw [acceptsMembers, Bool.and_eq_true, List.all_eq_true] at h
    rcases List.mem_cons.mp hmem with rfl | hmem
    · simpa using h.1 _ hv
    · exact ih h.2 hmem

/-- The values of a map of texts are texts. -/
theorem string_of_accepts_labels {ds : List (String × Json)}
    (h : accepts labels (.object ds) = true) : ∀ d ∈ ds, ∃ text, d.2 = .string text := by
  intro d hd
  rw [labels, accepts, List.all_eq_true] at h
  have fits := h d hd
  cases hvalue : d.2 with
  | string text => exact ⟨text, rfl⟩
  | _ =>
    rw [hvalue] at fits
    cases fits

end Shape

def dataPath (key : String) : List String := ["data", key]

def dataPatch (data : Labels) : Json := Client.nested ["data"] (Client.labelsJson data)

theorem get?_of_texts {ds : List (String × Json)} {key text : String}
    (texts : ∀ d ∈ ds, ∃ text, d.2 = .string text)
    (h : Labels.get? (ds.filterMap fun d => d.2.string?.map (d.1, ·)) key = some text) :
    (Json.object ds).get? key = some (.string text) := by
  induction ds with
  | nil => cases h
  | cons d ds ih =>
    obtain ⟨⟨value, hvalue⟩, rest⟩ := List.forall_mem_cons.mp texts
    obtain ⟨k, _⟩ := d
    subst hvalue
    by_cases hk : k = key
    · simpa [Labels.get?, Json.get?, Json.string?, hk] using h
    · have found := ih rest (by simpa [Labels.get?, Json.string?, hk] using h)
      simpa [Json.get?, hk] using found

/-- A text of the data that is read off a config map stands there. -/
theorem path?_of_configData? {v : Json} {data : Labels} {key text : String}
    (hdata : configData? v = some data) (htext : data.get? key = some text) :
    v.path? (dataPath key) = some (.string text) := by
  obtain ⟨fits, hdata⟩ := Option.ite_none_right_eq_some.mp hdata
  obtain rfl := Option.some.inj hdata
  obtain ⟨ds, hds, htext⟩ : ∃ ds, v.get? "data" = some (.object ds) ∧
      Labels.get? (ds.filterMap fun d => d.2.string?.map (d.1, ·)) key = some text := by
    unfold labelsAt at htext
    split at htext
    · next hpath =>
      rw [Json.path?_singleton] at hpath
      exact ⟨_, hpath, htext⟩
    · cases htext
  have texts : ∀ d ∈ ds, ∃ text, d.2 = .string text := by
    cases v with
    | object ms =>
      obtain ⟨m, hm, heq⟩ := Option.map_eq_some_iff.mp hds
      have hname : m.1 = "data" := by simpa using List.find?_some hm
      have hmem : ("data", .object ds) ∈ ms := by
        rw [← hname, ← heq]
        exact List.mem_of_find?_eq_some hm
      have members := (Bool.and_eq_true_iff.mp fits).2
      have data := Shape.accepts_of_acceptsMembers members
        (List.mem_cons_of_mem _ List.mem_cons_self) hmem
      rcases data with hnull | hlabels
      · cases hnull
      · exact Shape.string_of_accepts_labels hlabels
    | _ => cases fits
  rw [dataPath, Json.path?, hds, Option.bind_some, Json.path?_singleton]
  exact get?_of_texts texts htext

def configMapPath (ns name : String) : String :=
  Client.configMaps.path (some ns) ++ "/" ++ name

/-- A server by its states, as far as one config map goes. Its good replies tell the config map as
it is, and a merge patch that it takes is made. -/
structure ConfigServer (σ : Type) (ns name : String) where
  step : σ → Event Wire → σ → Prop
  configMap : σ → Option Json
  read_told : ∀ {s s' : σ} {within took : Nat} {reply : Reply},
    step s ⟨.send ⟨.get, configMapPath ns name, [], none⟩ within, .answered reply took⟩ s' →
    ¬(400 ≤ reply.code ∧ reply.code < 600) →
    configMap s' = configMap s ∧ reply.value = configMap s
  patch_told : ∀ {s s' : σ} {patch : Json} {within took : Nat} {reply : Reply},
    step s ⟨.send ⟨.patch, configMapPath ns name, [], some (.merge patch)⟩ within,
      .answered reply took⟩ s' →
    ¬(400 ≤ reply.code ∧ reply.code < 600) →
    ∃ v, configMap s = some v ∧ configMap s' = some (v.mergePatch patch)

namespace ConfigServer

variable {σ : Type} {ns name : String} {server : ConfigServer σ ns name} {client client' : Client}
  {data : Labels} {s s' : σ} {log : List (Moment Wire σ)}

/-- The data that a client reads. -/
theorem data_of_read (plain : IsPlain (configMapPath ns name))
    (h : Procedure.Passes server.step (client.answer (.getConfigMap ns name)) s log s'
      (.ok data, client')) :
    server.configMap s' = server.configMap s ∧
      (server.configMap s).bind configData? = some data := by
  obtain ⟨-, work⟩ := Client.completes_of_perform h
  obtain ⟨r, within, took, reply, hr, -, hstep, hgood, hvalue⟩ := work.request
  obtain rfl := Client.eq_of_named? plain (.inl rfl) hr
  obtain ⟨same, hreply⟩ := server.read_told hstep hgood
  exact ⟨same, hreply ▸ hvalue⟩

/-- The data that a client sets. -/
theorem patched_of_update (plain : IsPlain (configMapPath ns name))
    (h : Procedure.Passes server.step (client.answer (.updateConfigMap ns name data)) s log s'
      (.ok (), client')) :
    ∃ v, server.configMap s = some v ∧
      server.configMap s' = some (v.mergePatch (dataPatch data)) := by
  obtain ⟨-, work⟩ := Client.completes_of_perform h
  obtain ⟨merging, _, mid, _, -, hm, hd⟩ := work.bind
  obtain ⟨-, rfl, -⟩ := hd.pure
  obtain ⟨r, within, took, reply, hr, -, hstep, hgood, -⟩ := hm.request
  obtain rfl := Client.eq_of_named? plain (.inr rfl) hr
  exact server.patch_told hstep hgood

end ConfigServer

/-! A server that keeps one config map and does nothing else. -/
namespace ConfigStore

/-- The answer to a call, and the config map after it. -/
def answer (path : String) : (call : WireCall) → Json → call.Answer × Json
  | .send ⟨.get, asked, _, none⟩ _, v =>
    if asked = path then (.answered ⟨200, "", some v⟩ 0, v) else (.answered ⟨404, "", none⟩ 0, v)
  | .send ⟨.patch, asked, _, some (.merge patch)⟩ _, v =>
    if asked = path then
      (.answered ⟨200, "", some (v.mergePatch patch)⟩ 0, v.mergePatch patch)
    else (.answered ⟨404, "", none⟩ 0, v)
  | call, v => (call.unreached, v)

def server (ns name : String) : ConfigServer Json ns name where
  step v e v' := answer (configMapPath ns name) e.call v = (e.answer, v')
  configMap := some
  read_told h _ := by
    rw [answer, if_pos rfl] at h
    cases h
    exact ⟨rfl, rfl⟩
  patch_told h _ := by
    rw [answer, if_pos rfl] at h
    cases h
    exact ⟨_, rfl, rfl⟩

end ConfigStore
end Kubernetes
end PodNetwork
