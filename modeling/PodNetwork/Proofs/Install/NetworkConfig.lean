import Mathlib.Logic.Function.Basic
import PodNetwork.Install.Flannel
import PodNetwork.Proofs.Json.Printing

/-! What the configuration of a Flannel network tells, whatever the range of addresses is. -/
namespace PodNetwork.Install.Flannel

theorem isCanonical_netConfJson (podCidr : String) : (netConfJson podCidr).IsCanonical := by
  have keys : ["Backend", "Network"].Pairwise (· < ·) := by decide
  have backend : (Json.object [("Type", .string "vxlan")]).IsCanonical :=
    .object (List.pairwise_singleton _ _) (List.forall_mem_singleton.mpr (.string _))
  exact .object keys
    (List.forall_mem_cons.mpr ⟨backend, List.forall_mem_singleton.mpr (.string _)⟩)

/-- The configuration of a network is a JSON text. It stands for one object and no other value: the
object has the range of addresses and the kind of network for members, and reading gives it back.
So the configuration tells the range. -/
theorem netConf_tells :
    (∀ podCidr,
      (∀ v, Json.Grammar.Element v (netConf podCidr).toList ↔
        v = .object [("Backend", .object [("Type", .string "vxlan")]),
          ("Network", .string podCidr)]) ∧
      Json.parse? (netConf podCidr) =
        some (.object [("Backend", .object [("Type", .string "vxlan")]),
          ("Network", .string podCidr)])) ∧
    Function.Injective netConf := by
  have read (podCidr : String) : Json.parse? (netConf podCidr) = some (netConfJson podCidr) :=
    Json.parse?_text (isCanonical_netConfJson podCidr)
  refine ⟨fun podCidr => ⟨fun v => ⟨fun h => ?_, ?_⟩, read podCidr⟩, fun podCidr other same => ?_⟩
  · exact h.unique (Json.element_text (isCanonical_netConfJson podCidr))
  · rintro rfl
    exact Json.element_text (isCanonical_netConfJson podCidr)
  · have conf := (read podCidr).symm.trans ((congrArg Json.parse? same).trans (read other))
    simpa [netConfJson] using conf

-- A quotation mark, a backslash and control characters are escaped, other characters are not.
example : netConf "\"\\\n\x01é" =
    "\x7b\"Backend\":\x7b\"Type\":\"vxlan\"\x7d,\"Network\":\"\\\"\\\\\\n\\u0001é\"\x7d" := by
  decide

end PodNetwork.Install.Flannel
